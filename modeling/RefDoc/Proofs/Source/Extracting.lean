import Mathlib.Data.List.Nodup
import RefDoc.Proofs.Pattern.Endings
import RefDoc.Source.Inputs

/-!
# What becomes of package files and readmes

A path is not both a package file and a readme. Of the paths given, those with a role are taken out;
for each role one file is read, the one named explicitly or else the first of the paths, and what
becomes of it does not touch the other role (`Inputs.collect_extracts`).
-/

namespace RefDoc

/-! ### Roles -/

theorem packagePattern_last {text : List Char} (occurs : packagePattern.occursIn text) :
    ∃ c ∈ text.getLast?, c.toNat = 0x4E ∨ c.toNat = 0x6E := by
  have ends : (Pattern.anyCase "package.json").EndsWith fun c => c.toNat = 0x4E ∨ c.toNat = 0x6E :=
    (Pattern.endsWith_anyCase (c := 'n')
      (show "package.json".toList = "package.jso".toList ++ ['n'] by decide)).imp fun c folded => by
      have only : Text.OnlyRow (0x41, 0x5A, 1, 0x61) 'n' := by decide +kernel
      have := only.of_contains (by decide) folded
      simp only [Char.reduceToNat] at this
      omega
  exact Pattern.getLast?_of_occursIn ends [.assertion (.boundary false)] occurs

theorem readmePattern_last {text : List Char} (occurs : readmePattern.occursIn text) :
    ∃ c ∈ text.getLast?, c.toNat ∈ [0x44, 0x45, 0x64, 0x65] := by
  have readme : (Pattern.anyCase "README").EndsWith fun c => c.toNat ∈ [0x44, 0x45, 0x64, 0x65] :=
    (Pattern.endsWith_anyCase (c := 'E')
      (show "README".toList = "READM".toList ++ ['E'] by decide)).imp fun c folded => by
      have only : Text.OnlyRow (0x61, 0x7A, 1, 0x41) 'E' := by decide +kernel
      have := only.of_contains (by decide) folded
      simp only [Char.reduceToNat, List.mem_cons, List.not_mem_nil] at this ⊢
      omega
  have markdown : (Pattern.anyCase ".md").EndsWith fun c => c.toNat ∈ [0x44, 0x45, 0x64, 0x65] :=
    (Pattern.endsWith_anyCase (c := 'd')
      (show ".md".toList = ".m".toList ++ ['d'] by decide)).imp fun c folded => by
      have only : Text.OnlyRow (0x41, 0x5A, 1, 0x61) 'd' := by decide +kernel
      have := only.of_contains (by decide) folded
      simp only [Char.reduceToNat, List.mem_cons, List.not_mem_nil] at this ⊢
      omega
  exact Pattern.getLast?_of_occursIn ((readme.behind _).alt markdown) [] occurs

/-- A package file ends with an `n`, and a readme with an `e` or a `d`. -/
theorem Path.not_isReadmeFile {p : Path} (package : p.isPackageFile) : p.isReadmeFile = false := by
  refine Bool.eq_false_iff.mpr fun readme => ?_
  obtain ⟨c, last, n⟩ := packagePattern_last package
  obtain ⟨c', last', other⟩ := readmePattern_last readme
  obtain rfl := Option.some_inj.mp (last.symm.trans last')
  simp only [List.mem_cons, List.not_mem_nil, or_false] at other
  omega

theorem Path.role?_eq_package {p : Path} : p.role? = some .package ↔ p.isPackageFile := by
  unfold role?
  cases p.isPackageFile <;> cases p.isReadmeFile <;> simp

theorem Path.role?_eq_readme {p : Path} : p.role? = some .readme ↔ p.isReadmeFile := by
  unfold role?
  cases package : p.isPackageFile with
  | true => simp [not_isReadmeFile package]
  | false => cases p.isReadmeFile <;> simp

namespace InputRequest

/-- The file to be read for a role: the one named explicitly, or the first of the paths. -/
def fileFor? (r : InputRequest) : InputRole → Option Path
  | .package => r.package.or (r.paths.find? Path.isPackageFile)
  | .readme => r.readme.or (r.paths.find? Path.isReadmeFile)

theorem candidates_eq (r : InputRequest) :
    r.candidates = r.paths.filter fun p => !p.isPackageFile && !p.isReadmeFile := by
  refine List.filter_congr fun p _ => ?_
  unfold Path.role?
  cases p.isPackageFile <;> cases p.isReadmeFile <;> rfl

/-! ### First claims -/

/-- Keeps a claim if it is the first for its role. -/
def keepFirst (first : List (InputRole × Path)) (c : InputRole × Path) : List (InputRole × Path) :=
  if first.any (·.1 = c.1) then first else first ++ [c]

theorem foldl_keepFirst (claims : List (InputRole × Path)) {first : List (InputRole × Path)}
    (once : (first.map (·.1)).Nodup) :
    ((claims.foldl keepFirst first).map (·.1)).Nodup ∧
      ∀ role, (claims.foldl keepFirst first).find? (·.1 = role) =
        (first.find? (·.1 = role)).or (claims.find? (·.1 = role)) := by
  induction claims generalizing first with
  | nil => exact ⟨once, fun role => by simp⟩
  | cons c claims ih =>
    rw [List.foldl_cons]
    by_cases taken : first.any (·.1 = c.1) = true
    · rw [keepFirst, if_pos taken]
      refine ⟨(ih once).1, fun role => ?_⟩
      rw [(ih once).2]
      by_cases same : c.1 = role
      · obtain ⟨d, found⟩ : ∃ d, first.find? (·.1 = role) = some d := by
          rw [← Option.isSome_iff_exists, List.find?_isSome]
          simpa [same] using taken
        simp [found]
      · rw [List.find?_cons_of_neg (by simpa using same)]
    · rw [keepFirst, if_neg taken]
      have fresh : c.1 ∉ first.map (·.1) := by simpa using taken
      have once' : ((first ++ [c]).map (·.1)).Nodup := by
        rw [List.map_append]
        exact once.append (List.nodup_singleton _) (by simpa using fresh)
      refine ⟨(ih once').1, fun role => ?_⟩
      rw [(ih once').2, List.find?_append, Option.or_assoc, List.find?_cons, List.find?_cons]
      by_cases same : c.1 = role <;> simp [same]

/-- Of each role the first claim is kept, and no other. -/
theorem firstClaims_spec (claims : List (InputRole × Path)) :
    ((firstClaims claims).map (·.1)).Nodup ∧
      ∀ role, (firstClaims claims).find? (·.1 = role) = claims.find? (·.1 = role) := by
  have none : (([] : List (InputRole × Path)).map (·.1)).Nodup := List.nodup_nil
  obtain ⟨once, first⟩ := foldl_keepFirst claims none
  exact ⟨once, fun role => (first role).trans (by simp)⟩

theorem find?_claims (r : InputRequest) (role : InputRole) :
    r.claims.find? (·.1 = role) = (r.fileFor? role).map fun p => (role, p) := by
  have among : (r.paths.filterMap fun p => p.role?.map fun role => (role, p)).find? (·.1 = role) =
      (r.paths.find? fun p => p.role? = some role).map fun p => (role, p) := by
    induction r.paths with
    | nil => rfl
    | cons p paths ih =>
      cases given : p.role? with
      | none => simpa [given] using ih
      | some role' =>
        by_cases same : role' = role
        · simp [given, same]
        · simpa [given, same] using ih
  unfold claims
  rw [List.find?_append, List.find?_append, among]
  cases role with
  | package =>
    simp only [Path.role?_eq_package, fileFor?]
    cases r.package <;> cases r.readme <;> simp
  | readme =>
    simp only [Path.role?_eq_readme, fileFor?]
    cases r.package <;> cases r.readme <;> simp

/-- A claim whose role no other has is found by it. -/
theorem find?_of_mem {l : List (InputRole × Path)} (once : (l.map (·.1)).Nodup)
    {c : InputRole × Path} (member : c ∈ l) : l.find? (·.1 = c.1) = some c := by
  obtain ⟨before, after, rfl⟩ := List.append_of_mem member
  rw [List.map_append, List.map_cons] at once
  have absent := (List.nodup_append.mp once).2.2
  rw [List.find?_append, List.find?_eq_none.mpr fun d earlier same => ?_]
  · simp
  · exact absent d.1 (List.mem_map_of_mem earlier) c.1 (by simp) (by simpa using same)

theorem mem_firstClaims {r : InputRequest} {role : InputRole} {p : Path} :
    (role, p) ∈ firstClaims r.claims ↔ r.fileFor? role = some p := by
  obtain ⟨once, first⟩ := firstClaims_spec r.claims
  have found := (first role).trans (r.find?_claims role)
  constructor
  · intro member
    rw [find?_of_mem once member] at found
    obtain ⟨p', given, same⟩ := Option.map_eq_some_iff.mp found.symm
    cases same
    exact given
  · intro given
    rw [given] at found
    exact List.mem_of_find?_eq_some found

/-- The claims that are followed are those of the files for both roles. -/
theorem firstClaims_perm (r : InputRequest) : (firstClaims r.claims).Perm
    (((r.fileFor? .package).map fun p => (.package, p)).toList ++
      ((r.fileFor? .readme).map fun p => (.readme, p)).toList) := by
  have once : (((r.fileFor? .package).map fun p => (InputRole.package, p)).toList ++
      ((r.fileFor? .readme).map fun p => (InputRole.readme, p)).toList).Nodup := by
    cases r.fileFor? .package <;> cases r.fileFor? .readme <;> simp
  refine (List.perm_ext_iff_of_nodup ((firstClaims_spec _).1.of_map _) once).mpr fun ⟨role, p⟩ => ?_
  rw [mem_firstClaims]
  cases role <;> simp

end InputRequest

namespace Inputs

variable {t t' : FileTree} {workingDir : Path} {l : List (InputRole × Path)}

/-- The error that says why a file cannot be had. -/
def fault? (t : FileTree) (workingDir : Path) (c : InputRole × Path) : Option Event :=
  let path := workingDir / c.2
  match c.1 with
  | .package =>
    match t.readPackage path with
    | .ok _ => none
    | .error e => some e
  | .readme =>
    match t.readReadme path with
    | .ok _ => none
    | .error e =>
      some (.error "unable to read the readme file" [("path", path.text), ("error", e.message)])

theorem level_of_readPackage {p : Path} {e : Event} (fails : t.readPackage p = .error e) :
    e.level = .error := by
  unfold FileTree.readPackage at fails
  split at fails
  · cases fails
    rfl
  · split at fails
    · cases fails
    · cases fails
      rfl

theorem level_of_fault? {c : InputRole × Path} {e : Event}
    (fault : fault? t workingDir c = some e) : e.level = .error := by
  obtain ⟨_ | _, p⟩ := c
  · simp only [fault?] at fault
    split at fault
    · cases fault
    · rename_i fails
      cases fault
      exact level_of_readPackage fails
  · simp only [fault?] at fault
    split at fault
    · cases fault
    · cases fault
      rfl

/-- The package as far as a claim gives one. -/
def packageOf? (t : FileTree) (workingDir : Path) (c : InputRole × Path) : Option Json :=
  if c.1 = .package then (t.readPackage (workingDir / c.2)).toOption else none

def readmeOf? (t : FileTree) (workingDir : Path) (c : InputRole × Path) : Option String :=
  if c.1 = .readme then (t.readReadme (workingDir / c.2)).toOption else none

theorem take_eq (s : Inputs × List Event) (c : InputRole × Path) :
    take t workingDir s c =
      ({ s.1 with
        package := (packageOf? t workingDir c).or s.1.package
        readme := (readmeOf? t workingDir c).or s.1.readme },
        s.2 ++ (fault? t workingDir c).toList) := by
  obtain ⟨inputs, log⟩ := s
  obtain ⟨_ | _, p⟩ := c
  · simp only [take, fault?, packageOf?, readmeOf?]
    cases t.readPackage (workingDir / p) <;> simp [Except.toOption]
  · simp only [take, fault?, packageOf?, readmeOf?]
    cases t.readReadme (workingDir / p) <;> simp [Except.toOption]

/-- Of what one role gives the claim of that role decides. -/
theorem foldl_or {α : Type} {f : InputRole × Path → Option α} {role : InputRole}
    (own : ∀ c, c.1 ≠ role → f c = none) (once : (l.map (·.1)).Nodup) (start : Option α) :
    l.foldl (fun a c => (f c).or a) start = ((l.find? (·.1 = role)).bind f).or start := by
  induction l generalizing start with
  | nil => rfl
  | cons c l ih =>
    rw [List.map_cons, List.nodup_cons] at once
    rw [List.foldl_cons, ih once.2]
    by_cases same : c.1 = role
    · have absent : l.find? (·.1 = role) = none :=
        List.find?_eq_none.mpr fun d member again => by
          have again : d.1 = role := by simpa using again
          exact once.1 (same ▸ again ▸ List.mem_map_of_mem member)
      rw [absent, List.find?_cons_of_pos (by simpa using same)]
      rfl
    · rw [List.find?_cons_of_neg (by simpa using same), own c same]
      rfl

theorem foldl_take (l : List (InputRole × Path)) (s : Inputs × List Event) :
    l.foldl (take t workingDir) s =
      ({ s.1 with
        package := l.foldl (fun a c => (packageOf? t workingDir c).or a) s.1.package
        readme := l.foldl (fun a c => (readmeOf? t workingDir c).or a) s.1.readme },
        s.2 ++ l.filterMap (fault? t workingDir)) := by
  induction l generalizing s with
  | nil => simp
  | cons c l ih =>
    rw [List.foldl_cons, ih, take_eq, List.filterMap_cons]
    cases fault? t workingDir c <;> simp

/-- A claim is followed by reading its file and no other. -/
theorem take_congr {s : Inputs × List Event} {c : InputRole × Path}
    (same : t'.readText (workingDir / c.2) = t.readText (workingDir / c.2)) :
    take t' workingDir s c = take t workingDir s c := by
  have package : t'.readPackage (workingDir / c.2) = t.readPackage (workingDir / c.2) := by
    unfold FileTree.readPackage
    rw [same]
  have readme : t'.readReadme (workingDir / c.2) = t.readReadme (workingDir / c.2) := by
    unfold FileTree.readReadme
    rw [same]
  simp only [take, package, readme]

/-- **Package files and readmes are taken out.** Of the paths given the others stay, in order. For
each role one file is read and no other; it gives the package or the readme, or there is an
error. -/
theorem collect_extracts (t : FileTree) (r : InputRequest) :
    (collect t r).1 =
      { candidates := r.paths.filter fun p => !p.isPackageFile && !p.isReadmeFile
        files := []
        package := (r.fileFor? .package).bind fun p => (t.readPackage (r.workingDir / p)).toOption
        readme := (r.fileFor? .readme).bind fun p => (t.readReadme (r.workingDir / p)).toOption } ∧
    (∃ errors, (collect t r).2 = errors ++
        [.debug "source list built" [("candidates", toString (collect t r).1.candidates.length)]] ∧
      (∀ e ∈ errors, e.level = .error) ∧ errors.Perm
        (((r.fileFor? .package).bind fun p => fault? t r.workingDir (.package, p)).toList ++
          ((r.fileFor? .readme).bind fun p => fault? t r.workingDir (.readme, p)).toList)) ∧
    ∀ t' : FileTree,
      (∀ role, ∀ p ∈ r.fileFor? role,
        t'.readText (r.workingDir / p) = t.readText (r.workingDir / p)) →
      collect t' r = collect t r := by
  obtain ⟨once, first⟩ := InputRequest.firstClaims_spec r.claims
  have perm := r.firstClaims_perm
  have given (role : InputRole) := (first role).trans (r.find?_claims role)
  refine ⟨?_, ⟨(InputRequest.firstClaims r.claims).filterMap (fault? t r.workingDir), ?_, ?_, ?_⟩,
    fun t' same => ?_⟩
  · have package (c : InputRole × Path) (other : c.1 ≠ .package) :
        packageOf? t r.workingDir c = none := if_neg other
    have readme (c : InputRole × Path) (other : c.1 ≠ .readme) :
        readmeOf? t r.workingDir c = none := if_neg other
    simp only [collect, foldl_take, foldl_or package once, foldl_or readme once, given,
      r.candidates_eq]
    cases r.fileFor? .package <;> cases r.fileFor? .readme <;> simp [packageOf?, readmeOf?]
  · simp only [collect, foldl_take, List.nil_append]
  · intro e member
    obtain ⟨c, -, fault⟩ := List.mem_filterMap.mp member
    exact level_of_fault? fault
  · have filtered {α β : Type} (f : α → Option β) (o : Option α) :
        o.toList.filterMap f = (o.bind f).toList := by
      cases o with
      | none => rfl
      | some v =>
        rw [Option.toList_some, List.filterMap_cons, Option.bind_some]
        cases f v <;> rfl
    refine (perm.filterMap _).trans (.of_eq ?_)
    rw [List.filterMap_append, filtered, filtered, Option.bind_map, Option.bind_map]
    rfl
  · have each (s : Inputs × List Event) (c : InputRole × Path)
        (member : c ∈ InputRequest.firstClaims r.claims) :
        take t' r.workingDir s c = take t r.workingDir s c := by
      obtain ⟨role, p⟩ := c
      exact take_congr (same role p (InputRequest.mem_firstClaims.mp member))
    simp only [collect]
    rw [List.foldl_ext _ _ _ each]

end Inputs

end RefDoc
