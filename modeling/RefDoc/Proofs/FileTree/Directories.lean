import RefDoc.Proofs.Path

/-!
# Making directories

Making the directories of a path adds directories and changes nothing else, whether all of them can
be made or not (`founded_tryDirectories`), and if they can it leaves the path leading to one. Made
once, they are not made again, even where files have been put in the place of links since
(`tryDirectories_refiled`).
-/

namespace RefDoc.FileTree

variable {t t' made' : FileTree} {p : Path} {place : Place}

/-- Directories were added where nothing was. -/
structure Founded (t t' : FileTree) : Prop where
  home : t'.home = t.home
  places (q : Place) : t'.at? q = t.at? q ∨ (t.at? q = none ∧ t'.at? q = some .directory)

theorem Founded.refl (t : FileTree) : Founded t t := ⟨rfl, fun _ => .inl rfl⟩

theorem Founded.trans {t'' : FileTree} (first : Founded t t') (second : Founded t' t'') :
    Founded t t'' := by
  refine ⟨second.home.trans first.home, fun q => ?_⟩
  rcases first.places q with kept | ⟨free, made⟩ <;>
    rcases second.places q with kept' | ⟨free', made'⟩
  · exact .inl (kept'.trans kept)
  · exact .inr ⟨kept ▸ free', made'⟩
  · exact .inr ⟨free, kept'.trans made⟩
  · simp [made] at free'

theorem Founded.kept (founded : Founded t t') {q : Place} {node : FileNode}
    (there : t.at? q = some node) : t'.at? q = some node := by
  rcases founded.places q with kept | ⟨free, -⟩
  · exact kept.trans there
  · simp [there] at free

theorem founded_put (below : place ≠ []) (free : t.at? place = none) :
    Founded t (t.put place .directory) := by
  refine ⟨rfl, fun q => ?_⟩
  rw [at?_put below]
  split
  · rename_i same
    exact .inr ⟨same ▸ free, rfl⟩
  · exact .inl rfl

/-- New directories are in nobody's way. -/
theorem Enters.founded {links links' : Nat} {here dir : Place} {way : List String}
    (founded : Founded t t') (enters : t.Enters links here way links' dir) :
    t'.Enters links here way links' dir :=
  enters.kept fun _ _ there _ => founded.kept there

/-! ### Directories -/

theorem isDirectory_iff (written : p.text.isEmpty = false) :
    t.isDirectory p ↔
      ∃ place, t.walk true linkLimit (t.origin p) (steps p) = .ok (.node place .directory) := by
  unfold isDirectory node locate
  rw [written]
  simp only [Bool.false_eq_true, if_false]
  rcases t.walk true linkLimit (t.origin p) (steps p) with e | ⟨place, _ | _ | _⟩ | place <;> simp

/-- Only a directory or a link is gone through on the way to a directory. -/
theorem at?_of_walk {links : Nat} {dir : Place} {name : String} {more : List String}
    (proper : Proper name)
    (walked : t.walk true links dir (name :: more) = .ok (.node place .directory)) :
    t.at? (dir ++ [name]) = some .directory ∨
      ∃ target, t.at? (dir ++ [name]) = some (.link target) := by
  have directory := directory_of_walk (by simp) walked
  rw [walk] at walked
  simp only [directory, proper.1, proper.2, if_false] at walked
  cases stands : t.at? (dir ++ [name]) with
  | none =>
    rw [stands] at walked
    cases more <;> simp at walked
  | some node =>
    cases node with
    | directory => exact .inl rfl
    | link target => exact .inr ⟨target, rfl⟩
    | file bytes =>
      rw [stands] at walked
      cases more <;> simp [walk, stands] at walked

/-- Makes the directory `name` behind what was found. -/
def makeIn (t : FileTree) (name : String) : Except FileFault Found → Except FileFault FileTree
  | .error e => .error e
  | .ok (.free _) => .error .notFound
  | .ok (.node dir .directory) =>
    if name = "." || name = ".." then .error .exists
    else if (t.at? (dir ++ [name])).isSome then .error .exists
    else .ok (t.put (dir ++ [name]) .directory)
  | .ok (.node _ _) => .error .notDirectory

/-- The names of which the last one is made. -/
def namesToMake (p : Path) : List String :=
  if p.text.toList.getLast? == some '/' then (steps p).reverse.drop 1 else (steps p).reverse

theorem makeDirectory_of_none (written : p.text.isEmpty = false) (none : namesToMake p = [])
    (t : FileTree) : t.makeDirectory p = .error .exists := by
  unfold namesToMake at none
  simp only [makeDirectory, none, written]
  rfl

theorem makeDirectory_of_name {name : String} {before : List String}
    (names : namesToMake p = name :: before) (t : FileTree) :
    t.makeDirectory p = t.makeIn name (t.walk true linkLimit (t.origin p) before.reverse) := by
  unfold namesToMake at names
  simp only [makeDirectory, names]
  rcases t.walk true linkLimit (t.origin p) before.reverse with e | ⟨dir, _ | _ | _⟩ | dir <;> rfl

/-- What a path goes through are the names to make, and a dot for a slash at the end. -/
theorem steps_eq_namesToMake (p : Path) :
    ∃ dots, (∀ s ∈ dots, s = ".") ∧ steps p = (namesToMake p).reverse ++ dots := by
  by_cases slash : p.text.toList.getLast? = some '/'
  · obtain ⟨cs, ends⟩ := List.getLast?_eq_some_iff.mp slash
    refine ⟨["."], by simp, ?_⟩
    simp [namesToMake, slash, steps_of_slash ends]
  · exact ⟨[], nofun, by simp [namesToMake, slash]⟩

/-- What `makeDirectory` gives where there is one, or a file has come in the way. -/
theorem makeDirectory_refiled (written : p.text.isEmpty = false) (directory : t.isDirectory p)
    (refiled : Refiled t t') : ∃ e, t'.makeDirectory p = .error e ∧ e ≠ .notFound := by
  obtain ⟨place, walked⟩ := (isDirectory_iff written).mp directory
  obtain ⟨dots, -, steps_eq⟩ := steps_eq_namesToMake p
  cases names : namesToMake p with
  | nil => exact ⟨.exists, makeDirectory_of_none written names t', nofun⟩
  | cons name before =>
    rw [makeDirectory_of_name names]
    rw [steps_eq, names, List.reverse_cons, List.append_assoc] at walked
    obtain ⟨links, dir, enters⟩ := enters_of_walk (.inl (by simp)) walked
    rw [enters.walk_append (by simp)] at walked
    have start : t'.origin p = t.origin p := by rw [origin, refiled.home, origin]
    rw [start]
    rcases enters.refiled refiled with enters' | blocked | ⟨q, bytes, blocked⟩
    · rw [enters'.walk, makeIn]
      rcases dotted_or_proper name with rfl | rfl | proper
      · exact ⟨.exists, rfl, nofun⟩
      · exact ⟨.exists, rfl, nofun⟩
      · have taken : (t'.at? (dir ++ [name])).isSome := by
          rcases at?_of_walk proper walked with directory | ⟨target, link⟩
          · rw [refiled.directory.mpr directory]
            rfl
          · rcases refiled.of_link link with link | ⟨bytes, file⟩ <;> simp [*]
        exact ⟨.exists, by simp [proper.1, proper.2, taken], nofun⟩
    · exact ⟨.notDirectory, by rw [blocked]; rfl, nofun⟩
    · exact ⟨.notDirectory, by rw [blocked]; rfl, nofun⟩

theorem makeIn_ok {name : String} {found : Except FileFault Found}
    (made : t.makeIn name found = .ok t') :
    ∃ dir, found = .ok (.node dir .directory) ∧ Proper name ∧ t.at? (dir ++ [name]) = none ∧
      t' = t.put (dir ++ [name]) .directory := by
  unfold makeIn at made
  split at made
  · cases made
  · cases made
  · rename_i dir
    rcases dotted_or_proper name with rfl | rfl | proper
    · cases made
    · cases made
    · rw [if_neg (by simp [proper.1, proper.2])] at made
      split at made
      · cases made
      · rename_i free
        cases made
        exact ⟨dir, rfl, proper, by simpa using free, rfl⟩
  · cases made

/-- A directory that was made is there. -/
theorem makeDirectory_ok (written : p.text.isEmpty = false) (made : t.makeDirectory p = .ok t') :
    Founded t t' ∧ t'.isDirectory p := by
  obtain ⟨dots, still, steps_eq⟩ := steps_eq_namesToMake p
  cases names : namesToMake p with
  | nil =>
    rw [makeDirectory_of_none written names] at made
    cases made
  | cons name before =>
    rw [makeDirectory_of_name names] at made
    obtain ⟨dir, walked, proper, free, rfl⟩ := makeIn_ok made
    have founded := founded_put (by simp) free
    refine ⟨founded, (isDirectory_iff written).mpr ⟨dir ++ [name], ?_⟩⟩
    rw [← List.append_nil before.reverse] at walked
    obtain ⟨links, dir', enters⟩ := enters_of_walk (.inr ⟨dir, rfl⟩) walked
    have same : dir' = dir := by
      rw [List.append_nil, enters.walk] at walked
      cases walked
      rfl
    subst same
    have below : (t.put (dir' ++ [name]) .directory).at? (dir' ++ [name]) = some .directory := by
      rw [at?_put (by simp), if_pos rfl]
    have last : Enters (t.put (dir' ++ [name]) .directory) links dir' (name :: dots) links
        (dir' ++ [name]) :=
      .down (enters.founded founded).directory proper below (enters_dots below still)
    have whole := ((enters.founded founded).append last).walk
    rwa [steps_eq, names, List.reverse_cons, List.append_assoc]

/-! ### All directories of a path -/

theorem written_of_components (given : p.components.isEmpty = false) :
    p.text.isEmpty = false := by
  rw [Bool.eq_false_iff] at given ⊢
  intro empty
  obtain ⟨text⟩ := p
  obtain rfl : text = "" := String.isEmpty_iff.mp empty
  exact given rfl

/-- By induction on the directories above. -/
theorem tryDirectories_go (fuel : Nat) (p : Path) :
    Founded t (tryDirectories.go t fuel p).2 ∧ ((tryDirectories.go t fuel p).1 = .ok () →
      p.components.isEmpty = false → (tryDirectories.go t fuel p).2.isDirectory p) := by
  have given {p : Path} (some : ¬ p.components.isEmpty = true) : p.text.isEmpty = false :=
    written_of_components (by simpa using some)
  have settled {t' : FileTree} {p : Path} {e : FileFault}
      (ended : (if t'.isDirectory p then .ok () else .error e : Except FileFault Unit) = .ok ()) :
      t'.isDirectory p := by
    split at ended
    · assumption
    · cases ended
  fun_induction tryDirectories.go t fuel p with
  | case1 _ p empty => exact ⟨.refl t, fun _ given => by simp [empty] at given⟩
  | case2 _ p some t' at_once =>
    obtain ⟨founded, directory⟩ := makeDirectory_ok (given some) at_once
    exact ⟨founded, fun _ _ => directory⟩
  | case3 p some _ fuel above _ e t' above_failed ih =>
    rw [above_failed] at ih
    exact ⟨ih.1, nofun⟩
  | case4 p some _ fuel above _ t' above_made t'' last ih =>
    rw [above_made] at ih
    obtain ⟨founded, directory⟩ := makeDirectory_ok (given some) last
    exact ⟨ih.1.trans founded, fun _ _ => directory⟩
  | case5 p _ _ fuel above _ t' above_made e _ ih =>
    rw [above_made] at ih
    exact ⟨ih.1, fun ended _ => settled ended⟩
  | case6 => exact ⟨.refl t, nofun⟩
  | case7 => exact ⟨.refl t, fun ended _ => settled ended⟩

/-- Whatever comes of it, nothing but directories is added. -/
theorem founded_tryDirectories (t : FileTree) (p : Path) : Founded t (t.tryDirectories p).2 :=
  (tryDirectories_go _ p).1

theorem tryDirectories_of_ok (made : t.makeDirectories p = .ok t') :
    t.tryDirectories p = (.ok (), t') := by
  unfold makeDirectories at made
  generalize t.tryDirectories p = ran at made ⊢
  rcases ran with ⟨e | _, left⟩ <;> cases made
  rfl

theorem tryDirectories_of_error {e : FileFault} (failed : t.makeDirectories p = .error e) :
    (t.tryDirectories p).1 = .error e := by
  unfold makeDirectories at failed
  generalize t.tryDirectories p = ran at failed ⊢
  rcases ran with ⟨e | _, left⟩ <;> cases failed
  rfl

theorem makeDirectories_ok (made : t.makeDirectories p = .ok t') :
    Founded t t' ∧ (p.components.isEmpty = false → t'.isDirectory p) := by
  have ran := tryDirectories_of_ok made
  obtain ⟨founded, directory⟩ := tryDirectories_go (t := t) p.components.length p
  rw [show tryDirectories.go t p.components.length p = (.ok (), t') from ran] at founded directory
  exact ⟨founded, directory rfl⟩

/-- Where a path led to a directory, trying to make its directories changes nothing. -/
theorem tryDirectories_refiled (directory : p.components.isEmpty = false → t.isDirectory p)
    (refiled : Refiled t t') : (t'.tryDirectories p).2 = t' := by
  unfold tryDirectories tryDirectories.go
  split
  · rfl
  · rename_i some
    have given : p.components.isEmpty = false := by simpa using some
    obtain ⟨e, failed, other⟩ :=
      makeDirectory_refiled (written_of_components given) (directory given) refiled
    rw [failed]
    cases e with
    | notFound => exact absurd rfl other
    | _ => rfl

theorem makeDirectories_of_isDirectory (given : p.components.isEmpty = false)
    (directory : t.isDirectory p) : t.makeDirectories p = .ok t := by
  obtain ⟨e, failed, other⟩ :=
    makeDirectory_refiled (written_of_components given) directory (.refl t)
  have ran : t.tryDirectories p = (.ok (), t) := by
    unfold tryDirectories tryDirectories.go
    rw [if_neg (by simp [given]), failed]
    cases e with
    | notFound => exact absurd rfl other
    | _ => simp [directory]
  rw [makeDirectories, ran]
  rfl

end RefDoc.FileTree
