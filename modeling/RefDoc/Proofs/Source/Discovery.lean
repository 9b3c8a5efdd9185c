import RefDoc.Proofs.Desk
import RefDoc.Proofs.FileTree
import RefDoc.Proofs.Pattern.Names
import RefDoc.Source.Inputs

/-!
# What discovery gives

A path with a role is no source, as far as it is given as a path: of the candidates none has a role
(`Path.role?_join`: wherever it is seen from). A directory among the candidates is scanned for
whatever the rules accept, package files and readmes included (`Inputs.files_roleless_iff`).
-/

namespace RefDoc

variable {σ : Type}

/-! ### Roles -/

theorem packagePattern_staysInName : packagePattern.StaysInName :=
  ⟨Pattern.staysInName_boundary, Pattern.staysInName_anyCase (by decide),
    Pattern.staysInName_textEnd⟩

theorem readmePattern_staysInName : readmePattern.StaysInName :=
  ⟨⟨⟨Pattern.staysInName_boundary, Pattern.staysInName_anyCase (by decide)⟩,
    Pattern.staysInName_anyCase (by decide)⟩, Pattern.staysInName_textEnd⟩

theorem packagePattern_endsText : packagePattern.EndsText := fun _ _ => ⟨_, rfl⟩

theorem readmePattern_endsText : readmePattern.EndsText := fun _ _ => ⟨_, rfl⟩

namespace Path

theorem role?_behind {p other : Path} (front : List Char)
    (behind : p.text.toList = front ++ '/' :: other.text.toList) : p.role? = other.role? := by
  rw [role?, role?, isPackageFile, isPackageFile, isReadmeFile, isReadmeFile, behind,
    Pattern.occursIn_name packagePattern_staysInName packagePattern_endsText,
    Pattern.occursIn_name readmePattern_staysInName readmePattern_endsText]

/-- A path has the same role wherever it is seen from. -/
@[simp] theorem role?_join (p other : Path) : (p.join other).role? = other.role? := by
  unfold join
  split
  · rfl
  split
  · rename_i ends
    rcases Bool.or_eq_true_iff.mp ends with empty | slash
    · have : p.text = "" := String.isEmpty_iff.mp empty
      simp [this]
    · obtain ⟨front, split⟩ := List.getLast?_eq_some_iff.mp (beq_iff_eq.mp slash)
      exact role?_behind front (by simp [split])
  · exact role?_behind p.text.toList (by simp)

end Path

/-! ### Scanning -/

namespace FileTree

/-- The path is no file itself, and `f` is a file below it. -/
def Holds (t : FileTree) (skip : String → Bool) (depth : Nat) (p f : Path) : Prop :=
  ∃ place node, t.node p = .ok (place, node) ∧ (∀ bytes, node ≠ .file bytes) ∧
    f ∈ t.filesBelow skip depth place p

variable {t : FileTree} {filter : SourceFilter} {depth : Nat}

theorem mem_visit {p f : Path} (deep : 1 ≤ depth) :
    (∃ found, t.visit filter depth p = .ok found ∧ f ∈ found) ↔
      (f = p ∧ t.isFile p) ∨ t.Holds filter.skips depth p f := by
  unfold visit Holds isFile
  rw [Nat.max_eq_left deep]
  rcases t.node p with e | ⟨place, bytes | _ | target⟩ <;> simp

theorem mem_scan {workingDir : Path} {ps : List Path} {f : Path} (deep : 1 ≤ depth) :
    f ∈ (t.scan filter depth workingDir ps).1 ↔ filter.accepts f ∧ ∃ c ∈ ps,
      (f = workingDir.join c ∧ t.isFile (workingDir.join c)) ∨
        t.Holds filter.skips depth (workingDir.join c) f := by
  simp only [← mem_visit deep, scan, visitAll, List.mem_filter, List.mem_flatMap, List.map_map,
    List.mem_map]
  rw [and_comm]
  refine and_congr_right fun _ => ⟨?_, ?_⟩
  · rintro ⟨_, ⟨c, listed, rfl⟩, member⟩
    cases visited : t.visit filter depth (workingDir.join c) with
    | error e => simp [visited, Except.toOption] at member
    | ok found => exact ⟨c, listed, found, visited, by simpa [visited, Except.toOption] using member⟩
  · rintro ⟨c, listed, found, visited, member⟩
    exact ⟨_, ⟨c, listed, rfl⟩, by simpa [visited, Except.toOption] using member⟩

end FileTree

namespace Inputs

/-- What the inputs come to. -/
def loaded (t : FileTree) (r : InputRequest) : Except Error Inputs :=
  let inputs := (collect t r).1
  match r.rules with
  | none => .ok inputs
  | some rules =>
    if inputs.candidates.isEmpty then .ok inputs
    else (SourceFilter.ofRules rules r.workingDir).map fun filter =>
      { inputs with
        files := (t.scan filter (scanDepth r.recurse) r.workingDir inputs.candidates).1 }

/-- Discovery only reads. -/
theorem load_run (r : InputRequest) (desk : Desk σ) :
    ∃ log, (load r).run.run desk = (loaded desk.files r, desk, log) := by
  simp only [load, loaded, Attempt.bind_run, Attempt.files_run, Attempt.act_run, Act.logAll_run]
  cases r.rules with
  | none => exact ⟨_, rfl⟩
  | some rules =>
    cases (collect desk.files r).1.candidates.isEmpty with
    | true => exact ⟨_, rfl⟩
    | false =>
      simp only [Bool.false_eq_true, if_false, Attempt.bind_run, Attempt.ofExcept_run]
      cases SourceFilter.ofRules rules r.workingDir <;> exact ⟨_, rfl⟩

theorem candidates_collect (t : FileTree) (r : InputRequest) :
    (collect t r).1.candidates = r.candidates ∧ (collect t r).1.files = [] := by
  have taken (s : Inputs × List Event) (c : InputRole × Path) :
      (take t r.workingDir s c).1.candidates = s.1.candidates ∧
        (take t r.workingDir s c).1.files = s.1.files := by
    unfold take
    rcases c with ⟨_ | _, p⟩ <;> dsimp only <;> split <;> exact ⟨rfl, rfl⟩
  have all (claims : List (InputRole × Path)) (s : Inputs × List Event) :
      (claims.foldl (take t r.workingDir) s).1.candidates = s.1.candidates ∧
        (claims.foldl (take t r.workingDir) s).1.files = s.1.files := by
    induction claims generalizing s with
    | nil => exact ⟨rfl, rfl⟩
    | cons c claims ih => exact ⟨(ih _).1.trans (taken s c).1, (ih _).2.trans (taken s c).2⟩
  exact all _ _

theorem files_loaded {t : FileTree} {r : InputRequest} {inputs : Inputs}
    (given : loaded t r = .ok inputs) :
    ((r.rules = none ∨ r.candidates = []) ∧ inputs.files = []) ∨
      ∃ rules filter, r.rules = some rules ∧
        SourceFilter.ofRules rules r.workingDir = .ok filter ∧
        inputs.files = (t.scan filter (scanDepth r.recurse) r.workingDir r.candidates).1 := by
  obtain ⟨candidates, empty⟩ := candidates_collect t r
  simp only [loaded, candidates] at given
  cases rules : r.rules with
  | none =>
    rw [rules] at given
    cases given
    exact .inl ⟨.inl rfl, empty⟩
  | some rules' =>
    rw [rules] at given
    dsimp only at given
    split at given
    · rename_i unlisted
      cases given
      exact .inl ⟨.inr (List.isEmpty_iff.mp unlisted), empty⟩
    · cases read : SourceFilter.ofRules rules' r.workingDir with
      | error e =>
        rw [read] at given
        cases given
      | ok filter =>
        rw [read] at given
        cases given
        exact .inr ⟨rules', filter, rfl, read, rfl⟩

end Inputs

/-- The request leads into a directory with the file `f`, which its rules accept. -/
def InputRequest.Finds (r : InputRequest) (t : FileTree) (f : Path) : Prop :=
  ∃ rules filter, r.rules = some rules ∧ SourceFilter.ofRules rules r.workingDir = .ok filter ∧
    filter.accepts f ∧ ∃ c ∈ r.candidates,
      t.Holds filter.skips (scanDepth r.recurse) (r.workingDir.join c) f

namespace Inputs

/-- The sources with a role are those that lie in a directory that is scanned. -/
theorem mem_files_iff {r : InputRequest} {t : FileTree} {inputs : Inputs}
    (given : loaded t r = .ok inputs) {f : Path} (role : f.role? ≠ none) :
    f ∈ inputs.files ↔ r.Finds t f := by
  have plain (c : Path) (listed : c ∈ r.candidates) : f ≠ r.workingDir.join c := by
    rintro rfl
    exact role (by simpa using (List.mem_filter.mp listed).2)
  have deep : 1 ≤ scanDepth r.recurse := by
    unfold scanDepth
    split <;> decide
  unfold InputRequest.Finds
  rcases files_loaded given with ⟨unruled | unlisted, empty⟩ | ⟨rules, filter, ruled, read, scanned⟩
  · simp [empty, unruled]
  · simp [empty, unlisted]
  · rw [scanned, FileTree.mem_scan deep]
    constructor
    · rintro ⟨accepted, c, listed, ⟨rfl, -⟩ | held⟩
      · exact absurd rfl (plain c listed)
      · exact ⟨rules, filter, ruled, read, accepted, c, listed, held⟩
    · rintro ⟨rules', filter', ruled', read', accepted, c, listed, held⟩
      cases ruled.symm.trans ruled'
      cases read.symm.trans read'
      exact ⟨accepted, c, listed, .inr held⟩

/-- **Package files and readmes become sources in a directory only.** -/
theorem files_roleless_iff {r : InputRequest} {desk desk' : Desk σ} {inputs : Inputs}
    {log : List Event} (discovered : (load r).run.run desk = (.ok inputs, desk', log)) :
    (∀ f ∈ inputs.files, f.role? = none) ↔ ∀ f, r.Finds desk.files f → f.role? = none := by
  obtain ⟨log', ran⟩ := load_run r desk
  rw [ran] at discovered
  have given : loaded desk.files r = .ok inputs := congrArg Prod.fst discovered
  constructor
  · intro clean f finds
    by_contra role
    exact role (clean f ((mem_files_iff given role).mpr finds))
  · intro clean f member
    by_contra role
    exact role (clean f ((mem_files_iff given role).mp member))

theorem loaded_of_read {t : FileTree} {r : InputRequest} {rules : SourceRules}
    {filter : SourceFilter} (ruled : r.rules = some rules)
    (read : SourceFilter.ofRules rules r.workingDir = .ok filter) :
    ∃ inputs, loaded t r = .ok inputs := by
  unfold loaded
  rw [ruled]
  dsimp only
  split
  · exact ⟨_, rfl⟩
  · rw [read]
    exact ⟨_, rfl⟩

/-! ### A readme in a directory -/

def shelf : Desk Unit := ⟨⟨[(["d"], .directory), (["d", "a.md"], .file [])], []⟩, ()⟩

/-- The directory is to be scanned by the given rules. -/
def shelved (rules : SourceRules) : InputRequest :=
  { positional := [⟨"d"⟩], rules := some rules, workingDir := ⟨""⟩ }

/-- Everything is to become a source. -/
def greedy : SourceRules := { includePattern := some ".+" }

theorem shelf_holds {skip : String → Bool} (seen : skip "a.md" = false) (f : Path) :
    shelf.files.Holds skip 1 ⟨"d"⟩ f ↔ f = ⟨"d/a.md"⟩ := by
  have found : shelf.files.node ⟨"d"⟩ = .ok (["d"], .directory) :=
    FileTree.IsName.node_directory (t := shelf.files) ⟨rfl, rfl, rfl, by decide, rfl⟩ rfl
  have names : shelf.files.names ["d"] = ["a.md"] := by
    simp [FileTree.names, FileTree.nameIn?, shelf]
  have text : shelf.files.at? (["d"] ++ ["a.md"]) = some (.file []) := rfl
  have below : shelf.files.filesBelow skip (0 + 1) ["d"] ⟨"d"⟩ = [⟨"d/a.md"⟩] := by
    simp only [FileTree.filesBelow, names, seen, text, List.flatMap_cons, List.flatMap_nil]
    rfl
  simp [FileTree.Holds, found, below]

theorem shelved_finds {rules : SourceRules} {filter : SourceFilter} (alone : rules.included = [])
    (read : SourceFilter.ofRules rules ⟨""⟩ = .ok filter) (seen : filter.skips "a.md" = false)
    (f : Path) : (shelved rules).Finds shelf.files f ↔ f = ⟨"d/a.md"⟩ ∧ filter.accepts f := by
  have role : (⟨"d"⟩ : Path).role? = none := by decide +kernel
  have candidates : (shelved rules).candidates = [⟨"d"⟩] := by
    simp [InputRequest.candidates, InputRequest.paths, shelved, role, alone]
  constructor
  · rintro ⟨_, _, ruled, read', accepted, c, listed, held⟩
    cases ruled
    cases read.symm.trans read'
    obtain rfl := List.mem_singleton.mp (candidates ▸ listed)
    exact ⟨(shelf_holds seen f).mp held, accepted⟩
  · rintro ⟨rfl, accepted⟩
    exact ⟨rules, filter, rfl, read, accepted, ⟨"d"⟩, by simp [candidates],
      (shelf_holds seen _).mpr rfl⟩

/-- By the usual rules the readme stays out. -/
theorem files_roleless_iff_shelved : ∃ inputs log,
    (load (shelved .standard)).run.run shelf = (.ok inputs, shelf, log) ∧
      ∀ f ∈ inputs.files, f.role? = none := by
  obtain ⟨filter, read, seen, rejects⟩ : ∃ filter,
      SourceFilter.ofRules .standard ⟨""⟩ = .ok filter ∧ filter.skips "a.md" = false ∧
        filter.accepts ⟨"d/a.md"⟩ = false := ⟨_, rfl, rfl, rfl⟩
  obtain ⟨inputs, given⟩ := loaded_of_read (t := shelf.files) (r := shelved .standard) rfl read
  obtain ⟨log, ran⟩ := load_run (shelved .standard) shelf
  rw [given] at ran
  refine ⟨inputs, log, ran, (files_roleless_iff ran).mpr fun f finds => ?_⟩
  obtain ⟨rfl, accepted⟩ := (shelved_finds rfl read seen f).mp finds
  rw [rejects] at accepted
  cases accepted

/-- The readme becomes a source if the rules accept it. -/
theorem readme_found : ∃ inputs log,
    (load (shelved greedy)).run.run shelf = (.ok inputs, shelf, log) ∧
      (⟨"d/a.md"⟩ : Path) ∈ inputs.files ∧ (⟨"d/a.md"⟩ : Path).role? = some .readme := by
  obtain ⟨filter, read, seen, accepted⟩ : ∃ filter,
      SourceFilter.ofRules greedy ⟨""⟩ = .ok filter ∧ filter.skips "a.md" = false ∧
        filter.accepts ⟨"d/a.md"⟩ = true := ⟨_, rfl, rfl, rfl⟩
  obtain ⟨inputs, given⟩ := loaded_of_read (t := shelf.files) (r := shelved greedy) rfl read
  obtain ⟨log, ran⟩ := load_run (shelved greedy) shelf
  rw [given] at ran
  have role : (⟨"d/a.md"⟩ : Path).role? = some .readme := by
    have name : (⟨"a.md"⟩ : Path).role? = some .readme := by decide +kernel
    exact (Path.role?_behind ['d'] rfl).trans name
  refine ⟨inputs, log, ran, (mem_files_iff given (by simp [role])).mpr ?_, role⟩
  exact (shelved_finds rfl read seen _).mpr ⟨rfl, accepted⟩

end Inputs

end RefDoc
