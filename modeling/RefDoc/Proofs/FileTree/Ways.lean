import RefDoc.FileTree.Basic

/-!
# Ways through a file tree

`Enters` is the relation between a way and the directory it leads to, links and all. What a path
finds is found in the directory that the way to its last name enters (`Enters.walk_append`,
`enters_of_walk`). In a tree where some links and files became files, and some files are gone
(`Refiled`), a way leads where it did, or it ends at a file (`Enters.refiled`).
-/

namespace RefDoc.FileTree

variable {t t' : FileTree} {last : Bool} {links links' : Nat} {here dir place : Place}
  {todo way more : List String} {name : String}

/-! ### Changing one place -/

@[simp] theorem at?_nil (t : FileTree) : t.at? [] = some .directory := rfl

theorem lookup_cons_of_ne {l : List (Place × FileNode)} {place q : Place} (node : FileNode)
    (other : q ≠ place) : ((place, node) :: l).lookup q = l.lookup q := by
  rw [List.lookup_cons, beq_eq_false_iff_ne.mpr other]

theorem lookup_filter_ne (l : List (Place × FileNode)) (place q : Place) :
    (l.filter (·.1 ≠ place)).lookup q = if q = place then none else l.lookup q := by
  induction l with
  | nil => split <;> rfl
  | cons e l ih =>
    obtain ⟨first, node⟩ := e
    by_cases removed : first = place
    · subst removed
      rw [List.filter_cons_of_neg (by simp), ih]
      by_cases found : q = first
      · simp [found]
      · rw [lookup_cons_of_ne node found]
    · rw [List.filter_cons_of_pos (by simpa using removed)]
      by_cases found : q = first
      · subst found
        rw [if_neg removed, List.lookup_cons_self, List.lookup_cons_self]
      · rw [lookup_cons_of_ne node found, lookup_cons_of_ne node found, ih]

theorem at?_put (below : place ≠ []) (node : FileNode) (q : Place) :
    (t.put place node).at? q = if q = place then some node else t.at? q := by
  by_cases top : q = []
  · subst top
    rw [if_neg (Ne.symm below)]
    rfl
  · have proper : q.isEmpty = false := by simpa using top
    simp only [at?, put, proper]
    by_cases same : q = place
    · subst same
      simp
    · rw [if_neg same, lookup_cons_of_ne node same, lookup_filter_ne, if_neg same]

theorem at?_remove (below : place ≠ []) (q : Place) :
    (t.remove place).at? q = if q = place then none else t.at? q := by
  by_cases top : q = []
  · subst top
    rw [if_neg (Ne.symm below)]
    rfl
  · have proper : q.isEmpty = false := by simpa using top
    simp only [at?, remove, proper, lookup_filter_ne]
    rfl

/-! ### Entering directories -/

/-- A name that stands for itself. -/
def Proper (name : String) : Prop := name ≠ "." ∧ name ≠ ".."

instance (name : String) : Decidable (Proper name) := inferInstanceAs (Decidable (_ ∧ _))

theorem dotted_or_proper (name : String) : name = "." ∨ name = ".." ∨ Proper name := by
  unfold Proper
  by_cases dot : name = "."
  · exact .inl dot
  · by_cases up : name = ".."
    · exact .inr (.inl up)
    · exact .inr (.inr ⟨dot, up⟩)

/-- The way from `here` leads to the directory `dir`, and of so many `links` that may be followed
some are left. -/
inductive Enters (t : FileTree) : Nat → Place → List String → Nat → Place → Prop where
  | here {links : Nat} {dir : Place} (directory : t.at? dir = some .directory) :
      Enters t links dir [] links dir
  | dot {links links' : Nat} {here dir : Place} {way : List String}
      (directory : t.at? here = some .directory) (others : Enters t links here way links' dir) :
      Enters t links here ("." :: way) links' dir
  | up {links links' : Nat} {here dir : Place} {way : List String}
      (directory : t.at? here = some .directory)
      (others : Enters t links here.dropLast way links' dir) :
      Enters t links here (".." :: way) links' dir
  | down {links links' : Nat} {here dir : Place} {way : List String} {name : String}
      (directory : t.at? here = some .directory) (proper : Proper name)
      (below : t.at? (here ++ [name]) = some .directory)
      (others : Enters t links (here ++ [name]) way links' dir) :
      Enters t links here (name :: way) links' dir
  | follow {links links' : Nat} {here dir : Place} {way : List String} {name : String}
      {target : Path} (directory : t.at? here = some .directory) (proper : Proper name)
      (link : t.at? (here ++ [name]) = some (.link target))
      (others : Enters t links (if target.isAbsolute then [] else here) (steps target ++ way)
        links' dir) :
      Enters t (links + 1) here (name :: way) links' dir

theorem Enters.start_directory (enters : t.Enters links here way links' dir) :
    t.at? here = some .directory := by
  cases enters <;> assumption

theorem Enters.directory (enters : t.Enters links here way links' dir) :
    t.at? dir = some .directory := by
  induction enters with
  | here directory => exact directory
  | dot _ _ ih | up _ _ ih | down _ _ _ _ ih | follow _ _ _ _ ih => exact ih

/-- What is behind a way is looked up where the way leads. -/
theorem Enters.walk_append (enters : t.Enters links here way links' dir) (ahead : more ≠ []) :
    t.walk last links here (way ++ more) = t.walk last links' dir more := by
  induction enters with
  | here => rfl
  | dot directory _ ih =>
    rw [List.cons_append, walk]
    simpa [directory] using ih
  | up directory _ ih =>
    rw [List.cons_append, walk]
    simpa [directory] using ih
  | down directory proper below _ ih =>
    rw [List.cons_append, walk]
    simpa [directory, proper.1, proper.2, below] using ih
  | follow directory proper link _ ih =>
    rw [List.cons_append, walk]
    simpa [directory, proper.1, proper.2, link, ahead, List.append_assoc] using ih

theorem Enters.walk (enters : t.Enters links here way links' dir) :
    t.walk true links here way = .ok (.node dir .directory) := by
  induction enters with
  | here directory => simp [FileTree.walk, directory]
  | dot directory _ ih =>
    rw [FileTree.walk]
    simpa [directory] using ih
  | up directory _ ih =>
    rw [FileTree.walk]
    simpa [directory] using ih
  | down directory proper below _ ih =>
    rw [FileTree.walk]
    simpa [directory, proper.1, proper.2, below] using ih
  | follow directory proper link _ ih =>
    rw [FileTree.walk]
    simpa [directory, proper.1, proper.2, link] using ih

/-- Whoever goes on stands in a directory. -/
theorem directory_of_walk {found : Found} (ahead : more ≠ [])
    (walked : t.walk last links here more = .ok found) : t.at? here = some .directory := by
  obtain ⟨name, rest, rfl⟩ := List.exists_cons_of_ne_nil ahead
  rw [FileTree.walk] at walked
  cases stands : t.at? here with
  | none => simp [stands] at walked
  | some node =>
    cases node with
    | directory => rfl
    | file | link => simp [stands] at walked

/-- Where something is found behind a way, or the way finds a directory, it leads to one. By
induction on the walk: where that ends, nothing of the way is left. -/
theorem enters_of_walk {found : Found} (ahead : more ≠ [] ∨ ∃ dir, found = .node dir .directory)
    (walked : t.walk last links here (way ++ more) = .ok found) :
    ∃ links' dir, t.Enters links here way links' dir := by
  generalize same : way ++ more = todo at walked
  fun_induction FileTree.walk t last links here todo generalizing way with
  | case6 links here rest directory ih =>
    cases way with
    | nil => exact ⟨links, here, .here directory⟩
    | cons =>
      obtain ⟨rfl, rfl⟩ := List.cons.inj same
      obtain ⟨links', dir, others⟩ := ih rfl walked
      exact ⟨links', dir, .dot directory others⟩
  | case7 links here rest directory _ ih =>
    cases way with
    | nil => exact ⟨links, here, .here directory⟩
    | cons =>
      obtain ⟨rfl, rfl⟩ := List.cons.inj same
      obtain ⟨links', dir, others⟩ := ih rfl walked
      exact ⟨links', dir, .up directory others⟩
  | case12 here name rest directory dot up place target linked _ links =>
    rename_i ih
    cases way with
    | nil => exact ⟨_, here, .here directory⟩
    | cons _ way =>
      obtain ⟨rfl, rfl⟩ := List.cons.inj same
      obtain ⟨links', dir, others⟩ := ih (List.append_assoc (steps target) way more) walked
      exact ⟨links', dir, .follow directory ⟨dot, up⟩ linked others⟩
  | case13 links here name rest directory dot up place node noLink below =>
    rename_i ih
    cases way with
    | nil => exact ⟨links, here, .here directory⟩
    | cons =>
      obtain ⟨rfl, rfl⟩ := List.cons.inj same
      obtain ⟨links', dir, others⟩ := ih rfl walked
      exact ⟨links', dir, .down directory ⟨dot, up⟩ others.start_directory others⟩
  | case8 links here name rest directory | case10 links here name rest directory =>
    cases way with
    | nil => exact ⟨links, here, .here directory⟩
    | cons =>
      obtain ⟨rfl, rfl⟩ := List.cons.inj same
      cases walked
      simp_all
  | case1 links here node stands =>
    obtain ⟨rfl, rfl⟩ := List.append_eq_nil_iff.mp same
    cases walked
    obtain more | ⟨dir, found⟩ := ahead
    · exact absurd rfl more
    · cases found
      exact ⟨links, here, .here stands⟩
  | _ => cases walked

theorem Enters.eq {links'' : Nat} {dir' : Place} (enters : t.Enters links here way links' dir)
    (enters' : t.Enters links here way links'' dir') : dir' = dir := by
  have walked := enters.walk
  rw [enters'.walk] at walked
  cases walked
  rfl

theorem Enters.append {links'' : Nat} {dir' : Place} (enters : t.Enters links here way links' dir)
    (goes_on : t.Enters links' dir more links'' dir') :
    t.Enters links here (way ++ more) links'' dir' := by
  induction enters with
  | here => exact goes_on
  | dot directory _ ih => exact .dot directory (ih goes_on)
  | up directory _ ih => exact .up directory (ih goes_on)
  | down directory proper below _ ih => exact .down directory proper below (ih goes_on)
  | follow directory proper link _ ih =>
    have others := ih goes_on
    rw [List.append_assoc] at others
    exact .follow directory proper link others

theorem enters_dots {dots : List String} (directory : t.at? dir = some .directory)
    (still : ∀ s ∈ dots, s = ".") : t.Enters links dir dots links dir := by
  induction dots with
  | nil => exact .here directory
  | cons s dots ih =>
    obtain ⟨rfl, others⟩ := List.forall_mem_cons.mp still
    exact .dot directory (ih others)

/-- A way leads on where all but files stays as it is. -/
theorem Enters.kept (kept : ∀ q node, t.at? q = some node → (∀ bytes, node ≠ .file bytes) →
    t'.at? q = some node) (enters : t.Enters links here way links' dir) :
    t'.Enters links here way links' dir := by
  induction enters with
  | here directory => exact .here (kept _ _ directory nofun)
  | dot directory _ ih => exact .dot (kept _ _ directory nofun) ih
  | up directory _ ih => exact .up (kept _ _ directory nofun) ih
  | down directory proper below _ ih =>
    exact .down (kept _ _ directory nofun) proper (kept _ _ below nofun) ih
  | follow directory proper link _ ih =>
    exact .follow (kept _ _ directory nofun) proper (kept _ _ link nofun) ih

/-! ### Files in place of files and links -/

/-- Some files and links of `t` are other files in `t'`, or new ones, and some files are gone.
Directories and the other links stay. -/
structure Refiled (t t' : FileTree) : Prop where
  home : t'.home = t.home
  places (q : Place) : t'.at? q = t.at? q ∨
    (t.at? q ≠ some .directory ∧ ∃ bytes, t'.at? q = some (.file bytes)) ∨
    ((∃ bytes, t.at? q = some (.file bytes)) ∧ t'.at? q = none)

theorem Refiled.refl (t : FileTree) : Refiled t t := ⟨rfl, fun _ => .inl rfl⟩

theorem Refiled.directory (refiled : Refiled t t') {q : Place} :
    t'.at? q = some .directory ↔ t.at? q = some .directory := by
  rcases refiled.places q with same | ⟨none, bytes, file⟩ | ⟨⟨bytes, file⟩, gone⟩
  · rw [same]
  · simp [file, none]
  · simp [file, gone]

theorem Refiled.link (refiled : Refiled t t') {q : Place} {target : Path}
    (link : t'.at? q = some (.link target)) : t.at? q = some (.link target) := by
  rcases refiled.places q with same | ⟨-, bytes, file⟩ | ⟨-, gone⟩
  · rwa [← same]
  · simp [file] at link
  · simp [gone] at link

/-- A link is kept, or it is a file now. -/
theorem Refiled.of_link (refiled : Refiled t t') {q : Place} {target : Path}
    (link : t.at? q = some (.link target)) :
    t'.at? q = some (.link target) ∨ ∃ bytes, t'.at? q = some (.file bytes) := by
  rcases refiled.places q with same | ⟨-, file⟩ | ⟨⟨bytes, file⟩, -⟩
  · exact .inl (same.trans link)
  · exact .inr file
  · simp [file] at link

/-- A way that leads to a directory afterwards led there before. -/
theorem Enters.of_refiled (refiled : Refiled t t') (enters : t'.Enters links here way links' dir) :
    t.Enters links here way links' dir := by
  induction enters with
  | here directory => exact .here (refiled.directory.mp directory)
  | dot directory _ ih => exact .dot (refiled.directory.mp directory) ih
  | up directory _ ih => exact .up (refiled.directory.mp directory) ih
  | down directory proper below _ ih =>
    exact .down (refiled.directory.mp directory) proper (refiled.directory.mp below) ih
  | follow directory proper link _ ih =>
    exact .follow (refiled.directory.mp directory) proper (refiled.link link) ih

/-- A way that leads to a directory leads there afterwards, or it comes to a file. -/
theorem Enters.refiled (refiled : Refiled t t') (enters : t.Enters links here way links' dir) :
    t'.Enters links here way links' dir ∨ t'.walk true links here way = .error .notDirectory ∨
      ∃ q bytes, t'.walk true links here way = .ok (.node q (.file bytes)) := by
  induction enters with
  | here directory => exact .inl (.here (refiled.directory.mpr directory))
  | dot directory _ ih =>
    have directory := refiled.directory.mpr directory
    rw [FileTree.walk]
    simpa [directory] using ih.imp (.dot directory) id
  | up directory _ ih =>
    have directory := refiled.directory.mpr directory
    rw [FileTree.walk]
    simpa [directory] using ih.imp (.up directory) id
  | down directory proper below _ ih =>
    have directory := refiled.directory.mpr directory
    have below := refiled.directory.mpr below
    rw [FileTree.walk]
    simpa [directory, proper.1, proper.2, below] using ih.imp (.down directory proper below) id
  | @follow _ _ here _ way name target directory proper link _ ih =>
    have directory := refiled.directory.mpr directory
    rcases refiled.of_link link with link | ⟨bytes, file⟩
    · rw [FileTree.walk]
      simpa [directory, proper.1, proper.2, link] using ih.imp (.follow directory proper link) id
    · -- the link was replaced: what is behind it cannot be reached any more
      right
      rw [FileTree.walk]
      simp only [directory, proper.1, proper.2, file, if_false]
      cases way with
      | nil => exact .inr ⟨_, _, by rw [FileTree.walk, file]⟩
      | cons => exact .inl (by rw [FileTree.walk, file])

end RefDoc.FileTree
