import RefDoc.Proofs.FileTree.Ways

/-!
# Trees of one shape

Two trees are `Alike` when they have files, directories and links in the same places, and what
their files hold is related. Paths lead to the same places in both (`Alike.walk`), and what is
written or moved in both leaves them alike (`Alike.writeText`, `Alike.rename`).
-/

namespace RefDoc

/-- Both give the same error, or results that are related. -/
inductive Agree {ε α β : Type} (R : α → β → Prop) : Except ε α → Except ε β → Prop where
  | ok {a : α} {b : β} (related : R a b) : Agree R (.ok a) (.ok b)
  | error {e : ε} : Agree R (.error e) (.error e)

namespace FileTree

variable {R : Text.Bytes → Text.Bytes → Prop}

/-- What stands at one place in two trees. -/
inductive NodesAlike (R : Text.Bytes → Text.Bytes → Prop) : FileNode → FileNode → Prop where
  | file {bytes bytes' : Text.Bytes} (related : R bytes bytes') :
      NodesAlike R (.file bytes) (.file bytes')
  | directory : NodesAlike R .directory .directory
  | link (target : Path) : NodesAlike R (.link target) (.link target)

structure Alike (R : Text.Bytes → Text.Bytes → Prop) (t t' : FileTree) : Prop where
  home : t.home = t'.home
  places (q : Place) : Option.Rel (NodesAlike R) (t.at? q) (t'.at? q)

/-- A path leads to one place in two trees. -/
inductive FoundAlike (R : Text.Bytes → Text.Bytes → Prop) : Found → Found → Prop where
  | node {node node' : FileNode} (place : Place) (alike : NodesAlike R node node') :
      FoundAlike R (.node place node) (.node place node')
  | free (place : Place) : FoundAlike R (.free place) (.free place)

theorem NodesAlike.refl (related : ∀ bytes, R bytes bytes) (node : FileNode) :
    NodesAlike R node node := by
  cases node with
  | file bytes => exact .file (related bytes)
  | directory => exact .directory
  | link target => exact .link target

/-! ### The root stays a directory -/

theorem at?_put_nil (t : FileTree) (node : FileNode) (q : Place) :
    (t.put [] node).at? q = t.at? q := by
  by_cases top : q = []
  · rw [top, at?_nil, at?_nil]
  · have proper : q.isEmpty = false := by simpa using top
    simp only [at?, put, proper]
    rw [lookup_cons_of_ne node top, lookup_filter_ne, if_neg top]

theorem at?_remove_nil (t : FileTree) (q : Place) : (t.remove []).at? q = t.at? q := by
  by_cases top : q = []
  · rw [top, at?_nil, at?_nil]
  · have proper : q.isEmpty = false := by simpa using top
    simp only [at?, remove, proper]
    rw [lookup_filter_ne, if_neg top]

/-! ### Trees that are alike -/

namespace Alike

variable {t t' : FileTree} {q place : Place} {node node' : FileNode}

theorem refl (related : ∀ bytes, R bytes bytes) (t : FileTree) : Alike R t t where
  home := rfl
  places q := by
    cases t.at? q with
    | none => exact .none
    | some node => exact .some (.refl related node)

section Places

variable (alike : Alike R t t')

include alike

theorem at?_none (free : t.at? q = none) : t'.at? q = none := by
  have same := alike.places q
  rw [free] at same
  generalize t'.at? q = there at same ⊢
  cases same with
  | none => rfl

theorem at?_some (stands : t.at? q = some node) :
    ∃ node', t'.at? q = some node' ∧ NodesAlike R node node' := by
  have same := alike.places q
  rw [stands] at same
  generalize t'.at? q = there at same ⊢
  cases same with
  | some related => exact ⟨_, rfl, related⟩

theorem at?_directory (stands : t.at? q = some .directory) : t'.at? q = some .directory := by
  obtain ⟨node', stands', ⟨⟩⟩ := alike.at?_some stands
  exact stands'

theorem at?_link {target : Path} (stands : t.at? q = some (.link target)) :
    t'.at? q = some (.link target) := by
  obtain ⟨node', stands', ⟨⟩⟩ := alike.at?_some stands
  exact stands'

/-! ### Following paths -/

theorem walk (last : Bool) (links : Nat) (here : Place) (todo : List String) :
    Agree (FoundAlike R) (t.walk last links here todo) (t'.walk last links here todo) := by
  fun_induction FileTree.walk t last links here todo with
  | case1 links here node stands =>
    obtain ⟨node', stands', related⟩ := alike.at?_some stands
    rw [FileTree.walk, stands']
    exact .ok (.node here related)
  | case2 links here free =>
    rw [FileTree.walk, alike.at?_none free]
    exact .error
  | case3 links here name rest free =>
    rw [FileTree.walk, alike.at?_none free]
    exact .error
  | case4 links here name rest bytes stands =>
    obtain ⟨node', stands', ⟨⟩⟩ := alike.at?_some stands
    rw [FileTree.walk, stands']
    exact .error
  | case5 links here name rest target stands =>
    rw [FileTree.walk, alike.at?_link stands]
    exact .error
  | case6 links here rest directory ih =>
    rw [FileTree.walk, alike.at?_directory directory]
    simpa using ih
  | case7 links here rest directory _ ih =>
    rw [FileTree.walk, alike.at?_directory directory]
    simpa using ih
  | case8 links here name rest directory dot up place free ends =>
    have free' : t'.at? (here ++ [name]) = none := alike.at?_none free
    rw [FileTree.walk, alike.at?_directory directory]
    simp only [dot, up, free', ends, if_false, if_true]
    exact .ok (.free _)
  | case9 links here name rest directory dot up place free ends =>
    have free' : t'.at? (here ++ [name]) = none := alike.at?_none free
    rw [FileTree.walk, alike.at?_directory directory]
    simp only [dot, up, free', ends, if_false]
    exact .error
  | case10 links here name rest directory dot up place target link ends =>
    have link' : t'.at? (here ++ [name]) = some (.link target) := alike.at?_link link
    rw [FileTree.walk, alike.at?_directory directory]
    simp only [dot, up, link', ends, if_false, if_true]
    exact .ok (.node _ (.link target))
  | case11 here name rest directory dot up place target link ends =>
    have link' : t'.at? (here ++ [name]) = some (.link target) := alike.at?_link link
    rw [FileTree.walk, alike.at?_directory directory]
    simp only [dot, up, link', ends, if_false]
    exact .error
  | case12 here name rest directory dot up place target link ends links ih =>
    have link' : t'.at? (here ++ [name]) = some (.link target) := alike.at?_link link
    rw [FileTree.walk, alike.at?_directory directory]
    simpa [dot, up, link', ends] using ih
  | case13 links here name rest directory dot up place node other stands ih =>
    obtain ⟨node', stands', related⟩ := alike.at?_some stands
    have stands' : t'.at? (here ++ [name]) = some node' := stands'
    rw [FileTree.walk, alike.at?_directory directory]
    simp only [dot, up, stands', if_false]
    cases related with
    | file _ | directory => exact ih
    | link target => exact absurd rfl (other target)

theorem locate (last : Bool) (p : Path) :
    Agree (FoundAlike R) (t.locate last p) (t'.locate last p) := by
  unfold FileTree.locate
  split
  · exact .error
  · rw [origin, alike.home]
    exact alike.walk last linkLimit (t'.origin p) (steps p)

/-! ### Changing places -/

theorem put (place : Place) (related : NodesAlike R node node') :
    Alike R (t.put place node) (t'.put place node') where
  home := alike.home
  places q := by
    by_cases top : place = []
    · rw [top, at?_put_nil, at?_put_nil]
      exact alike.places q
    · rw [at?_put top, at?_put top]
      split
      · exact .some related
      · exact alike.places q

theorem remove (place : Place) : Alike R (t.remove place) (t'.remove place) where
  home := alike.home
  places q := by
    by_cases top : place = []
    · rw [top, at?_remove_nil, at?_remove_nil]
      exact alike.places q
    · rw [at?_remove top, at?_remove top]
      split
      · exact .none
      · exact alike.places q

theorem writeText (p : Path) {text text' : String}
    (related : R (Text.encodeUtf8 text) (Text.encodeUtf8 text')) :
    Agree (Alike R) (t.writeText p text) (t'.writeText p text') := by
  have written (place : Place) := alike.put place (.file related)
  have same := alike.locate true p
  unfold FileTree.writeText
  generalize t.locate true p = found at same ⊢
  generalize t'.locate true p = found' at same ⊢
  cases same with
  | error => exact .error
  | ok same =>
    cases same with
    | free place => exact .ok (written place)
    | node place same =>
      cases same with
      | file _ => exact .ok (written place)
      | directory | link _ => exact .error

theorem rename (source target : Path) :
    Agree (Alike R) (t.rename source target) (t'.rename source target) := by
  have same := alike.locate false source
  have same' := alike.locate false target
  unfold FileTree.rename
  generalize t.locate false source = first at same ⊢
  generalize t'.locate false source = first' at same ⊢
  generalize t.locate false target = second at same' ⊢
  generalize t'.locate false target = second' at same' ⊢
  cases same with
  | error => exact .error
  | ok same =>
    cases same with
    | free place => exact .error
    | node origin moved =>
      cases same' with
      | error => exact .error
      | ok same' =>
        cases same' with
        | free place => exact .ok ((alike.remove origin).put place moved)
        | node place there =>
          cases there with
          | directory => exact .error
          | file _ | link _ => exact .ok ((alike.remove origin).put place moved)

end Places

end Alike

end FileTree

end RefDoc
