import RefDoc.Proofs.Path

/-!
# What paths in a directory lead to

A path in a directory leads to a name in the directory that its way enters (`Leads`); what it finds
is what stands there (`Leads.locate`). The path with another last name leads to that name in the
same directory (`leads_withFileName`).
-/

namespace RefDoc.FileTree

variable {t t' : FileTree} {p : Path} {dir : Place} {name : String} {last : Bool}

/-- The path leads to `name` in the directory `dir`, whether there is something or not. -/
def Leads (t : FileTree) (p : Path) (dir : Place) (name : String) : Prop :=
  p.text.isEmpty = false ∧ ∃ way links, steps p = way ++ [name] ∧
    t.Enters linkLimit (t.origin p) way links dir

theorem Leads.directory (leads : t.Leads p dir name) : t.at? dir = some .directory := by
  obtain ⟨-, way, links, -, enters⟩ := leads
  exact enters.directory

theorem Leads.locate (leads : t.Leads p dir name) :
    ∃ links, t.locate last p = t.walk last links dir [name] := by
  obtain ⟨written, way, links, steps_eq, enters⟩ := leads
  refine ⟨links, ?_⟩
  rw [FileTree.locate, if_neg (by simp [written]), steps_eq]
  exact enters.walk_append (by simp)

theorem Leads.locate_free (leads : t.Leads p dir name) (proper : Proper name)
    (free : t.at? (dir ++ [name]) = none) : t.locate last p = .ok (.free (dir ++ [name])) := by
  obtain ⟨links, located⟩ := leads.locate
  rw [located, walk]
  simp [leads.directory, proper.1, proper.2, free]

/-- A link is found if it is not to be followed. -/
theorem Leads.locate_node (leads : t.Leads p dir name) (proper : Proper name) {node : FileNode}
    (there : t.at? (dir ++ [name]) = some node)
    (ends : last = false ∨ ∀ target, node ≠ .link target) :
    t.locate last p = .ok (.node (dir ++ [name]) node) := by
  obtain ⟨links, located⟩ := leads.locate
  rw [located, walk]
  simp only [leads.directory, proper.1, proper.2, if_false, there]
  cases node with
  | directory | file => simp [walk, there]
  | link target =>
    rcases ends with rfl | other
    · simp
    · exact absurd rfl (other target)

/-- Where a path finds something or a free place, it leads to its last name in some directory. -/
theorem leads_of_locate {found : Found} {way : List String} (steps_eq : steps p = way ++ [name])
    (located : t.locate last p = .ok found) : ∃ dir, t.Leads p dir name := by
  unfold locate at located
  split at located
  · cases located
  · rename_i written
    rw [steps_eq] at located
    obtain ⟨links, dir, enters⟩ := enters_of_walk (.inl (by simp)) located
    exact ⟨dir, by simpa using written, way, links, steps_eq, enters⟩

/-! ### Writing and moving -/

/-- A file is written where no link is followed and no directory is in the way. -/
theorem Leads.writeText (leads : t.Leads p dir name) (proper : Proper name)
    (unlinked : ∀ target, t.at? (dir ++ [name]) ≠ some (.link target)) (text : String) :
    t.writeText p text =
      if t.at? (dir ++ [name]) = some .directory then .error .isDirectory
      else .ok (t.put (dir ++ [name]) (.file (Text.encodeUtf8 text))) := by
  unfold FileTree.writeText
  cases stands : t.at? (dir ++ [name]) with
  | none =>
    rw [leads.locate_free proper stands]
    rfl
  | some node =>
    rw [leads.locate_node proper stands (.inr fun target same => unlinked target (same ▸ stands))]
    cases node with
    | file | directory => rfl
    | link target => exact absurd stands (unlinked target)

/-- A file is moved unless a directory is in the way; a link is not followed. -/
theorem rename_of_leads {source target : Path} {name' : String} {node : FileNode}
    (leads : t.Leads source dir name) (leads' : t.Leads target dir name') (proper : Proper name)
    (proper' : Proper name') (there : t.at? (dir ++ [name]) = some node) :
    t.rename source target =
      if t.at? (dir ++ [name']) = some .directory then .error .isDirectory
      else .ok ((t.remove (dir ++ [name])).put (dir ++ [name']) node) := by
  unfold rename
  rw [leads.locate_node proper there (.inl rfl)]
  cases stands : t.at? (dir ++ [name']) with
  | none =>
    rw [leads'.locate_free proper' stands]
    rfl
  | some node' =>
    rw [leads'.locate_node proper' stands (.inl rfl)]
    cases node' <;> rfl

/-! ### Names in one directory -/

/-- Paths in `dir` are paths in the directory at `place`. -/
def Opens (t : FileTree) (dir : Path) (place : Place) : Prop :=
  ∃ links, t.Enters linkLimit (t.origin dir) (through dir) links place

theorem Opens.eq {dir : Path} {place place' : Place} (opens : t.Opens dir place)
    (opens' : t.Opens dir place') : place' = place := by
  obtain ⟨links, enters⟩ := opens
  obtain ⟨links', enters'⟩ := opens'
  exact enters.eq enters'

theorem Opens.directory {dir : Path} {place : Place} (opens : t.Opens dir place) :
    t.at? place = some .directory := by
  obtain ⟨links, enters⟩ := opens
  exact enters.directory

theorem leads_join {dir : Path} {place : Place} (entry : IsEntry name) :
    t.Leads (dir / ⟨name⟩) place name ↔ t.Opens dir place := by
  have start : t.origin (dir / ⟨name⟩) = t.origin dir := by
    rw [origin, Path.isAbsolute_join entry.relative, origin]
  constructor
  · rintro ⟨-, way, links, steps_eq, enters⟩
    rw [Path.steps_join entry] at steps_eq
    obtain ⟨rfl, -⟩ := List.append_inj' steps_eq rfl
    exact ⟨links, start ▸ enters⟩
  · rintro ⟨links, enters⟩
    exact ⟨Path.isEmpty_join entry, _, links, Path.steps_join entry, start ▸ enters⟩

/-- A file in a directory is found by its name. -/
theorem Opens.node_file {dir : Path} {place : Place} {bytes : Text.Bytes} (opens : t.Opens dir place)
    (entry : IsEntry name) (there : t.at? (place ++ [name]) = some (.file bytes)) :
    t.node (dir / ⟨name⟩) = .ok (place ++ [name], .file bytes) := by
  have unlinked (target : Path) : FileNode.file bytes ≠ .link target := by simp
  rw [node, ((leads_join entry).mpr opens).locate_node entry.proper there (.inr unlinked)]

/-- The same directory is entered for the other name: dots do not matter on a way. -/
theorem leads_withFileName {dir : Path} {place : Place} {other : String} (entry : IsEntry name)
    (entry' : IsEntry other) :
    t.Leads ((dir / ⟨name⟩ : Path).withFileName other) place other ↔ t.Opens dir place := by
  obtain ⟨way, dots, still, through_eq, steps_eq, absolute, written⟩ :=
    Path.steps_withFileName dir entry entry'
  have start : t.origin ((dir / ⟨name⟩ : Path).withFileName other) = t.origin dir := by
    rw [origin, absolute, origin]
  constructor
  · rintro ⟨-, way', links, steps_eq', enters⟩
    rw [steps_eq] at steps_eq'
    obtain ⟨rfl, -⟩ := List.append_inj' steps_eq' rfl
    rw [start] at enters
    refine ⟨links, ?_⟩
    rw [through_eq]
    exact enters.append (enters_dots enters.directory still)
  · rintro ⟨links, enters⟩
    rw [through_eq] at enters
    obtain ⟨links', place', enters'⟩ := enters_of_walk (.inr ⟨place, rfl⟩) enters.walk
    obtain rfl := enters.eq (enters'.append (enters_dots enters'.directory still))
    rw [← start] at enters'
    exact ⟨written, way, links', steps_eq, enters'⟩

theorem opens_of_locate {dir : Path} {other : String} {found : Found} (entry : IsEntry name)
    (entry' : IsEntry other)
    (located : t.locate last ((dir / ⟨name⟩ : Path).withFileName other) = .ok found) :
    ∃ place, t.Opens dir place := by
  obtain ⟨way, dots, -, -, steps_eq, -⟩ := Path.steps_withFileName dir entry entry'
  obtain ⟨place, leads⟩ := leads_of_locate steps_eq located
  exact ⟨place, (leads_withFileName entry entry').mp leads⟩

theorem writeText_of_closed {dir : Path} {other : String} (entry : IsEntry name)
    (entry' : IsEntry other) (closed : ∀ place, ¬ t.Opens dir place) (text : String) :
    ∃ e, t.writeText ((dir / ⟨name⟩ : Path).withFileName other) text = .error e := by
  unfold FileTree.writeText
  cases located : t.locate true ((dir / ⟨name⟩ : Path).withFileName other) with
  | error e => exact ⟨e, rfl⟩
  | ok found =>
    obtain ⟨place, opens⟩ := opens_of_locate entry entry' located
    exact absurd opens (closed place)

end RefDoc.FileTree
