import Mathlib.Data.List.Flatten
import Mathlib.Data.List.Lex
import Mathlib.Data.List.Nodup
import Mathlib.Data.String.Basic
import RefDoc.Proofs.FileTree.Ways

/-!
# Listings of directories

The files below a directory are known by the names that lead down to them. `waysBelow` lists these:
exactly the ways through directories to a file, as deep as asked for and without a skipped name
(`mem_waysBelow`), in the order in which a traversal meets them (`pairwise_waysBelow`), and more of
them the deeper it goes (`waysBelow_sublist`).
-/

namespace RefDoc

/-- The path from a directory on through names. -/
def Path.onward (p : Path) (way : List String) : Path := way.foldl (fun q name => q.join ⟨name⟩) p

namespace FileTree

variable {t t' : FileTree} {place dir : Place} {name : String} {way : List String}
  {skip : String → Bool} {depth : Nat}

/-! ### Entries -/

/-- No place is entered twice. -/
def Unrepeated (t : FileTree) : Prop := (t.entries.map (·.1)).Nodup

instance (t : FileTree) : Decidable t.Unrepeated := inferInstanceAs (Decidable (List.Nodup _))

theorem Unrepeated.remove (once : t.Unrepeated) (place : Place) : (t.remove place).Unrepeated :=
  once.sublist (List.filter_sublist.map _)

theorem Unrepeated.put (once : t.Unrepeated) (place : Place) (node : FileNode) :
    (t.put place node).Unrepeated :=
  List.nodup_cons.mpr ⟨by simp, once.remove place⟩

theorem nameIn?_eq_some : nameIn? dir place = some name ↔ place = dir ++ [name] := by
  unfold nameIn?
  constructor
  · intro named
    split at named
    · rename_i last ends
      split at named
      · rename_i inside
        cases named
        rw [← inside, List.dropLast_append_getLast? _ ends]
      · cases named
    · cases named
  · rintro rfl
    simp

theorem at?_below (t : FileTree) (dir : Place) (name : String) :
    t.at? (dir ++ [name]) = t.entries.lookup (dir ++ [name]) := by
  simp [at?]

theorem mem_names_of_at? {node : FileNode} (there : t.at? (dir ++ [name]) = some node) :
    name ∈ t.names dir := by
  rw [at?_below, List.lookup_eq_some_iff] at there
  obtain ⟨before, after, split, -⟩ := there
  rw [names, List.mem_mergeSort, List.mem_filterMap]
  exact ⟨(dir ++ [name], node), by simp [split], nameIn?_eq_some.mpr rfl⟩

theorem pairwise_names (once : t.Unrepeated) (dir : Place) : (t.names dir).Pairwise (· < ·) := by
  have ascending : (t.names dir).Pairwise (· ≤ ·) := by
    refine (List.pairwise_mergeSort ?_ ?_ _).imp fun before => by simpa using before
    · intro a b c ab bc
      simp only [decide_eq_true_eq] at ab bc ⊢
      exact ab.trans bc
    · intro a b
      simpa using le_total a b
  have distinct : (t.names dir).Nodup := by
    rw [names, (List.mergeSort_perm _ _).nodup_iff, ← Function.comp_def, ← List.filterMap_map]
    refine List.Nodup.filterMap (fun place place' name named named' => ?_) once
    rw [nameIn?_eq_some.mp named, nameIn?_eq_some.mp named']
  exact (ascending.and distinct).imp fun ⟨le, ne⟩ => lt_of_le_of_ne le ne

/-! ### Ways to files -/

/-- The way leads from `place` through directories to a file. -/
structure LeadsToFile (t : FileTree) (place : Place) (way : List String) : Prop where
  directories : ∀ front back, way = front ++ back → front ≠ [] → back ≠ [] →
    t.at? (place ++ front) = some .directory
  file : ∃ bytes, t.at? (place ++ way) = some (.file bytes)

theorem leadsToFile_singleton :
    t.LeadsToFile place [name] ↔ ∃ bytes, t.at? (place ++ [name]) = some (.file bytes) := by
  refine ⟨fun leads => leads.file, fun file => ⟨fun front back split some more => ?_, file⟩⟩
  have := congrArg List.length split
  have := List.length_pos_iff.mpr some
  have := List.length_pos_iff.mpr more
  simp only [List.length_append, List.length_singleton] at *
  omega

theorem leadsToFile_cons (more : way ≠ []) :
    t.LeadsToFile place (name :: way) ↔
      t.at? (place ++ [name]) = some .directory ∧ t.LeadsToFile (place ++ [name]) way := by
  constructor
  · rintro ⟨directories, file⟩
    refine ⟨directories [name] way rfl (by simp) more, fun front back split some further => ?_, ?_⟩
    · simpa using directories (name :: front) back (by simp [split]) (by simp) further
    · simpa using file
  · rintro ⟨first, directories, file⟩
    refine ⟨fun front back split some further => ?_, by simpa using file⟩
    obtain ⟨_, front, rfl⟩ := List.exists_cons_of_ne_nil some
    obtain ⟨rfl, rfl⟩ := List.cons.inj split
    by_cases last : front = []
    · simpa [last] using first
    · simpa using directories front back rfl last further

/-- The ways whose first name is the given one, those below it being `below`. -/
def waysThrough (t : FileTree) (skip : String → Bool) (place : Place)
    (below : List (List String)) (name : String) : List (List String) :=
  if skip name then []
  else
    match t.at? (place ++ [name]) with
    | some (.file _) => [[name]]
    | some .directory => below.map (name :: ·)
    | _ => []

/-- The ways from the directory at a place to the files at most `depth` levels below it. -/
def waysBelow (t : FileTree) (skip : String → Bool) : Nat → Place → List (List String)
  | 0, _ => []
  | depth + 1, place =>
    (t.names place).flatMap fun name =>
      t.waysThrough skip place (waysBelow t skip depth (place ++ [name])) name

theorem filesBelow_eq (p : Path) :
    t.filesBelow skip depth place p = (t.waysBelow skip depth place).map p.onward := by
  induction depth generalizing place p with
  | zero => rfl
  | succ depth ih =>
    rw [filesBelow, waysBelow, List.map_flatMap]
    refine congrArg (List.flatMap · _) (funext fun name => ?_)
    unfold waysThrough
    by_cases skipped : skip name = true
    · simp [skipped]
    · rw [if_neg skipped, if_neg skipped]
      rcases t.at? (place ++ [name]) with _ | bytes | _ | target
      · rfl
      · rfl
      · dsimp only
        rw [ih, List.map_map]
        rfl
      · rfl

theorem mem_waysThrough {below : List (List String)} :
    way ∈ t.waysThrough skip place below name ↔ ∃ rest, way = name :: rest ∧ skip name = false ∧
      ((rest = [] ∧ ∃ bytes, t.at? (place ++ [name]) = some (.file bytes)) ∨
        t.at? (place ++ [name]) = some .directory ∧ rest ∈ below) := by
  unfold waysThrough
  by_cases skipped : skip name = true
  · simp [skipped]
  · rw [if_neg skipped]
    rcases t.at? (place ++ [name]) with _ | bytes | _ | target
    · simp
    · simp [skipped]
    · simp [skipped, and_comm, eq_comm]
    · simp

theorem mem_waysBelow_succ :
    way ∈ t.waysBelow skip (depth + 1) place ↔ ∃ name rest, way = name :: rest ∧
      skip name = false ∧ ((rest = [] ∧ ∃ bytes, t.at? (place ++ [name]) = some (.file bytes)) ∨
        t.at? (place ++ [name]) = some .directory ∧
          rest ∈ t.waysBelow skip depth (place ++ [name])) := by
  simp only [waysBelow, List.mem_flatMap, mem_waysThrough]
  constructor
  · rintro ⟨name, -, found⟩
    exact ⟨name, found⟩
  · rintro ⟨name, rest, same, kept, there⟩
    have named : name ∈ t.names place := by
      rcases there with ⟨-, bytes, file⟩ | ⟨directory, -⟩
      · exact mem_names_of_at? file
      · exact mem_names_of_at? directory
    exact ⟨name, named, rest, same, kept, there⟩

theorem ne_nil_of_mem_waysBelow (member : way ∈ t.waysBelow skip depth place) : way ≠ [] := by
  cases depth with
  | zero => cases member
  | succ depth =>
    obtain ⟨name, rest, rfl, -⟩ := mem_waysBelow_succ.mp member
    simp

/-- The listed ways are those that lead to a file, are not too long and have no skipped name. -/
theorem mem_waysBelow :
    way ∈ t.waysBelow skip depth place ↔ 1 ≤ way.length ∧ way.length ≤ depth ∧
      (∀ name ∈ way, skip name = false) ∧ t.LeadsToFile place way := by
  induction depth generalizing place way with
  | zero =>
    simp only [waysBelow, List.not_mem_nil, false_iff]
    omega
  | succ depth ih =>
    rw [mem_waysBelow_succ]
    constructor
    · rintro ⟨name, rest, rfl, kept, ⟨rfl, file⟩ | ⟨directory, below⟩⟩
      · exact ⟨by simp, by simp, by simpa using kept, leadsToFile_singleton.mpr file⟩
      · have more := ne_nil_of_mem_waysBelow below
        obtain ⟨-, short, others, leads⟩ := ih.mp below
        exact ⟨by simp, by simpa using short, List.forall_mem_cons.mpr ⟨kept, others⟩,
          (leadsToFile_cons more).mpr ⟨directory, leads⟩⟩
    · rintro ⟨some, short, kept, leads⟩
      obtain ⟨name, rest, rfl⟩ := List.exists_cons_of_length_pos some
      obtain ⟨kept, others⟩ := List.forall_mem_cons.mp kept
      refine ⟨name, rest, rfl, kept, ?_⟩
      by_cases last : rest = []
      · subst last
        exact .inl ⟨rfl, leadsToFile_singleton.mp leads⟩
      · obtain ⟨directory, leads⟩ := (leadsToFile_cons last).mp leads
        have some := List.length_pos_iff.mpr last
        exact .inr ⟨directory, ih.mpr ⟨some, by simpa using short, others, leads⟩⟩

/-- A traversal meets the ways in lexicographic order: those through a name before those through a
later one. -/
theorem pairwise_waysBelow (once : t.Unrepeated) :
    (t.waysBelow skip depth place).Pairwise (· < ·) := by
  induction depth generalizing place with
  | zero => exact .nil
  | succ depth ih =>
    rw [waysBelow, List.pairwise_flatMap]
    refine ⟨fun name _ => ?_,
      (pairwise_names once place).imp fun before way member way' member' => ?_⟩
    · unfold waysThrough
      split
      · exact .nil
      · split
        · exact List.pairwise_singleton _ _
        · exact List.pairwise_map.mpr
            (ih.imp fun later => List.cons_lt_cons_iff.mpr (.inr ⟨rfl, later⟩))
        · exact .nil
    · obtain ⟨rest, rfl, -⟩ := mem_waysThrough.mp member
      obtain ⟨rest', rfl, -⟩ := mem_waysThrough.mp member'
      exact List.cons_lt_cons_iff.mpr (.inl before)

/-- Deeper traversals only find more. -/
theorem waysBelow_sublist {deeper : Nat} (deep : depth ≤ deeper) :
    (t.waysBelow skip depth place).Sublist (t.waysBelow skip deeper place) := by
  induction depth generalizing place deeper with
  | zero => exact List.nil_sublist _
  | succ depth ih =>
    obtain ⟨more, rfl⟩ := Nat.exists_eq_add_of_le deep
    rw [Nat.add_right_comm, waysBelow, waysBelow]
    refine List.Sublist.flatMap_right _ fun name _ => ?_
    unfold waysThrough
    split
    · exact .slnil
    · split
      · exact .refl _
      · exact (ih (by omega)).map _
      · exact .slnil

end FileTree
end RefDoc
