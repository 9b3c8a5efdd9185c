import Mathlib.Data.List.Forall2
import Mathlib.Data.Prod.Lex
import RefDoc.Proofs.Hierarchy.Borrowed

/-!
# What borrowers get

A declaration stands at a place: the position of the doclet that makes it, and its own among those of
the doclet. Places are in order as the doclets are, and within a doclet as its declarations are. Each
declaration whose source is there makes one member, in that order (`Collection.borrows_resolved`),
and the member is the source under another name (`Borrow.Lends`).
-/

namespace RefDoc

namespace Borrow

/-- A name whose first character may say in what scope it is, the scope and the bare name. -/
inductive ScopedName : String → Scope → String → Prop where
  | onInstance (name : String) : ScopedName ("#" ++ name) .onInstance name
  | inner (name : String) : ScopedName ("~" ++ name) .inner name
  | static (name : String) : ScopedName ("." ++ name) .static name
  | bare {name : String} (plain : ∀ c ∈ name.toList.head?, c ∉ ['#', '~', '.']) :
      ScopedName name .static name

theorem scopedName_spec (name : String) :
    ScopedName name (scopedName name).1 (scopedName name).2 := by
  have split (c : Char) (rest : List Char) (text : name.toList = c :: rest) :
      name = String.singleton c ++ String.ofList rest := by
    rw [← String.toList_inj, String.toList_append, String.toList_ofList, text,
      String.toList_singleton, List.singleton_append]
  unfold scopedName
  split
  · rename_i rest text
    nth_rewrite 1 [split '#' rest text]
    exact .onInstance _
  · rename_i rest text
    nth_rewrite 1 [split '~' rest text]
    exact .inner _
  · rename_i rest text
    nth_rewrite 1 [split '.' rest text]
    exact .static _
  · rename_i hash tilde dot
    refine .bare fun c first => ?_
    obtain ⟨rest, text⟩ := List.head?_eq_some_iff.mp first
    rintro listed
    simp only [List.mem_cons, List.not_mem_nil, or_false] at listed
    rcases listed with rfl | rfl | rfl
    · exact hash rest text
    · exact tilde rest text
    · exact dot rest text

/-- The member is what the borrower gets of the source: all of it, under the name and in the scope
that the declaration says. What it borrows itself is left open. -/
structure Lends (b : Borrow) (borrower source member : Doclet) : Prop where
  memberOf : member.memberOf = some borrower.longname
  named : ∃ scope, member.scope = some scope ∧ ScopedName b.asName scope member.name ∧
    member.longname = borrower.longname ++ scope.separator ++ member.name
  same : member =
    { source with
      name := member.name, memberOf := member.memberOf, scope := member.scope
      longname := member.longname, borrowed := member.borrowed }

theorem lends_copy (b : Borrow) (borrower source : Doclet) :
    b.Lends borrower source (b.copy borrower.longname source) where
  memberOf := rfl
  named := ⟨(scopedName b.asName).1, rfl, scopedName_spec b.asName, rfl⟩
  same := rfl

end Borrow

/-- The borrows of a doclet, each with the longname of the borrower. -/
def Doclet.ownBorrows (d : Doclet) : List (String × Borrow) :=
  d.borrowed.map fun b => (d.longname, b)

namespace Collection

/-! ### Declarations and their places -/

/-- The declaration at a place, and who makes it. -/
def declaration? (c : Collection) (place : Nat × Nat) : Option (Doclet × Borrow) := do
  let borrower ← c.get? place.1
  let b ← borrower.borrowed[place.2]?
  return (borrower, b)

/-- Every declaration behind its place and who makes it. -/
def declarations (c : Collection) : List ((Nat × Nat) × Doclet × Borrow) :=
  c.doclets.zipIdx.flatMap fun (d, i) => d.borrowed.zipIdx.map fun (b, j) => ((i, j), d, b)

theorem mem_declarations {c : Collection} {place : Nat × Nat} {made : Doclet × Borrow} :
    (place, made) ∈ c.declarations ↔ c.declaration? place = some made := by
  obtain ⟨i, j⟩ := place
  obtain ⟨borrower, b⟩ := made
  simp only [declarations, declaration?, List.mem_flatMap, List.mem_map, Prod.exists,
    List.mk_mem_zipIdx_iff_getElem?, Prod.mk.injEq, Option.bind_eq_bind, Option.bind_eq_some_iff,
    Option.pure_def, Option.some.injEq, get?]
  constructor
  · rintro ⟨d, i, there, b, j, made, ⟨rfl, rfl⟩, rfl, rfl⟩
    exact ⟨d, there, b, made, rfl, rfl⟩
  · rintro ⟨d, there, b, made, rfl, rfl⟩
    exact ⟨d, i, there, b, j, made, ⟨rfl, rfl⟩, rfl, rfl⟩

theorem pairwise_zipIdx {α : Type} (l : List α) : l.zipIdx.Pairwise fun x y => x.2 < y.2 := by
  have positions : (l.zipIdx.map Prod.snd).Pairwise (· < ·) := by
    rw [List.zipIdx_map_snd]
    exact List.pairwise_lt_range'
  exact List.pairwise_map.mp positions

/-- Declarations are listed in the order of their places. -/
theorem pairwise_declarations (c : Collection) :
    c.declarations.Pairwise fun x y => Prod.Lex (· < ·) (· < ·) x.1 y.1 := by
  rw [declarations, List.pairwise_flatMap]
  constructor
  · rintro ⟨d, i⟩ -
    exact List.pairwise_map.mpr ((pairwise_zipIdx d.borrowed).imp fun before => .right i before)
  · refine (pairwise_zipIdx c.doclets).imp ?_
    rintro ⟨d, i⟩ ⟨e, k⟩ before x first y second
    obtain ⟨⟨b, j⟩, -, rfl⟩ := List.mem_map.mp first
    obtain ⟨⟨b', j'⟩, -, rfl⟩ := List.mem_map.mp second
    exact .left j j' before

theorem borrows_eq (c : Collection) :
    c.borrows = c.declarations.map fun (_, borrower, b) => (borrower.longname, b) := by
  have own (d : Doclet) (i : Nat) : d.ownBorrows =
      (d.borrowed.zipIdx.map fun (b, j) => ((i, j), d, b)).map fun (_, borrower, b) =>
        (borrower.longname, b) := by
    rw [List.map_map]
    show d.ownBorrows = d.borrowed.zipIdx.map ((fun b => (d.longname, b)) ∘ Prod.fst)
    rw [← List.map_map, List.zipIdx_map_fst]
    rfl
  calc c.borrows = (c.doclets.zipIdx.map Prod.fst).flatMap Doclet.ownBorrows := by
        rw [List.zipIdx_map_fst]
        rfl
    _ = c.doclets.zipIdx.flatMap fun (d, _) => d.ownBorrows := List.flatMap_map ..
    _ = c.declarations.map fun (_, borrower, b) => (borrower.longname, b) := by
        rw [declarations, List.map_flatMap]
        exact congrArg (c.doclets.zipIdx.flatMap ·) (funext fun (d, i) => own d i)

/-! ### Members that are lent -/

/-- The member that a declaration makes. -/
def lent? (c : Collection) (made : (Nat × Nat) × Doclet × Borrow) : Option Doclet :=
  c.borrowedCopy? made.2.1.longname made.2.2

theorem borrowedCopies_eq (c : Collection) : c.borrowedCopies = c.declarations.filterMap c.lent? := by
  rw [borrowedCopies, borrows_eq, List.filterMap_map]
  rfl

theorem Exact.lent?_eq {c : Collection} (exact : c.Exact) (place : Nat × Nat) (borrower : Doclet)
    (b : Borrow) :
    c.lent? (place, borrower, b) = (c.first? b.source).map (b.copy borrower.longname) := by
  rw [← exact.head?_byLongname]
  rfl

theorem forall₂_filterMap {α β : Type} (f : α → Option β) (l : List α) :
    List.Forall₂ (fun a b => f a = some b) (l.filter fun a => (f a).isSome) (l.filterMap f) := by
  induction l with
  | nil => exact .nil
  | cons a rest ih =>
    cases given : f a with
    | none => simpa [given] using ih
    | some b => simpa [given] using ih

/-- How a collection with its borrows resolved follows from `c`: what was there stays, and the
declarations at some places have made a member each. -/
structure Resolved (c : Collection) (places : List (Nat × Nat)) (members : List Doclet)
    (c' : Collection) : Prop where
  doclets : c'.doclets = c.doclets.map (fun d => { d with borrowed := [] }) ++ members
  ordered : places.Pairwise (Prod.Lex (· < ·) (· < ·))
  mem_places : ∀ place, place ∈ places ↔
    ∃ borrower b, c.declaration? place = some (borrower, b) ∧ ∃ d ∈ c.doclets, d.longname = b.source
  lent : List.Forall₂ (fun place member => ∃ borrower b source,
    c.declaration? place = some (borrower, b) ∧ c.first? b.source = some source ∧
      b.Lends borrower source member) places members

/-- **Every borrow that has a source makes one member.** The doclets that were there stay, without
their borrows. Behind them stands one member for each declaration whose source is the longname of a
doclet, in the order of the declarations: the first doclet of that longname, under the name and in the
scope that the declaration says. -/
theorem borrows_resolved (c : Collection) (exact : c.Exact) :
    ∃ places members, c.Resolved places members c.resolveBorrows.1 := by
  refine ⟨(c.declarations.filter fun made => (c.lent? made).isSome).map Prod.fst, c.borrowedCopies,
    doclets_resolveBorrows c, ?_, fun place => ?_, ?_⟩
  · exact List.pairwise_map.mpr ((pairwise_declarations c).filter _)
  · simp only [List.mem_map, List.mem_filter, Prod.exists, exists_and_right, exists_eq_right,
      mem_declarations, exact.lent?_eq, Option.isSome_map, first?, List.find?_isSome, beq_iff_eq]
  · rw [borrowedCopies_eq, List.forall₂_map_left_iff]
    have declared : ∀ made ∈ c.declarations.filter fun made => (c.lent? made).isSome,
        c.declaration? made.1 = some made.2 := fun made member =>
      mem_declarations.mp (List.mem_filter.mp member).1
    refine ((List.forall₂_and_left _ _).mpr ⟨declared, forall₂_filterMap c.lent? _⟩).imp ?_
    rintro ⟨place, borrower, b⟩ member ⟨there, made⟩
    rw [exact.lent?_eq] at made
    obtain ⟨source, found, rfl⟩ := Option.map_eq_some_iff.mp made
    exact ⟨borrower, b, source, there, found, b.lends_copy borrower source⟩

/-- A box borrows a lid that there are two of, something that is not there, and itself; a crate
borrows the lid, too. -/
def lidsAndBoxes : Collection :=
  ofList [{ Doclet.named "box" .classType with
      borrowed := [⟨"lid", "#top"⟩, ⟨"bolt", "lock"⟩, ⟨"box", "~inside"⟩] },
    { Doclet.named "lid" .function with description := some "Round." },
    { Doclet.named "lid" .function with description := some "Square." },
    { Doclet.named "crate" .classType with borrowed := [⟨"lid", ".lid"⟩] }]

theorem borrows_resolved_lids :
    lidsAndBoxes.Exact ∧ ∃ places members,
      lidsAndBoxes.Resolved places members lidsAndBoxes.resolveBorrows.1 ∧ places.length = 3 ∧
        members.map (fun d => (d.longname, d.description)) =
          [("box#top", some "Round."), ("box~inside", none), ("crate.lid", some "Round.")] := by
  have exact : lidsAndBoxes.Exact := exact_ofList _
  obtain ⟨places, members, resolved⟩ := borrows_resolved lidsAndBoxes exact
  have added : members.map (fun d => (d.longname, d.description)) =
      [("box#top", some "Round."), ("box~inside", none), ("crate.lid", some "Round.")] := by
    have all := congrArg (List.drop 4) resolved.doclets
    rw [List.drop_left' (by rfl)] at all
    rw [← all]
    rfl
  have three : members.length = 3 := by simpa using congrArg List.length added
  exact ⟨exact, places, members, resolved, resolved.lent.length_eq.trans three, added⟩

end Collection

end RefDoc
