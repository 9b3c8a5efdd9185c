import RefDoc.Proofs.Hierarchy.Index

/-!
# What becomes of borrows

Borrowing clears the declarations of the doclets it finds and then adds the copies. A copy has the
declarations that its source had before they were cleared, so that declarations are left over
exactly if something that borrows is itself borrowed (`no_borrow_left_iff`).
-/

namespace RefDoc

theorem Borrow.borrowed_copy (b : Borrow) (borrower : String) (source : Doclet) :
    (b.copy borrower source).borrowed = source.borrowed := rfl

namespace Collection

theorem doclets_resolveBorrows (c : Collection) :
    c.resolveBorrows.1.doclets =
      c.doclets.map (fun d => { d with borrowed := [] }) ++ c.borrowedCopies :=
  doclets_pushAll _ _

theorem mem_borrowedCopies {c : Collection} {d : Doclet} :
    d ∈ c.borrowedCopies ↔
      ∃ borrower ∈ c.doclets, ∃ b ∈ borrower.borrowed, ∃ source,
        (c.byLongname b.source).head? = some source ∧ d = b.copy borrower.longname source := by
  simp only [borrowedCopies, borrows, borrowedCopy?, List.mem_filterMap, List.mem_flatMap,
    List.mem_map, Option.map_eq_some_iff]
  constructor
  · rintro ⟨_, ⟨borrower, hd, b, hb, rfl⟩, source, found, rfl⟩
    exact ⟨borrower, hd, b, hb, source, found, rfl⟩
  · rintro ⟨borrower, hd, b, hb, source, found, rfl⟩
    exact ⟨_, ⟨borrower, hd, b, hb, rfl⟩, source, found, rfl⟩

/-- No declaration is left exactly if no source of a borrow has any. -/
theorem all_settled_iff {c : Collection} (h : c.Exact) :
    (∀ d ∈ c.resolveBorrows.1.doclets, d.borrowed = []) ↔
      ∀ d ∈ c.doclets, ∀ b ∈ d.borrowed, ∀ source, c.first? b.source = some source →
        source.borrowed = [] := by
  constructor
  · intro settled d hd b hb source found
    rw [← h.head?_byLongname] at found
    rw [← b.borrowed_copy d.longname source]
    refine settled _ ?_
    rw [doclets_resolveBorrows]
    exact List.mem_append_right _ (mem_borrowedCopies.2 ⟨d, hd, b, hb, source, found, rfl⟩)
  · intro sources d hd
    rw [doclets_resolveBorrows] at hd
    rcases List.mem_append.1 hd with old | new
    · obtain ⟨_, -, rfl⟩ := List.mem_map.1 old
      rfl
    · obtain ⟨borrower, he, b, hb, source, found, rfl⟩ := mem_borrowedCopies.1 new
      rw [h.head?_byLongname] at found
      exact sources borrower he b hb source found

theorem size_resolveBorrows_eq_iff {c : Collection} (h : c.Exact) :
    c.resolveBorrows.1.size = c.size ↔
      ∀ d ∈ c.doclets, ∀ b ∈ d.borrowed, ∀ e ∈ c.doclets, e.longname ≠ b.source := by
  have size : c.resolveBorrows.1.size = c.size + c.borrowedCopies.length := by
    simp [Collection.size, doclets_resolveBorrows]
  have absent : ∀ longname, c.first? longname = none ↔ ∀ e ∈ c.doclets, e.longname ≠ longname := by
    simp [first?]
  rw [size, Nat.add_eq_left, List.length_eq_zero_iff, List.eq_nil_iff_forall_not_mem]
  constructor
  · intro none d hd b hb
    rw [← absent]
    cases found : c.first? b.source with
    | none => rfl
    | some source =>
      rw [← h.head?_byLongname] at found
      exact absurd (mem_borrowedCopies.2 ⟨d, hd, b, hb, source, found, rfl⟩) (none _)
  · intro sourceless d hd
    obtain ⟨borrower, he, b, hb, source, found, -⟩ := mem_borrowedCopies.1 hd
    rw [h.head?_byLongname, (absent b.source).2 (sourceless borrower he b hb)] at found
    cases found

/-- **When the passes leave no borrow.** That is so exactly if nothing that a borrow finds has
borrows of its own; and resolving borrows once more adds nothing exactly if whatever is left names
no doclet. -/
theorem no_borrow_left_iff (c : Collection) :
    ((∀ d ∈ c.processed.doclets, d.borrowed = []) ↔
      ∀ d ∈ c.augmented.doclets, ∀ b ∈ d.borrowed, ∀ source,
        c.augmented.first? b.source = some source → source.borrowed = []) ∧
    (c.processed.resolveBorrows.1.size = c.processed.size ↔
      ∀ d ∈ c.processed.doclets, ∀ b ∈ d.borrowed, ∀ e ∈ c.processed.doclets,
        e.longname ≠ b.source) :=
  ⟨all_settled_iff (exact_augmented c), size_resolveBorrows_eq_iff (exact_processed c)⟩

/-- `a` borrows `b`, which borrows `c`. -/
def borrowChain : Collection :=
  ofList [{ Doclet.named "a" .classType with borrowed := [⟨"b", "x"⟩] },
    { Doclet.named "b" .classType with borrowed := [⟨"c", "y"⟩] }, Doclet.named "c" .function]

/-- The copy of `b` still borrows `c`, and resolving borrows once more makes it a member. -/
theorem borrow_left_in_chain :
    ¬ (∀ d ∈ borrowChain.processed.doclets, d.borrowed = []) ∧
      borrowChain.processed.resolveBorrows.1.size = borrowChain.processed.size + 1 := by
  have augmented : borrowChain.augmented = borrowChain := by
    show borrowChain.reindex.addMixedIn.1.addInherited.1.addImplemented.reindex = borrowChain
    rw [addInherited_of_none (by decide)]
    rfl
  have left : borrowChain.processed.doclets.map (·.borrowed) =
      [[], [], [], [⟨"c", "y"⟩], []] := by
    unfold processed
    rw [augmented]
    rfl
  refine ⟨fun settled => ?_, ?_⟩
  · have cleared : [⟨"c", "y"⟩] ∈ borrowChain.processed.doclets.map (·.borrowed) := by
      rw [left]
      simp
    obtain ⟨d, hd, eq⟩ := List.mem_map.1 cleared
    rw [settled d hd] at eq
    cases eq
  · unfold processed
    rw [augmented]
    rfl

end Collection

end RefDoc
