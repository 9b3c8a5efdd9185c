import Mathlib.Algebra.GroupWithZero.Nat
import RefDoc.Pattern.Size
import RefDoc.Proofs.Pattern.Names

/-!
# Alternatives

Alternatives occur in a text where one of them does (`Pattern.occursIn_alts`). They are as large as
they are together, and a little more for each but one (`Pattern.weight_alts`).
-/

namespace RefDoc.Pattern

theorem any_union {m n : Marks} (marked : m.length = n.length) :
    (m.union n).any id = (m.any id || n.any id) := by
  induction m generalizing n with
  | nil =>
    obtain rfl : n = [] := List.eq_nil_of_length_eq_zero marked.symm
    rfl
  | cons b m ih =>
    obtain ⟨c, n, rfl⟩ := List.exists_cons_of_length_eq_add_one marked.symm
    have others := ih (by simpa using marked)
    rw [Marks.union, List.zipWith_cons_cons, List.any_cons, List.any_cons, List.any_cons]
    rw [Marks.union] at others
    rw [others]
    cases b <;> cases c <;> simp

theorem occursIn_alt (p q : Pattern) (text : List Char) :
    (alt p q).occursIn text = (p.occursIn text || q.occursIn text) := by
  let ss := spots none text
  have marked : (ss.map fun _ => true).length = ss.length := List.length_map _
  have some : ss ≠ [] := List.ne_nil_of_length_pos (by simp [ss, length_spots])
  exact any_union ((length_after p some marked).trans (length_after q some marked).symm)

/-- Of alternatives one has to occur. -/
theorem occursIn_alts {ps : List Pattern} (given : ps ≠ []) (text : List Char) :
    (alts ps).occursIn text ↔ ∃ p ∈ ps, p.occursIn text := by
  induction ps with
  | nil => exact absurd rfl given
  | cons p ps ih =>
    cases ps with
    | nil => simp [alts]
    | cons q ps =>
      rw [alts, occursIn_alt, Bool.or_eq_true, ih (by simp)]
      · simp
      · simp

theorem weight_alts {ps : List Pattern} (given : ps ≠ []) :
    (alts ps).weight + 32 = (ps.map fun p => p.weight + 32).sum := by
  induction ps with
  | nil => exact absurd rfl given
  | cons p ps ih =>
    cases ps with
    | nil => simp [alts]
    | cons q ps =>
      have others := ih (by simp)
      rw [alts, weight, List.map_cons, List.sum_cons, ← others]
      · omega
      · simp

end RefDoc.Pattern
