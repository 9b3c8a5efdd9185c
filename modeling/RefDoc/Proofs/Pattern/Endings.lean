import RefDoc.Proofs.Pattern.Names

/-!
# How a text ends that a pattern matches to its end

Where a pattern ends with a character of a set, and the text with the pattern, the text ends with
such a character (`Pattern.getLast?_of_occursIn`). A letter of which one row of the table gives
variants stands for itself and one other (`Text.OnlyRow.of_contains`).
-/

namespace RefDoc

theorem after_getElem?_spots {before : Option Char} {text : List Char} {i : Nat} {s : Spot}
    (there : (spots before text)[i]? = some s) : s.after = text[i]? := by
  induction text generalizing before i with
  | nil =>
    cases i with
    | zero =>
      cases there
      rfl
    | succ => simp [spots] at there
  | cons c text ih =>
    cases i with
    | zero =>
      cases there
      rfl
    | succ => exact ih there

namespace Marks

theorem getElem?_filter {m : Marks} {ss : List Spot} {p : Spot → Bool} {i : Nat}
    (marked : (m.filter ss p)[i]? = some true) :
    ∃ s, ss[i]? = some s ∧ m[i]? = some true ∧ p s := by
  rw [filter, List.getElem?_zipWith_eq_some] at marked
  obtain ⟨b, s, mark, there, both⟩ := marked
  obtain ⟨rfl, holds⟩ := Bool.and_eq_true_iff.mp both
  exact ⟨s, there, mark, holds⟩

/-- Some mark is set at the end of the text. -/
def Ends (m : Marks) (ss : List Spot) : Prop := (m.filter ss Assertion.textEnd.holds).any id

theorem ends_iff {m : Marks} {ss : List Spot} :
    m.Ends ss ↔ ∃ (i : Nat) (s : Spot), m[i]? = some true ∧ ss[i]? = some s ∧ s.after = none := by
  constructor
  · intro ends
    obtain ⟨b, member, set⟩ := List.any_eq_true.mp ends
    obtain ⟨i, marked⟩ := List.mem_iff_getElem?.mp member
    obtain rfl : b = true := set
    obtain ⟨s, there, mark, atEnd⟩ := getElem?_filter marked
    exact ⟨i, s, mark, there, Option.isNone_iff_eq_none.mp atEnd⟩
  · rintro ⟨i, s, mark, there, atEnd⟩
    refine List.any_eq_true.mpr ⟨true, List.mem_of_getElem? (i := i) ?_, rfl⟩
    rw [filter, List.getElem?_zipWith_eq_some]
    exact ⟨true, s, mark, there, by simp [Assertion.holds, atEnd]⟩

theorem Ends.of_union {m n : Marks} {ss : List Spot} (ends : (m.union n).Ends ss) :
    m.Ends ss ∨ n.Ends ss := by
  obtain ⟨i, s, mark, there, atEnd⟩ := ends_iff.mp ends
  rw [union, List.getElem?_zipWith_eq_some] at mark
  obtain ⟨a, b, left, right, both⟩ := mark
  rcases Bool.or_eq_true_iff.mp both with rfl | rfl
  · exact .inl (ends_iff.mpr ⟨i, s, left, there, atEnd⟩)
  · exact .inr (ends_iff.mpr ⟨i, s, right, there, atEnd⟩)

theorem Ends.of_step {m : Marks} {before : Option Char} {text : List Char} {set : CharSet}
    (ends : (m.step (spots before text) set).Ends (spots before text)) :
    ∃ c ∈ text.getLast?, set.contains c := by
  obtain ⟨i, s, mark, there, atEnd⟩ := ends_iff.mp ends
  cases i with
  | zero => cases mark
  | succ i =>
    rw [step, List.getElem?_cons_succ, List.getElem?_dropLast] at mark
    split at mark
    · obtain ⟨s', there', -, holds⟩ := getElem?_filter mark
      obtain ⟨c, next, contained⟩ := (Option.any_eq_true _ _).mp holds
      rw [after_getElem?_spots there] at atEnd
      rw [after_getElem?_spots there'] at next
      refine ⟨c, ?_, contained⟩
      have := List.getElem?_eq_none_iff.mp atEnd
      have := (List.getElem?_eq_some_iff.mp next).1
      rw [Option.mem_def, List.getLast?_eq_getElem?, show text.length - 1 = i by omega]
      exact next
    · cases mark

end Marks

namespace Pattern

/-- What ends at the end of a text ends with a character that satisfies `P`. -/
def EndsWith (q : Pattern) (P : Char → Prop) : Prop :=
  ∀ before text m, (q.after (spots before text) m).Ends (spots before text) →
    ∃ c ∈ text.getLast?, P c

theorem endsWith_char (set : CharSet) : (char set).EndsWith (set.contains ·) :=
  fun _ _ _ => Marks.Ends.of_step

theorem EndsWith.behind {q : Pattern} {P : Char → Prop} (ends : q.EndsWith P) (p : Pattern) :
    (seq p q).EndsWith P := fun _ _ _ => ends _ _ _

theorem EndsWith.alt {p q : Pattern} {P : Char → Prop} (ends : p.EndsWith P)
    (ends' : q.EndsWith P) : (alt p q).EndsWith P := fun _ _ _ either =>
  either.of_union.elim (ends _ _ _) (ends' _ _ _)

theorem EndsWith.imp {q : Pattern} {P Q : Char → Prop} (ends : q.EndsWith P)
    (implies : ∀ c, P c → Q c) : q.EndsWith Q := fun before text m ended => by
  obtain ⟨c, last, holds⟩ := ends before text m ended
  exact ⟨c, last, implies c holds⟩

theorem endsWith_seqs {q : Pattern} {P : Char → Prop} (ends : q.EndsWith P) (ps : List Pattern) :
    (seqs (ps ++ [q])).EndsWith P := by
  induction ps with
  | nil => exact ends
  | cons p ps ih =>
    cases ps with
    | nil => exact ih.behind p
    | cons => exact ih.behind p

theorem endsWith_anyCase {s : String} {front : List Char} {c : Char}
    (split : s.toList = front ++ [c]) :
    (anyCase s).EndsWith fun x => (CharSet.foldCase (.single c)).contains x := by
  rw [anyCase, split, List.map_append]
  exact endsWith_seqs (endsWith_char _) _

theorem getLast?_of_occursIn {q : Pattern} {P : Char → Prop} (ends : q.EndsWith P)
    (ps : List Pattern) {text : List Char}
    (occurs : (seqs (ps ++ [q, assertion .textEnd])).occursIn text) : ∃ c ∈ text.getLast?, P c := by
  have closes (m : Marks) :
      ((seqs (ps ++ [q, assertion .textEnd])).after (spots none text) m).any id →
        ∃ c ∈ text.getLast?, P c := by
    clear occurs
    induction ps generalizing m with
    | nil => exact ends none text m
    | cons p ps ih =>
      cases ps with
      | nil => exact ih _
      | cons => exact ih _
  exact closes _ occurs

end Pattern

/-! ### Letters -/

namespace Text

variable {c d : Char} {row : Nat × Nat × Nat × Nat}

/-- No other row gives variants that are the character. -/
def OnlyRow (row : Nat × Nat × Nat × Nat) (d : Char) : Prop :=
  ∀ r ∈ caseRows.toList, r.2.2.2 ≤ d.toNat → d.toNat ≤ r.2.2.2 + (r.2.1 - r.1) → r = row

instance : Decidable (OnlyRow row d) := inferInstanceAs (Decidable (∀ r ∈ _, _))

/-- The character is as far from its one variant as the row says. -/
theorem OnlyRow.of_mem (only : OnlyRow row d) (some : d ≠ Char.ofNat 0)
    (variant : d ∈ caseVariants c) : c.toNat + row.2.2.2 = d.toNat + row.1 := by
  obtain ⟨⟨first, last, step, v⟩, listed, given⟩ := List.mem_filterMap.mp variant
  dsimp only at given
  split at given
  · rename_i inside
    simp only [Bool.and_eq_true, decide_eq_true_eq] at inside
    obtain ⟨⟨lower, upper⟩, -⟩ := inside
    have same : Char.ofNat (c.toNat - first + v) = d := Option.some_inj.mp given
    have valid : (c.toNat - first + v).isValidChar := by
      by_contra invalid
      rw [Char.ofNat, dif_neg invalid] at same
      exact some same.symm
    have code : d.toNat = c.toNat - first + v := by
      rw [← same, Char.ofNat, dif_pos valid]
      rfl
    rw [← only _ listed (by simp only; omega) (by simp only; omega)]
    simp only
    omega
  · cases given

theorem OnlyRow.of_contains (only : OnlyRow row d) (some : d ≠ Char.ofNat 0)
    (contained : (CharSet.foldCase (.single d)).contains c) :
    c.toNat = d.toNat ∨ c.toNat + row.2.2.2 = d.toNat + row.1 := by
  have single {x : Char} (contained : (CharSet.single d).contains x) : x = d := by
    simp only [CharSet.single, CharSet.contains, Bool.and_eq_true, decide_eq_true_eq] at contained
    exact Char.le_antisymm contained.2 contained.1
  rcases Bool.or_eq_true_iff.mp contained with same | folded
  · exact .inl (congrArg _ (single same))
  · obtain ⟨x, variant, same⟩ := List.any_eq_true.mp folded
    obtain rfl := single same
    exact .inr (only.of_mem some variant)

end Text
end RefDoc
