import RefDoc.Text.CaseVariants
import RefDoc.Text.Word

/-!
# What character tables say

A search in a set of ranges finds nothing that no range holds, and a search in a table of steps
finds the last step that is not behind the character. A slash is no part of a word and has no case.
-/

namespace RefDoc.Text

namespace Ranges

variable {t : Ranges} {n lo hi : Nat}

theorem search_eq_false (free : ∀ r ∈ t, ¬ (r.1 ≤ n ∧ n ≤ r.2)) : t.search n lo hi = false := by
  fun_induction search t n lo hi with
  | case1 => rfl
  | case2 lo hi _ mid first last found before ih => exact ih
  | case3 lo hi _ mid first last found _ behind ih => exact ih
  | case4 lo hi _ mid first last found before behind =>
    have := free _ (Array.mem_of_getElem? found)
    simp only at this
    omega
  | case5 => rfl

theorem contains_eq_false {c : Char} (free : ∀ r ∈ t.toList, ¬ (r.1 ≤ c.toNat ∧ c.toNat ≤ r.2)) :
    t.contains c = false :=
  search_eq_false fun r member => free r (Array.mem_toList_iff.mpr member)

end Ranges

namespace Steps

variable {α : Type} {t : Steps α} {n : Nat} {early late : List (Nat × α)} {start : Nat} {value : α}

/-- The last step that is not behind the character counts. -/
theorem at?_eq {c : Char} (split : t.toList = early ++ (start, value) :: late)
    (reached : ∀ e ∈ early, e.1 ≤ c.toNat) (starts : start ≤ c.toNat)
    (behind : ∀ e ∈ late, c.toNat < e.1) : t.at? c = some value := by
  have around {i : Nat} {e : Nat × α} (found : t[i]? = some e) :
      (i < early.length ∧ e.1 ≤ c.toNat) ∨ (i = early.length ∧ e = (start, value)) ∨
        (early.length < i ∧ c.toNat < e.1) := by
    rw [← Array.getElem?_toList, split] at found
    rcases Nat.lt_trichotomy i early.length with sooner | rfl | later
    · rw [List.getElem?_append_left sooner] at found
      exact .inl ⟨sooner, reached _ (List.mem_of_getElem? found)⟩
    · simp at found
      exact .inr (.inl ⟨rfl, found.symm⟩)
    · obtain ⟨k, rfl⟩ := Nat.exists_eq_add_of_lt later
      rw [List.getElem?_append_right (by omega),
        show early.length + k + 1 - early.length = k + 1 by omega, List.getElem?_cons_succ] at found
      exact .inr (.inr ⟨later, behind _ (List.mem_of_getElem? found)⟩)
  have size : early.length < t.size := by
    rw [← Array.length_toList, split]
    simp
  have search (lo hi : Nat) (found : Option α) (bound : hi ≤ t.size)
      (near : (lo ≤ early.length ∧ early.length < hi) ∨
        (lo = early.length + 1 ∧ found = some value)) :
      t.search c.toNat lo hi found = some value := by
    fun_induction search t c.toNat lo hi found with
    | case1 lo hi _ between mid outside =>
      rw [Array.getElem?_eq_none_iff] at outside
      omega
    | case2 lo hi _ between mid first value' at_mid before ih =>
      have := around at_mid
      simp only at this
      exact ih (by omega) (by grind)
    | case3 lo hi found between mid first value' at_mid passed ih =>
      have := around at_mid
      simp only at this
      exact ih bound (by grind)
    | case4 lo hi found empty =>
      rcases near with near | ⟨-, passed⟩
      · omega
      · exact passed
  exact search 0 t.size none (Nat.le_refl _) (.inl ⟨Nat.zero_le _, size⟩)

end Steps

/-! ### The slash -/

/-- The tables behind the first. -/
def laterSteps : List (Steps Category) :=
  [categorySteps2, categorySteps3, categorySteps4, categorySteps5, categorySteps6, categorySteps7,
    categorySteps8, categorySteps9, categorySteps10, categorySteps11]

theorem toList_categorySteps : categorySteps.toList =
    categorySteps1.toList ++ laterSteps.flatMap Array.toList := by
  simp only [categorySteps, laterSteps, Array.toList_append, List.append_assoc, List.flatMap_cons,
    List.flatMap_nil, List.append_nil]

theorem category_slash : category '/' = .po := by
  have first : categorySteps1.toList =
      categorySteps1.toList.take 11 ++ (0x2E, .po) :: categorySteps1.toList.drop 12 := by
    decide +kernel
  have split : categorySteps.toList = categorySteps1.toList.take 11 ++
      (0x2E, .po) :: (categorySteps1.toList.drop 12 ++ laterSteps.flatMap Array.toList) := by
    refine toList_categorySteps.trans ((congrArg (· ++ _) first).trans ?_)
    simp only [List.append_assoc, List.cons_append]
  have near : ∀ e ∈ categorySteps1.toList.drop 12, '/'.toNat < e.1 := by decide +kernel
  have far : ∀ table ∈ laterSteps, ∀ e ∈ table.toList, '/'.toNat < e.1 := by decide +kernel
  have early : ∀ e ∈ categorySteps1.toList.take 11, e.1 ≤ '/'.toNat := by decide +kernel
  have found := Steps.at?_eq split early (by decide) (List.forall_mem_append.mpr
    ⟨near, List.forall_mem_flatMap.mpr far⟩)
  rw [category, found]
  rfl

/-- Punctuation is no part of a word, but for the joiners. -/
theorem isWord_of_punctuation {c : Char} (punctuation : category c = .po)
    (other : otherAlphabetic.contains c = false) (joiner : c ≠ '\u200c' ∧ c ≠ '\u200d') :
    isWord c = false := by
  simp [isWord, isAlphabetic, isLetter, punctuation, other, joiner]

theorem isWord_slash : isWord '/' = false := by
  have free : ∀ r ∈ otherAlphabetic.toList, ¬ (r.1 ≤ '/'.toNat ∧ '/'.toNat ≤ r.2) := by
    decide +kernel
  exact isWord_of_punctuation category_slash (Ranges.contains_eq_false free) (by decide)

theorem caseVariants_slash : caseVariants '/' = [] := by decide +kernel

end RefDoc.Text
