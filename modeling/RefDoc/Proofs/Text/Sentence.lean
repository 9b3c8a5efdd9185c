import Mathlib.Data.List.Chain
import RefDoc.Proofs.Text.Words
import RefDoc.Text.Sentence

/-!
# What the first sentence is

A dot closes a sentence if a blank or the end of the text follows it (`ClosesAt`). What is read
through the first such dot is the longest beginning of the text that runs past none
(`isLead_throughStop`, `IsLead.prefix_throughStop`). It has no dot with a blank behind it
(`IsLead.unbroken`); spacing its words evenly brings none in (`Unbroken.joinWords`); and a text
without one is read as a whole (`Unbroken.throughStop`). So the first sentence is its own first
sentence.
-/

namespace RefDoc.Text

variable {cs read : List Char} {c : Char} {n : Nat}

/-! ### Closing dots -/

/-- There is a dot at `n`, and a blank or the end of the text follows. -/
def ClosesAt (cs : List Char) (n : Nat) : Prop := cs[n]? = some '.' ∧ ∀ c ∈ cs[n + 1]?, isBlank c

/-- The text begins with what is read, and that does not run past a closing dot. -/
structure IsLead (read cs : List Char) : Prop where
  begins : read <+: cs
  within : ∀ n, ClosesAt cs n → read.length ≤ n + 1

/-- No dot has a blank behind it. -/
def Unbroken (cs : List Char) : Prop := cs.IsChain fun c d => c = '.' → isBlank d = false

theorem closesAt_zero : ClosesAt (c :: cs) 0 ↔ c = '.' ∧ Parted cs := by
  simp [ClosesAt, Parted, List.head?_eq_getElem?]

theorem not_closesAt_blank (blank : isBlank c) : ¬ ClosesAt (c :: cs) 0 := by
  rintro ⟨dot, -⟩
  rw [Option.some.inj dot] at blank
  exact absurd blank (by decide)

theorem closesAt_succ : ClosesAt (c :: cs) (n + 1) ↔ ClosesAt cs n := .rfl

theorem not_closesAt_nil : ¬ ClosesAt [] n := nofun

/-- What does not run past a closing dot has none before its end. -/
theorem IsLead.unbroken (lead : IsLead read cs) : Unbroken read := by
  rw [Unbroken, List.isChain_iff_getElem]
  intro n inside dot
  by_contra blank
  have stands := List.prefix_iff_getElem?.mp lead.begins
  have closes : ClosesAt cs n := by
    rw [ClosesAt, stands n (by omega), stands (n + 1) inside, dot]
    exact ⟨rfl, fun c next => by simpa [← Option.some.inj next] using blank⟩
  have := lead.within n closes
  omega

theorem Unbroken.isLead (unbroken : Unbroken cs) : IsLead cs cs where
  begins := List.prefix_refl cs
  within n closes := by
    by_contra inside
    obtain ⟨dot, blank⟩ := closes
    have solid := List.isChain_iff_getElem.mp unbroken n (by omega)
    rw [List.getElem?_eq_getElem (by omega)] at dot blank
    exact absurd (blank _ rfl) (by simp [solid (Option.some.inj dot)])

/-! ### Reading through a closing dot -/

theorem throughStop_cons_stop (closes : ClosesAt (c :: cs) 0) : throughStop (c :: cs) = [c] := by
  obtain ⟨rfl, parted⟩ := closesAt_zero.mp closes
  rw [throughStop, if_pos]
  cases cs with
  | nil => rfl
  | cons d cs => simpa using parted_cons.mp parted

theorem throughStop_cons_onward (goes : ¬ ClosesAt (c :: cs) 0) :
    throughStop (c :: cs) = c :: throughStop cs := by
  rw [throughStop, if_neg]
  intro stop
  obtain ⟨dot, parted⟩ := Bool.and_eq_true_iff.mp stop
  refine goes (closesAt_zero.mpr ⟨of_decide_eq_true dot, ?_⟩)
  simpa [Parted, Option.all_eq_true] using parted

theorem isLead_throughStop (cs : List Char) : IsLead (throughStop cs) cs := by
  induction cs with
  | nil => exact ⟨List.prefix_refl [], fun n closes => absurd closes not_closesAt_nil⟩
  | cons c cs ih =>
    by_cases closes : ClosesAt (c :: cs) 0
    · rw [throughStop_cons_stop closes]
      exact ⟨⟨cs, rfl⟩, fun n _ => Nat.succ_le_succ n.zero_le⟩
    · rw [throughStop_cons_onward closes]
      refine ⟨List.cons_prefix_cons.mpr ⟨rfl, ih.begins⟩, fun n later => ?_⟩
      cases n with
      | zero => exact absurd later closes
      | succ n => exact Nat.succ_le_succ (ih.within n (closesAt_succ.mp later))

theorem throughStop_cut (cs : List Char) :
    throughStop cs = cs ∨ ∃ n, ClosesAt cs n ∧ throughStop cs = cs.take (n + 1) := by
  induction cs with
  | nil => exact .inl rfl
  | cons c cs ih =>
    by_cases closes : ClosesAt (c :: cs) 0
    · exact .inr ⟨0, closes, throughStop_cons_stop closes⟩
    · rw [throughStop_cons_onward closes]
      rcases ih with whole | ⟨n, later, cut⟩
      · exact .inl (congrArg (c :: ·) whole)
      · exact .inr ⟨n + 1, later, congrArg (c :: ·) cut⟩

/-- Nothing longer runs past no closing dot. -/
theorem IsLead.prefix_throughStop (lead : IsLead read cs) : read <+: throughStop cs := by
  rcases throughStop_cut cs with whole | ⟨n, closes, cut⟩
  · rw [whole]
    exact lead.begins
  · rw [cut]
    refine List.prefix_of_prefix_length_le lead.begins (List.take_prefix (n + 1) cs) ?_
    rw [List.length_take]
    exact Nat.le_min.mpr ⟨lead.within n closes, lead.begins.length_le⟩

theorem Unbroken.throughStop (unbroken : Unbroken cs) : throughStop cs = cs :=
  (isLead_throughStop cs).begins.eq_of_length_le unbroken.isLead.prefix_throughStop.length_le

theorem getLast?_throughStop (cs : List Char) :
    throughStop cs = cs ∨ (throughStop cs).getLast? = some '.' := by
  rcases throughStop_cut cs with whole | ⟨n, ⟨dot, -⟩, cut⟩
  · exact .inl whole
  · refine .inr ?_
    rw [cut, List.getLast?_take, if_neg n.succ_ne_zero, Nat.add_sub_cancel, dot, Option.some_or]

/-! ### Blanks at the ends -/

/-- A blank at the end is read if no dot closes the text before it. -/
theorem throughStop_concat_blank (blank : isBlank c) (cs : List Char) :
    throughStop (cs ++ [c]) = throughStop cs ∨
      throughStop (cs ++ [c]) = throughStop cs ++ [c] := by
  induction cs with
  | nil => exact .inr (throughStop_cons_onward (not_closesAt_blank blank))
  | cons d cs ih =>
    have same : ClosesAt (d :: (cs ++ [c])) 0 ↔ ClosesAt (d :: cs) 0 := by
      rw [closesAt_zero, closesAt_zero]
      cases cs <;> simp [Parted, blank]
    rw [List.cons_append]
    by_cases closes : ClosesAt (d :: cs) 0
    · rw [throughStop_cons_stop closes, throughStop_cons_stop (same.mpr closes)]
      exact .inl rfl
    · rw [throughStop_cons_onward closes, throughStop_cons_onward (mt same.mp closes)]
      exact ih.imp (congrArg (d :: ·)) (congrArg (d :: ·))

theorem words_throughStop_trimEnd (cs : List Char) :
    words (throughStop (trimEnd cs)) = words (throughStop cs) := by
  induction cs using List.reverseRecOn with
  | nil => rfl
  | append_singleton cs c ih =>
    rw [trimEnd_concat]
    split
    · rename_i blank
      rw [ih]
      rcases throughStop_concat_blank blank cs with same | more
      · rw [same]
      · rw [more, words_concat_blank blank]
    · rfl

theorem words_throughStop_trimStart (cs : List Char) :
    words (throughStop (trimStart cs)) = words (throughStop cs) := by
  induction cs with
  | nil => rfl
  | cons c cs ih =>
    cases blank : isBlank c with
    | true =>
      have start : trimStart (c :: cs) = trimStart cs := by
        rw [trimStart, List.dropWhile_cons, if_pos blank, trimStart]
      rw [start, ih, throughStop_cons_onward (not_closesAt_blank blank), words_cons_blank blank]
    | false => rw [trimStart_cons blank]

theorem firstSentence_eq (cs : List Char) :
    firstSentence cs = joinWords (words (throughStop cs)) := by
  rw [firstSentence, trim, words_throughStop_trimEnd, words_throughStop_trimStart]

/-! ### Spacing words evenly -/

/-- A word with another behind it does not end with a dot, since it had a blank behind it before. -/
theorem Unbroken.joinWords (unbroken : Unbroken cs) : Unbroken (joinWords (words cs)) := by
  induction cs using wordwise with
  | nil => exact .nil
  | blank c cs blank ih =>
    rw [words_cons_blank blank]
    exact ih unbroken.tail
  | word w cs is parted ih =>
    obtain ⟨first, others, between⟩ := List.isChain_append.mp unbroken
    rw [is.words_append parted]
    rcases back : words cs with _ | ⟨next, ws⟩
    · rwa [joinWords_singleton]
    · have others := ih others
      rw [back] at others
      rw [joinWords_cons]
      refine List.isChain_append.mpr ⟨first, others.cons fun _ _ dot => absurd dot (by decide), ?_⟩
      rintro c last d head rfl
      obtain ⟨e, cs, rfl⟩ := List.exists_cons_of_ne_nil (l := cs) (by rintro rfl; cases back)
      have solid := between '.' last e rfl rfl
      rw [parted_cons.mp parted] at solid
      cases solid

theorem getLast?_firstSentence (ends : (throughStop cs).getLast? = some '.') :
    (firstSentence cs).getLast? = some '.' := by
  rw [firstSentence_eq, getLast?_joinWords_words, ends]
  rw [trimEnd_eq_self_iff, ends]
  rintro c ⟨⟩
  decide

theorem words_firstSentence (cs : List Char) :
    words (firstSentence cs) = words (throughStop cs) := by
  rw [firstSentence_eq, words_joinWords_words]

theorem unbroken_firstSentence (cs : List Char) : Unbroken (firstSentence cs) := by
  rw [firstSentence_eq]
  exact (isLead_throughStop cs).unbroken.joinWords

/-- What is evenly spaced and has no dot before a blank is shown as it is. -/
theorem firstSentence_eq_self (unbroken : Unbroken cs) (even : joinWords (words cs) = cs) :
    firstSentence cs = cs := by
  rw [firstSentence_eq, unbroken.throughStop, even]

theorem firstSentence_idem (cs : List Char) :
    firstSentence (firstSentence cs) = firstSentence cs :=
  firstSentence_eq_self (unbroken_firstSentence cs)
    (by rw [words_firstSentence, firstSentence_eq])

/-- **The first sentence is the longest beginning that runs past no closing dot, evenly spaced.** No
dot in it has a blank behind it; it ends with a dot or has all the words; and it is its own first
sentence. -/
theorem firstSentence_longest (cs : List Char) :
    let shown := firstSentence cs
    (∃ read, IsLead read cs ∧ shown = joinWords (words read) ∧ words shown = words read ∧
      ∀ other, IsLead other cs → other <+: read ∧ joinWords (words other) <+: shown) ∧
    Unbroken shown ∧
    (shown.getLast? = some '.' ∨ words shown = words cs) ∧
    firstSentence shown = shown := by
  intro shown
  refine ⟨⟨throughStop cs, isLead_throughStop cs, firstSentence_eq cs, words_firstSentence cs,
    fun other lead => ⟨lead.prefix_throughStop, ?_⟩⟩, unbroken_firstSentence cs, ?_,
    firstSentence_idem cs⟩
  · rw [show shown = _ from firstSentence_eq cs]
    exact joinWords_words_prefix lead.prefix_throughStop
  · rcases getLast?_throughStop cs with whole | ends
    · refine .inr ?_
      rw [words_firstSentence, whole]
    · exact .inl (getLast?_firstSentence ends)

/-- A dot inside a word closes nothing, and lines are put on one. -/
example : firstSentence "Version 1.2\n of the api. More.".toList =
    "Version 1.2 of the api.".toList := by decide

end RefDoc.Text
