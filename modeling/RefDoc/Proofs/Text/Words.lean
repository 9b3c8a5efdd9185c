import Mathlib.Data.List.DropRight
import RefDoc.Text.Blank

/-!
# Words and trimmed texts

A text has a first word exactly if it has a character that is not blank (`firstWord?_eq_none_iff`);
a word alone is its own first word. A text is read word by word (`wordwise`), and joining words by
blanks keeps them (`words_joinWords`). Trimming leaves alone what neither begins nor ends with a
blank (`trim_eq_self_iff`).
-/

namespace RefDoc.Text

variable {cs before after : List Char}

/-! ### Words -/

/-- There is a character, and none is blank. -/
structure IsWord (cs : List Char) : Prop where
  written : cs ≠ []
  solid : ∀ c ∈ cs, isBlank c = false

theorem solid_of_all (solid : cs.all (!isBlank ·) = true) : ∀ c ∈ cs, isBlank c = false := by
  simpa using solid

theorem wordsFrom_eq_nil_iff (read : List Char) :
    wordsFrom read cs = [] ↔ read = [] ∧ ∀ c ∈ cs, isBlank c := by
  induction cs generalizing read with
  | nil =>
    rw [wordsFrom]
    cases read <;> simp
  | cons c cs ih =>
    rw [wordsFrom]
    cases blank : isBlank c with
    | true => cases read <;> simp [ih, blank]
    | false => simp [ih, blank]

theorem firstWord?_eq_none_iff : firstWord? cs = none ↔ ∀ c ∈ cs, isBlank c := by
  rw [firstWord?, List.head?_eq_none_iff, words, wordsFrom_eq_nil_iff, and_iff_right rfl]

theorem firstWord?_isSome_iff : (firstWord? cs).isSome ↔ ∃ c ∈ cs, isBlank c = false := by
  rw [Option.isSome_iff_ne_none, Ne, firstWord?_eq_none_iff]
  simp

theorem wordsFrom_append (solid : ∀ c ∈ cs, isBlank c = false) (read rest : List Char) :
    wordsFrom read (cs ++ rest) = wordsFrom (cs.reverse ++ read) rest := by
  induction cs generalizing read with
  | nil => rfl
  | cons c cs ih =>
    obtain ⟨head, solid⟩ := List.forall_mem_cons.mp solid
    have step : wordsFrom read (c :: (cs ++ rest)) = wordsFrom (c :: read) (cs ++ rest) := by
      simp [wordsFrom, head]
    rw [List.cons_append, step, ih solid, List.reverse_cons, List.append_assoc,
      List.singleton_append]

theorem words_cons_blank {c : Char} (blank : isBlank c) (cs : List Char) :
    words (c :: cs) = words cs := by
  rw [words, wordsFrom, if_pos blank, List.isEmpty_nil, if_pos rfl, words]

/-- The text does not go on with the word before it. -/
def Parted (cs : List Char) : Prop := ∀ c ∈ cs.head?, isBlank c

theorem parted_nil : Parted [] := nofun

theorem parted_cons {c : Char} : Parted (c :: cs) ↔ isBlank c := by simp [Parted]

theorem IsWord.words_append {word rest : List Char} (is : IsWord word) (parted : Parted rest) :
    words (word ++ rest) = word :: words rest := by
  have written : word.reverse.isEmpty = false := by simpa using is.written
  rw [words, wordsFrom_append is.solid, List.append_nil]
  cases rest with
  | nil => rw [wordsFrom, written, if_neg Bool.false_ne_true, List.reverse_reverse]; rfl
  | cons c rest =>
    have blank := parted_cons.mp parted
    rw [wordsFrom, if_pos blank, written, if_neg Bool.false_ne_true, List.reverse_reverse,
      words_cons_blank blank, words]

theorem IsWord.words (word : IsWord cs) : words cs = [cs] := by
  have alone := word.words_append parted_nil
  rwa [List.append_nil] at alone

theorem IsWord.firstWord? (word : IsWord cs) : firstWord? cs = some cs := by
  rw [Text.firstWord?, word.words, List.head?_cons]

theorem isWord_singleton {c : Char} (solid : isBlank c = false) : IsWord [c] :=
  ⟨List.cons_ne_nil c [], List.forall_mem_singleton.mpr solid⟩

theorem IsWord.concat {word : List Char} {c : Char} (is : IsWord word) (solid : isBlank c = false) :
    IsWord (word ++ [c]) :=
  ⟨by simp, List.forall_mem_append.mpr ⟨is.solid, List.forall_mem_singleton.mpr solid⟩⟩

/-- A text is read word by word: blanks are passed over, and a word is read to its end. -/
@[elab_as_elim]
theorem wordwise {motive : List Char → Prop} (nil : motive [])
    (blank : ∀ c cs, isBlank c → motive cs → motive (c :: cs))
    (word : ∀ w cs, IsWord w → Parted cs → motive cs → motive (w ++ cs)) (cs : List Char) :
    motive cs := by
  -- A word that has been begun may have to be read on.
  suffices motive cs ∧ ∀ w, IsWord w → motive (w ++ cs) from this.1
  induction cs with
  | nil => exact ⟨nil, fun w is => word w [] is parted_nil nil⟩
  | cons c cs ih =>
    obtain ⟨here, begun⟩ := ih
    cases solid : isBlank c with
    | true =>
      have here := blank c cs solid here
      exact ⟨here, fun w is => word w (c :: cs) is (parted_cons.mpr solid) here⟩
    | false =>
      refine ⟨begun [c] (isWord_singleton solid), fun w is => ?_⟩
      rw [← List.singleton_append, ← List.append_assoc]
      exact begun (w ++ [c]) (is.concat solid)

theorem isWord_of_mem_words {w : List Char} (member : w ∈ words cs) : IsWord w := by
  induction cs using wordwise with
  | nil => cases member
  | blank c cs blank ih =>
    rw [words_cons_blank blank] at member
    exact ih member
  | word v cs is parted ih =>
    rw [is.words_append parted] at member
    rcases List.mem_cons.mp member with rfl | member
    · exact is
    · exact ih member

theorem words_concat_blank {c : Char} (blank : isBlank c) (cs : List Char) :
    words (cs ++ [c]) = words cs := by
  induction cs using wordwise with
  | nil => exact words_cons_blank blank []
  | blank d cs first ih => rw [List.cons_append, words_cons_blank first, ih, words_cons_blank first]
  | word w cs is parted ih =>
    have parted' : Parted (cs ++ [c]) := by
      cases cs with
      | nil => exact parted_cons.mpr blank
      | cons d cs => exact parted_cons.mpr (parted_cons.mp parted)
    rw [List.append_assoc, is.words_append parted', ih, is.words_append parted]

/-! ### Joining -/

section Joining

variable (sep : Char)

theorem intercalate_singleton (word : List Char) : [sep].intercalate [word] = word := by
  simp [List.intercalate]

theorem intercalate_cons (word next : List Char) (ws : List (List Char)) :
    [sep].intercalate (word :: next :: ws) = word ++ sep :: [sep].intercalate (next :: ws) := by
  simp [List.intercalate]

theorem intercalate_concat {ws : List (List Char)} (written : ws ≠ []) (word : List Char) :
    [sep].intercalate (ws ++ [word]) = [sep].intercalate ws ++ sep :: word := by
  induction ws with
  | nil => exact absurd rfl written
  | cons w ws ih =>
    rcases ws with _ | ⟨next, ws⟩
    · rw [List.cons_append, List.nil_append, intercalate_cons, intercalate_singleton,
        intercalate_singleton]
    · rw [List.cons_append, List.cons_append, intercalate_cons, ← List.cons_append, ih (by simp),
        intercalate_cons, List.append_assoc, List.cons_append]

theorem intercalate_ne_nil {ws : List (List Char)} (written : ∀ w ∈ ws, w ≠ []) (some : ws ≠ []) :
    [sep].intercalate ws ≠ [] := by
  obtain ⟨w, ws, rfl⟩ := List.exists_cons_of_ne_nil some
  have first := written w List.mem_cons_self
  rcases ws with _ | ⟨next, ws⟩
  · rwa [intercalate_singleton]
  · rw [intercalate_cons]
    exact List.append_ne_nil_of_left_ne_nil first _

end Joining

theorem joinWords_singleton (word : List Char) : joinWords [word] = word :=
  intercalate_singleton ' ' word

theorem joinWords_cons (word next : List Char) (ws : List (List Char)) :
    joinWords (word :: next :: ws) = word ++ ' ' :: joinWords (next :: ws) :=
  intercalate_cons ' ' word next ws

theorem joinWords_concat {ws : List (List Char)} (written : ws ≠ []) (word : List Char) :
    joinWords (ws ++ [word]) = joinWords ws ++ ' ' :: word :=
  intercalate_concat ' ' written word

theorem words_joinWords {ws : List (List Char)} (written : ∀ w ∈ ws, IsWord w) :
    words (joinWords ws) = ws := by
  induction ws with
  | nil => rfl
  | cons w ws ih =>
    obtain ⟨first, written⟩ := List.forall_mem_cons.mp written
    rcases ws with _ | ⟨next, ws⟩
    · rw [joinWords_singleton, first.words]
    · rw [joinWords_cons, first.words_append (parted_cons.mpr (by decide)),
        words_cons_blank (by decide), ih written]

theorem words_joinWords_words (cs : List Char) : words (joinWords (words cs)) = words cs :=
  words_joinWords fun _ => isWord_of_mem_words

theorem prefix_joinWords_cons (w : List Char) (ws : List (List Char)) :
    w <+: joinWords (w :: ws) := by
  rcases ws with _ | ⟨next, ws⟩
  · exact ⟨[], (List.append_nil w).trans (joinWords_singleton w).symm⟩
  · rw [joinWords_cons]
    exact List.prefix_append w _

theorem joinWords_cons_prefix {ws ws' : List (List Char)} (written : ∀ v ∈ ws, v ≠ [])
    (shorter : joinWords ws <+: joinWords ws') (w : List Char) :
    joinWords (w :: ws) <+: joinWords (w :: ws') := by
  rcases ws with _ | ⟨next, ws⟩
  · rw [joinWords_singleton]
    exact prefix_joinWords_cons w ws'
  · rcases ws' with _ | ⟨next', ws'⟩
    · exact absurd (List.prefix_nil.mp shorter) (intercalate_ne_nil ' ' written (by simp))
    · rw [joinWords_cons, joinWords_cons]
      exact (List.prefix_append_right_inj w).mpr (List.cons_prefix_cons.mpr ⟨rfl, shorter⟩)

theorem IsWord.prefix_joinWords {word : List Char} (is : IsWord word) (rest : List Char) :
    word <+: joinWords (Text.words (word ++ rest)) := by
  induction rest generalizing word with
  | nil =>
    rw [List.append_nil, is.words]
    exact prefix_joinWords_cons word []
  | cons c rest ih =>
    cases blank : isBlank c with
    | true =>
      rw [is.words_append (parted_cons.mpr blank)]
      exact prefix_joinWords_cons word _
    | false =>
      have longer := ih (is.concat blank)
      rw [List.append_assoc, List.singleton_append] at longer
      exact (List.prefix_append word [c]).trans longer

/-- The words of a longer text go on where those of a shorter one end, if need be within a word. -/
theorem joinWords_words_prefix (shorter : before <+: after) :
    joinWords (words before) <+: joinWords (words after) := by
  obtain ⟨rest, rfl⟩ := shorter
  induction before using wordwise with
  | nil => exact List.nil_prefix
  | blank c before blank ih =>
    rwa [List.cons_append, words_cons_blank blank, words_cons_blank blank]
  | word w before is parted ih =>
    rw [List.append_assoc]
    rcases before with _ | ⟨c, before⟩
    · rw [List.append_nil, is.words, joinWords_singleton]
      exact is.prefix_joinWords rest
    · have parted' : Parted (c :: before ++ rest) := parted_cons.mpr (parted_cons.mp parted)
      rw [is.words_append parted, is.words_append parted']
      exact joinWords_cons_prefix (fun v member => (isWord_of_mem_words member).written) ih w

/-! ### Trimmed texts -/

theorem trimStart_cons {c : Char} (solid : isBlank c = false) (cs : List Char) :
    trimStart (c :: cs) = c :: cs := by
  rw [trimStart, List.dropWhile_cons, solid, if_neg Bool.false_ne_true]

theorem trimStart_eq_self_iff : trimStart cs = cs ↔ ∀ c ∈ cs.head?, isBlank c = false := by
  rw [trimStart, List.dropWhile_eq_self_iff]
  cases cs <;> simp

theorem trimEnd_eq_self_iff : trimEnd cs = cs ↔ ∀ c ∈ cs.getLast?, isBlank c = false := by
  show cs.rdropWhile isBlank = cs ↔ _
  rw [List.rdropWhile_eq_self_iff]
  cases cs using List.reverseRecOn <;> simp

theorem trimEnd_concat (cs : List Char) (c : Char) :
    trimEnd (cs ++ [c]) = if isBlank c then trimEnd cs else cs ++ [c] :=
  List.rdropWhile_concat isBlank cs c

theorem trim_eq_self_iff : trim cs = cs ↔ trimStart cs = cs ∧ trimEnd cs = cs := by
  constructor
  · intro kept
    have back : (trim cs).length ≤ (trimStart cs).length :=
      (List.rdropWhile_prefix isBlank _).length_le
    rw [kept] at back
    have front : trimStart cs <:+ cs := List.dropWhile_suffix _
    have whole : trimStart cs = cs := front.eq_of_length (Nat.le_antisymm front.length_le back)
    rw [trim, whole] at kept
    exact ⟨whole, kept⟩
  · rintro ⟨front, back⟩
    rw [trim, front, back]

theorem trimEnd_append (solid : trimEnd after = after) (written : after ≠ []) (before : List Char) :
    trimEnd (before ++ after) = before ++ after := by
  rw [trimEnd_eq_self_iff] at solid ⊢
  rwa [List.getLast?_append_of_ne_nil _ written]

theorem getLast?_joinWords_words (ended : trimEnd cs = cs) :
    (joinWords (words cs)).getLast? = cs.getLast? := by
  rw [trimEnd_eq_self_iff] at ended
  induction cs using wordwise with
  | nil => rfl
  | blank c cs blank ih =>
    rcases cs with _ | ⟨d, cs⟩
    · exact absurd (ended c rfl) (by simp [blank])
    · rw [List.getLast?_cons_cons] at ended ⊢
      rw [words_cons_blank blank, ih ended]
  | word w cs is parted ih =>
    rw [is.words_append parted]
    rcases cs with _ | ⟨d, cs⟩
    · rw [List.append_nil]
      exact congrArg List.getLast? (joinWords_singleton w)
    · rw [List.getLast?_append_cons] at ended ⊢
      have last := ih ended
      have written : joinWords (words (d :: cs)) ≠ [] := fun empty =>
        List.cons_ne_nil d cs
          (List.getLast?_eq_none_iff.mp (last.symm.trans (List.getLast?_eq_none_iff.mpr empty)))
      obtain ⟨next, ws, back⟩ := List.exists_cons_of_ne_nil (mt (congrArg joinWords) written)
      rw [back] at last written ⊢
      rw [joinWords_cons, List.append_cons, List.getLast?_append_of_ne_nil _ written, last]

theorem IsWord.trim (word : IsWord cs) : trim cs = cs := by
  rw [trim_eq_self_iff, trimStart_eq_self_iff, trimEnd_eq_self_iff]
  exact ⟨fun c head => word.solid c (List.mem_of_mem_head? head),
    fun c last => word.solid c (List.mem_of_mem_getLast? last)⟩

end RefDoc.Text
