import Mathlib.Data.List.Forall2
import RefDoc.Config.Comments

/-!
# Blanked comments

Blanking keeps every character in its place: it stays or becomes a space, and newlines are left
alone (`kept_blankFrom`). Where the text was in a comment the blanked text is code, and elsewhere both
are in the same zone, so that there is nothing left to blank (`blankFrom_blanked`).
-/

namespace RefDoc.Config

/-- What blanking may make of a character. -/
def Kept (before after : Char) : Prop :=
  (after = before ∨ after = ' ') ∧ (after = '\n' ↔ before = '\n')

theorem kept_refl (c : Char) : Kept c c := ⟨.inl rfl, .rfl⟩

theorem kept_space {c : Char} (printed : c ≠ '\n') : Kept c ' ' :=
  ⟨.inr rfl, ⟨fun h => absurd h (by decide), fun h => absurd h printed⟩⟩

/-- What becomes of a character of a comment. -/
def blank (c : Char) : Char := if c = '\n' then c else ' '

theorem blank_eq_space {c : Char} (printed : c ≠ '\n') : blank c = ' ' := if_neg printed

theorem kept_blank (c : Char) : Kept c (blank c) := by
  unfold blank
  split
  · exact kept_refl c
  · exact kept_space ‹_›

theorem blank_eq_or (c : Char) : blank c = '\n' ∨ blank c = ' ' := by
  unfold blank
  split
  · exact .inl ‹_›
  · exact .inr rfl

theorem blank_ne (c : Char) : blank c ≠ '"' ∧ blank c ≠ '/' := by
  rcases blank_eq_or c with h | h <;> rw [h] <;> decide

theorem kept_blankFrom (zone : Zone) (text : List Char) :
    List.Forall₂ Kept text (blankFrom zone text) := by
  fun_induction blankFrom zone text with
  | case1 => exact .nil
  | case2 rest ih => exact .cons (kept_space (by decide)) (.cons (kept_space (by decide)) ih)
  | case3 rest ih => exact .cons (kept_space (by decide)) (.cons (kept_space (by decide)) ih)
  | case4 c rest _ _ ih => exact .cons (kept_refl c) ih
  | case5 c rest ih => exact .cons (kept_refl c) ih
  | case6 c rest ih => exact .cons (kept_refl c) ih
  | case7 rest ih => exact .cons (kept_refl _) ih
  | case8 c rest printed ih => exact .cons (kept_space printed) ih
  | case9 rest ih => exact .cons (kept_space (by decide)) (.cons (kept_space (by decide)) ih)
  | case10 c rest _ ih => exact .cons (kept_blank c) ih

/-- A slash or a star that is left has been there. -/
theorem head?_of_blankFrom {zone : Zone} {text : List Char} {c : Char} (solid : c ≠ ' ')
    (first : (blankFrom zone text).head? = some c) : text.head? = some c := by
  obtain ⟨rest, all⟩ := List.head?_eq_some_iff.mp first
  have kept := kept_blankFrom zone text
  rw [all] at kept
  cases kept with
  | cons same _ =>
    rcases same.1 with rfl | rfl
    · rfl
    · exact absurd rfl solid

/-- A slash in code opens a comment if a slash or a star follows. -/
def Opens (c : Char) (rest : List Char) : Prop :=
  c = '/' ∧ (rest.head? = some '/' ∨ rest.head? = some '*')

theorem blankFrom_code_cons {c : Char} {rest : List Char} (closed : ¬ Opens c rest) :
    blankFrom .code (c :: rest) = c :: blankFrom (if c = '"' then .string else .code) rest := by
  rw [blankFrom]
  · rintro rest rfl rfl
    exact closed ⟨rfl, .inl rfl⟩
  · rintro rest rfl rfl
    exact closed ⟨rfl, .inr rfl⟩

theorem blankFrom_code_plain {c : Char} (quote : c ≠ '"') (slash : c ≠ '/') (rest : List Char) :
    blankFrom .code (c :: rest) = c :: blankFrom .code rest := by
  rw [blankFrom_code_cons fun opens => slash opens.1, if_neg quote]

/-- Two characters that have been blanked are code. -/
theorem blankFrom_code_spaces (rest : List Char) :
    blankFrom .code (' ' :: ' ' :: rest) = ' ' :: ' ' :: blankFrom .code rest := by
  rw [blankFrom_code_plain (by decide) (by decide), blankFrom_code_plain (by decide) (by decide)]

/-- The zone that a place is in once comments are blanked. -/
def Zone.blanked : Zone → Zone
  | .line | .block => .code
  | zone => zone

/-- In a blanked text nothing is left to blank: no slash that was left opens a comment, since what
follows it has been there. -/
theorem blankFrom_blanked (zone : Zone) (text : List Char) :
    blankFrom zone.blanked (blankFrom zone text) = blankFrom zone text := by
  fun_induction blankFrom zone text with
  | case1 zone => cases zone <;> rfl
  | case2 rest ih =>
    simp only [Zone.blanked] at ih ⊢
    rw [blankFrom_code_spaces, ih]
  | case3 rest ih =>
    simp only [Zone.blanked] at ih ⊢
    rw [blankFrom_code_spaces, ih]
  | case4 c rest slash star ih =>
    generalize next : (if c = '"' then Zone.string else Zone.code) = zone at ih
    have settled : zone.blanked = zone := by
      rw [← next]
      split <;> rfl
    have closed : ¬ Opens c (blankFrom zone rest) := by
      rintro ⟨opens, first | first⟩
      · obtain ⟨more, all⟩ := List.head?_eq_some_iff.mp (head?_of_blankFrom (by decide) first)
        exact slash more opens all
      · obtain ⟨more, all⟩ := List.head?_eq_some_iff.mp (head?_of_blankFrom (by decide) first)
        exact star more opens all
    rw [settled] at ih
    simp only [Zone.blanked]
    rw [blankFrom_code_cons closed, next, ih]
  | case5 c rest ih =>
    generalize next :
      (if c = '\\' then Zone.escape else if c = '"' then .code else .string) = zone at ih
    have settled : zone.blanked = zone := by
      rw [← next]
      split
      · rfl
      · split <;> rfl
    rw [settled] at ih
    simp only [Zone.blanked]
    rw [blankFrom, next, ih]
  | case6 c rest ih =>
    simp only [Zone.blanked] at ih ⊢
    rw [blankFrom, ih]
  | case7 rest ih =>
    simp only [Zone.blanked] at ih ⊢
    rw [blankFrom_code_plain (by decide) (by decide), ih]
  | case8 c rest printed ih =>
    simp only [Zone.blanked] at ih ⊢
    rw [blankFrom_code_plain (by decide) (by decide), ih]
  | case9 rest ih =>
    simp only [Zone.blanked] at ih ⊢
    rw [blankFrom_code_spaces, ih]
  | case10 c rest _ ih =>
    simp only [Zone.blanked] at ih ⊢
    rw [← blank, blankFrom_code_plain (blank_ne c).1 (blank_ne c).2, ih]

/-- **Blanking comments settles a text.** Of any text, well formed or not, each character stays in
its place or becomes a space there, and the newlines are where they were; and there is nothing to
blank in the text that results. -/
theorem blanking_settled (text : String) :
    let blanked := blankComments text
    blanked.length = text.length ∧
      List.Forall₂ (fun before after =>
        (after = before ∨ after = ' ') ∧ (after = '\n' ↔ before = '\n'))
        text.toList blanked.toList ∧
      blankComments blanked = blanked := by
  intro blanked
  have chars : blanked.toList = blankFrom .code text.toList := String.toList_ofList
  have kept := kept_blankFrom .code text.toList
  rw [← chars] at kept
  refine ⟨?_, kept, ?_⟩
  · rw [← String.length_toList, ← String.length_toList, kept.length_eq]
  · rw [← String.toList_inj]
    show (String.ofList (blankFrom .code blanked.toList)).toList = _
    rw [String.toList_ofList, chars]
    exact blankFrom_blanked .code text.toList

end RefDoc.Config
