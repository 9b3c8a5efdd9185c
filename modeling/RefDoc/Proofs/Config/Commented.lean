import RefDoc.Proofs.Config.Blanking
import RefDoc.Proofs.Json.Tokens

/-!
# Texts with comments

A JSON text with comments is put together from code, strings and comments (`Commented`). Blanking it
leaves code and strings as they are and blanks each comment, whatever stands before and behind it
(`blankFrom_chars`); to a reader of tokens the comments are then gaps, so that it finds the tokens of
the text without them, unless a comment parts a word.
-/

namespace RefDoc.Config

open Json

/-- A piece of a text with comments. -/
inductive Piece where
  | code (text : List Char) (bare : ∀ c ∈ text, c ≠ '"' ∧ c ≠ '/')
  | string (parts : List StringPart)
  /-- A comment that ends with its line. -/
  | line (text : List Char) (unbroken : '\n' ∉ text)
  | block (text : List Char) (unclosed : ¬ ['*', '/'] <:+: text)

namespace Piece

def chars : Piece → List Char
  | code text _ => text
  | string parts => stringChars parts
  | line text _ => '/' :: '/' :: (text ++ ['\n'])
  | block text _ => '/' :: '*' :: (text ++ ['*', '/'])

def isComment : Piece → Bool
  | code .. | string .. => false
  | line .. | block .. => true

/-- The piece with every character but newlines blanked if it is a comment. -/
def blanked (p : Piece) : List Char := if p.isComment then p.chars.map blank else p.chars

/-- The piece unless it is a comment. -/
def bare (p : Piece) : List Char := if p.isComment then [] else p.chars

variable {p : Piece}

theorem blanked_of_comment (comment : p.isComment = true) : p.blanked = p.chars.map blank :=
  if_pos comment

theorem bare_of_comment (comment : p.isComment = true) : p.bare = [] := if_pos comment

theorem blanked_eq_bare (text : p.isComment = false) : p.blanked = p.bare := by
  simp [blanked, bare, text]

theorem chars_ne_nil (comment : p.isComment = true) : p.chars ≠ [] := by
  cases p with
  | code | string => cases comment
  | line | block => exact List.cons_ne_nil _ _

end Piece

/-- Every comment stands between tokens of the text without comments: it has the tokens of what stands
before and of what stands behind. -/
def BetweenTokens (ps : List Piece) : Prop :=
  ∀ front comment back, ps = front ++ comment :: back → comment.isComment →
    tokens (ps.flatMap Piece.bare) =
      tokens (front.flatMap Piece.bare) ++ tokens (back.flatMap Piece.bare)

theorem betweenTokens_iff {ps : List Piece} :
    BetweenTokens ps ↔ ∀ i (bound : i < ps.length), ps[i].isComment →
      tokens (ps.flatMap Piece.bare) =
        tokens ((ps.take i).flatMap Piece.bare) ++ tokens ((ps.drop (i + 1)).flatMap Piece.bare) := by
  constructor
  · intro apart i bound
    refine apart (ps.take i) ps[i] (ps.drop (i + 1)) ?_
    rw [List.getElem_cons_drop, List.take_append_drop]
  · rintro apart front comment back rfl
    simpa using apart front.length (by simp)

instance (ps : List Piece) : Decidable (BetweenTokens ps) := decidable_of_iff _ betweenTokens_iff.symm

/-- A text with comments. It may end in a line comment that no newline ends. -/
structure Commented where
  pieces : List Piece
  ending : Option { text : List Char // '\n' ∉ text } := none

namespace Commented

def endingChars (t : Commented) : List Char :=
  match t.ending with
  | none => []
  | some text => '/' :: '/' :: text.1

def chars (t : Commented) : List Char := t.pieces.flatMap Piece.chars ++ t.endingChars

def blanked (t : Commented) : List Char :=
  t.pieces.flatMap Piece.blanked ++ t.endingChars.map blank

/-- The text without its comments. -/
def bare (t : Commented) : List Char := t.pieces.flatMap Piece.bare

end Commented

/-! ### Blanking piece by piece -/

theorem blankFrom_bare {text : List Char} (bare : ∀ c ∈ text, c ≠ '"' ∧ c ≠ '/')
    (rest : List Char) : blankFrom .code (text ++ rest) = text ++ blankFrom .code rest := by
  induction text with
  | nil => rfl
  | cons c text ih =>
    obtain ⟨⟨quote, slash⟩, bare⟩ := List.forall_mem_cons.mp bare
    rw [List.cons_append, blankFrom_code_plain quote slash, ih bare, List.cons_append]

theorem blankFrom_stringPart (part : StringPart) (rest : List Char) :
    blankFrom .string (part.chars ++ rest) = part.chars ++ blankFrom .string rest := by
  cases part with
  | plain c quote backslash => simp [StringPart.chars, blankFrom, quote, backslash]
  | escaped c => simp [StringPart.chars, blankFrom]

theorem blankFrom_stringParts (parts : List StringPart) (rest : List Char) :
    blankFrom .string (parts.flatMap StringPart.chars ++ '"' :: rest) =
      parts.flatMap StringPart.chars ++ '"' :: blankFrom .code rest := by
  induction parts with
  | nil => simp [blankFrom]
  | cons part parts ih =>
    rw [List.flatMap_cons, List.append_assoc, blankFrom_stringPart, ih, List.append_assoc]

theorem blankFrom_line {text : List Char} (unbroken : '\n' ∉ text) (rest : List Char) :
    blankFrom .line (text ++ rest) = text.map blank ++ blankFrom .line rest := by
  induction text with
  | nil => rfl
  | cons c text ih =>
    rw [List.mem_cons, not_or] at unbroken
    obtain ⟨printed, unbroken⟩ := unbroken
    rw [List.cons_append, blankFrom, if_neg (Ne.symm printed), ih unbroken, List.map_cons,
      blank_eq_space (Ne.symm printed), List.cons_append]

/-- A block comment ends with the first star and slash. -/
theorem blankFrom_block {text : List Char} (unclosed : ¬ ['*', '/'] <:+: text) (rest : List Char) :
    blankFrom .block (text ++ '*' :: '/' :: rest) =
      text.map blank ++ ' ' :: ' ' :: blankFrom .code rest := by
  induction text with
  | nil => simp [blankFrom]
  | cons c text ih =>
    have later : ¬ ['*', '/'] <:+: text := fun within => unclosed (List.infix_cons within)
    have step : blankFrom .block (c :: (text ++ '*' :: '/' :: rest)) =
        blank c :: blankFrom .block (text ++ '*' :: '/' :: rest) := by
      rw [blankFrom]
      · rfl
      · rintro more rfl closes
        cases text with
        | nil => cases closes
        | cons d text =>
          cases closes
          exact unclosed ⟨[], text, rfl⟩
    rw [List.cons_append, step, ih later, List.map_cons, List.cons_append]

theorem blankFrom_chars (p : Piece) (rest : List Char) :
    blankFrom .code (p.chars ++ rest) = p.blanked ++ blankFrom .code rest := by
  cases p with
  | code text bare => exact blankFrom_bare bare rest
  | string parts =>
    show blankFrom .code ('"' :: (parts.flatMap StringPart.chars ++ ['"'] ++ rest)) = _
    rw [blankFrom_code_cons (by simp [Opens]), if_pos rfl, List.append_assoc]
    refine congrArg ('"' :: ·) ((blankFrom_stringParts parts rest).trans ?_)
    simp
  | line text unbroken =>
    show blankFrom .code ('/' :: '/' :: (text ++ ['\n'] ++ rest)) =
      ('/' :: '/' :: (text ++ ['\n'])).map blank ++ _
    rw [blankFrom, List.append_assoc, blankFrom_line unbroken, List.singleton_append, blankFrom,
      if_pos rfl]
    simp [blank]
  | block text unclosed =>
    show blankFrom .code ('/' :: '*' :: (text ++ ['*', '/'] ++ rest)) =
      ('/' :: '*' :: (text ++ ['*', '/'])).map blank ++ _
    rw [blankFrom, List.append_assoc]
    refine congrArg (' ' :: ' ' :: ·) ((blankFrom_block unclosed rest).trans ?_)
    simp [blank]

theorem blankFrom_pieces (ps : List Piece) (rest : List Char) :
    blankFrom .code (ps.flatMap Piece.chars ++ rest) =
      ps.flatMap Piece.blanked ++ blankFrom .code rest := by
  induction ps with
  | nil => rfl
  | cons p ps ih =>
    rw [List.flatMap_cons, List.append_assoc, blankFrom_chars, ih, List.flatMap_cons,
      List.append_assoc]

namespace Commented

theorem blankFrom_endingChars (t : Commented) :
    blankFrom .code t.endingChars = t.endingChars.map blank := by
  unfold endingChars
  split
  · rfl
  · rename_i text _
    have ended := blankFrom_line text.2 []
    rw [List.append_nil] at ended
    rw [blankFrom, ended]
    simp [blank, blankFrom]

theorem blankComments_chars (t : Commented) :
    blankComments (String.ofList t.chars) = String.ofList t.blanked := by
  unfold blankComments
  rw [String.toList_ofList, chars, blankFrom_pieces, blankFrom_endingChars]
  rfl

end Commented

/-! ### Tokens between comments -/

theorem isSpace_blank (c : Char) : Cursor.isSpace (blank c) = true := by
  rcases blank_eq_or c with h | h <;> rw [h] <;> decide

theorem gap_map_blank (text : List Char) : Gap (text.map blank) := by
  intro c member
  obtain ⟨before, -, rfl⟩ := List.mem_map.mp member
  exact isSpace_blank before

theorem outside_bare (ps : List Piece) {l : Lexer} (outside : l.Outside) :
    (l.read (ps.flatMap Piece.bare)).Outside := by
  induction ps generalizing l with
  | nil => exact outside
  | cons p ps ih =>
    rw [List.flatMap_cons, Lexer.read_append]
    refine ih ?_
    cases p with
    | code text bare => exact Lexer.outside_read outside fun c member => (bare c member).1
    | string parts =>
      show (l.read (stringChars parts)).Outside
      rw [Lexer.read_stringChars outside]
      exact .inl rfl
    | line | block => exact outside

/-- No word goes on from what stands before a comment to what stands behind it. -/
theorem betweenTokens_iff_parted {ps : List Piece} :
    BetweenTokens ps ↔ ∀ front comment back, ps = front ++ comment :: back → comment.isComment →
      Parted (front.flatMap Piece.bare) (back.flatMap Piece.bare) := by
  refine forall₃_congr fun front comment back => forall_congr' fun split => forall_congr' fun is => ?_
  rw [split, List.flatMap_append, List.flatMap_cons, Piece.bare_of_comment is, List.nil_append]
  exact tokens_append_iff (outside_bare front (.inl rfl))

theorem BetweenTokens.of_append {front rest : List Piece} (h : BetweenTokens (front ++ rest)) :
    BetweenTokens rest := by
  rw [betweenTokens_iff_parted] at h ⊢
  rintro before comment back rfl is a last b first
  refine h (front ++ before) comment back (List.append_assoc ..).symm is a ?_ b first
  rw [List.flatMap_append]
  exact List.mem_getLast?_append_of_mem_getLast? last

/-- The comments of `rest` may be blanked. The first of them separates tokens, so that the text behind
it may be looked at alone. -/
theorem tokens_blanked {front rest : List Piece} (apart : BetweenTokens (front ++ rest))
    {gap : List Char} (spaces : Gap gap) :
    tokens (front.flatMap Piece.bare ++ (rest.flatMap Piece.blanked ++ gap)) =
      tokens ((front ++ rest).flatMap Piece.bare) := by
  have outside : (Lexer.read {} (front.flatMap Piece.bare)).Outside :=
    outside_bare front (.inl rfl)
  induction rest generalizing front with
  | nil =>
    rcases eq_or_ne gap [] with rfl | given
    · simp
    · have alone : tokens (front.flatMap Piece.bare ++ (gap ++ [])) =
          tokens (front.flatMap Piece.bare) ++ tokens [] := tokens_gap outside spaces given
      simpa using alone
  | cons p rest ih =>
    have moved : BetweenTokens (front ++ [p] ++ rest) := by rwa [List.append_assoc]
    cases comment : p.isComment with
    | true =>
      have behind : tokens (rest.flatMap Piece.blanked ++ gap) = tokens (rest.flatMap Piece.bare) :=
        ih (show BetweenTokens ([] ++ rest) from moved.of_append) (.inl rfl)
      have blanked : p.blanked = p.chars.map blank := Piece.blanked_of_comment comment
      have given : p.chars.map blank ≠ [] := by simpa using Piece.chars_ne_nil comment
      rw [apart front p rest rfl comment, List.flatMap_cons, List.append_assoc, blanked,
        tokens_gap outside (gap_map_blank p.chars) given, behind]
    | false =>
      have later := ih moved (outside_bare _ (.inl rfl))
      rw [List.flatMap_append, List.flatMap_singleton, List.append_assoc front,
        List.append_assoc] at later
      rw [List.flatMap_cons, Piece.blanked_eq_bare comment, List.append_assoc]
      exact later

/-- **Comments are blanked, and nothing else.** Whatever pieces a text is put together from, its code
and its strings are left as they are, and the characters of its comments become spaces, except for
newlines. If the comments stand between the tokens of the text without them, then what is left has the
same tokens. -/
theorem comments_blanked (t : Commented) :
    blankComments (String.ofList t.chars) = String.ofList t.blanked ∧
      (BetweenTokens t.pieces →
        tokens (blankComments (String.ofList t.chars)).toList = tokens t.bare) := by
  refine ⟨t.blankComments_chars, fun apart => ?_⟩
  rw [t.blankComments_chars, String.toList_ofList]
  exact @tokens_blanked [] t.pieces apart _ (gap_map_blank t.endingChars)

/-- A list of a number and of a string that looks like a comment, with comments around that look like
strings and like other comments. -/
def remarks : Commented where
  pieces := [.code "[1".toList (by simp), .block "/ \"*".toList (by decide),
    .code ",".toList (by simp), .line " \"x".toList (by decide),
    .string [.plain '/' (by decide) (by decide), .escaped '"', .plain '/' (by decide) (by decide),
      .plain '/' (by decide) (by decide)],
    .block "\n".toList (by decide), .code "]".toList (by simp)]
  ending := some ⟨"/* end".toList, by decide⟩

theorem comments_blanked_remarks :
    BetweenTokens remarks.pieces ∧
      String.ofList remarks.chars = "[1/*/ \"**/,// \"x\n\"/\\\"//\"/*\n*/]///* end" ∧
      blankComments (String.ofList remarks.chars) =
        "[1        ,     \n\"/\\\"//\"  \n  ]        " ∧
      tokens (blankComments (String.ofList remarks.chars)).toList =
        ["[", "1", ",", "\"/\\\"//\"", "]"].map String.toList := by
  have apart : BetweenTokens remarks.pieces := by decide
  have blanked := comments_blanked remarks
  refine ⟨apart, by decide, ?_, ?_⟩
  · rw [blanked.1]
    decide
  · rw [blanked.2 apart]
    decide

end RefDoc.Config
