import RefDoc.Proofs.Json.Reading

/-!
# Tokens

What a JSON text is made of: strings, brackets, colons and commas, and words, which are all else that
blanks, these marks and quotes leave together (numbers and the names of constants). A gap of blanks
ends a word and is otherwise nothing (`tokens_gap`); where no gap is, two texts have their tokens one
after the other unless a word goes on from the first to the second (`tokens_append_iff`).
-/

namespace RefDoc.Json

/-- Brackets, colons and commas. -/
def isMark (c : Char) : Bool := c ∈ ['[', ']', '\x7b', '\x7d', ':', ',']

/-- What words are written with. -/
def inWord (c : Char) : Bool := !(Cursor.isSpace c || isMark c || c == '"')

/-- The part of a token that has been read. -/
inductive Begun where
  | nothing
  | word (text : List Char)
  | string (text : List Char)
  /-- A string up to a backslash. -/
  | escape (text : List Char)

/-- What has been read of a text. -/
structure Lexer where
  tokens : List (List Char) := []
  begun : Begun := .nothing

namespace Lexer

/-- The end of a token: of a word, or of a string that nothing closes. -/
def close (l : Lexer) : Lexer :=
  match l.begun with
  | .nothing => l
  | .word text | .string text | .escape text => ⟨l.tokens ++ [text], .nothing⟩

/-- Reads the first character of a token, or a blank. -/
def start (l : Lexer) (c : Char) : Lexer :=
  if inWord c then ⟨l.tokens, .word [c]⟩
  else if c = '"' then ⟨l.tokens, .string [c]⟩
  else if isMark c then ⟨l.tokens ++ [[c]], .nothing⟩
  else l

def feed (l : Lexer) (c : Char) : Lexer :=
  match l.begun with
  | .nothing => l.start c
  | .word text => if inWord c then ⟨l.tokens, .word (text ++ [c])⟩ else l.close.start c
  | .escape text => ⟨l.tokens, .string (text ++ [c])⟩
  | .string text =>
    if c = '\\' then ⟨l.tokens, .escape (text ++ [c])⟩
    else if c = '"' then ⟨l.tokens ++ [text ++ [c]], .nothing⟩
    else ⟨l.tokens, .string (text ++ [c])⟩

def read (l : Lexer) (text : List Char) : Lexer := text.foldl feed l

end Lexer

/-- The tokens of a text, each as it is written. -/
def tokens (text : List Char) : List (List Char) := (Lexer.read {} text).close.tokens

@[simp] theorem tokens_nil : tokens [] = [] := rfl

example : tokens "[1, \"a b\\\" ,\" ,true]".toList =
    ["[".toList, "1".toList, ",".toList, "\"a b\\\" ,\"".toList, ",".toList, "true".toList,
      "]".toList] := by
  decide

/-! ### Strings -/

/-- What stands between quotes: a character that neither closes the string nor escapes another one,
or one that is escaped. -/
inductive StringPart where
  | plain (c : Char) (quote : c ≠ '"') (backslash : c ≠ '\\')
  | escaped (c : Char)

def StringPart.chars : StringPart → List Char
  | .plain c _ _ => [c]
  | .escaped c => ['\\', c]

/-- A whole string, as it is written. -/
def stringChars (parts : List StringPart) : List Char :=
  '"' :: (parts.flatMap StringPart.chars ++ ['"'])

/-! ### Reading tokens -/

namespace Lexer

/-- No string has begun. -/
def Outside (l : Lexer) : Prop := l.begun = .nothing ∨ ∃ text, l.begun = .word text

variable {l : Lexer} {c : Char}

theorem read_append (l : Lexer) (front back : List Char) :
    l.read (front ++ back) = (l.read front).read back := List.foldl_append ..

theorem read_cons (l : Lexer) (c : Char) (rest : List Char) :
    l.read (c :: rest) = (l.feed c).read rest := rfl

theorem begun_close (l : Lexer) : l.close.begun = .nothing := by
  unfold close
  split
  · assumption
  · rfl
  · rfl
  · rfl

theorem close_of_nothing (nothing : l.begun = .nothing) : l.close = l := by
  unfold close
  rw [nothing]

theorem close_close (l : Lexer) : l.close.close = l.close := close_of_nothing (begun_close l)

theorem feed_of_not_inWord (outside : l.Outside) (other : inWord c = false) :
    l.feed c = l.close.start c := by
  unfold feed
  rcases outside with nothing | ⟨text, word⟩
  · rw [nothing, close_of_nothing nothing]
  · rw [word]
    exact if_neg (Bool.eq_false_iff.mp other)

theorem feed_close (outside : l.Outside) (other : inWord c = false) :
    l.close.feed c = l.feed c := by
  rw [feed_of_not_inWord (.inl (begun_close l)) other, close_close,
    feed_of_not_inWord outside other]

theorem not_inWord_of_isSpace (blank : Cursor.isSpace c = true) : inWord c = false := by
  simp [inWord, blank]

theorem feed_blank (outside : l.Outside) (blank : Cursor.isSpace c = true) :
    l.feed c = l.close := by
  rw [feed_of_not_inWord outside (not_inWord_of_isSpace blank), start]
  rcases Cursor.isSpace_iff.mp blank with rfl | rfl | rfl | rfl <;> rfl

theorem read_gap (outside : l.Outside) {gap : List Char} (blank : Gap gap) (given : gap ≠ []) :
    l.read gap = l.close := by
  induction gap generalizing l with
  | nil => exact absurd rfl given
  | cons c rest ih =>
    obtain ⟨here, blank⟩ := List.forall_mem_cons.mp blank
    rw [read_cons, feed_blank outside here]
    cases rest with
    | nil => rfl
    | cons => rw [ih (.inl (begun_close l)) blank (List.cons_ne_nil _ _), close_close]

theorem start_inWord (nothing : l.begun = .nothing) :
    (∃ text, (l.start c).begun = .word text) ↔ inWord c = true := by
  unfold start
  split
  · rename_i inside
    exact iff_of_true ⟨_, rfl⟩ inside
  · rename_i outer
    refine iff_of_false (fun ⟨text, begun⟩ => ?_) outer
    split at begun
    · cases begun
    · split at begun
      · cases begun
      · rw [nothing] at begun
        cases begun

/-- Outside of strings one is in a word exactly if the last character is. -/
theorem feed_inWord (outside : (l.feed c).Outside) :
    (∃ text, (l.feed c).begun = .word text) ↔ inWord c = true := by
  cases before : l.begun with
  | nothing =>
    simp only [feed, before]
    exact start_inWord before
  | word text =>
    simp only [feed, before]
    split
    · rename_i inside
      exact iff_of_true ⟨_, rfl⟩ inside
    · exact start_inWord (begun_close l)
  | escape text =>
    simp [Outside, feed, before] at outside
  | string text =>
    have quote : c = '"' := by
      by_contra other
      simp only [Outside, feed, before, if_neg other] at outside
      split at outside <;> simp at outside
    simp [feed, before, quote, inWord]

theorem read_inWord {text : List Char} (outside : (Lexer.read {} text).Outside) :
    (∃ word, (Lexer.read {} text).begun = .word word) ↔ ∃ c ∈ text.getLast?, inWord c = true := by
  rcases List.eq_nil_or_concat' text with rfl | ⟨front, c, rfl⟩
  · simp [read]
  · rw [read_append] at outside ⊢
    exact (feed_inWord outside).trans (by simp)

theorem outside_start (nothing : l.begun = .nothing) (quote : c ≠ '"') : (l.start c).Outside := by
  unfold start
  rw [if_neg quote]
  split
  · exact .inr ⟨_, rfl⟩
  · split
    · exact .inl rfl
    · exact .inl nothing

theorem outside_feed (outside : l.Outside) (quote : c ≠ '"') : (l.feed c).Outside := by
  unfold feed
  rcases outside with nothing | ⟨text, word⟩
  · rw [nothing]
    exact outside_start nothing quote
  · rw [word]
    dsimp only
    split
    · exact .inr ⟨_, rfl⟩
    · exact outside_start (begun_close l) quote

theorem outside_read (outside : l.Outside) {text : List Char} (bare : ∀ c ∈ text, c ≠ '"') :
    (l.read text).Outside := by
  induction text generalizing l with
  | nil => exact outside
  | cons c rest ih =>
    obtain ⟨quote, bare⟩ := List.forall_mem_cons.mp bare
    exact ih (outside_feed outside quote) bare

theorem read_stringPart (ts : List (List Char)) (text : List Char) (part : StringPart) :
    Lexer.read ⟨ts, .string text⟩ part.chars = ⟨ts, .string (text ++ part.chars)⟩ := by
  cases part with
  | plain c quote backslash => simp [read, feed, StringPart.chars, quote, backslash]
  | escaped c => simp [read, feed, StringPart.chars]

theorem read_stringParts (ts : List (List Char)) (text : List Char) (parts : List StringPart) :
    Lexer.read ⟨ts, .string text⟩ (parts.flatMap StringPart.chars) =
      ⟨ts, .string (text ++ parts.flatMap StringPart.chars)⟩ := by
  induction parts generalizing text with
  | nil => simp [read]
  | cons part rest ih =>
    rw [List.flatMap_cons, read_append, read_stringPart, ih, List.append_assoc]

theorem read_stringChars (outside : l.Outside) (parts : List StringPart) :
    l.read (stringChars parts) = ⟨l.close.tokens ++ [stringChars parts], .nothing⟩ := by
  have opened : l.feed '"' = ⟨l.close.tokens, .string ['"']⟩ :=
    feed_of_not_inWord outside (by decide)
  rw [stringChars, read_cons, opened, read_append, read_stringParts]
  rfl

/-! ### What was read before

Tokens that were read before have no part in what is read next. -/

/-- The lexer with other tokens in front. -/
def behind (l : Lexer) (ts : List (List Char)) : Lexer := ⟨ts ++ l.tokens, l.begun⟩

theorem close_behind (l : Lexer) (ts : List (List Char)) : (l.behind ts).close = l.close.behind ts := by
  obtain ⟨tokens, begun⟩ := l
  cases begun <;> simp [close, behind]

theorem start_behind (l : Lexer) (ts : List (List Char)) (c : Char) :
    (l.behind ts).start c = (l.start c).behind ts := by
  unfold start
  split
  · rfl
  · split
    · rfl
    · split
      · simp [behind]
      · rfl

theorem feed_behind (l : Lexer) (ts : List (List Char)) (c : Char) :
    (l.behind ts).feed c = (l.feed c).behind ts := by
  cases before : l.begun with
  | nothing => simpa [feed, before, behind] using start_behind l ts c
  | word text =>
    have other := start_behind l.close ts c
    rw [← close_behind] at other
    simp only [feed, before, behind] at other ⊢
    split
    · rfl
    · exact other
  | escape text => simp [feed, before, behind]
  | string text =>
    simp only [feed, before, behind]
    split
    · rfl
    · split <;> simp

theorem read_behind (l : Lexer) (ts : List (List Char)) (text : List Char) :
    (l.behind ts).read text = (l.read text).behind ts := by
  induction text generalizing l with
  | nil => rfl
  | cons c rest ih => rw [read_cons, feed_behind, ih, read_cons]

theorem tokens_read_of_nothing (nothing : l.begun = .nothing) (text : List Char) :
    (l.read text).close.tokens = l.tokens ++ Json.tokens text := by
  have same : l = Lexer.behind {} l.tokens := by
    obtain ⟨tokens, begun⟩ := l
    cases nothing
    simp [behind]
  rw [same, read_behind, close_behind]
  simp [behind, Json.tokens]

/-- A word that has begun goes on, and its end is the token behind those that were read. -/
theorem tokens_read_of_word (ts : List (List Char)) (word text : List Char) :
    ∃ more others, (Lexer.read ⟨ts, .word word⟩ text).close.tokens =
      ts ++ (word ++ more) :: others := by
  induction text generalizing word with
  | nil => exact ⟨[], [], by simp [read, close]⟩
  | cons c rest ih =>
    rw [read_cons]
    cases inside : inWord c with
    | true =>
      have goesOn : Lexer.feed ⟨ts, .word word⟩ c = ⟨ts, .word (word ++ [c])⟩ := if_pos inside
      obtain ⟨more, others, all⟩ := ih (word ++ [c])
      exact ⟨c :: more, others, by rw [goesOn, all, List.append_assoc, List.singleton_append]⟩
    | false =>
      have ends : Lexer.feed ⟨ts, .word word⟩ c = (Lexer.start {} c).behind (ts ++ [word]) := by
        rw [← start_behind]
        exact (if_neg (Bool.eq_false_iff.mp inside)).trans (by simp [close, behind])
      refine ⟨[], ((Lexer.start {} c).read rest).close.tokens, ?_⟩
      rw [ends, read_behind, close_behind]
      simp [behind]

end Lexer

/-! ### Texts one after the other -/

variable {front gap back : List Char}

theorem tokens_append (front back : List Char) :
    tokens (front ++ back) = ((Lexer.read {} front).read back).close.tokens := by
  rw [tokens, Lexer.read_append]

/-- A gap separates the tokens before it from those behind it. -/
theorem tokens_gap (outside : (Lexer.read {} front).Outside) (blank : Gap gap) (given : gap ≠ []) :
    tokens (front ++ (gap ++ back)) = tokens front ++ tokens back := by
  rw [tokens_append, Lexer.read_append, Lexer.read_gap outside blank given,
    Lexer.tokens_read_of_nothing (Lexer.begun_close _)]
  rfl

/-- No word goes on from the first text to the second. -/
def Parted (front back : List Char) : Prop :=
  ∀ a ∈ front.getLast?, ∀ b ∈ back.head?, ¬ (inWord a ∧ inWord b)

theorem tokens_of_parted (outside : (Lexer.read {} front).Outside) (parted : Parted front back) :
    tokens (front ++ back) = tokens front ++ tokens back := by
  have closed := Lexer.tokens_read_of_nothing (Lexer.begun_close (Lexer.read {} front)) back
  rw [tokens_append, show tokens front = (Lexer.read {} front).close.tokens from rfl, ← closed]
  rcases outside with nothing | ⟨word, begun⟩
  · rw [Lexer.close_of_nothing nothing]
  · obtain ⟨a, last, within⟩ := (Lexer.read_inWord (.inr ⟨word, begun⟩)).mp ⟨word, begun⟩
    cases back with
    | nil => exact congrArg Lexer.tokens (Lexer.close_close _).symm
    | cons b rest =>
      have other : inWord b = false :=
        Bool.eq_false_iff.mpr fun here => parted a last b rfl ⟨within, here⟩
      rw [Lexer.read_cons, Lexer.read_cons, Lexer.feed_close (.inr ⟨word, begun⟩) other]

theorem parted_of_tokens (outside : (Lexer.read {} front).Outside)
    (same : tokens (front ++ back) = tokens front ++ tokens back) : Parted front back := by
  rintro a last b first ⟨within, here⟩
  obtain ⟨rest, rfl⟩ := List.head?_eq_some_iff.mp first
  obtain ⟨word, begun⟩ := (Lexer.read_inWord outside).mpr ⟨a, last, within⟩
  rw [tokens_append, tokens] at same
  generalize Lexer.read {} front = l at same begun
  have goesOn : l.feed b = ⟨l.tokens, .word (word ++ [b])⟩ := by simp [Lexer.feed, begun, here]
  obtain ⟨more, others, longer⟩ := Lexer.tokens_read_of_word l.tokens (word ++ [b]) rest
  rw [Lexer.read_cons, goesOn, longer] at same
  simp [Lexer.close, begun] at same

/-- Two texts have their tokens one after the other exactly if no word goes on between them. -/
theorem tokens_append_iff (outside : (Lexer.read {} front).Outside) :
    tokens (front ++ back) = tokens front ++ tokens back ↔ Parted front back :=
  ⟨parted_of_tokens outside, tokens_of_parted outside⟩

end RefDoc.Json
