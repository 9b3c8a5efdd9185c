/-!
# Blanks, lines and words

Text is handled as a list of characters. A blank is a character with the Unicode property
`White_Space`; trimming, splitting into words and finding a line's first word all mean this set.
A line ends at a newline, and a carriage return right before that newline belongs to the ending.
-/

namespace RefDoc.Text

/-- The characters with the Unicode property `White_Space`. -/
def isBlank (c : Char) : Bool :=
  let n := c.toNat
  (0x09 ≤ n && n ≤ 0x0D) || n == 0x20 || n == 0x85 || n == 0xA0 || n == 0x1680 ||
    (0x2000 ≤ n && n ≤ 0x200A) || n == 0x2028 || n == 0x2029 || n == 0x202F || n == 0x205F ||
    n == 0x3000

def trimStart (cs : List Char) : List Char := cs.dropWhile isBlank

def trimEnd (cs : List Char) : List Char := (cs.reverse.dropWhile isBlank).reverse

def trim (cs : List Char) : List Char := trimEnd (trimStart cs)

/-- A line without the carriage return that ends it, the line being given backwards. -/
def endLine : List Char → List Char
  | '\r' :: before => before.reverse
  | before => before.reverse

/-- The lines of `rest`, the characters of the line being read given backwards in `line`. -/
def linesFrom (line : List Char) : List Char → List (List Char)
  | [] => if line.isEmpty then [] else [line.reverse]
  | '\n' :: rest => endLine line :: linesFrom [] rest
  | c :: rest => linesFrom (c :: line) rest

/-- The lines of a text. Nothing after the last newline is no line. -/
def lines (cs : List Char) : List (List Char) := linesFrom [] cs

def wordsFrom (word : List Char) : List Char → List (List Char)
  | [] => if word.isEmpty then [] else [word.reverse]
  | c :: rest =>
    if isBlank c then
      if word.isEmpty then wordsFrom [] rest else word.reverse :: wordsFrom [] rest
    else wordsFrom (c :: word) rest

/-- The maximal runs of characters that are not blank. -/
def words (cs : List Char) : List (List Char) := wordsFrom [] cs

def joinLines (ls : List (List Char)) : List Char := ['\n'].intercalate ls

def joinWords (ws : List (List Char)) : List Char := [' '].intercalate ws

/-- The first word of a text. -/
def firstWord? (cs : List Char) : Option (List Char) := (words cs).head?

/-- The text before the first occurrence of `sep`, and the text after it. -/
def splitOnce? (sep : List Char) : List Char → Option (List Char × List Char)
  | [] => if sep.isEmpty then some ([], []) else none
  | c :: rest =>
    if sep.isPrefixOf (c :: rest) then some ([], (c :: rest).drop sep.length)
    else (splitOnce? sep rest).map fun (before, after) => (c :: before, after)

theorem length_of_splitOnce? {sep cs before after : List Char}
    (h : splitOnce? sep cs = some (before, after)) :
    cs.length = before.length + sep.length + after.length := by
  induction cs generalizing before after with
  | nil =>
    simp only [splitOnce?] at h
    split at h
    · next empty =>
      obtain ⟨rfl, rfl⟩ := Prod.mk.inj (Option.some.inj h)
      simp [List.isEmpty_iff.1 empty]
    · cases h
  | cons c rest ih =>
    simp only [splitOnce?] at h
    split at h
    · next found =>
      obtain ⟨rfl, rfl⟩ := Prod.mk.inj (Option.some.inj h)
      have := (List.isPrefixOf_iff_prefix.1 found).length_le
      simp only [List.length_nil, List.length_drop]
      omega
    · obtain ⟨⟨b, a⟩, hb, heq⟩ := Option.map_eq_some_iff.1 h
      obtain ⟨rfl, rfl⟩ := Prod.mk.inj heq
      have := ih hb
      simp only [List.length_cons]
      omega

/-- Splits at every character that satisfies `p`; the separators are dropped. -/
def splitAll (p : Char → Bool) : List Char → List (List Char)
  | [] => [[]]
  | c :: rest =>
    if p c then [] :: splitAll p rest
    else
      match splitAll p rest with
      | [] => [[c]]
      | piece :: pieces => (c :: piece) :: pieces

/-- Every occurrence of `pattern`, from the left and without overlap, becomes `by`. The empty
pattern occurs before every character and at the end. -/
def replaceAll (pattern replacement : List Char) (cs : List Char) : List Char :=
  if pattern.isEmpty then
    cs.foldr (fun c out => replacement ++ c :: out) replacement
  else go cs.length cs
where
  go : Nat → List Char → List Char
    | 0, cs => cs
    | _ + 1, [] => []
    | n + 1, c :: rest =>
      if pattern.isPrefixOf (c :: rest) then
        replacement ++ go n ((c :: rest).drop pattern.length)
      else c :: go n rest

def countNewlines (cs : List Char) : Nat := cs.count '\n'

/-- The number of bytes of a text in UTF-8. -/
def byteLength (cs : List Char) : Nat := cs.foldl (fun size c => size + c.utf8Size) 0

/-- An ASCII letter in lower case; every other character unchanged. -/
def asciiLower (c : Char) : Char :=
  if 'A' ≤ c ∧ c ≤ 'Z' then Char.ofNat (c.toNat + 32) else c

def isAsciiDigit (c : Char) : Bool := '0' ≤ c && c ≤ '9'

def isAsciiLetter (c : Char) : Bool := ('a' ≤ c && c ≤ 'z') || ('A' ≤ c && c ≤ 'Z')

/-- The number written by ASCII digits, if there is at least one and nothing else. -/
def decimal? (cs : List Char) : Option Nat :=
  if cs.isEmpty || !cs.all isAsciiDigit then none
  else some (cs.foldl (fun n c => n * 10 + (c.toNat - '0'.toNat)) 0)

end RefDoc.Text
