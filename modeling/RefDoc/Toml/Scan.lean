import RefDoc.Text.Blank
import RefDoc.Toml.Basic

/-!
# Scanning TOML

The lexical parts: blanks, comments, line ends, strings and keys. A scanner takes characters from
the front of a text, or fails.
-/

namespace RefDoc.Toml

abbrev Scanner := StateT (List Char) Option

namespace Scanner

variable {α : Type}

/-- The next character, if there is one and `p` holds of it. -/
def satisfy (p : Char → Bool) : Scanner Char := fun cs =>
  match cs with
  | c :: rest => if p c then some (c, rest) else none
  | [] => none

def char (c : Char) : Scanner Unit := discard (satisfy (· == c))

/-- Takes the characters of `token`. -/
def token (token : List Char) : Scanner Unit := fun cs =>
  if token.isPrefixOf cs then some ((), cs.drop token.length) else none

def takeWhile (p : Char → Bool) : Scanner (List Char) := fun cs =>
  some (cs.takeWhile p, cs.dropWhile p)

/-- One or more characters. -/
def takeSome (p : Char → Bool) : Scanner (List Char) := do
  let cs ← takeWhile p
  if cs.isEmpty then failure else return cs

/-- Fails where `s` succeeds, and takes nothing. -/
def refuse (s : Scanner α) : Scanner Unit := fun cs =>
  match s cs with
  | some _ => none
  | none => some ((), cs)

/-- As many times as possible; a repetition that takes nothing ends it. -/
def manyFrom (s : Scanner α) (cs : List Char) : List α × List Char :=
  match s cs with
  | none => ([], cs)
  | some (a, rest) =>
    if rest.length < cs.length then
      let (as, rest) := manyFrom s rest
      (a :: as, rest)
    else ([a], rest)
termination_by cs.length

def many (s : Scanner α) : Scanner (List α) := fun cs => some (manyFrom s cs)

/-! ### Blanks -/

def isSpace (c : Char) : Bool := c == ' ' || c == '\t'

/-- Characters that may stand in comments and, other than delimiters, in strings. -/
def isPlain (c : Char) : Bool := c == '\t' || (' ' ≤ c && c ≤ '~') || '\x80' ≤ c

def space : Scanner Unit := discard (takeWhile isSpace)

def newline : Scanner Unit := char '\n' <|> token ['\r', '\n']

def comment : Scanner Unit := do
  char '#'
  discard (takeWhile isPlain)

def atEnd : Scanner Unit := fun cs => if cs.isEmpty then some ((), cs) else none

/-- The rest of a line that holds nothing more. -/
def lineEnd : Scanner Unit := do
  space
  discard (optional comment)
  newline <|> atEnd

/-- Blanks, line ends and comments. -/
def trivia : Scanner Unit :=
  discard (many (discard (takeSome isSpace) <|> newline <|> (do comment; newline)))

/-! ### Strings -/

def hexDigit? (c : Char) : Option Nat :=
  if '0' ≤ c && c ≤ '9' then some (c.toNat - '0'.toNat)
  else if 'a' ≤ c && c ≤ 'f' then some (c.toNat - 'a'.toNat + 10)
  else if 'A' ≤ c && c ≤ 'F' then some (c.toNat - 'A'.toNat + 10)
  else none

/-- The character whose code stands in `count` hexadecimal digits. -/
def codePoint (count : Nat) : Scanner Char := fun cs => do
  let digits ← (cs.take count).mapM hexDigit?
  if digits.length < count then none
  else
    let n := digits.foldl (fun n d => n * 16 + d) 0
    if n.isValidChar then some (Char.ofNat n, cs.drop count) else none

/-- What stands behind a backslash. -/
def escape : Scanner Char := do
  match ← satisfy fun _ => true with
  | 'b' => return '\x08'
  | 't' => return '\t'
  | 'n' => return '\n'
  | 'f' => return '\x0c'
  | 'r' => return '\r'
  | '"' => return '"'
  | '\\' => return '\\'
  | 'u' => codePoint 4
  | 'U' => codePoint 8
  | _ => failure

def basicChar : Scanner Char :=
  satisfy (fun c => isPlain c && c != '"' && c != '\\') <|> (do char '\\'; escape)

def literalChar : Scanner Char := satisfy fun c => isPlain c && c != '\x27'

/-- A string on one line between two quotes. -/
def quoted (quote : Char) (piece : Scanner Char) : Scanner String := do
  char quote
  let body ← many piece
  char quote
  return String.ofList body

/-- One or two quotes that do not end a string of several lines. -/
def innerQuotes (quote : Char) : Scanner (List Char) := do
  let run ← takeSome (· == quote)
  if run.length < 3 then return run else failure

/-- The three quotes that end a string of several lines; up to two more before them belong to it. -/
def closingQuotes (quote : Char) : Scanner (List Char) := fun cs =>
  let run := min 5 (cs.takeWhile (· == quote)).length
  if run < 3 then none else some (List.replicate (run - 3) quote, cs.drop run)

/-- A string between three quotes and three quotes. A line end right behind the first ones does not
count. -/
def longQuoted (quote : Char) (piece : Scanner (List Char)) : Scanner String := do
  token [quote, quote, quote]
  discard (optional newline)
  let lineBreak : Scanner (List Char) := do newline; return ['\n']
  let body ← many (piece <|> lineBreak <|> innerQuotes quote)
  let rest ← closingQuotes quote
  return String.ofList (body.flatten ++ rest)

/-- A backslash at the end of a line takes the blanks and line ends behind it along. -/
def lineContinuation : Scanner (List Char) := do
  char '\\'
  space
  newline
  discard (many (discard (takeSome isSpace) <|> newline))
  return []

def basicString : Scanner String := quoted '"' basicChar

def literalString : Scanner String := quoted '\x27' literalChar

def string : Scanner String :=
  longQuoted '"' (((fun c => [c]) <$> basicChar) <|> lineContinuation) <|> basicString <|>
    longQuoted '\x27' ((fun c => [c]) <$> literalChar) <|> literalString

/-! ### Keys -/

def isBare (c : Char) : Bool := c.isAlphanum || c == '-' || c == '_'

def simpleKey : Scanner String := do
  space
  let key ← basicString <|> literalString <|> (String.ofList <$> takeSome isBare)
  space
  return key

/-- The most parts a key may have, and the most brackets that may be open. -/
def depthLimit : Nat := 79

/-- Keys with dots between them. -/
def key : Scanner (List String) := do
  let first ← simpleKey
  let others ← many (do char '.'; simpleKey)
  if others.length < depthLimit then return first :: others else failure

end Scanner

end RefDoc.Toml
