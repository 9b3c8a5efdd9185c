import RefDoc.Markdown.Scan

/-!
# Lines

How the beginning of a line tells what block the line belongs to. Columns count as if tabs stopped
at every fourth one; a tab may be taken in part.
-/

namespace RefDoc.Markdown

open Text

/-- A line with the end that it has, except perhaps the last one. -/
structure Line where
  chars : List Char
  ended : Bool
  deriving Repr

def Line.raw (l : Line) : List Char := if l.ended then l.chars ++ ['\n'] else l.chars

/-- The lines of a text without carriage returns. -/
def splitLines (line : List Char) : List Char → List Line
  | [] => if line.isEmpty then [] else [⟨line.reverse, false⟩]
  | '\n' :: rest => ⟨line.reverse, true⟩ :: splitLines [] rest
  | c :: rest => splitLines (c :: line) rest

/-- A place in a line. -/
structure Cursor where
  rest : List Char
  column : Nat := 0
  /-- What is left of a tab that was taken in part. -/
  pad : Nat := 0

namespace Cursor

def indentFrom (column : Nat) : List Char → Nat
  | ' ' :: rest => indentFrom (column + 1) rest + 1
  | '\t' :: rest => let w := 4 - column % 4; indentFrom (column + w) rest + w
  | _ => 0

/-- How many columns of space come next. -/
def indent (c : Cursor) : Nat := c.pad + indentFrom (c.column + c.pad) c.rest

/-- The text behind all space. -/
def content (c : Cursor) : List Char := c.rest.dropWhile fun c => c == ' ' || c == '\t'

def isBlank (c : Cursor) : Bool := c.content.isEmpty

/-- Skips up to `n` columns of space. -/
def skipColumns (c : Cursor) (n : Nat) : Cursor :=
  if n ≤ c.pad then { c with column := c.column + n, pad := c.pad - n }
  else go { c with column := c.column + c.pad, pad := 0 } (n - c.pad) c.rest
where
  go (c : Cursor) (n : Nat) : List Char → Cursor
    | ' ' :: rest =>
      match n with
      | 0 => c
      | n + 1 => go { c with rest, column := c.column + 1 } n rest
    | '\t' :: rest =>
      let w := 4 - c.column % 4
      if n = 0 then c
      else if w ≤ n then go { c with rest, column := c.column + w } (n - w) rest
      else { rest, column := c.column + n, pad := w - n }
    | _ => c

def skipSpace (c : Cursor) : Cursor := c.skipColumns c.indent

/-- Skips characters that are no space. -/
def skipChars (c : Cursor) (n : Nat) : Cursor :=
  { rest := c.rest.drop n, column := c.column + n }

/-- The text of the line from here on. -/
def text (c : Cursor) : List Char := List.replicate c.pad ' ' ++ c.rest

end Cursor

/-! ### What a line begins -/

/-- A line of three or more equal marks and spaces. -/
def isRule (cs : List Char) : Bool :=
  let marks := cs.filter fun c => c != ' ' && c != '\t'
  match marks with
  | c :: _ => (c == '*' || c == '-' || c == '_') && marks.all (· == c) && 3 ≤ marks.length
  | [] => false

def trimLine (cs : List Char) : List Char :=
  let blank (c : Char) : Bool := c == ' ' || c == '\t'
  ((cs.dropWhile blank).reverse.dropWhile blank).reverse

/-- The level and text of a heading that begins with hash marks. -/
def heading? (cs : List Char) : Option (Nat × List Char) :=
  let level := (cs.takeWhile (· = '#')).length
  let rest := cs.drop level
  if level = 0 || 6 < level then none
  else
    match rest with
    | c :: _ =>
      if c != ' ' && c != '\t' then none
      else
        let backwards := (trimLine rest).reverse
        let bare := backwards.dropWhile (· = '#')
        match bare with
        | [] => some (level, [])
        | c :: _ =>
          if c = ' ' || c = '\t' then some (level, trimLine bare.reverse)
          else some (level, backwards.reverse)
    | [] => some (level, [])

/-- The level of a heading that a line of equals signs or hyphens makes of the text above. -/
def underline? (cs : List Char) : Option Nat :=
  let marks := trimLine cs
  match marks with
  | '=' :: _ => if marks.all (· = '=') then some 1 else none
  | '-' :: _ => if marks.all (· = '-') then some 2 else none
  | _ => none

/-- The fence that opens a block of code: its character, its length, and what stands behind it. -/
def fence? (cs : List Char) : Option (Char × Nat × List Char) :=
  match cs with
  | c :: _ =>
    if c != '\x60' && c != '~' then none
    else
      let length := (cs.takeWhile (· = c)).length
      let info := cs.drop length
      if length < 3 || (c = '\x60' && info.contains '\x60') then none else some (c, length, info)
  | [] => none

def closesFence (c : Char) (length : Nat) (cs : List Char) : Bool :=
  let run := (cs.takeWhile (· = c)).length
  length ≤ run && (trimLine (cs.drop run)).isEmpty

/-- What marks the items of a list. -/
inductive Marker where
  | bullet (c : Char)
  | number (delimiter : Char)
  deriving DecidableEq, Repr

/-- The marker of an item, the number it shows, and how many characters it has. -/
def marker? (cs : List Char) : Option (Marker × Nat × Nat) :=
  let spaced (rest : List Char) : Bool := rest.head?.all fun c => c == ' ' || c == '\t'
  match cs with
  | c :: rest =>
    if c = '-' || c = '+' || c = '*' then
      if spaced rest then some (.bullet c, 0, 1) else none
    else
      let digits := cs.takeWhile isAsciiDigit
      match cs.drop digits.length with
      | d :: rest =>
        if (d = '.' || d = ')') && digits.length ≤ 9 && spaced rest then
          (decimal? digits).map fun n => (.number d, n, digits.length + 1)
        else none
      | [] => none
  | [] => none

/-- The label that a footnote begins with, and the text behind its colon. -/
def footnoteStart? (cs : List Char) : Option (List Char × List Char) := do
  let '[' :: '^' :: rest := cs | none
  let (label, rest) ← labelRest? rest
  let ':' :: rest := rest | none
  some (label, rest)

/-! ### HTML blocks -/

/-- How a block of HTML ends: with a line that holds a text, or before a blank line. -/
inductive HtmlEnd where
  | containing (text : List Char)
  | blankLine
  deriving DecidableEq, Repr

def containsText (cs pattern : List Char) : Bool := (splitOnce? pattern cs).isSome

def HtmlEnd.closes (e : HtmlEnd) (line : List Char) : Bool :=
  match e with
  | containing text => containsText line text
  | blankLine => false

def verbatimTags : List (List Char) := ["pre", "style", "script", "textarea"].map String.toList

def blockTags : List (List Char) :=
  ["address", "article", "aside", "base", "basefont", "blockquote", "body", "caption", "center",
    "col", "colgroup", "dd", "details", "dialog", "dir", "div", "dl", "dt", "fieldset",
    "figcaption", "figure", "footer", "form", "frame", "frameset", "h1", "h2", "h3", "h4", "h5",
    "h6", "head", "header", "hr", "html", "iframe", "legend", "li", "link", "main", "menu",
    "menuitem", "nav", "noframes", "ol", "optgroup", "option", "p", "param", "search", "section",
    "summary", "table", "tbody", "td", "tfoot", "th", "thead", "title", "tr", "track", "ul"].map
    String.toList

/-- How the block of HTML ends that a line begins, read behind its first angle. Blocks with special
beginnings come first, then those of known tags. -/
def knownHtml? (cs : List Char) : Option HtmlEnd :=
  let lower := cs.map asciiLower
  let verbatim := verbatimTags.find? fun tag =>
    tag.isPrefixOf lower && (lower.drop tag.length).head?.all fun c => isSpace c || c == '>'
  let known : Bool :=
    let lower := if lower.head? == some '/' then lower.drop 1 else lower
    let name := lower.takeWhile fun c => isAsciiLetter c || isAsciiDigit c
    blockTags.contains name &&
      match lower.drop name.length with
      | [] | '>' :: _ | '/' :: '>' :: _ => true
      | c :: _ => isSpace c
  match verbatim with
  | some tag => some (.containing ("</".toList ++ tag ++ ['>']))
  | none =>
    match cs with
    | '!' :: '-' :: '-' :: _ => some (.containing ['-', '-', '>'])
    | '?' :: _ => some (.containing ['?', '>'])
    | '!' :: '[' :: 'C' :: 'D' :: 'A' :: 'T' :: 'A' :: '[' :: _ =>
      some (.containing [']', ']', '>'])
    | '!' :: c :: _ => if isAsciiLetter c then some (.containing ['>']) else none
    | _ => if known then some .blankLine else none

/-- Whether a line holds one complete tag and nothing else, read behind its first angle. -/
def isLoneTag (cs : List Char) : Bool :=
  ((openTag? cs).or (closingTag? cs)).any fun after => (trimLine after).isEmpty

/-! ### Tables -/

/-- The alignment that one cell of the line below a table's head asks for. -/
def alignment? (cell : List Char) : Option Alignment :=
  let marks := cell.filter (· ≠ ' ')
  if !marks.contains '-' || !marks.all (fun c => c == '-' || c == ':') then none
  else
    match marks.head? == some ':', marks.getLast? == some ':' with
    | true, true => some .center
    | true, false => some .left
    | false, true => some .right
    | false, false => some .unset

/-- The cells of a row: what stands between bars that no backslash precedes. -/
def splitCells (cell : List Char) : List Char → List (List Char)
  | [] => [cell.reverse]
  | '\\' :: c :: rest => splitCells (c :: '\\' :: cell) rest
  | '|' :: rest => cell.reverse :: splitCells [] rest
  | c :: rest => splitCells (c :: cell) rest

/-- The cells of a line, without the empty ones that bars at its ends leave. -/
def cells (line : List Char) : List (List Char) :=
  let all := splitCells [] (trimLine line)
  let all := if (trimLine line).head? == some '|' then all.drop 1 else all
  if all.getLast?.any fun c => (trimLine c).isEmpty then all.dropLast else all

def hasBar (line : List Char) : Bool := 1 < (splitCells [] line).length

/-- The alignments of a line that stands below the head of a table. -/
def alignments? (line : List Char) : Option (List Alignment) :=
  if line.contains '|' then (cells line).mapM alignment? else none

/-- A cell without the backslashes that keep bars inside it. -/
def cellText (cell : List Char) : List Char :=
  trimLine (replaceAll ['\\', '|'] ['|'] cell)

end RefDoc.Markdown
