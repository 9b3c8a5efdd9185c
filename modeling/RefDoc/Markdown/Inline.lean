import RefDoc.Markdown.Scan

/-!
# Inline elements

The text of a block is read in two passes. The first goes from left to right and finds what binds
tighter than emphasis: code, HTML, links and images, whose brackets are kept on a stack. The stars,
underscores and tildes that remain are matched by the second pass (`resolve`), innermost first.
-/

namespace RefDoc.Markdown

open Text

/-- An element, or a run of delimiters that may begin or end emphasis. -/
inductive Token where
  | element (e : Inline)
  | delimiters (c : Char) (count : Nat) (canOpen canClose : Bool)

def textElement (cs : List Char) : Inline := .text (String.ofList cs)

/-! ### Emphasis -/

/-- A run of delimiters that waits to be closed. -/
structure Opener where
  c : Char
  /-- How many of the run are left. -/
  count : Nat
  /-- The length of the run as written. -/
  run : Nat
  canClose : Bool
  /-- The elements before the run, back to the opener before, backwards. -/
  before : List Inline

namespace Opener

def asText (o : Opener) : Inline := textElement (List.replicate o.count o.c)

/-- Whether a run of length `run` may close `o`. Where one of the two could open and close, their
lengths must not add up to a multiple of three, unless both are one. -/
def matches? (o : Opener) (c : Char) (run : Nat) (canOpen : Bool) : Bool :=
  o.c == c && (c != '~' || o.run == run) &&
    ((!canOpen && !o.canClose) || (run + o.run) % 3 != 0 || run % 3 == 0)

end Opener

/-- Wraps elements in `count` pairs of delimiters, from the inside. -/
def wrap (c : Char) : Nat → List Inline → List Inline
  | 0, content => content
  | 1, content => [if c = '~' then .deleted content else .emphasis content]
  | n + 2, content => wrap c n [if c = '~' then .deleted content else .strong content]

/-- The openers that are still open, innermost first, and the elements since then, backwards. -/
structure Emphasis where
  openers : List Opener := []
  here : List Inline := []

namespace Emphasis

/-- Splits the openers at the innermost one that matches. -/
def splitAt? (c : Char) (run : Nat) (canOpen : Bool) :
    List Opener → Option (List Opener × Opener × List Opener)
  | [] => none
  | o :: rest =>
    if o.matches? c run canOpen then some ([], o, rest)
    else (splitAt? c run canOpen rest).map fun (inner, found, outer) => (o :: inner, found, outer)

/-- The elements since an opener, with those inside it that were never closed as text. -/
def flatten (here : List Inline) : List Opener → List Inline
  | [] => here
  | o :: outer => flatten (here ++ o.asText :: o.before) outer

/-- Closes openers with up to `count` delimiters of a run; gives what is left of the run. -/
def close (c : Char) (run : Nat) (canOpen : Bool) (count : Nat) (e : Emphasis) : Emphasis × Nat :=
  if count = 0 then (e, 0)
  else
    match splitAt? c run canOpen e.openers with
    | none => (e, count)
    | some (inner, o, outer) =>
      let used := min count o.count
      if used = 0 then (e, count)
      else
        let content := (flatten e.here inner).reverse
        let wrapped := wrap c used content
        let e :=
          if used < o.count then
            { openers := { o with count := o.count - used } :: outer, here := wrapped.reverse }
          else { openers := outer, here := wrapped.reverse ++ o.before }
        close c run canOpen (count - used) e
termination_by count

def addToken (e : Emphasis) : Token → Emphasis
  | .element i => { e with here := i :: e.here }
  | .delimiters c run canOpen canClose =>
    let (e, left) := if canClose then e.close c run canOpen run else (e, run)
    if left = 0 then e
    else if canOpen then
      { openers := ⟨c, left, run, canClose, e.here⟩ :: e.openers, here := [] }
    else { e with here := textElement (List.replicate left c) :: e.here }

end Emphasis

/-- The elements that tokens make. -/
def resolve (tokens : List Token) : List Inline :=
  let e := tokens.foldl Emphasis.addToken {}
  (Emphasis.flatten e.here e.openers).reverse

/-! ### The first pass -/

/-- An opening bracket that waits to be closed. -/
structure OpenBracket where
  image : Bool
  /-- Can still begin a link. -/
  active : Bool
  /-- The tokens before the bracket, backwards. -/
  before : List Token
  /-- The text behind the bracket. -/
  inside : List Char

structure InlineReader where
  brackets : List OpenBracket := []
  /-- The tokens since the innermost bracket, backwards. -/
  here : List Token := []
  /-- The character before the next one. -/
  previous : Option Char := none

namespace InlineReader

def add (r : InlineReader) (e : Inline) (previous : Option Char) : InlineReader :=
  { r with here := .element e :: r.here, previous }

def addText (r : InlineReader) (cs : List Char) : InlineReader :=
  r.add (textElement cs) (cs.getLast?.or r.previous)

def bracketText (b : OpenBracket) : Token :=
  .element (.text (if b.image then "![" else "["))

/-- Makes the innermost bracket text. -/
def dropBracket (r : InlineReader) : InlineReader :=
  match r.brackets with
  | [] => r
  | b :: rest => { r with brackets := rest, here := r.here ++ bracketText b :: b.before }

/-- All tokens, with the brackets left as text. -/
def finish (r : InlineReader) : List Token := (go r.here r.brackets).reverse
where
  go (here : List Token) : List OpenBracket → List Token
    | [] => here
    | b :: rest => go (here ++ bracketText b :: b.before) rest

/-! ### Delimiters -/

def isBlankSide (side : Option Char) : Bool := side.all isBlank

def isPunctuationSide (side : Option Char) : Bool := side.any isPunctuation

/-- Whether a run between two characters may begin and may end emphasis. Underscores do so inside no
word. -/
def flanking (c : Char) (before after : Option Char) : Bool × Bool :=
  let left :=
    !isBlankSide after &&
      (!isPunctuationSide after || isBlankSide before || isPunctuationSide before)
  let right :=
    !isBlankSide before &&
      (!isPunctuationSide before || isBlankSide after || isPunctuationSide after)
  if c = '_' then
    (left && (!right || isPunctuationSide before), right && (!left || isPunctuationSide after))
  else (left, right)

def addDelimiters (r : InlineReader) (c : Char) (count : Nat) (after : Option Char) :
    InlineReader :=
  let (canOpen, canClose) := flanking c r.previous after
  if (canOpen || canClose) && (c != '~' || count ≤ 2) then
    { r with here := .delimiters c count canOpen canClose :: r.here, previous := some c }
  else r.addText (List.replicate count c)

/-! ### Code -/

/-- The text up to a run of exactly `ticks` backticks, and what follows the run. -/
def codeRest? (ticks : Nat) : Nat → List Char → Option (List Char × List Char)
  | 0, _ | _, [] => none
  | fuel + 1, c :: rest =>
    if c = '\x60' then
      let run := (rest.takeWhile (· = '\x60')).length + 1
      let after := rest.drop (run - 1)
      if run = ticks then some ([], after)
      else
        (codeRest? ticks fuel after).map fun (code, behind) =>
          (List.replicate run '\x60' ++ code, behind)
    else (codeRest? ticks fuel rest).map fun (code, behind) => (c :: code, behind)

/-- Code as it is shown: on one line, and without one space on both sides. -/
def codeText (cs : List Char) : String :=
  let cs := cs.map fun c => if c = '\n' then ' ' else c
  let stripped :=
    if cs.head? == some ' ' && cs.getLast? == some ' ' && cs.any (· ≠ ' ') then
      (cs.drop 1).dropLast
    else cs
  String.ofList stripped

/-! ### Brackets -/

def openBracket (r : InlineReader) (image : Bool) (inside : List Char) : InlineReader :=
  { brackets := ⟨image, true, r.here, inside⟩ :: r.brackets, here := [], previous := some '[' }

/-- What a closing bracket leads to, with the text behind it. -/
inductive Reference where
  | link (target : Target) (rest : List Char)
  | footnote (label : String) (rest : List Char)

/-- The label of a footnote, if a label begins with a caret. -/
def footnoteLabel? (d : Definitions) (label : List Char) : Option String :=
  match label with
  | '^' :: name =>
    if name.all isSpace then none
    else if d.footnotes.contains (normalizeLabel name) then some (String.ofList name) else none
  | _ => none

/-- What the label in brackets refers to. -/
def labelled? (d : Definitions) (label : List Char) (rest : List Char) : Option Reference :=
  match footnoteLabel? d label with
  | some name => some (.footnote name rest)
  | none => (d.links.lookup (normalizeLabel label)).map fun t => .link t rest

/-- What the brackets around `inside` refer to, `rest` being the text behind them. -/
def reference? (d : Definitions) (inside rest : List Char) : Option Reference :=
  let whole := (labelRest? (inside ++ [']'])).filter (·.2.isEmpty)
  let own (rest : List Char) : Option Reference :=
    whole.bind fun (label, _) => labelled? d label rest
  let targeted : Option Reference :=
    match rest with
    | '(' :: rest => (inlineTarget? rest).map fun (t, after) => .link t after
    | _ => none
  targeted.or
    (match rest with
    | '[' :: ']' :: after => own after
    | '[' :: more =>
      match labelRest? more with
      | some (label, after) =>
        match footnoteLabel? d label with
        | some _ => own rest
        | none => labelled? d label after
      | none => own rest
    | _ => own rest)

/-- A closing bracket with `rest` behind it; gives the text to go on with. -/
def closeBracket (d : Definitions) (r : InlineReader) (rest : List Char) :
    InlineReader × List Char :=
  match r.brackets with
  | [] => (r.addText [']'], rest)
  | b :: outer =>
    if !b.active then (r.dropBracket.addText [']'], rest)
    else
      let inside := b.inside.take (b.inside.length - rest.length - 1)
      match reference? d inside rest with
      | none => (r.dropBracket.addText [']'], rest)
      | some (.link t after) =>
        let content := resolve r.here.reverse
        let element : Inline :=
          if b.image then .image t.url t.title content else .link t.url t.title content
        let outer :=
          if b.image then outer
          else outer.map fun o => if o.image then o else { o with active := false }
        ({ brackets := outer, here := .element element :: b.before, previous := some ']' }, after)
      | some (.footnote label after) =>
        let before := if b.image then .element (.text "!") :: b.before else b.before
        let outer := outer.map fun o => { o with active := false }
        ({ brackets := outer, here := .element (.footnote label) :: before, previous := some ']' },
          after)

/-! ### Everything else -/

/-- What stands between angles, behind the first. -/
def angled? (cs : List Char) : Option (Inline × List Char) :=
  match uriLink? cs with
  | some (uri, after) => some (.link (String.ofList uri) "" [textElement uri], after)
  | none =>
    match mailLink? cs with
    | some (address, after) =>
      some (.link ("mailto:" ++ String.ofList address) "" [textElement address], after)
    | none =>
      (inlineHtml? cs).map fun after =>
        (.html (String.ofList ('<' :: cs.take (cs.length - after.length))), after)

def isSpecial (c : Char) : Bool := "\\\x60*_~[]!<&\n ".toList.contains c

/-- Spaces, and what they mean before the end of a line. -/
def addSpaces (r : InlineReader) (spaces : List Char) (rest : List Char) :
    InlineReader × List Char :=
  match rest with
  | '\n' :: rest =>
    (r.add (if 2 ≤ spaces.length then .hardBreak else .softBreak) (some '\n'),
      rest.dropWhile fun c => c == ' ' || c == '\t')
  | [] => (r, [])
  | rest => (r.addText spaces, rest)

/-- Reads the next part, which begins with `c`. -/
def next (d : Definitions) (r : InlineReader) (c : Char) (rest : List Char) :
    InlineReader × List Char :=
  match c, rest with
  | '\\', '\n' :: rest =>
    (r.add .hardBreak (some '\n'), rest.dropWhile fun c => c == ' ' || c == '\t')
  | '\\', e :: rest =>
    if isAsciiPunctuation e then (r.addText [e], rest) else (r.addText ['\\'], e :: rest)
  | '\x60', rest =>
    let ticks := (rest.takeWhile (· = '\x60')).length + 1
    let inside := rest.drop (ticks - 1)
    match codeRest? ticks inside.length inside with
    | some (code, after) => (r.add (.code (codeText code)) (some '\x60'), after)
    | none => (r.addText (List.replicate ticks '\x60'), inside)
  | '<', rest =>
    match angled? rest with
    | some (e, after) => (r.add e (some '>'), after)
    | none => (r.addText ['<'], rest)
  | '&', rest =>
    match Markdown.reference? rest with
    | some (text, after) => (r.addText text.toList, after)
    | none => (r.addText ['&'], rest)
  | '!', '[' :: rest =>
    (r.openBracket true rest, rest)
  | '[', rest =>
    (r.openBracket false rest, rest)
  | ']', rest => r.closeBracket d rest
  | '\n', rest => r.addSpaces [] ('\n' :: rest)
  | ' ', rest => r.addSpaces (' ' :: rest.takeWhile (· = ' ')) (rest.dropWhile (· = ' '))
  | c, rest =>
    if c = '*' || c = '_' || c = '~' then
      let count := (rest.takeWhile (· = c)).length + 1
      let after := rest.drop (count - 1)
      (r.addDelimiters c count after.head?, after)
    else
      (r.addText (c :: rest.takeWhile (!isSpecial ·)), rest.dropWhile (!isSpecial ·))

/-- Reads everything; every step takes a character at least. -/
def run (d : Definitions) : Nat → InlineReader → List Char → InlineReader
  | 0, r, _ | _, r, [] => r
  | fuel + 1, r, c :: rest =>
    let (r, rest) := r.next d c rest
    run d fuel r rest

end InlineReader

/-- The inline elements of a text. -/
def inlines (d : Definitions) (cs : List Char) : List Inline :=
  resolve (InlineReader.run d cs.length {} cs).finish

end RefDoc.Markdown
