import RefDoc.Markdown.Inline
import RefDoc.Markdown.Line

/-!
# Blocks

A text is read line by line. The blocks that are open form a stack, the document at its bottom, with
at most one leaf at the top that takes lines. A line first finds which open blocks it goes on with,
then opens new ones, and gives what is left to the leaf.
-/

namespace RefDoc.Markdown

open Text

/-- A block with its text unread. -/
abbrev RawBlock := Block (List Char)

inductive Container where
  | document
  | quote
  | list (marker : Marker) (start : Nat)
  /-- An item whose content begins at a column. -/
  | item (indent : Nat)
  | footnote (label : String)
  deriving DecidableEq, Repr

/-- A container that is open. -/
structure Frame where
  kind : Container
  /-- The blocks in it, backwards. -/
  children : List RawBlock := []
  /-- The items of a list, backwards. -/
  items : List (List RawBlock) := []
  /-- There is a blank line between two blocks or items. -/
  loose : Bool := false
  /-- A blank line was the last thing in it. -/
  blank : Bool := false

/-- The open block that takes lines; lines are kept backwards. -/
inductive Leaf where
  | none
  | paragraph (lines : List (List Char))
  | fenced (c : Char) (length indent : Nat) (info : List Char) (lines : List (List Char))
  | indented (lines : List (List Char))
  | html (ending : HtmlEnd) (lines : List (List Char))
  | table (columns : List Alignment) (head : List Char) (rows : List (List Char))

structure BlockReader where
  /-- Open containers, innermost first. -/
  frames : List Frame := [{ kind := .document }]
  leaf : Leaf := .none
  definitions : Definitions := {}

namespace BlockReader

/-! ### Closing -/

def addBlock (r : BlockReader) (b : RawBlock) : BlockReader :=
  match r.frames with
  | f :: rest => { r with frames := { f with children := b :: f.children } :: rest }
  | [] => r

/-- Takes the definitions at the start of a paragraph. -/
def takeDefinitions (d : Definitions) : Nat → List Char → Definitions × List Char
  | 0, cs => (d, cs)
  | fuel + 1, cs =>
    match definition? cs with
    | none => (d, cs)
    | some ((label, target), rest) =>
      let links :=
        if (d.links.lookup label).isSome then d.links else d.links ++ [(label, target)]
      takeDefinitions { d with links } fuel (skipSpaces rest)

/-- The text of a paragraph behind its definitions. -/
def settle (r : BlockReader) (lines : List (List Char)) : BlockReader × List Char :=
  let text := joinLines lines.reverse
  let (definitions, rest) := takeDefinitions r.definitions lines.length text
  ({ r with definitions }, rest)

/-- Cells to the number of columns. -/
def fit (columns : Nat) (line : List Char) : List (List Char) :=
  let row := (cells line).map cellText
  (row ++ List.replicate (columns - row.length) []).take columns

def closeLeaf (r : BlockReader) : BlockReader :=
  let closed := { r with leaf := .none }
  match r.leaf with
  | .none => r
  | .paragraph lines =>
    let (closed, text) := closed.settle lines
    if text.isEmpty then closed else closed.addBlock (.paragraph text)
  | .fenced _ _ _ info lines =>
    closed.addBlock (.code (some (unescape info)) (String.ofList lines.reverse.flatten))
  | .indented lines =>
    let lines := lines.dropWhile fun l => (trim l).isEmpty
    closed.addBlock (.code none (String.ofList lines.reverse.flatten))
  | .html _ lines => closed.addBlock (.html (String.ofList lines.reverse.flatten))
  | .table columns head rows =>
    closed.addBlock
      (.table columns (fit columns.length head) (rows.reverse.map (fit columns.length)))

/-- Closes the innermost container. -/
def closeFrame (r : BlockReader) : BlockReader :=
  let r := r.closeLeaf
  match r.frames with
  | f :: parent :: rest =>
    let children := f.children.reverse
    let into (b : RawBlock) : BlockReader :=
      { r with frames := { parent with children := b :: parent.children } :: rest }
    match f.kind with
    | .document => r
    | .quote => into (.quote children)
    | .footnote label => into (.footnote label children)
    | .list marker start =>
      let numbered :=
        match marker with
        | .number _ => some start
        | .bullet _ => Option.none
      into (.list numbered (!f.loose) f.items.reverse)
    | .item _ =>
      { r with
        frames :=
          { parent with items := children :: parent.items, loose := parent.loose || f.loose } ::
            rest }
  | _ => r

/-- Closes containers until `count` are left. -/
def closeTo (count : Nat) (r : BlockReader) : BlockReader :=
  go (r.frames.length - count) r
where
  go : Nat → BlockReader → BlockReader
    | 0, r => r
    | n + 1, r => go n r.closeFrame

/-! ### Opening -/

/-- Makes room for a new block in the innermost container: a leaf is closed, and a list, which holds
items only, too. -/
def makeRoom (r : BlockReader) (forItem : Bool) : BlockReader :=
  let r := r.closeLeaf
  let r :=
    match r.frames with
    | f :: _ =>
      match f.kind with
      | .list _ _ => if forItem then r else r.closeFrame
      | _ => r
    | [] => r
  match r.frames with
  | f :: rest =>
    let filled := !f.children.isEmpty || !f.items.isEmpty
    { r with frames := { f with loose := f.loose || (f.blank && filled) } :: rest }
  | [] => r

def openLeaf (r : BlockReader) (l : Leaf) : BlockReader := { r.makeRoom false with leaf := l }

def openFrame (r : BlockReader) (kind : Container) : BlockReader :=
  { r with frames := { kind } :: r.frames }

/-- Opens an item, in the list that is open if its marker is the same. -/
def openItem (r : BlockReader) (marker : Marker) (start indent : Nat) : BlockReader :=
  let r := r.closeLeaf
  let goesOn : Bool :=
    match r.frames with
    | f :: _ =>
      match f.kind with
      | .list m _ => m == marker
      | _ => false
    | [] => false
  if goesOn then (r.makeRoom true).openFrame (.item indent)
  else ((r.makeRoom false).openFrame (.list marker start)).openFrame (.item indent)

/-! ### Going on with open blocks -/

/-- How many of the containers, outermost first, a line goes on with; `inQuote` counts those down to
the innermost quote among them. -/
def matchFrames (leaf : Bool) (matched inQuote : Nat) (c : Cursor) :
    List Frame → Nat × Nat × Cursor
  | [] => (matched, inQuote, c)
  | f :: inner =>
    match f.kind with
    | .document | .list _ _ => matchFrames leaf (matched + 1) inQuote c inner
    | .quote =>
      if c.indent ≤ 3 && c.content.head? == some '>' then
        let c := c.skipSpace.skipChars 1
        let c := if 0 < c.indent then c.skipColumns 1 else c
        matchFrames leaf (matched + 1) (matched + 1) c inner
      else (matched, inQuote, c)
    | .item indent =>
      let empty := f.children.isEmpty && inner.isEmpty && !leaf
      if c.isBlank then
        if empty then (matched, inQuote, c)
        else matchFrames leaf (matched + 1) inQuote c inner
      else if indent ≤ c.indent then
        matchFrames leaf (matched + 1) inQuote (c.skipColumns indent) inner
      else (matched, inQuote, c)
    | .footnote _ =>
      if c.isBlank then matchFrames leaf (matched + 1) inQuote c inner
      else if 4 ≤ c.indent then
        matchFrames leaf (matched + 1) inQuote (c.skipColumns 4) inner
      else (matched, inQuote, c)

/-- Notes a blank line in the containers within the innermost quote, and takes the note from all
others. -/
def markBlank (r : BlockReader) (matched inQuote : Nat) : BlockReader :=
  let frames := r.frames.reverse.zipIdx.map fun (f, i) =>
    { f with blank := inQuote ≤ i && i < matched }
  { r with frames := frames.reverse }

def unmarkBlank (r : BlockReader) : BlockReader :=
  { r with frames := r.frames.map fun f => { f with blank := false } }

/-! ### New blocks -/

/-- A line on its way through the blocks that it opens. -/
structure Opening where
  reader : BlockReader
  cursor : Cursor
  /-- The line goes on with all open blocks, and the leaf would take text. -/
  inText : Bool := false
  /-- The leaf would take text, if only because a paragraph may go on lazily. -/
  nearText : Bool := false
  /-- The line has opened a container, and closed what it does not go on with. -/
  fresh : Bool := false

inductive Opened where
  /-- A container was opened, and the rest of the line may open more. -/
  | container (o : Opening)
  /-- The line is used up. -/
  | done (r : BlockReader)
  /-- The rest of the line is text. -/
  | text (o : Opening)

/-- Turns an open paragraph into a heading, if it holds more than definitions. -/
def underlined? (r : BlockReader) (level : Nat) : Option BlockReader :=
  match r.leaf with
  | .paragraph lines =>
    let (r', text) := r.settle lines
    if text.isEmpty then Option.none
    else some ({ r' with leaf := .none }.addBlock (.heading level (trimLine text)))
  | _ => Option.none

/-- Turns the last line of an open paragraph into the head of a table. If there is text above it, it
begins with a bar. -/
def tableBelow? (r : BlockReader) (line : List Char) : Option BlockReader := do
  let .paragraph (head :: above) := r.leaf | Option.none
  let columns ← alignments? line
  if !hasBar head || (cells head).length != columns.length then Option.none
  else if above.isEmpty then some { r with leaf := .table columns head [] }
  else if head.head? == some '|' then
    some (({ r with leaf := .paragraph above }).openLeaf (.table columns head []))
  else Option.none

/-- Looks at what a line begins. `closed` closes the blocks that the line does not go on with. -/
def openNext (l : Line) (o : Opening) (closed : BlockReader → BlockReader) : Opened :=
  let r := o.reader
  let c := o.cursor
  let cs := c.content
  let done (r : BlockReader) : Opened := .done r
  let deeper (r : BlockReader) (c : Cursor) : Opened :=
    .container { reader := r, cursor := c, fresh := true }
  let lineEnd : List Char := if l.ended then ['\n'] else []
  if cs.isEmpty then .text o
  else if 4 ≤ c.indent then
    if o.nearText then .text o
    else done ((closed r).openLeaf (.indented [(c.skipColumns 4).text ++ lineEnd]))
  else if cs.head? == some '>' then
    let c := c.skipSpace.skipChars 1
    let c := if 0 < c.indent then c.skipColumns 1 else c
    deeper (((closed r).makeRoom false).openFrame .quote) c
  else
    match heading? cs, fence? cs with
    | some (level, text), _ => done (((closed r).makeRoom false).addBlock (.heading level text))
    | _, some (mark, length, info) =>
      done ((closed r).openLeaf (.fenced mark length c.indent (trimLine info) []))
    | _, _ =>
      let html : Option HtmlEnd :=
        match cs with
        | '<' :: rest =>
          (knownHtml? rest).or
            (if !o.nearText && isLoneTag rest then some .blankLine else Option.none)
        | _ => Option.none
      match html with
      | some ending =>
        let line := c.text ++ lineEnd
        let r := (closed r).openLeaf (.html ending [line])
        done (if ending.closes cs then r.closeLeaf else r)
      | Option.none =>
        let underlined := if o.inText then (underline? cs).bind r.underlined? else Option.none
        match underlined with
        | some r => done r
        | Option.none =>
          if isRule cs then done (((closed r).makeRoom false).addBlock .rule)
          else
            match marker? cs with
            | some (marker, start, width) =>
              let bullet : Bool :=
                match marker with
                | .bullet _ => true
                | .number _ => false
              let after := c.skipSpace.skipChars width
              if o.inText && (after.isBlank || (!bullet && start != 1)) then .text o
              else
                let space := after.indent
                let gap := if after.isBlank || 5 ≤ space then 1 else space
                deeper ((closed r).openItem marker start (c.indent + width + gap))
                  (after.skipColumns gap)
            | Option.none =>
              match footnoteStart? cs with
              | some (label, rest) =>
                let r := closed r
                let r :=
                  match r.frames with
                  | f :: _ =>
                    match f.kind with
                    | .footnote _ => r.closeFrame
                    | _ => r
                  | [] => r
                let r := (r.makeRoom false).openFrame (.footnote (String.ofList label))
                let footnotes := normalizeLabel label :: r.definitions.footnotes
                let used := cs.length - rest.length
                deeper { r with definitions := { r.definitions with footnotes } }
                  (c.skipSpace.skipChars used)
              | Option.none => .text o

/-- Opens blocks until the rest of the line is text; every container takes a character at least. -/
def openAll (l : Line) (o : Opening) (closed : BlockReader → BlockReader) : Nat → Opened
  | 0 => .text o
  | fuel + 1 =>
    match openNext l o closed with
    | .container o => openAll l o id fuel
    | other => other

/-! ### Lines -/

/-- Gives a line to the leaf, if all blocks are gone on with and the leaf takes it. -/
def continueLeaf? (r : BlockReader) (l : Line) (c : Cursor) : Option BlockReader :=
  let lineEnd : List Char := if l.ended then ['\n'] else []
  match r.leaf with
  | .fenced mark length indent info lines =>
    if c.indent ≤ 3 && closesFence mark length c.content then some r.closeLeaf
    else
      let line := (c.skipColumns (min indent c.indent)).text ++ lineEnd
      some { r with leaf := .fenced mark length indent info (line :: lines) }
  | .html ending lines =>
    if ending == .blankLine && c.isBlank then Option.none
    else
      let r := { r with leaf := .html ending ((c.text ++ lineEnd) :: lines) }
      some (if ending.closes c.text then r.closeLeaf else r)
  | .indented lines =>
    if 4 ≤ c.indent && !c.isBlank then
      some { r with leaf := .indented (((c.skipColumns 4).text ++ lineEnd) :: lines) }
    else Option.none
  | _ => Option.none

/-- A blank line. Indented code keeps it, everything else that takes text ends with it. -/
def blankLine (r : BlockReader) (matched inQuote : Nat) (all : Bool) (l : Line) (c : Cursor) :
    BlockReader :=
  let lineEnd : List Char := if l.ended then ['\n'] else []
  let r :=
    match r.leaf with
    | .indented lines =>
      if all then { r with leaf := .indented (((c.skipColumns 4).text ++ lineEnd) :: lines) }
      else r
    | _ => if all then r.closeLeaf else r
  let r := if all then r else r.closeTo matched
  r.markBlank matched inQuote

/-- Text that opens no block. -/
def textLine (r : BlockReader) (cs : List Char) : BlockReader :=
  match r.leaf with
  | .paragraph lines => { r with leaf := .paragraph (cs :: lines) }
  | .table columns head rows => { r with leaf := .table columns head (cs :: rows) }
  | _ => r.openLeaf (.paragraph [cs])

def isParagraph (r : BlockReader) : Bool :=
  match r.leaf with
  | .paragraph _ => true
  | _ => false

def isTable (r : BlockReader) : Bool :=
  match r.leaf with
  | .table _ _ _ => true
  | _ => false

def readLine (r : BlockReader) (l : Line) : BlockReader :=
  let hasLeaf : Bool :=
    match r.leaf with
    | .none => false
    | _ => true
  let (matched, inQuote, c) := matchFrames hasLeaf 0 0 { rest := l.chars } r.frames.reverse
  let all := matched == r.frames.length
  match if all then r.continueLeaf? l c else Option.none with
  | some r => r.unmarkBlank
  | Option.none =>
    if c.isBlank then r.blankLine matched inQuote all l c
    else
      match if all && c.indent ≤ 3 then r.tableBelow? c.content else Option.none with
      | some r => r.unmarkBlank
      | Option.none =>
        let closed (r : BlockReader) : BlockReader := if all then r else r.closeTo matched
        let takesText := r.isParagraph || (all && r.isTable)
        let opening : Opening :=
          { reader := r, cursor := c, inText := all && takesText, nearText := takesText }
        let r :=
          match openAll l opening closed (l.chars.length + 1) with
          | .done r => r
          | .container o => o.reader
          | .text o =>
            let cs := o.cursor.content
            if cs.isEmpty then o.reader
            else if o.nearText || o.fresh then o.reader.textLine cs
            else (closed o.reader).textLine cs
        r.unmarkBlank

def readAll (ls : List Line) : BlockReader := (ls.foldl readLine {}).closeTo 1 |>.closeLeaf

/-- The blocks of the document. -/
def blocks (r : BlockReader) : List RawBlock :=
  match r.frames.getLast? with
  | some f => f.children.reverse
  | Option.none => []

end BlockReader

/-! ### Documents -/

mutual

/-- Reads the text of a block. -/
def readText (d : Definitions) : RawBlock → Block (List Inline)
  | .rule => .rule
  | .heading level content => .heading level (inlines d content)
  | .paragraph content => .paragraph (inlines d content)
  | .code info content => .code info content
  | .html raw => .html raw
  | .quote content => .quote (readTexts d content)
  | .list start tight items => .list start tight (readItems d items)
  | .table columns head rows =>
    .table columns (head.map (inlines d)) (rows.map (·.map (inlines d)))
  | .footnote label content => .footnote label (readTexts d content)

def readTexts (d : Definitions) : List RawBlock → List (Block (List Inline))
  | [] => []
  | b :: rest => readText d b :: readTexts d rest

def readItems (d : Definitions) : List (List RawBlock) → List (List (Block (List Inline)))
  | [] => []
  | i :: rest => readTexts d i :: readItems d rest

end

/-- A text with newlines only at the ends of lines, and without characters that are not allowed. -/
def normalizeText : List Char → List Char
  | [] => []
  | '\r' :: '\n' :: rest => '\n' :: normalizeText rest
  | c :: rest =>
    (if c = '\r' then '\n' else if c = '\x00' then '\ufffd' else c) :: normalizeText rest

/-- The blocks of a text. -/
def document (text : String) : List (Block (List Inline)) :=
  let r := BlockReader.readAll (splitLines [] (normalizeText text.toList))
  readTexts r.definitions r.blocks

end RefDoc.Markdown
