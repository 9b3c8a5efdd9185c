import RefDoc.Markdown.Reader
import RefDoc.Text.Escaped

/-!
# Documents as HTML

Every block begins on a line of its own. Footnotes are numbered in the order in which they are met,
be it by a mark or by the note.
-/

namespace RefDoc.Markdown

open Text

/-- What was written so far. -/
structure Page where
  text : String := ""
  /-- The last character was a newline, or nothing was written. -/
  atLineStart : Bool := true
  /-- The labels of the footnotes met so far, in order. -/
  notes : List String := []

namespace Page

def write (p : Page) (s : String) : Page :=
  if s.isEmpty then p
  else { p with text := p.text ++ s, atLineStart := s.toList.getLast? == some '\n' }

/-- Writes on a new line. -/
def writeLine (p : Page) (s : String) : Page := (if p.atLineStart then p else p.write "\n").write s

/-- The number of a footnote. -/
def number (p : Page) (label : String) : Page × Nat :=
  match p.notes.findIdx? (· == label) with
  | some i => (p, i + 1)
  | none => ({ p with notes := p.notes ++ [label] }, p.notes.length + 1)

def titleAttribute (title : String) : String :=
  if title.isEmpty then "" else "\" title=\"" ++ escapeValue title

mutual

/-- The text that stands for an image. -/
def plain (p : Page) : Inline → Page
  | .text s | .code s | .html s => p.write (escapeValue s)
  | .softBreak | .hardBreak => p.write " "
  | .emphasis l | .strong l | .deleted l | .link _ _ l | .image _ _ l => plainAll p l
  | .footnote label =>
    let (p, n) := p.number label
    p.write s!"[{n}]"

def plainAll (p : Page) : List Inline → Page
  | [] => p
  | i :: rest => plainAll (plain p i) rest

end

mutual

def inline (p : Page) : Inline → Page
  | .text s => p.write (escapeBody s)
  | .code s => p.write ("<code>" ++ escapeBody s ++ "</code>")
  | .html s => p.write s
  | .softBreak => p.write "\n"
  | .hardBreak => p.write "<br />\n"
  | .emphasis l => (inlineAll (p.write "<em>") l).write "</em>"
  | .strong l => (inlineAll (p.write "<strong>") l).write "</strong>"
  | .deleted l => (inlineAll (p.write "<del>") l).write "</del>"
  | .link url title l =>
    let p := p.write ("<a href=\"" ++ escapeAddress url ++ titleAttribute title ++ "\">")
    (inlineAll p l).write "</a>"
  | .image url title l =>
    let p := p.write ("<img src=\"" ++ escapeAddress url ++ "\" alt=\"")
    (plainAll p l).write (titleAttribute title ++ "\" />")
  | .footnote label =>
    let (p, n) := p.number label
    p.write ("<sup class=\"footnote-reference\"><a href=\"#" ++ escapeValue label ++ "\">" ++
      toString n ++ "</a></sup>")

def inlineAll (p : Page) : List Inline → Page
  | [] => p
  | i :: rest => inlineAll (inline p i) rest

end

/-- The class of code by the first word of its info. -/
def codeStart (info : Option String) : String :=
  let language := (info.getD "").toList.takeWhile (· ≠ ' ')
  if language.isEmpty then "<pre><code>"
  else "<pre><code class=\"language-" ++ escapeValue (String.ofList language) ++ "\">"

def alignmentStyle : Alignment → String
  | .unset => ">"
  | .left => " style=\"text-align: left\">"
  | .center => " style=\"text-align: center\">"
  | .right => " style=\"text-align: right\">"

/-- The cells of a row. -/
def cells (tag : String) (p : Page) : List Alignment → List (List Inline) → Page
  | a :: columns, content :: rest =>
    let p := p.write ("<" ++ tag ++ alignmentStyle a)
    cells tag ((inlineAll p content).write ("</" ++ tag ++ ">")) columns rest
  | _, _ => p

def table (p : Page) (columns : List Alignment) (head : List (List Inline))
    (rows : List (List (List Inline))) : Page :=
  let p := cells "th" (p.write "<table><thead><tr>") columns head
  let p := p.write "</tr></thead><tbody>\n"
  let p := rows.foldl (fun p row => (cells "td" (p.write "<tr>") columns row).write "</tr>\n") p
  p.write "</tbody></table>\n"

mutual

/-- Writes a block; in a tight list, paragraphs are their text only. -/
def block (tight : Bool) (p : Page) : Block (List Inline) → Page
  | .rule => p.writeLine "<hr />\n"
  | .heading level content =>
    (inlineAll (p.writeLine s!"<h{level}>") content).write s!"</h{level}>\n"
  | .paragraph content =>
    if tight then inlineAll p content
    else (inlineAll (p.writeLine "<p>") content).write "</p>\n"
  | .code info content =>
    ((p.writeLine (codeStart info)).write (escapeBody content)).write "</code></pre>\n"
  | .html raw => p.write raw
  | .quote content =>
    (blocks false (p.writeLine "<blockquote>\n") content).write "</blockquote>\n"
  | .list start tight content =>
    let opening : String :=
      match start with
      | none => "<ul>\n"
      | some 1 => "<ol>\n"
      | some n => s!"<ol start=\"{n}\">\n"
    let p := items tight (p.writeLine opening) content
    p.write (if start.isSome then "</ol>\n" else "</ul>\n")
  | .table columns head rows => table p columns head rows
  | .footnote label content =>
    let p := p.writeLine
      ("<div class=\"footnote-definition\" id=\"" ++ escapeValue label ++
        "\"><sup class=\"footnote-definition-label\">")
    let (p, n) := p.number label
    (blocks false (p.write (toString n ++ "</sup>")) content).write "</div>\n"

def blocks (tight : Bool) (p : Page) : List (Block (List Inline)) → Page
  | [] => p
  | b :: rest => blocks tight (block tight p b) rest

def items (tight : Bool) (p : Page) : List (List (Block (List Inline))) → Page
  | [] => p
  | i :: rest => items tight ((blocks tight (p.writeLine "<li>") i).write "</li>\n") rest

end

end Page

/-- The HTML of a Markdown text. -/
def toHtml (text : String) : String := (Page.blocks false {} (document text)).text

end RefDoc.Markdown
