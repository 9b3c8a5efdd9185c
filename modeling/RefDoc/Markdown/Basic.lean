/-!
# Markdown documents

A document is a list of blocks; the text of a block is a list of inline elements.
-/

namespace RefDoc.Markdown

inductive Inline where
  | text (content : String)
  | code (content : String)
  | html (raw : String)
  | softBreak
  | hardBreak
  | emphasis (content : List Inline)
  | strong (content : List Inline)
  | deleted (content : List Inline)
  | link (target title : String) (content : List Inline)
  | image (target title : String) (content : List Inline)
  /-- A mark that refers to the footnote with a label. -/
  | footnote (label : String)
  deriving Repr, Inhabited

inductive Alignment where
  | unset
  | left
  | center
  | right
  deriving DecidableEq, Repr, Inhabited

/-- Blocks whose text is of type `α`: raw text at first, inline elements in the end. -/
inductive Block (α : Type) where
  | rule
  | heading (level : Nat) (content : α)
  | paragraph (content : α)
  /-- The first word of `info` names a language; a block without info was indented. -/
  | code (info : Option String) (content : String)
  | html (raw : String)
  | quote (content : List (Block α))
  /-- A list with numbers from `start`, or with bullets. A tight list does not mark paragraphs. -/
  | list (start : Option Nat) (tight : Bool) (items : List (List (Block α)))
  | table (columns : List Alignment) (head : List α) (rows : List (List α))
  | footnote (label : String) (content : List (Block α))
  deriving Repr, Inhabited

/-- Where a link leads, and its title. -/
structure Target where
  url : String
  title : String
  deriving DecidableEq, Repr, Inhabited

/-- What a document defines for use anywhere in it. -/
structure Definitions where
  /-- Links by their normalized labels; the first definition of a label counts. -/
  links : List (String × Target) := []
  /-- The normalized labels of footnotes. -/
  footnotes : List String := []
  deriving Inhabited

end RefDoc.Markdown
