import RefDoc.Json.Basic
import RefDoc.Text.Quoted

/-!
# Read JSON

What reading a text gives: a tree whose nodes know where they stand. A place where the text stops
being JSON is a leaf of the tree, so whoever goes through the tree meets faults in the order of the
text. Values that do not come from a text have such a tree as well (`ofJson`); its marks mean
nothing.
-/

namespace RefDoc.Json

inductive SyntaxError where
  | eofInList
  | eofInObject
  | eofInString
  | eofInValue
  | expectedColon
  | expectedListCommaOrEnd
  | expectedObjectCommaOrEnd
  | expectedIdent
  | expectedValue
  | invalidEscape
  | invalidNumber
  | numberOutOfRange
  | controlCharacter
  | keyMustBeString
  | loneSurrogate
  | trailingComma
  | trailingCharacters
  | unexpectedEndOfEscape
  | recursionLimit
  deriving DecidableEq, Repr, Inhabited

def SyntaxError.message : SyntaxError → String
  | .eofInList => "EOF while parsing a list"
  | .eofInObject => "EOF while parsing an object"
  | .eofInString => "EOF while parsing a string"
  | .eofInValue => "EOF while parsing a value"
  | .expectedColon => "expected `:`"
  | .expectedListCommaOrEnd => "expected `,` or `]`"
  | .expectedObjectCommaOrEnd => "expected `,` or `\x7d`"
  | .expectedIdent => "expected ident"
  | .expectedValue => "expected value"
  | .invalidEscape => "invalid escape"
  | .invalidNumber => "invalid number"
  | .numberOutOfRange => "number out of range"
  | .controlCharacter => "control character (\\u0000-\\u001F) found while parsing a string"
  | .keyMustBeString => "key must be a string"
  | .loneSurrogate => "lone leading surrogate in hex escape"
  | .trailingComma => "trailing comma"
  | .trailingCharacters => "trailing characters"
  | .unexpectedEndOfEscape => "unexpected end of hex escape"
  | .recursionLimit => "recursion limit exceeded"

/-- A place in a text: the line, from 1, and the bytes of that line before it. -/
structure Mark where
  line : Nat
  column : Nat
  deriving DecidableEq, Repr, Inhabited

namespace Mark

def start : Mark := ⟨1, 0⟩

/-- The place behind a character. -/
def past (m : Mark) (c : Char) : Mark :=
  if c = '\n' then ⟨m.line + 1, 0⟩ else ⟨m.line, m.column + c.utf8Size⟩

/-- The place behind the first byte of a character. -/
def pastByte (m : Mark) (c : Char) : Mark :=
  if c = '\n' then ⟨m.line + 1, 0⟩ else ⟨m.line, m.column + 1⟩

end Mark

/-- A fault of the text. Skipping a value is more lenient than reading it, and may name the same
fault differently. -/
structure Fault where
  strict : SyntaxError
  lenient : SyntaxError
  mark : Mark
  deriving DecidableEq, Repr, Inhabited

inductive Scalar where
  | null
  | bool (value : Bool)
  | number (value : Number)
  | string (value : String)
  deriving DecidableEq, Repr

/-- How the members of an object or the items of an array end. -/
inductive Ending where
  | closed (stop : Mark)
  | broken (fault : Fault)
  /-- A fault before the end hides it. -/
  | unread
  deriving Repr

/-- An item of an array. `resume` is where a reader that gives up after it stands, having tried to
close the array; `left` is what closing the array there reports. -/
structure Item (α : Type) where
  value : α
  resume : Mark
  left : Option Fault
  deriving Repr

/-- A member of an object, with the places where a reader stands that gives up after the key or
after the value, having tried to close the object. `keyFault` is what a strict reader minds about
the key. -/
structure Member (α : Type) where
  key : String
  keyFault : Option Fault
  afterKey : Mark
  value : α
  afterValue : Mark
  deriving Repr

inductive Tree where
  | scalar (value : Scalar) (stop : Mark)
  | array (start : Mark) (items : List (Item Tree)) (ending : Ending)
  | object (start : Mark) (members : List (Member Tree)) (ending : Ending)
  | fault (fault : Fault)
  /-- Reading fails here, skipping goes on as `skipped` says. -/
  | strained (fault : Fault) (skipped : Tree)
  deriving Repr

instance : Inhabited Tree := ⟨.scalar .null .start⟩

mutual

/-- The tree of a value. -/
def Tree.ofJson : Json → Tree
  | .null => .scalar .null default
  | .bool b => .scalar (.bool b) default
  | .number n => .scalar (.number n) default
  | .string s => .scalar (.string s) default
  | .array items => .array default (Tree.ofItems items) (.closed default)
  | .object members => .object default (Tree.ofMembers members) (.closed default)

def Tree.ofItems : List Json → List (Item Tree)
  | [] => []
  | v :: rest => ⟨Tree.ofJson v, default, none⟩ :: Tree.ofItems rest

def Tree.ofMembers : List (String × Json) → List (Member Tree)
  | [] => []
  | (key, v) :: rest => ⟨key, none, default, Tree.ofJson v, default⟩ :: Tree.ofMembers rest

end

end RefDoc.Json
