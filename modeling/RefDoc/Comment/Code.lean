import RefDoc.Doclet.Basic
import RefDoc.Text.Blank
import RefDoc.Text.Word

/-!
# Hints from code

What the line of code behind a comment says about the documented symbol: a function or class
declaration, a variable, an assignment to a member of a prototype, of `this`, or of an object.
-/

namespace RefDoc.Comment

open Text

structure CodeHint where
  name : Option String := none
  kind : Option Kind := none
  memberOf : Option String := none
  scope : Option Scope := none
  deriving DecidableEq, Repr, Inhabited

def isIdentStart (c : Char) : Bool := isAsciiLetter c || c == '_' || c == '$'

def isIdentPart (c : Char) : Bool := isWord c || c == '$'

def isDottedPart (c : Char) : Bool := isIdentPart c || c == '.'

/-- What follows `token`, if the text starts with it. -/
def after? (token : String) (cs : List Char) : Option (List Char) :=
  if token.toList.isPrefixOf cs then some (cs.drop token.length) else none

/-- What follows the blanks at the start, if there are any. -/
def afterBlanks? (cs : List Char) : Option (List Char) :=
  match cs with
  | c :: rest => if isBlank c then some (trimStart rest) else none
  | [] => none

/-- What follows the word `token` and blanks, if the text starts so; else the text. -/
def dropModifier (token : String) (cs : List Char) : List Char :=
  ((after? token cs).bind afterBlanks?).getD cs

/-- The identifier at the start, and the rest. -/
def ident? (cs : List Char) : Option (String × List Char) :=
  match cs with
  | c :: rest =>
    if isIdentStart c then
      some (String.ofList (c :: rest.takeWhile isIdentPart), rest.dropWhile isIdentPart)
    else none
  | [] => none

/-- What follows an equals sign and the blanks around it. -/
def afterEquals? (cs : List Char) : Option (List Char) := do
  let value ← after? "=" (trimStart cs)
  some (trimStart value)

/-- The kind of symbol that has the given value. -/
def kindOfValue (keywords : List (String × Kind)) (value : List Char) : Kind :=
  ((keywords.find? fun k => k.1.toList.isPrefixOf value).map (·.2)).getD .member

/-- The symbol a declaration with the given keyword names. -/
def declared? (keyword : List Char → Option (List Char)) (kind : Kind) (cs : List Char) :
    Option CodeHint := do
  let (name, _) ← ident? (← afterBlanks? (← keyword cs))
  some { name, kind := some kind }

def functionHint? (line : List Char) : Option CodeHint :=
  let cs := dropModifier "async" (dropModifier "export" line)
  declared? (fun cs => (after? "function" cs).map fun rest => (after? "*" rest).getD rest) .function
    cs

def classHint? (line : List Char) : Option CodeHint :=
  declared? (after? "class") .classType (dropModifier "export" line)

def variableHint? (line : List Char) : Option CodeHint := do
  let cs := dropModifier "export" line
  let rest ← ["var", "let", "const"].findSome? fun keyword => after? keyword cs
  let (name, rest) ← ident? (← afterBlanks? rest)
  let value ← afterEquals? rest
  some { name, kind := some (kindOfValue [("function", .function), ("class", .classType)] value) }

/-- A dotted owner, `link`, and a member that is assigned to. The owner is as long as it can be;
`length` is the most characters it may take. -/
def ownedHint? (link : String) (scope : Scope) (line : List Char) : Nat → Option CodeHint
  | 0 => none
  | length + 1 =>
    let found : Option CodeHint := do
      let rest ← after? link (line.drop (length + 1))
      let (name, rest) ← ident? rest
      let value ← afterEquals? rest
      some
        { name
          kind := some (kindOfValue [("function", .function)] value)
          memberOf := some (String.ofList (line.take (length + 1)))
          scope := some scope }
    found.or (ownedHint? link scope line length)

def assignedHint? (link : String) (scope : Scope) (line : List Char) : Option CodeHint :=
  match line with
  | c :: rest =>
    if isIdentStart c then ownedHint? link scope line ((rest.takeWhile isDottedPart).length + 1)
    else none
  | [] => none

def thisHint? (line : List Char) : Option CodeHint := do
  let (name, rest) ← ident? (← after? "this." line)
  let _ ← afterEquals? rest
  some { name, kind := some .member, scope := some .onInstance }

/-- What a line of code says; the forms are tried in this order. -/
def hintFromCode (line : List Char) : CodeHint :=
  [functionHint? line, classHint? line, variableHint? line,
    assignedHint? ".prototype." .onInstance line, thisHint? line,
    assignedHint? "." .static line].findSome? id |>.getD {}

end RefDoc.Comment
