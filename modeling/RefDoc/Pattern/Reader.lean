import RefDoc.Pattern.Bracket
import RefDoc.Pattern.Match
import RefDoc.Pattern.Size

/-!
# Reading patterns

The text of a pattern is read from left to right with the groups that are open. A flag holds to the
end of the group that sets it, through all further alternatives. Patterns with look-around or back
references, and patterns nested too deeply or too large to use, are refused.
-/

namespace RefDoc

open Text

namespace PatternReader

/-- A part of a branch, with the depth of its nesting. -/
structure Item where
  pattern : Pattern
  depth : Nat := 0
  /-- Only sets flags, and cannot be repeated. -/
  bare : Bool := false

/-- What is being read: the flags in force, the items of the branch, and the branches before it,
both backwards. -/
structure Group where
  flags : PatternFlags := {}
  items : List Item := []
  branches : List Item := []

namespace Group

def deepest (l : List Item) : Nat := (l.map (·.depth)).foldl max 0

def push (g : Group) (i : Item) : Group := { g with items := i :: g.items }

/-- The branch as one item. -/
def branch (g : Group) : Item :=
  match g.items with
  | [] => { pattern := .empty }
  | [i] => i
  | items =>
    { pattern := .seqs (items.reverse.map (·.pattern)), depth := deepest items + 1 }

def nextBranch (g : Group) : Group := { g with items := [], branches := g.branch :: g.branches }

/-- All branches as one item. -/
def whole (g : Group) : Item :=
  match g.branches with
  | [] => g.branch
  | branches =>
    let all := g.branch :: branches
    { pattern := .alts (all.reverse.map (·.pattern)), depth := deepest all + 1 }

/-- Repeats the last item. -/
def repeatLast? (g : Group) (min : Nat) (max : Option Nat) : Option Group :=
  match g.items with
  | i :: rest =>
    if i.bare then none
    else
      let repeated : Item := { pattern := .rep i.pattern min max, depth := i.depth + 1 }
      some { g with items := repeated :: rest }
  | [] => none

end Group

structure Reader where
  group : Group := {}
  outer : List Group := []
  names : List String := []

/-! ### Groups and flags -/

def setFlag? (f : PatternFlags) (on : Bool) : Char → Option PatternFlags
  | 'i' => some { f with ignoreCase := on }
  | 'm' => some { f with multiLine := on }
  | 's' => some { f with dotAll := on }
  | 'R' => some { f with crlf := on }
  | 'u' => some { f with unicode := on }
  | 'x' => some { f with spaced := on }
  | 'U' => some f
  | _ => none

/-- Flags up to a colon, behind which a group follows, or a closing parenthesis. A hyphen turns the
flags behind it off; no flag may come twice. -/
def flags? (f : PatternFlags) (seen : List Char) :
    List Char → Option (PatternFlags × Bool × List Char)
  | [] => none
  | c :: rest =>
    if c = ':' || c = ')' then
      if seen.head? = some '-' || (c = ')' && seen.isEmpty) then none
      else some (f, c = ':', rest)
    else if seen.contains c then none
    else if c = '-' then flags? f ('-' :: seen) rest
    else do flags? (← setFlag? f (!seen.contains '-') c) (c :: seen) rest

def isNameStart (c : Char) : Bool := c == '_' || isAlphabetic c

def isNamePart (c : Char) : Bool :=
  isNameStart c || c == '.' || c == '[' || c == ']' || isNumeric c

/-- The name of a group, up to its closing angle. -/
def groupName? (cs : List Char) : Option (String × List Char) :=
  match cs.takeWhile (· ≠ '>'), cs.dropWhile (· ≠ '>') with
  | c :: name, _ :: rest =>
    if isNameStart c && name.all isNamePart then some (String.ofList (c :: name), rest) else none
  | _, _ => none

namespace Reader

def openGroup (r : Reader) (flags : PatternFlags) : Reader :=
  { r with group := { flags }, outer := r.group :: r.outer }

def openNamed? (r : Reader) (cs : List Char) : Option (Reader × List Char) := do
  let (name, rest) ← groupName? cs
  if r.names.contains name then none
  else some ({ r.openGroup r.group.flags with names := name :: r.names }, rest)

/-- What an opening parenthesis begins. -/
def parenthesis? (r : Reader) (cs : List Char) : Option (Reader × List Char) :=
  let f := r.group.flags
  match f.skipSpace cs with
  | '?' :: '=' :: _ | '?' :: '!' :: _ | '?' :: '<' :: '=' :: _ | '?' :: '<' :: '!' :: _ => none
  | '?' :: 'P' :: '<' :: rest | '?' :: '<' :: rest => r.openNamed? rest
  | '?' :: rest => do
    let (flags, opens, rest) ← flags? f [] rest
    if opens then some (r.openGroup flags, rest)
    else
      let group := { r.group with flags }.push { pattern := .empty, bare := true }
      some ({ r with group }, rest)
  | cs => some (r.openGroup f, cs)

def closeGroup? (r : Reader) : Option Reader :=
  match r.outer with
  | [] => none
  | parent :: outer =>
    let inside := r.group.whole
    some { r with
      group := parent.push { pattern := inside.pattern, depth := inside.depth + 1 }
      outer }

end Reader

/-! ### Single characters -/

def dot (f : PatternFlags) : CharSet :=
  if f.dotAll then .property .any
  else if f.crlf then .compl (.ranges [('\n', '\n'), ('\r', '\r')])
  else .compl (.single '\n')

def lineStart (f : PatternFlags) : Assertion :=
  if !f.multiLine then .textStart else if f.crlf then .anyLineStart else .lineStart

def lineEnd (f : PatternFlags) : Assertion :=
  if !f.multiLine then .textEnd else if f.crlf then .anyLineEnd else .lineEnd

/-- A primitive as a pattern. Without the Unicode flag, nothing may match a part of a character. -/
def ofPrimitive? (f : PatternFlags) : Primitive → Option Pattern
  | .literal c byte =>
    if !f.unicode && byte && 0x80 ≤ c.toNat then none else some (.char (f.fold (.single c)))
  | .set s => if !f.unicode && s.contains (Char.ofNat 0x80) then none else some (.char s)
  | .assertion a => some (.assertion a)

/-! ### Repetition -/

/-- A decimal number, with blanks around it. -/
def count? (f : PatternFlags) (cs : List Char) : Option (Nat × List Char) := do
  let cs := cs.dropWhile isBlank
  let shown := if f.spaced then cs.filter (!isBlank ·) else cs
  let digits := shown.takeWhile isAsciiDigit
  let after := cs.dropWhile fun c => isAsciiDigit c || (f.spaced && isBlank c)
  let n ← decimal? digits
  if n < 0x100000000 then some (n, f.skipSpace (after.dropWhile isBlank)) else none

/-- The numbers of a counted repetition, behind its opening brace. -/
def counts? (f : PatternFlags) (cs : List Char) : Option (Nat × Option Nat × List Char) := do
  let (min, cs) ← count? f (f.skipSpace cs)
  match cs with
  | '\x7d' :: rest => some (min, some min, f.skipSpace rest)
  | ',' :: rest =>
    match f.skipSpace rest with
    | '\x7d' :: rest => some (min, none, f.skipSpace rest)
    | rest => do
      let (max, cs) ← count? f rest
      let '\x7d' :: rest := cs | none
      if max < min then none else some (min, some max, f.skipSpace rest)
  | _ => none

def skipLazy : List Char → List Char
  | '?' :: rest => rest
  | cs => cs

namespace Reader

/-- Repeats what was read last, whether greedily or not. -/
def repeat? (r : Reader) (min : Nat) (max : Option Nat) (rest : List Char) :
    Option (Reader × List Char) := do
  some ({ r with group := ← r.group.repeatLast? min max }, skipLazy rest)

def push (r : Reader) (i : Item) : Reader := { r with group := r.group.push i }

/-- Takes the next part, a character at least. -/
def next? (r : Reader) (c : Char) (rest : List Char) : Option (Reader × List Char) :=
  let f := r.group.flags
  match c with
  | '(' => r.parenthesis? rest
  | ')' => do some (← r.closeGroup?, rest)
  | '|' => some ({ r with group := r.group.nextBranch }, rest)
  | '[' => do
    let (s, depth, rest) ← bracketed? f rest
    some (r.push { pattern := .char s, depth }, rest)
  | '?' => r.repeat? 0 (some 1) rest
  | '*' => r.repeat? 0 none rest
  | '+' => r.repeat? 1 none rest
  | '\x7b' => do
    let (min, max, rest) ← counts? f rest
    r.repeat? min max rest
  | '.' => do some (r.push { pattern := ← ofPrimitive? f (.set (dot f)) }, rest)
  | '^' => some (r.push { pattern := .assertion (lineStart f) }, rest)
  | '$' => some (r.push { pattern := .assertion (lineEnd f) }, rest)
  | '\\' => do
    let (p, rest) ← escape? f rest
    some (r.push { pattern := ← ofPrimitive? f p }, rest)
  | c => do some (r.push { pattern := ← ofPrimitive? f (.literal c false) }, rest)

/-- Reads to the end; every step takes a character at least. -/
def run? (fuel : Nat) (r : Reader) (cs : List Char) : Option Item :=
  match r.group.flags.skipSpace cs with
  | [] => if r.outer.isEmpty then some r.group.whole else none
  | c :: rest =>
    match fuel with
    | 0 => none
    | fuel + 1 => do
      let (r, rest) ← r.next? c rest
      run? fuel r rest

end Reader

end PatternReader

namespace Pattern

/-- The deepest nesting a pattern may have. -/
def depthLimit : Nat := 250

/-- The pattern a text stands for, if it is one that can be used. -/
def ofText? (text : String) : Option Pattern := do
  let cs := text.toList
  let item ← PatternReader.Reader.run? cs.length {} cs
  if item.depth ≤ depthLimit && item.pattern.weight ≤ weightLimit then some item.pattern else none

end Pattern

end RefDoc
