import RefDoc.Pattern.Basic
import RefDoc.Pattern.Property

/-!
# Escapes and bracketed sets

The parts of a pattern's text that stand for one character or one place: a backslash and what
belongs to it, and a set in brackets, in which sets may be nested and joined by operators.
-/

namespace RefDoc

open Text

/-- What the flags in force say. -/
structure PatternFlags where
  ignoreCase : Bool := false
  multiLine : Bool := false
  dotAll : Bool := false
  crlf : Bool := false
  unicode : Bool := true
  /-- Blanks and comments are skipped. -/
  spaced : Bool := false
  deriving DecidableEq, Repr

namespace PatternFlags

def fold (f : PatternFlags) (s : CharSet) : CharSet :=
  if !f.ignoreCase then s else if f.unicode then .foldCase s else .foldAscii s

def skipSpaceFrom (inComment : Bool) : List Char → List Char
  | [] => []
  | c :: rest =>
    if inComment then skipSpaceFrom (c != '\n') rest
    else if isBlank c then skipSpaceFrom false rest
    else if c = '#' then skipSpaceFrom true rest
    else c :: rest

def skipSpace (f : PatternFlags) (cs : List Char) : List Char :=
  if f.spaced then skipSpaceFrom false cs else cs

end PatternFlags

/-- What one character or escape stands for. -/
inductive Primitive where
  /-- `byte` says that the character is given as a byte. -/
  | literal (c : Char) (byte : Bool)
  | set (s : CharSet)
  | assertion (a : Assertion)

namespace PatternReader

/-! ### Numbers -/

def isHex (c : Char) : Bool :=
  isAsciiDigit c || ('a' ≤ c && c ≤ 'f') || ('A' ≤ c && c ≤ 'F')

def hexValue (digits : List Char) : Nat :=
  digits.foldl (fun n c =>
    n * 16 + (if isAsciiDigit c then c.toNat - 48 else (asciiLower c).toNat - 87)) 0

def charOf? (n : Nat) : Option Char := if n.isValidChar then some (Char.ofNat n) else none

/-- The given number of hexadecimal digits. -/
def hexDigits? (f : PatternFlags) : Nat → List Char → Option (List Char × List Char)
  | 0, cs => some ([], cs)
  | n + 1, c :: rest =>
    if isHex c then (hexDigits? f n (f.skipSpace rest)).map fun (ds, cs) => (c :: ds, cs) else none
  | _, [] => none

/-- Hexadecimal digits up to a closing brace. -/
def hexBraced? (f : PatternFlags) (fuel : Nat) (cs : List Char) : Option (List Char × List Char) :=
  match fuel, cs with
  | _, '\x7d' :: rest => some ([], f.skipSpace rest)
  | fuel + 1, c :: rest =>
    if isHex c then (hexBraced? f fuel (f.skipSpace rest)).map fun (ds, cs) => (c :: ds, cs)
    else none
  | _, _ => none

/-- The character a code stands for, behind the letter that says how long it is. -/
def code? (f : PatternFlags) (length : Nat) (cs : List Char) : Option (Char × List Char) :=
  match f.skipSpace cs with
  | '\x7b' :: rest => do
    let (digits, cs) ← hexBraced? f rest.length (f.skipSpace rest)
    if digits.isEmpty then none else (charOf? (hexValue digits)).map fun c => (c, cs)
  | cs => do
    let (digits, cs) ← hexDigits? f length cs
    (charOf? (hexValue digits)).map fun c => (c, cs)

/-! ### Escapes -/

def isMeta (c : Char) : Bool := "\\.+*?()|[]\x7b\x7d^$#&-~".toList.contains c

/-- Characters that stand for themselves behind a backslash. -/
def isEscapable (c : Char) : Bool :=
  isMeta c ||
    (c.toNat < 0x80 && !isAsciiLetter c && !isAsciiDigit c && c != '<' && c != '>')

def perlSet (f : PatternFlags) (letter : Char) : CharSet :=
  match asciiLower letter with
  | 'd' => if f.unicode then .digit else .ranges [('0', '9')]
  | 's' => if f.unicode then .blank else .ranges [('\t', '\r'), (' ', ' ')]
  | _ =>
    if f.unicode then .word
    else .ranges [('0', '9'), ('A', 'Z'), ('_', '_'), ('a', 'z')]

/-- The set of a property, its negation by `!=` included. -/
def propertySet? (name : String) : Option CharSet :=
  match splitOnce? ['!', '='] name.toList with
  | some (name, value) =>
    (CharProperty.ofValue? (String.ofList name) (String.ofList value)).map fun p =>
      .compl (.property p)
  | none =>
    match (splitOnce? [':'] name.toList).or (splitOnce? ['='] name.toList) with
    | some (name, value) =>
      (CharProperty.ofValue? (String.ofList name) (String.ofList value)).map .property
    | none => (CharProperty.ofName? name).map .property

/-- The name of a property, in braces or of one letter. -/
def propertyName? (f : PatternFlags) (cs : List Char) : Option (String × List Char) :=
  match f.skipSpace cs with
  | '\x7b' :: rest =>
    match rest.dropWhile (· ≠ '\x7d') with
    | _ :: after =>
      let name := rest.takeWhile (· ≠ '\x7d')
      let name := if f.spaced then name.filter (!isBlank ·) else name
      some (String.ofList name, after)
    | [] => none
  | '\\' :: _ | [] => none
  | c :: rest => some (String.ofList [c], f.skipSpace rest)

/-- The special word boundary in braces behind `\b`. Nothing in braces that begins otherwise than
with a letter is one. -/
def boundaryName? (f : PatternFlags) (cs : List Char) :
    Option (Option (Assertion × List Char)) :=
  let isNameChar (c : Char) : Bool := isAsciiLetter c || c == '-'
  match cs with
  | '\x7b' :: rest =>
    match f.skipSpace rest with
    | [] => none
    | c :: rest =>
      if !isNameChar c then some none
      else
        let body := if f.spaced then (c :: rest).filter (!isBlank ·) else c :: rest
        let after := (c :: rest).dropWhile fun c => isNameChar c || (f.spaced && isBlank c)
        match after with
        | '\x7d' :: after =>
          match String.ofList (body.takeWhile isNameChar) with
          | "start" => some (some (.wordStart !f.unicode, after))
          | "end" => some (some (.wordEnd !f.unicode, after))
          | "start-half" => some (some (.beforeNoWord !f.unicode, after))
          | "end-half" => some (some (.afterNoWord !f.unicode, after))
          | _ => none
        | _ => none
  | _ => some none

/-- What follows a backslash. -/
def escape? (f : PatternFlags) (cs : List Char) : Option (Primitive × List Char) :=
  match cs with
  | [] => none
  | c :: rest =>
    if isEscapable c then some (.literal c false, rest)
    else
      match c with
      | 'x' => do
        let (ch, after) ← code? f 2 rest
        let byte := (f.skipSpace rest).head? != some '\x7b'
        some (.literal ch byte, after)
      | 'u' => (code? f 4 rest).map fun (ch, after) => (.literal ch false, after)
      | 'U' => (code? f 8 rest).map fun (ch, after) => (.literal ch false, after)
      | 'p' | 'P' => do
        if !f.unicode then none
        else
          let (name, after) ← propertyName? f rest
          let s := f.fold (← propertySet? name)
          some (.set (if c = 'P' then .compl s else s), after)
      | 'd' | 's' | 'w' => some (.set (perlSet f c), rest)
      | 'D' | 'S' | 'W' => some (.set (.compl (perlSet f c)), rest)
      | 'a' => some (.literal '\x07' false, rest)
      | 'f' => some (.literal '\x0c' false, rest)
      | 't' => some (.literal '\t' false, rest)
      | 'n' => some (.literal '\n' false, rest)
      | 'r' => some (.literal '\r' false, rest)
      | 'v' => some (.literal '\x0b' false, rest)
      | 'A' => some (.assertion .textStart, rest)
      | 'z' => some (.assertion .textEnd, rest)
      | 'b' => do
        match ← boundaryName? f rest with
        | some (a, after) => some (.assertion a, after)
        | none => some (.assertion (.boundary !f.unicode), rest)
      | 'B' => some (.assertion (.notBoundary !f.unicode), rest)
      | '<' => some (.assertion (.wordStart !f.unicode), rest)
      | '>' => some (.assertion (.wordEnd !f.unicode), rest)
      | _ => none

/-! ### Bracketed sets -/

inductive SetOperator where
  | intersection
  | difference
  | symmetricDifference
  deriving DecidableEq

/-- A set whose bracket is still open: the left side of a pending operator, and the items behind
it. -/
structure OpenSet where
  negated : Bool
  pending : Option (SetOperator × CharSet) := none
  items : CharSet := .none
  depth : Nat := 0

namespace OpenSet

def add (o : OpenSet) (s : CharSet) : OpenSet := { o with items := .union o.items s }

/-- The set so far, a pending operator applied. -/
def value (f : PatternFlags) (o : OpenSet) : CharSet :=
  match o.pending with
  | none => o.items
  | some (op, left) =>
    let left := f.fold left
    let right := f.fold o.items
    match op with
    | .intersection => .inter left right
    | .difference => .diff left right
    | .symmetricDifference => .symmDiff left right

def operator (f : PatternFlags) (o : OpenSet) (op : SetOperator) : OpenSet :=
  { o with pending := some (op, o.value f), items := .none }

def close (f : PatternFlags) (o : OpenSet) : CharSet :=
  let s := f.fold (o.value f)
  if o.negated then .compl s else s

end OpenSet

def asciiSets : List (List Char × List (Char × Char)) :=
  [("alnum".toList, [('0', '9'), ('A', 'Z'), ('a', 'z')]),
    ("alpha".toList, [('A', 'Z'), ('a', 'z')]),
    ("ascii".toList, [('\x00', '\x7f')]),
    ("blank".toList, [('\t', '\t'), (' ', ' ')]),
    ("cntrl".toList, [('\x00', '\x1f'), ('\x7f', '\x7f')]),
    ("digit".toList, [('0', '9')]),
    ("graph".toList, [('!', '~')]),
    ("lower".toList, [('a', 'z')]),
    ("print".toList, [(' ', '~')]),
    ("punct".toList, [('!', '/'), (':', '@'), ('[', '\x60'), ('\x7b', '~')]),
    ("space".toList, [('\t', '\r'), (' ', ' ')]),
    ("upper".toList, [('A', 'Z')]),
    ("word".toList, [('0', '9'), ('A', 'Z'), ('_', '_'), ('a', 'z')]),
    ("xdigit".toList, [('0', '9'), ('A', 'F'), ('a', 'f')])]

/-- A named ASCII set, behind its opening bracket. -/
def asciiSet? (f : PatternFlags) (cs : List Char) : Option (CharSet × List Char) := do
  let ':' :: body := cs | none
  let (negated, body) :=
    match body with
    | '^' :: rest => (true, rest)
    | body => (false, body)
  let ':' :: ']' :: after := body.dropWhile (· ≠ ':') | none
  let s := f.fold (.ranges (← asciiSets.lookup (body.takeWhile (· ≠ ':'))))
  some (if negated then .compl s else s, after)

/-- Hyphens at the start of a set. -/
def leadingHyphens (f : PatternFlags) (fuel : Nat) (o : OpenSet) (cs : List Char) :
    OpenSet × List Char :=
  match fuel, cs with
  | fuel + 1, '-' :: rest => leadingHyphens f fuel (o.add (.single '-')) (f.skipSpace rest)
  | _, cs => (o, cs)

/-- Opens a set behind its bracket. A closing bracket right at the start is an item. -/
def openSet? (f : PatternFlags) (cs : List Char) : Option (OpenSet × List Char) :=
  let start := f.skipSpace cs
  let (negated, cs) :=
    match start with
    | '^' :: rest => (true, f.skipSpace rest)
    | cs => (false, cs)
  let (o, after) := leadingHyphens f cs.length { negated } cs
  match after with
  | [] => none
  | ']' :: rest =>
    if cs.head? = some ']' then
      let rest := f.skipSpace rest
      if rest.isEmpty then none else some (o.add (.single ']'), rest)
    else some (o, after)
  | _ => some (o, after)

/-- One item: a character or an escape. -/
def setItem? (f : PatternFlags) : List Char → Option (Primitive × List Char)
  | '\\' :: rest => escape? f rest
  | c :: rest => some (.literal c false, rest)
  | [] => none

def itemSet? (f : PatternFlags) : Primitive → Option CharSet
  | .literal c _ => if f.unicode || c.toNat < 0x80 then some (.single c) else none
  | .set s => some s
  | .assertion _ => none

/-- An item, or a range of two. -/
def setRange? (f : PatternFlags) (cs : List Char) : Option (CharSet × List Char) := do
  let (first, rest) ← setItem? f cs
  let rest := f.skipSpace rest
  match rest with
  | '-' :: more =>
    match f.skipSpace more with
    | [] => none
    | ']' :: _ | '-' :: _ => some (← itemSet? f first, rest)
    | more =>
      let (last, rest) ← setItem? f more
      match first, last with
      | .literal a _, .literal b _ =>
        if b < a || (!f.unicode && 0x80 ≤ b.toNat) then none else some (.range a b, rest)
      | _, _ => none
  | [] => none
  | rest => some (← itemSet? f first, rest)

/-- Reads up to the bracket that closes the outermost set; `sets` are the open ones. Every step
takes a character at least. -/
def setsFrom? (f : PatternFlags) (fuel : Nat) (o : OpenSet) (outer : List OpenSet)
    (cs : List Char) : Option (CharSet × Nat × List Char) :=
  match fuel with
  | 0 => none
  | fuel + 1 =>
    match f.skipSpace cs with
    | [] => none
    | '[' :: rest =>
      match asciiSet? f rest with
      | some (s, after) => setsFrom? f fuel (o.add s) outer after
      | none => do
        let (inner, after) ← openSet? f rest
        setsFrom? f fuel inner (o :: outer) after
    | ']' :: rest =>
      match outer with
      | [] => some (o.close f, o.depth + 1, rest)
      | parent :: outer =>
        let parent := { parent.add (o.close f) with depth := max parent.depth (o.depth + 1) }
        setsFrom? f fuel parent outer rest
    | '&' :: '&' :: rest => setsFrom? f fuel (o.operator f .intersection) outer rest
    | '-' :: '-' :: rest => setsFrom? f fuel (o.operator f .difference) outer rest
    | '~' :: '~' :: rest => setsFrom? f fuel (o.operator f .symmetricDifference) outer rest
    | cs => do
      let (s, after) ← setRange? f cs
      setsFrom? f fuel (o.add s) outer after

/-- A set behind its opening bracket, with the depth of its nesting. -/
def bracketed? (f : PatternFlags) (cs : List Char) : Option (CharSet × Nat × List Char) := do
  let (o, after) ← openSet? f cs
  let (s, depth, rest) ← setsFrom? f (after.length + 1) o [] after
  if !f.unicode && s.contains (Char.ofNat 0x80) then none else some (s, depth, rest)

end PatternReader

end RefDoc
