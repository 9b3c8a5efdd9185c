import RefDoc.Markdown.Basic
import RefDoc.Markdown.Entity
import RefDoc.Text.Blank
import RefDoc.Text.CaseVariants
import RefDoc.Text.Category

/-!
# Small parts of Markdown

Escapes, named and numbered characters, labels, link targets, titles and HTML tags. A scanner gives
what it read and the rest of the text.
-/

namespace RefDoc.Markdown

open Text

def isSpace (c : Char) : Bool := c == ' ' || c == '\t' || c == '\n' || c == '\x0b' || c == '\x0c'

def isPunctuation (c : Char) : Bool :=
  match category c with
  | .pc | .pd | .ps | .pe | .pi | .pf | .po | .sm | .sc | .sk | .so => true
  | _ => false

def isAsciiPunctuation (c : Char) : Bool := c.toNat < 0x80 && isPunctuation c

def skipSpaces (cs : List Char) : List Char := cs.dropWhile isSpace

/-- Spaces and at most one end of a line. -/
def skipSpacesAndLine (cs : List Char) : List Char :=
  let blank (c : Char) : Bool := c == ' ' || c == '\t'
  match cs.dropWhile blank with
  | '\n' :: rest => rest.dropWhile blank
  | rest => rest

/-! ### Characters by name or number -/

def hexDigit? (c : Char) : Option Nat :=
  if isAsciiDigit c then some (c.toNat - 48)
  else if 'a' ≤ c && c ≤ 'f' then some (c.toNat - 87)
  else if 'A' ≤ c && c ≤ 'F' then some (c.toNat - 55)
  else none

/-- The character with a number, or the replacement character. -/
def numbered (n : Nat) : String :=
  String.ofList [if n ≠ 0 ∧ n.isValidChar then Char.ofNat n else '\ufffd']

/-- A reference to a character, behind its ampersand. -/
def reference? (cs : List Char) : Option (String × List Char) :=
  match cs with
  | '#' :: 'x' :: rest | '#' :: 'X' :: rest =>
    let digits := rest.takeWhile fun c => (hexDigit? c).isSome
    match rest.drop digits.length with
    | ';' :: after =>
      if digits.isEmpty || 6 < digits.length then none
      else some (numbered (digits.foldl (fun n c => n * 16 + (hexDigit? c).getD 0) 0), after)
    | _ => none
  | '#' :: rest =>
    let digits := rest.takeWhile isAsciiDigit
    match rest.drop digits.length with
    | ';' :: after =>
      if 7 < digits.length then none else (decimal? digits).map fun n => (numbered n, after)
    | _ => none
  | _ =>
    let name := cs.takeWhile fun c => isAsciiLetter c || isAsciiDigit c
    match cs.drop name.length with
    | ';' :: after => (entity? (String.ofList name)).map fun text => (text, after)
    | _ => none

/-- The text that is meant by escapes and references. -/
def unescape (cs : List Char) : String := String.ofList (go cs.length cs)
where
  go : Nat → List Char → List Char
    | 0, cs => cs
    | _, [] => []
    | fuel + 1, '\\' :: c :: rest =>
      if isAsciiPunctuation c then c :: go fuel rest else '\\' :: go fuel (c :: rest)
    | fuel + 1, '&' :: rest =>
      match reference? rest with
      | some (text, after) => text.toList ++ go fuel after
      | none => '&' :: go fuel rest
    | fuel + 1, c :: rest => c :: go fuel rest

/-! ### Labels -/

/-- A character as it counts in a label, where case does not matter. -/
def foldLabelChar (c : Char) : Char :=
  (caseVariants c).foldl (fun a b => if b < a then b else a) c

/-- A label as it is looked up. -/
def normalizeLabel (cs : List Char) : String :=
  String.ofList ((joinWords (words cs)).map foldLabelChar)

/-- The inside of a label, up to its closing bracket. -/
def labelRest? (cs : List Char) : Option (List Char × List Char) := do
  let (label, rest) ← go cs.length cs
  if label.all isSpace || 999 < label.length then none else some (label, rest)
where
  go : Nat → List Char → Option (List Char × List Char)
    | 0, _ | _, [] => none
    | _, ']' :: rest => some ([], rest)
    | _, '[' :: _ => none
    | fuel + 1, '\\' :: c :: rest =>
      (go fuel rest).map fun (label, after) => ('\\' :: c :: label, after)
    | fuel + 1, c :: rest => (go fuel rest).map fun (label, after) => (c :: label, after)

/-! ### Links -/

/-- A link target between angles, behind the first. -/
def angledTarget? : Nat → List Char → Option (List Char × List Char)
  | 0, _ | _, [] => none
  | _, '>' :: rest => some ([], rest)
  | _, '<' :: _ | _, '\n' :: _ => none
  | fuel + 1, '\\' :: c :: rest =>
    if isAsciiPunctuation c then
      (angledTarget? fuel rest).map fun (url, after) => ('\\' :: c :: url, after)
    else (angledTarget? fuel (c :: rest)).map fun (url, after) => ('\\' :: url, after)
  | fuel + 1, c :: rest => (angledTarget? fuel rest).map fun (url, after) => (c :: url, after)

/-- A link target without angles: no spaces and control characters, and balanced parentheses, of
which `depth` are open. -/
def plainTarget? : Nat → Nat → List Char → Option (List Char × List Char)
  | 0, depth, cs => if depth = 0 then some ([], cs) else none
  | _, depth, [] => if depth = 0 then some ([], []) else none
  | fuel + 1, depth, '\\' :: c :: rest =>
    if isAsciiPunctuation c then
      (plainTarget? fuel depth rest).map fun (url, after) => ('\\' :: c :: url, after)
    else (plainTarget? fuel depth (c :: rest)).map fun (url, after) => ('\\' :: url, after)
  | fuel + 1, depth, c :: rest =>
    if c.toNat ≤ 0x20 || c.toNat = 0x7f then
      if depth = 0 then some ([], c :: rest) else none
    else if c = '(' then
      if 32 ≤ depth then none
      else (plainTarget? fuel (depth + 1) rest).map fun (url, after) => ('(' :: url, after)
    else if c = ')' then
      if depth = 0 then some ([], ')' :: rest)
      else (plainTarget? fuel (depth - 1) rest).map fun (url, after) => (')' :: url, after)
    else (plainTarget? fuel depth rest).map fun (url, after) => (c :: url, after)

def target? (cs : List Char) : Option (List Char × List Char) :=
  match cs with
  | '<' :: rest => angledTarget? rest.length rest
  | cs => plainTarget? cs.length 0 cs

/-- A title up to its closing character; there is no blank line in a title. -/
def titleRest? (closing : Char) : Nat → List Char → Option (List Char × List Char)
  | 0, _ | _, [] => none
  | fuel + 1, c :: rest =>
    if c = closing then some ([], rest)
    else if c = '(' && closing = ')' then none
    else
      match c, rest with
      | '\\', e :: rest =>
        if isAsciiPunctuation e then
          (titleRest? closing fuel rest).map fun (title, after) => ('\\' :: e :: title, after)
        else (titleRest? closing fuel (e :: rest)).map fun (title, after) => ('\\' :: title, after)
      | '\n', rest =>
        if (rest.dropWhile fun c => c == ' ' || c == '\t').head? == some '\n' then none
        else (titleRest? closing fuel rest).map fun (title, after) => ('\n' :: title, after)
      | c, rest => (titleRest? closing fuel rest).map fun (title, after) => (c :: title, after)

def title? : List Char → Option (List Char × List Char)
  | '"' :: rest => titleRest? '"' rest.length rest
  | '\x27' :: rest => titleRest? '\x27' rest.length rest
  | '(' :: rest => titleRest? ')' rest.length rest
  | _ => none

/-- The target and title of a link, behind the opening parenthesis. -/
def inlineTarget? (cs : List Char) : Option (Target × List Char) := do
  let (url, rest) ← target? (skipSpacesAndLine cs)
  let url := unescape url
  let spaced := skipSpacesAndLine rest
  match spaced with
  | ')' :: after => some (⟨url, ""⟩, after)
  | _ =>
    if spaced.length = rest.length then none
    else
      let (title, rest) ← title? spaced
      let ')' :: after := skipSpacesAndLine rest | none
      some (⟨url, unescape title⟩, after)

/-- Whether nothing but spaces stands on the rest of the line, and what follows the line. -/
def endOfLine? (cs : List Char) : Option (List Char) :=
  match cs.dropWhile fun c => c == ' ' || c == '\t' with
  | [] => some []
  | '\n' :: rest => some rest
  | _ => none

/-- A definition of a link, at the start of a line. -/
def definition? (cs : List Char) : Option ((String × Target) × List Char) := do
  let '[' :: cs := cs | none
  let (label, rest) ← labelRest? cs
  let ':' :: rest := rest | none
  let start := skipSpacesAndLine rest
  let (url, rest) ← target? start
  if url.isEmpty && start.head? != some '<' then none
  else
    let bare := (endOfLine? rest).map fun after =>
      ((normalizeLabel label, (⟨unescape url, ""⟩ : Target)), after)
    let spaced := skipSpacesAndLine rest
    let titled : Option ((String × Target) × List Char) := do
      if spaced.length = rest.length then none
      else
        let (title, rest) ← title? spaced
        let after ← endOfLine? rest
        some ((normalizeLabel label, ⟨unescape url, unescape title⟩), after)
    titled.or bare

/-! ### HTML -/

def isTagChar (c : Char) : Bool := isAsciiLetter c || isAsciiDigit c || c == '-'

/-- The name of a tag. -/
def tagName? : List Char → Option (List Char × List Char)
  | c :: rest =>
    if isAsciiLetter c then some (c :: rest.takeWhile isTagChar, rest.dropWhile isTagChar) else none
  | [] => none

def isAttributeStart (c : Char) : Bool := isAsciiLetter c || c == '_' || c == ':'

def isAttributePart (c : Char) : Bool :=
  isAttributeStart c || isAsciiDigit c || c == '.' || c == '-'

def isPlainValue (c : Char) : Bool :=
  !isSpace c && c != '"' && c != '\x27' && c != '=' && c != '<' && c != '>' && c != '\x60'

/-- The value of an attribute, if an equals sign comes next. -/
def attributeValue? (cs : List Char) : Option (List Char) :=
  match skipSpaces cs with
  | '=' :: rest =>
    match skipSpaces rest with
    | '"' :: rest => ((splitOnce? ['"'] rest).map (·.2))
    | '\x27' :: rest => ((splitOnce? ['\x27'] rest).map (·.2))
    | rest => if (rest.head?.any isPlainValue) then some (rest.dropWhile isPlainValue) else none
  | _ => some cs

/-- Skips attributes up to the end of a tag, and the tag's end. -/
def attributesAndEnd? : Nat → List Char → Option (List Char)
  | 0, _ => none
  | fuel + 1, cs =>
    let spaced := skipSpaces cs
    match spaced with
    | '>' :: rest => some rest
    | '/' :: '>' :: rest => some rest
    | c :: rest =>
      if spaced.length < cs.length && isAttributeStart c then do
        attributesAndEnd? fuel (← attributeValue? (rest.dropWhile isAttributePart))
      else none
    | [] => none

/-- What follows an opening tag, read behind its first angle. -/
def openTag? (cs : List Char) : Option (List Char) := do
  let (_, rest) ← tagName? cs
  attributesAndEnd? (rest.length + 1) rest

/-- What follows a closing tag, read behind its first angle. -/
def closingTag? (cs : List Char) : Option (List Char) := do
  let '/' :: rest := cs | none
  let (_, rest) ← tagName? rest
  let '>' :: rest := skipSpaces rest | none
  some rest

/-- What follows any piece of inline HTML, read behind its first angle. -/
def inlineHtml? (cs : List Char) : Option (List Char) :=
  match cs with
  | '/' :: _ => closingTag? cs
  | '!' :: '-' :: '-' :: '>' :: rest => some rest
  | '!' :: '-' :: '-' :: '-' :: '>' :: rest => some rest
  | '!' :: '-' :: '-' :: rest => (splitOnce? ['-', '-', '>'] rest).map (·.2)
  | '!' :: '[' :: 'C' :: 'D' :: 'A' :: 'T' :: 'A' :: '[' :: rest =>
    (splitOnce? [']', ']', '>'] rest).map (·.2)
  | '!' :: c :: rest =>
    if isAsciiLetter c then (splitOnce? ['>'] rest).map (·.2) else none
  | '?' :: rest => (splitOnce? ['?', '>'] rest).map (·.2)
  | cs => openTag? cs

/-- An address that is a link by its scheme, behind the first angle. -/
def uriLink? (cs : List Char) : Option (List Char × List Char) :=
  let isSchemeChar (c : Char) : Bool :=
    isAsciiLetter c || isAsciiDigit c || c == '+' || c == '.' || c == '-'
  let scheme := cs.takeWhile isSchemeChar
  if !(scheme.head?.any isAsciiLetter) || scheme.length < 2 || 32 < scheme.length then none
  else
    match cs.drop scheme.length with
    | ':' :: rest =>
      let isPart (c : Char) : Bool := 0x20 < c.toNat && c.toNat != 0x7f && c != '<' && c != '>'
      let body := rest.takeWhile isPart
      match rest.drop body.length with
      | '>' :: after => some (scheme ++ ':' :: body, after)
      | _ => none
    | _ => none

/-- A label of a host name. -/
def isHostLabel (cs : List Char) : Bool :=
  let isEnd (c : Char) : Bool := isAsciiLetter c || isAsciiDigit c
  cs.head?.any isEnd && cs.getLast?.any isEnd && cs.length ≤ 63 &&
    cs.all fun c => isEnd c || c == '-'

/-- An address of a mailbox, behind the first angle. -/
def mailLink? (cs : List Char) : Option (List Char × List Char) :=
  let isLocal (c : Char) : Bool :=
    isAsciiLetter c || isAsciiDigit c || ".!#$%&'*+/=?^_\x60\x7b|\x7d~-".toList.contains c
  let name := cs.takeWhile isLocal
  match cs.drop name.length with
  | '@' :: rest =>
    let host := rest.takeWhile (· ≠ '>')
    match rest.drop host.length with
    | '>' :: after =>
      if name.isEmpty || !(splitAll (· == '.') host).all isHostLabel then none
      else some (name ++ '@' :: host, after)
    | _ => none
  | _ => none

end RefDoc.Markdown
