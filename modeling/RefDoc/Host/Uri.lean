import RefDoc.Path
import RefDoc.Text.Blank
import RefDoc.Text.Utf8

/-!
# Paths from URIs

The path of a URI that names no other computer. URIs are read as the URL standard has it: blanks
around a URI and line ends within it do not count, backslashes are slashes where the scheme is a
special one, dots in a path are followed, and bytes may be written as percent signs with two digits.
-/

namespace RefDoc.Uri

/-- What the scheme of a URI says about the rest. -/
inductive SchemeKind where
  | file
  /-- There is always a host, and backslashes are slashes. -/
  | special
  | other
  deriving DecidableEq, Repr

def SchemeKind.ofName (name : String) : SchemeKind :=
  if name = "file" then .file
  else if name ∈ ["http", "https", "ws", "wss", "ftp"] then .special
  else .other

def isIgnored (c : Char) : Bool := c == '\t' || c == '\n' || c == '\r'

/-- A URI without what does not count. -/
def essential (cs : List Char) : List Char :=
  let trimmed := ((cs.dropWhile (· ≤ ' ')).reverse.dropWhile (· ≤ ' ')).reverse
  trimmed.filter (!isIgnored ·)

def isSchemePart (c : Char) : Bool := c.isAlphanum || c == '+' || c == '-' || c == '.'

/-- The scheme in lower case, and what is behind its colon. -/
def scheme? (cs : List Char) : Option (SchemeKind × List Char) :=
  match cs, cs.dropWhile isSchemePart with
  | c :: _, ':' :: rest =>
    if c.isAlpha then
      some (.ofName (String.ofList ((cs.takeWhile isSchemePart).map Text.asciiLower)), rest)
    else none
  | _, _ => none

def SchemeKind.isSlash (k : SchemeKind) (c : Char) : Bool :=
  c == '/' || (c == '\\' && k != .other)

/-- Whether a path ends here. -/
def endsPath (c : Char) : Bool := c == '?' || c == '#'

/-! ### Bytes -/

def hexValue? (c : Char) : Option Nat :=
  if '0' ≤ c && c ≤ '9' then some (c.toNat - '0'.toNat)
  else
    let l := Text.asciiLower c
    if 'a' ≤ l && l ≤ 'f' then some (l.toNat - 'a'.toNat + 10) else none

/-- The bytes of a text; a percent sign and two hexadecimal digits are one byte. -/
def percentDecode : List Char → Text.Bytes
  | [] => []
  | '%' :: a :: b :: rest =>
    match hexValue? a, hexValue? b with
    | some m, some n => UInt8.ofNat (m * 16 + n) :: percentDecode rest
    | _, _ => Text.encodeUtf8 "%" ++ percentDecode (a :: b :: rest)
  | c :: rest => Text.encodeUtf8 (String.singleton c) ++ percentDecode rest
termination_by cs => cs.length

/-! ### Hosts -/

/-- A letter and a colon or bar, as a drive is named on some systems. -/
def isDriveLetter (cs : List Char) : Bool :=
  match cs with
  | [a, b] => a.isAlpha && (b == ':' || b == '|')
  | _ => false

/-- Whether a host is this computer. -/
def isLocalHost (k : SchemeKind) (host : List Char) : Bool :=
  match k with
  | .other => host.isEmpty || host == "localhost".toList
  | _ => (Text.decodeLossy (percentDecode host)).map Text.asciiLower == "localhost".toList

/-- The host of an authority without the number behind its colon, which must be one of 16 bits. -/
def hostOf? (authority : List Char) : Option (List Char) :=
  let host := authority.takeWhile (· != ':')
  match authority.dropWhile (· != ':') with
  | ':' :: digits =>
    let number := (Text.decimal? digits).getD 0
    if host.isEmpty || !digits.all Text.isAsciiDigit || number ≥ 0x10000 then none else some host
  | _ => some host

/-- Whether an authority, with credentials in front of the last at sign, is this computer. -/
def isLocalAuthority (k : SchemeKind) (authority : List Char) : Bool :=
  let backwards := authority.reverse
  let place := (backwards.takeWhile (· != '@')).reverse
  let credentials := (backwards.dropWhile (· != '@')).reverse
  match hostOf? place with
  | none => false
  | some host =>
    isLocalHost k host && (!host.isEmpty || credentials.isEmpty || credentials == [':', '@'])

/-! ### Paths -/

/-- A segment with dots written as percent signs made plain. -/
def plainDots : List Char → List Char
  | '%' :: '2' :: c :: rest =>
    if c == 'e' || c == 'E' then '.' :: plainDots rest else '%' :: '2' :: c :: plainDots rest
  | c :: rest => c :: plainDots rest
  | [] => []

/-- Adds a segment to those before it, the last of which comes first. A dot stays, two dots go back,
but never behind a drive; `last` says whether no segment follows. -/
def addSegment (k : SchemeKind) (before : List (List Char)) (segment : List Char) (last : Bool) :
    List (List Char) :=
  let ending (l : List (List Char)) := if last then [] :: l else l
  if plainDots segment = ['.'] then ending before
  else if plainDots segment = ['.', '.'] then
    match before with
    | [] => ending []
    | s :: rest => ending (if isDriveLetter s then s :: rest else rest)
  else if k = .file && before.isEmpty && isDriveLetter segment then
    (segment.take 1 ++ [':']) :: before
  else segment :: before

/-- The segments of a path in order, with all dots followed. -/
def segments (k : SchemeKind) (before : List (List Char)) : List (List Char) → List (List Char)
  | [] => before.reverse
  | s :: rest => segments k (addSegment k before s rest.isEmpty) rest

/-- The path that is written behind the host. -/
def pathOf? (k : SchemeKind) (cs : List Char) : Option Path :=
  let written := cs.takeWhile (!endsPath ·)
  match written, k with
  | [], .other => none
  | _, _ =>
    let inner :=
      match written with
      | c :: rest => if k.isSlash c then rest else written
      | [] => []
    let all := segments k [] (Text.splitAll k.isSlash inner)
    let all := if k = .file then all.dropWhile (·.isEmpty) else all
    let bytes := (if all.isEmpty then [[]] else all).flatMap fun s =>
      Text.encodeUtf8 "/" ++ percentDecode s
    some ⟨String.ofList (Text.decodeLossy bytes)⟩

/-- The path behind an authority that is this computer. -/
def behindAuthority? (k : SchemeKind) (cs : List Char) : Option Path :=
  let isEnd (c : Char) : Bool := k.isSlash c || endsPath c
  let authority := cs.takeWhile (!isEnd ·)
  if isLocalAuthority k authority then pathOf? k (cs.dropWhile (!isEnd ·)) else none

/-- The path of a file URI from behind the scheme on. The host may be left out, and a drive is no
host. -/
def filePath? (cs : List Char) : Option Path :=
  let isEnd (c : Char) : Bool := SchemeKind.file.isSlash c || endsPath c
  match cs with
  | a :: b :: rest =>
    if SchemeKind.file.isSlash a && SchemeKind.file.isSlash b then
      let host := rest.takeWhile (!isEnd ·)
      if isDriveLetter host then pathOf? .file rest
      else if host.isEmpty || isLocalHost .file host then
        pathOf? .file (rest.dropWhile (!isEnd ·))
      else none
    else pathOf? .file cs
  | _ => pathOf? .file cs

/-- The path that a URI names on this computer, if it names one. -/
def path? (uri : String) : Option Path := do
  let (kind, rest) ← scheme? (essential uri.toList)
  match kind with
  | .file => filePath? rest
  | .special => behindAuthority? .special (rest.dropWhile SchemeKind.special.isSlash)
  | .other =>
    match rest with
    | '/' :: '/' :: rest => behindAuthority? .other rest
    | '/' :: _ => pathOf? .other rest
    | _ => none

end RefDoc.Uri
