import RefDoc.Json.Tree
import RefDoc.Text.Blank

/-!
# Reading JSON text

`Document.read` turns a text into a tree, to the first fault that no reader can pass. Faults that
only a strict reader minds (a lone surrogate, a number too large, nesting too deep) are kept beside
what a lenient reader sees.
-/

namespace RefDoc.Json

/-- The text still to read, and where it starts. -/
structure Cursor where
  rest : List Char
  mark : Mark

namespace Cursor

def isSpace (c : Char) : Bool := c == ' ' || c == '\n' || c == '\t' || c == '\r'

def skipSpace (cur : Cursor) : Cursor := go cur.rest cur.mark
where
  go : List Char → Mark → Cursor
    | [], m => ⟨[], m⟩
    | c :: rest, m => if isSpace c then go rest (m.past c) else ⟨c :: rest, m⟩

/-- Behind the next `n` characters. -/
def drop (cur : Cursor) : Nat → Cursor
  | 0 => cur
  | n + 1 =>
    match cur.rest with
    | [] => cur
    | c :: rest => drop ⟨rest, cur.mark.past c⟩ n

/-- Behind the first byte of the next character. -/
def peekMark (cur : Cursor) : Mark :=
  match cur.rest with
  | [] => cur.mark
  | c :: _ => cur.mark.pastByte c

/-- The place `n` bytes ahead. -/
def bytesAhead (m : Mark) : Nat → List Char → Mark
  | 0, _ | _, [] => m
  | n, c :: rest =>
    if c.utf8Size ≤ n then bytesAhead (m.past c) (n - c.utf8Size) rest
    else ⟨m.line, m.column + n⟩
termination_by _ cs => cs.length

end Cursor

def Fault.same (e : SyntaxError) (mark : Mark) : Fault := ⟨e, e, mark⟩

/-- A tree, and where reading goes on unless a fault ends it. -/
abbrev Reading := Tree × Option Cursor

def Reading.fault (f : Fault) : Reading := (.fault f, none)

def readIdent (value : Scalar) : List Char → Cursor → Reading
  | [], cur => (.scalar value cur.mark, some cur)
  | expected :: more, cur =>
    match cur.rest with
    | [] => .fault (.same .eofInValue cur.mark)
    | c :: rest =>
      if c = expected then readIdent value more ⟨rest, cur.mark.past c⟩
      else .fault (.same .expectedIdent (cur.mark.pastByte c))

/-! ### Numbers -/

def largestNatural : Nat := 0xffffffffffffffff

def digitValue (c : Char) : Nat := c.toNat - '0'.toNat

/-- Takes digits into a significand of 64 bits while they fit; gives it and the digits left. -/
def absorb (significand : Nat) : List Char → Nat × List Char
  | [] => (significand, [])
  | c :: rest =>
    let next := significand * 10 + digitValue c
    if next > largestNatural then (significand, c :: rest) else absorb next rest

/-- The exponent written by digits, or how many of them it takes to pass 32 bits. -/
def exponentOf (value read : Nat) : List Char → Nat ⊕ Nat
  | [] => .inl value
  | c :: rest =>
    let next := value * 10 + digitValue c
    if next > 0x7fffffff then .inr (read + 1) else exponentOf next (read + 1) rest

def doubleAt (positive : Bool) (d : Double) (cur : Cursor) : Reading :=
  (.scalar (.number (.double (if positive then d else d.neg))) cur.mark, some cur)

def outOfRange (mark : Mark) (cur : Cursor) : Reading :=
  (.strained (.same .numberOutOfRange mark) (.scalar (.number (.double .zero)) cur.mark), some cur)

def decimalAt (positive : Bool) (significand : Nat) (exponent : Int) (cur : Cursor) : Reading :=
  match Double.ofDecimal? significand exponent with
  | some d => doubleAt positive d cur
  | none => outOfRange cur.mark cur

/-- Reads the digits of an exponent; `cur` is behind the `e`. -/
def readExponent (positive : Bool) (significand : Nat) (exponent : Int) (cur : Cursor) : Reading :=
  let (negative, cur) :=
    match cur.rest with
    | '+' :: _ => (false, cur.drop 1)
    | '-' :: _ => (true, cur.drop 1)
    | _ => (false, cur)
  let ds := cur.rest.takeWhile Text.isAsciiDigit
  if ds.isEmpty then
    match cur.rest with
    | [] => .fault ⟨.eofInValue, .invalidNumber, cur.mark⟩
    | c :: _ => .fault (.same .invalidNumber (cur.mark.pastByte c))
  else
    let after := cur.drop ds.length
    match exponentOf 0 0 ds with
    | .inl e =>
      decimalAt positive significand (if negative then exponent - e else exponent + e) after
    | .inr read =>
      if significand ≠ 0 ∧ !negative then outOfRange (cur.drop read).mark after
      else doubleAt positive .zero after

/-- Reads what may follow the whole part of a number. -/
def readFraction (positive : Bool) (significand dropped : Nat) (cur : Cursor) : Reading :=
  match cur.rest with
  | '.' :: _ =>
    let cur := cur.drop 1
    let ds := cur.rest.takeWhile Text.isAsciiDigit
    if ds.isEmpty then
      match cur.rest with
      | [] => .fault ⟨.eofInValue, .invalidNumber, cur.mark⟩
      | _ => .fault (.same .invalidNumber cur.peekMark)
    else
      let (significand, left) := absorb significand ds
      let exponent : Int := dropped - (ds.length - left.length : Nat)
      let cur := cur.drop ds.length
      match cur.rest with
      | 'e' :: _ | 'E' :: _ => readExponent positive significand exponent (cur.drop 1)
      | _ => decimalAt positive significand exponent cur
  | 'e' :: _ | 'E' :: _ => readExponent positive significand dropped (cur.drop 1)
  | _ =>
    if dropped ≠ 0 then decimalAt positive significand dropped cur
    else if positive then (.scalar (.number (.integer significand)) cur.mark, some cur)
    else if significand = 0 ∨ significand > 0x8000000000000000 then
      doubleAt false (Double.ofNat significand) cur
    else (.scalar (.number (.integer (-(significand : Int)))) cur.mark, some cur)

/-- Reads a number behind its sign. -/
def readNumber (positive : Bool) (cur : Cursor) : Reading :=
  let ds := cur.rest.takeWhile Text.isAsciiDigit
  match ds, cur.rest with
  | [], [] => .fault ⟨.eofInValue, .invalidNumber, cur.mark⟩
  | [], c :: _ => .fault (.same .invalidNumber (cur.mark.pastByte c))
  | ['0'], _ => readFraction positive 0 0 (cur.drop 1)
  | '0' :: _ :: _, _ => .fault (.same .invalidNumber (cur.drop 1).peekMark)
  | ds, _ =>
    let (significand, left) := absorb 0 ds
    readFraction positive significand left.length (cur.drop ds.length)

/-! ### Strings -/

def hexValue? (c : Char) : Option Nat :=
  if Text.isAsciiDigit c then some (c.toNat - '0'.toNat)
  else if 'a' ≤ c ∧ c ≤ 'f' then some (c.toNat - 'a'.toNat + 10)
  else if 'A' ≤ c ∧ c ≤ 'F' then some (c.toNat - 'A'.toNat + 10)
  else none

/-- The number of four hexadecimal digits, and where the text goes on. -/
def readHex (cur : Cursor) : Except Fault (Nat × Cursor) :=
  if Text.byteLength (cur.rest.take 4) < 4 then
    .error (.same .eofInString (cur.drop 4).mark)
  else
    match (cur.rest.take 4).mapM hexValue? with
    | some ds => .ok (ds.foldl (fun n d => n * 16 + d) 0, cur.drop 4)
    | none => .error (.same .invalidEscape (Cursor.bytesAhead cur.mark 4 cur.rest))

/-- The character a leading surrogate makes with the escape that has to follow it. -/
def readTrailing (leading : Nat) (cur : Cursor) : Except Fault (Char × Cursor) :=
  match cur.rest with
  | [] => .error (.same .eofInString cur.mark)
  | '\\' :: _ =>
    let cur := cur.drop 1
    match cur.rest with
    | [] => .error (.same .eofInString cur.mark)
    | 'u' :: _ =>
      match readHex (cur.drop 1) with
      | .error f => .error f
      | .ok (n, cur) =>
        if n < 0xDC00 ∨ 0xDFFF < n then .error (.same .loneSurrogate cur.mark)
        else .ok (Char.ofNat ((leading - 0xD800) * 1024 + (n - 0xDC00) + 0x10000), cur)
    | c :: _ => .error (.same .unexpectedEndOfEscape (cur.mark.pastByte c))
  | c :: _ => .error (.same .unexpectedEndOfEscape (cur.mark.pastByte c))

/-- A string read to its closing quote: its characters, the first fault that only a strict reader
minds, and where the text goes on. -/
structure ReadString where
  chars : List Char
  strained : Option Fault
  next : Cursor

/-- Reads a string behind its opening quote; `chars` holds what was read, backwards. -/
def readString (fuel : Nat) (chars : List Char) (strained : Option Fault) (cur : Cursor) :
    Except (Option Fault × Fault) ReadString :=
  match fuel with
  | 0 => .error (strained, .same .eofInString cur.mark)
  | fuel + 1 =>
    match cur.rest with
    | [] => .error (strained, .same .eofInString cur.mark)
    | '"' :: _ => .ok ⟨chars.reverse, strained, cur.drop 1⟩
    | '\\' :: rest =>
      let plain (c : Char) := readString fuel (c :: chars) strained (cur.drop 2)
      match rest with
      | [] => .error (strained, .same .eofInString (cur.drop 1).mark)
      | '"' :: _ => plain '"'
      | '\\' :: _ => plain '\\'
      | '/' :: _ => plain '/'
      | 'b' :: _ => plain '\x08'
      | 'f' :: _ => plain '\x0c'
      | 'n' :: _ => plain '\n'
      | 'r' :: _ => plain '\r'
      | 't' :: _ => plain '\t'
      | 'u' :: _ =>
        match readHex (cur.drop 2) with
        | .error f => .error (strained, f)
        | .ok (n, cur) =>
          if n < 0xD800 ∨ 0xDFFF < n then readString fuel (Char.ofNat n :: chars) strained cur
          else if 0xDC00 ≤ n then
            let fault : Fault := .same .loneSurrogate cur.mark
            readString fuel chars (strained.or (some fault)) cur
          else
            match readTrailing n cur with
            | .ok (c, cur) => readString fuel (c :: chars) strained cur
            | .error f => readString fuel chars (strained.or (some f)) cur
      | c :: _ => .error (strained, .same .invalidEscape ((cur.drop 1).mark.pastByte c))
    | c :: _ =>
      if c.toNat < 0x20 then .error (strained, .same .controlCharacter (cur.mark.past c))
      else readString fuel (c :: chars) strained (cur.drop 1)

/-- A string or a fault, as a tree. -/
def stringTree (cur : Cursor) : Reading :=
  match readString (cur.rest.length + 1) [] none cur with
  | .ok s =>
    let tree : Tree := .scalar (.string (String.ofList s.chars)) s.next.mark
    match s.strained with
    | none => (tree, some s.next)
    | some f => (.strained f tree, some s.next)
  | .error (none, f) => .fault f
  | .error (some strained, f) => (.strained strained (.fault f), none)

/-! ### Arrays and objects -/

/-- Where closing an array leaves a reader, and what it reports. -/
def closeArray (cur : Cursor) : Mark × Option Fault :=
  let cur := cur.skipSpace
  match cur.rest with
  | ']' :: _ => ((cur.drop 1).mark, none)
  | ',' :: _ =>
    let cur := (cur.drop 1).skipSpace
    match cur.rest with
    | ']' :: _ => (cur.mark, some (.same .trailingComma cur.peekMark))
    | _ => (cur.mark, some (.same .trailingCharacters cur.peekMark))
  | [] => (cur.mark, some (.same .eofInList cur.mark))
  | _ => (cur.mark, some (.same .trailingCharacters cur.peekMark))

/-- Where closing an object leaves a reader. -/
def closeObject (cur : Cursor) : Mark :=
  let cur := cur.skipSpace
  match cur.rest with
  | '\x7d' :: _ => (cur.drop 1).mark
  | _ => cur.mark

/-- Where the next item of an array starts, or how the array ends. -/
def nextItem (first : Bool) (cur : Cursor) : Cursor ⊕ (Ending × Option Cursor) :=
  let cur := cur.skipSpace
  match cur.rest, first with
  | [], _ => .inr (.broken (.same .eofInList cur.mark), none)
  | ']' :: _, _ => .inr (.closed (cur.drop 1).mark, some (cur.drop 1))
  | ',' :: _, false =>
    let cur := (cur.drop 1).skipSpace
    match cur.rest with
    | [] => .inr (.broken (.same .eofInValue cur.mark), none)
    | ']' :: _ => .inr (.broken ⟨.trailingComma, .expectedValue, cur.peekMark⟩, none)
    | _ => .inl cur
  | _, true => .inl cur
  | _, false => .inr (.broken (.same .expectedListCommaOrEnd cur.peekMark), none)

/-- Where the next key of an object starts, or how the object ends. -/
def nextKey (first : Bool) (cur : Cursor) : Cursor ⊕ (Ending × Option Cursor) :=
  let cur := cur.skipSpace
  let broken (f : Fault) : Cursor ⊕ (Ending × Option Cursor) := .inr (.broken f, none)
  match cur.rest, first with
  | [], _ => broken (.same .eofInObject cur.mark)
  | '\x7d' :: _, _ => .inr (.closed (cur.drop 1).mark, some (cur.drop 1))
  | ',' :: _, false =>
    let cur := (cur.drop 1).skipSpace
    match cur.rest with
    | [] => broken ⟨.eofInValue, .eofInObject, cur.mark⟩
    | '"' :: _ => .inl cur
    | '\x7d' :: _ => broken ⟨.trailingComma, .keyMustBeString, cur.peekMark⟩
    | _ => broken (.same .keyMustBeString cur.peekMark)
  | '"' :: _, true => .inl cur
  | _, true => broken (.same .keyMustBeString cur.peekMark)
  | _, false => broken (.same .expectedObjectCommaOrEnd cur.peekMark)

/-- The nesting that a strict reader refuses. -/
def depthLimit : Nat := 128

mutual

/-- Reads one value inside `depth` arrays and objects. -/
def readValue (fuel depth : Nat) (cur : Cursor) : Reading :=
  match fuel with
  | 0 => .fault (.same .eofInValue cur.mark)
  | fuel + 1 =>
    let cur := cur.skipSpace
    let limited (tree : Tree) : Tree :=
      if depth + 1 = depthLimit then .strained (.same .recursionLimit cur.peekMark) tree else tree
    match cur.rest with
    | [] => .fault (.same .eofInValue cur.mark)
    | 'n' :: _ => readIdent .null ['u', 'l', 'l'] (cur.drop 1)
    | 't' :: _ => readIdent (.bool true) ['r', 'u', 'e'] (cur.drop 1)
    | 'f' :: _ => readIdent (.bool false) ['a', 'l', 's', 'e'] (cur.drop 1)
    | '-' :: _ => readNumber false (cur.drop 1)
    | '"' :: _ => stringTree (cur.drop 1)
    | '[' :: _ =>
      let (items, ending, next) := readItems fuel (depth + 1) true (cur.drop 1)
      (limited (.array cur.mark items ending), next)
    | '\x7b' :: _ =>
      let (members, ending, next) := readMembers fuel (depth + 1) true (cur.drop 1)
      (limited (.object cur.mark members ending), next)
    | c :: _ =>
      if Text.isAsciiDigit c then readNumber true cur
      else .fault (.same .expectedValue cur.peekMark)

def readItems (fuel depth : Nat) (first : Bool) (cur : Cursor) :
    List (Item Tree) × Ending × Option Cursor :=
  match fuel with
  | 0 => ([], .unread, none)
  | fuel + 1 =>
    match nextItem first cur with
    | .inr (ending, next) => ([], ending, next)
    | .inl cur =>
      match readValue fuel depth cur with
      | (value, none) => ([⟨value, cur.mark, none⟩], .unread, none)
      | (value, some next) =>
        let (resume, left) := closeArray next
        let (items, ending, last) := readItems fuel depth false next
        (⟨value, resume, left⟩ :: items, ending, last)

def readMembers (fuel depth : Nat) (first : Bool) (cur : Cursor) :
    List (Member Tree) × Ending × Option Cursor :=
  match fuel with
  | 0 => ([], .unread, none)
  | fuel + 1 =>
    match nextKey first cur with
    | .inr (ending, next) => ([], ending, next)
    | .inl cur =>
      match readString (cur.rest.length + 1) [] none (cur.drop 1) with
      | .error (none, f) => ([], .broken f, none)
      | .error (some strained, f) => ([], .broken ⟨strained.strict, f.lenient, strained.mark⟩, none)
      | .ok key =>
        let name := String.ofList key.chars
        let afterKey := closeObject key.next
        let cur := key.next.skipSpace
        let only (value : Tree) : List (Member Tree) × Ending × Option Cursor :=
          ([⟨name, key.strained, afterKey, value, cur.mark⟩], .unread, none)
        match cur.rest with
        | [] => only (.fault (.same .eofInObject cur.mark))
        | ':' :: _ =>
          match readValue fuel depth (cur.drop 1) with
          | (value, none) => only value
          | (value, some next) =>
            let (members, ending, last) := readMembers fuel depth false next
            let afterValue := closeObject next
            (⟨name, key.strained, afterKey, value, afterValue⟩ :: members, ending, last)
        | _ => only (.fault (.same .expectedColon cur.peekMark))

end

/-- A text read as one value, and what is wrong behind that value. -/
structure Document where
  tree : Tree
  trailing : Option Fault

def Document.read (text : String) : Document :=
  let chars := text.toList
  match readValue (2 * chars.length + 2) 0 ⟨chars, .start⟩ with
  | (tree, none) => ⟨tree, none⟩
  | (tree, some cur) =>
    let cur := cur.skipSpace
    match cur.rest with
    | [] => ⟨tree, none⟩
    | _ => ⟨tree, some (.same .trailingCharacters cur.peekMark)⟩

end RefDoc.Json
