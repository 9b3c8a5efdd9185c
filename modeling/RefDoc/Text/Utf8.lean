/-!
# UTF-8

Bytes are read as UTF-8 up to the first sequence that is not well formed. The fault says where
that sequence starts and how many of its bytes are already ruled out, or that the bytes end in
the middle of a character.
-/

namespace RefDoc.Text

abbrev Bytes := List UInt8

inductive Utf8Fault where
  | invalid (length index : Nat)
  | incomplete (index : Nat)
  deriving DecidableEq, Repr

def Utf8Fault.message : Utf8Fault → String
  | .invalid length index =>
    s!"invalid utf-8 sequence of {length} bytes from index {index}"
  | .incomplete index => s!"incomplete utf-8 byte sequence from index {index}"

/-- What may follow a lead byte: the number of further bytes, and the bounds of the first. -/
structure Continuation where
  count : Nat
  low : UInt8
  high : UInt8

/-- The continuation a lead byte calls for, if the byte can lead a character of several bytes. -/
def continuation? (lead : UInt8) : Option Continuation :=
  if lead < 0xC2 then none
  else if lead ≤ 0xDF then some ⟨1, 0x80, 0xBF⟩
  else if lead = 0xE0 then some ⟨2, 0xA0, 0xBF⟩
  else if lead = 0xED then some ⟨2, 0x80, 0x9F⟩
  else if lead ≤ 0xEF then some ⟨2, 0x80, 0xBF⟩
  else if lead = 0xF0 then some ⟨3, 0x90, 0xBF⟩
  else if lead ≤ 0xF3 then some ⟨3, 0x80, 0xBF⟩
  else if lead = 0xF4 then some ⟨3, 0x80, 0x8F⟩
  else none

def isTail (b : UInt8) : Bool := 0x80 ≤ b && b ≤ 0xBF

/-- The character with the bits of a lead byte and the six low bits of each further byte. -/
def assemble (lead : UInt8) (count : Nat) (tails : List UInt8) : Char :=
  let leadBits := lead.toNat % Nat.pow 2 (6 - count)
  Char.ofNat (tails.foldl (fun n b => n * 64 + b.toNat % 64) leadBits)

/-- The characters of bytes that start at `index` of the whole. -/
def decodeFrom (index : Nat) : Bytes → Except Utf8Fault (List Char)
  | [] => .ok []
  | a :: rest =>
    if a < 0x80 then (Char.ofNat a.toNat :: ·) <$> decodeFrom (index + 1) rest
    else
      match continuation? a, rest with
      | none, _ => .error (.invalid 1 index)
      | some _, [] => .error (.incomplete index)
      | some k, b :: rest₂ =>
        if b < k.low || k.high < b then .error (.invalid 1 index)
        else if k.count = 1 then
          (assemble a 1 [b] :: ·) <$> decodeFrom (index + 2) rest₂
        else
          match rest₂ with
          | [] => .error (.incomplete index)
          | c :: rest₃ =>
            if !isTail c then .error (.invalid 2 index)
            else if k.count = 2 then
              (assemble a 2 [b, c] :: ·) <$> decodeFrom (index + 3) rest₃
            else
              match rest₃ with
              | [] => .error (.incomplete index)
              | d :: rest₄ =>
                if !isTail d then .error (.invalid 3 index)
                else (assemble a 3 [b, c, d] :: ·) <$> decodeFrom (index + 4) rest₄

def decodeUtf8 (bytes : Bytes) : Except Utf8Fault String :=
  String.ofList <$> decodeFrom 0 bytes

/-- The text of well-formed bytes, with a replacement character for every fault. -/
def decodeLossy (bytes : Bytes) : List Char :=
  let sound (index : Nat) : List Char := (decodeFrom 0 (bytes.take index)).toOption.getD []
  match bytes, decodeFrom 0 bytes with
  | _, .ok cs => cs
  | _, .error (.incomplete index) => sound index ++ ['\ufffd']
  | [], _ => []
  | _ :: rest, .error (.invalid length index) =>
    sound index ++ '\ufffd' :: decodeLossy (rest.drop (index + length - 1))
termination_by bytes.length

/-- Every byte is the character with its number. -/
def decodeLatin1 (bytes : Bytes) : String :=
  String.ofList (bytes.map fun b => Char.ofNat b.toNat)

def encodeUtf8 (s : String) : Bytes := s.toUTF8.toList

end RefDoc.Text
