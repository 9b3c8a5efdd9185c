import RefDoc.Text.Utf8

/-!
# Text in HTML

How text is written where HTML would take characters for markup: in the text of an element, in the
value of an attribute, and in an address.
-/

namespace RefDoc.Text

/-- A character between tags. -/
def escapeBodyChar (c : Char) : String :=
  match c with
  | '&' => "&amp;"
  | '<' => "&lt;"
  | '>' => "&gt;"
  | c => String.ofList [c]

/-- A character in the quoted value of an attribute. -/
def escapeValueChar (c : Char) : String :=
  match c with
  | '"' => "&quot;"
  | '\x27' => "&#39;"
  | c => escapeBodyChar c

def escapeBody (s : String) : String := String.join (s.toList.map escapeBodyChar)

def escapeValue (s : String) : String := String.join (s.toList.map escapeValueChar)

/-- Characters that stand for themselves in an address. -/
def isAddressChar (c : Char) : Bool :=
  c.isAlphanum || "!#$%()*+,-./:;=?@_~".toList.contains c

def hexByte (b : UInt8) : String :=
  let digit (n : Nat) : Char := Char.ofNat (if n < 10 then n + 48 else n + 55)
  String.ofList ['%', digit (b.toNat / 16), digit (b.toNat % 16)]

def escapeAddressChar (c : Char) : String :=
  match c with
  | '&' => "&amp;"
  | '\x27' => "&#x27;"
  | c =>
    if isAddressChar c then String.ofList [c]
    else String.join ((encodeUtf8 (String.ofList [c])).map hexByte)

/-- An address in the quoted value of an attribute. -/
def escapeAddress (s : String) : String := String.join (s.toList.map escapeAddressChar)

end RefDoc.Text
