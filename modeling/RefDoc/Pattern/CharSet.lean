import RefDoc.Text.Blank
import RefDoc.Text.CaseVariants
import RefDoc.Text.Script
import RefDoc.Text.Word

/-!
# Character sets

What one character of a text may be: ranges, the common classes, the characters with a property, and
the results of set operations. `foldCase` adds all characters that differ from a member in case
only.
-/

namespace RefDoc

open Text

/-- A property of characters that a pattern may ask for. -/
inductive CharProperty where
  | any
  | ascii
  | assigned
  | categories (cs : List Category)
  | script (name : String)
  | alphabetic
  | lowercase
  | uppercase
  | blank
  deriving DecidableEq, Repr

def CharProperty.holds (p : CharProperty) (c : Char) : Bool :=
  match p with
  | any => true
  | ascii => c.toNat < 0x80
  | assigned => category c != .cn
  | categories cs => cs.contains (category c)
  | script name => Text.script c == name
  | alphabetic => isAlphabetic c
  | lowercase => isLowercase c
  | uppercase => isUppercase c
  | blank => isBlank c

inductive CharSet where
  | range (first last : Char)
  | blank
  | digit
  | word
  | property (p : CharProperty)
  | union (s t : CharSet)
  | inter (s t : CharSet)
  | compl (s : CharSet)
  | foldCase (s : CharSet)
  /-- As `foldCase`, for ASCII letters only. -/
  | foldAscii (s : CharSet)
  deriving DecidableEq, Repr

namespace CharSet

def single (c : Char) : CharSet := range c c

def asciiVariants (c : Char) : List Char :=
  if 'a' ≤ c ∧ c ≤ 'z' then [Char.ofNat (c.toNat - 32)]
  else if 'A' ≤ c ∧ c ≤ 'Z' then [Char.ofNat (c.toNat + 32)]
  else []

def contains : CharSet → Char → Bool
  | range first last, c => first ≤ c && c ≤ last
  | blank, c => isBlank c
  | digit, c => isDigit c
  | word, c => isWord c
  | property p, c => p.holds c
  | union s t, c => s.contains c || t.contains c
  | inter s t, c => s.contains c && t.contains c
  | compl s, c => !s.contains c
  | foldCase s, c => s.contains c || (caseVariants c).any s.contains
  | foldAscii s, c => s.contains c || (asciiVariants c).any s.contains

/-- No character at all. -/
def none : CharSet := range (Char.ofNat 1) (Char.ofNat 0)

def unions (l : List CharSet) : CharSet := l.foldr union none

/-- The characters of `s` that are not in `t`. -/
def diff (s t : CharSet) : CharSet := inter s (compl t)

/-- The characters that are in one of the sets only. -/
def symmDiff (s t : CharSet) : CharSet := union (diff s t) (diff t s)

def ranges (l : List (Char × Char)) : CharSet := unions (l.map fun r => range r.1 r.2)

end CharSet

end RefDoc
