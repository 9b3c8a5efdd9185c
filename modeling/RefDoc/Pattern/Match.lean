import RefDoc.Pattern.Basic

/-!
# Matching

A set of places in a text is a list of marks, one for every place from the start to the end.
`Pattern.after` leads from the places where a match may begin to those where it may end; every
construct of a pattern is one operation on such sets. A pattern occurs in a text if it leads
anywhere from all places.
-/

namespace RefDoc

/-- A place in a text: the characters on both sides. -/
structure Spot where
  before : Option Char
  after : Option Char
  deriving DecidableEq, Repr

namespace Assertion

open Text

def isAsciiWord (c : Char) : Bool := isAsciiLetter c || isAsciiDigit c || c == '_'

def wordSide (ascii : Bool) (side : Option Char) : Bool :=
  side.any (if ascii then isAsciiWord else isWord)

def holds (a : Assertion) (s : Spot) : Bool :=
  match a with
  | textStart => s.before.isNone
  | textEnd => s.after.isNone
  | lineStart => s.before.all (· == '\n')
  | lineEnd => s.after.all (· == '\n')
  | anyLineStart => s.before.all fun c => c == '\n' || (c == '\r' && s.after != some '\n')
  | anyLineEnd => s.after.all fun c => c == '\r' || (c == '\n' && s.before != some '\r')
  | boundary ascii => wordSide ascii s.before != wordSide ascii s.after
  | notBoundary ascii => wordSide ascii s.before == wordSide ascii s.after
  | wordStart ascii => !wordSide ascii s.before && wordSide ascii s.after
  | wordEnd ascii => wordSide ascii s.before && !wordSide ascii s.after
  | beforeNoWord ascii => !wordSide ascii s.before
  | afterNoWord ascii => !wordSide ascii s.after

end Assertion

/-- All places of a text, the character before the first being given. -/
def spots (before : Option Char) : List Char → List Spot
  | [] => [⟨before, none⟩]
  | c :: rest => ⟨before, some c⟩ :: spots (some c) rest

/-- A set of places. -/
abbrev Marks := List Bool

namespace Marks

def union (m n : Marks) : Marks := List.zipWith or m n

/-- The places that satisfy a condition. -/
def filter (m : Marks) (ss : List Spot) (p : Spot → Bool) : Marks :=
  List.zipWith (fun b s => b && p s) m ss

/-- One place on, over characters of a set. -/
def step (m : Marks) (ss : List Spot) (set : CharSet) : Marks :=
  false :: (m.filter ss fun s => s.after.any set.contains).dropLast

def times (f : Marks → Marks) : Nat → Marks → Marks
  | 0, m => m
  | n + 1, m => times f n (f m)

/-- Any number of times up to the given one. -/
def upTo (f : Marks → Marks) : Nat → Marks → Marks
  | 0, m => m
  | n + 1, m =>
    let m' := m.union (f m)
    if m' = m then m else upTo f n m'

end Marks

namespace Pattern

/-- Where a match may end that begins at one of the marks. -/
def after (ss : List Spot) : Pattern → Marks → Marks
  | empty, m => m
  | char set, m => m.step ss set
  | assertion a, m => m.filter ss a.holds
  | seq p q, m => q.after ss (p.after ss m)
  | alt p q, m => (p.after ss m).union (q.after ss m)
  | rep p min max, m =>
    let start := Marks.times (p.after ss) min m
    Marks.upTo (p.after ss) ((max.map (· - min)).getD ss.length) start

/-- Whether the pattern occurs in a text. -/
def occursIn (p : Pattern) (text : List Char) : Bool :=
  let ss := spots none text
  (p.after ss (ss.map fun _ => true)).any id

end Pattern

end RefDoc
