import RefDoc.Pattern.CharSet

/-!
# Patterns

Regular expressions over characters, with assertions about the place between two characters. A
pattern is used to ask whether it occurs in a text, so greediness and groups leave no trace.
-/

namespace RefDoc

/-- A condition on a place in a text. -/
inductive Assertion where
  | textStart
  | textEnd
  | lineStart
  | lineEnd
  /-- As `lineStart`, where a carriage return ends a line too. -/
  | anyLineStart
  | anyLineEnd
  | boundary (ascii : Bool)
  | notBoundary (ascii : Bool)
  | wordStart (ascii : Bool)
  | wordEnd (ascii : Bool)
  | beforeNoWord (ascii : Bool)
  | afterNoWord (ascii : Bool)
  deriving DecidableEq, Repr

inductive Pattern where
  | empty
  | char (set : CharSet)
  | assertion (a : Assertion)
  | seq (p q : Pattern)
  | alt (p q : Pattern)
  /-- At least `min` times, and at most `max` times where there is a limit. -/
  | rep (p : Pattern) (min : Nat) (max : Option Nat)
  deriving DecidableEq, Repr

namespace Pattern

def seqs : List Pattern → Pattern
  | [] => empty
  | [p] => p
  | p :: rest => seq p (seqs rest)

def alts : List Pattern → Pattern
  | [] => empty
  | [p] => p
  | p :: rest => alt p (alts rest)

/-- The given characters one after the other, in any case. -/
def anyCase (s : String) : Pattern :=
  seqs (s.toList.map fun c => char (.foldCase (.single c)))

end Pattern

end RefDoc
