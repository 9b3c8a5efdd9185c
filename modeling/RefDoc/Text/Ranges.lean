/-!
# Character tables

A set of characters is an array of disjoint ranges of code points in increasing order, both ends
included; membership is a binary search. A property with several values is an array of steps: a step
gives the value of all characters from its code point up to the next step.
-/

namespace RefDoc.Text

abbrev Ranges := Array (Nat × Nat)

namespace Ranges

/-- Whether a range with index in `[lo, hi)` holds `n`. -/
def search (t : Ranges) (n lo hi : Nat) : Bool :=
  if lo < hi then
    let mid := (lo + hi) / 2
    match t[mid]? with
    | none => false
    | some (first, last) =>
      if n < first then search t n lo mid
      else if last < n then search t n (mid + 1) hi
      else true
  else false
termination_by hi - lo

def contains (t : Ranges) (c : Char) : Bool := t.search c.toNat 0 t.size

end Ranges

abbrev Steps (α : Type) := Array (Nat × α)

namespace Steps

variable {α : Type}

/-- The value of the last step in `[lo, hi)` that is not behind `n`; `found` is that of an earlier
one. -/
def search (t : Steps α) (n lo hi : Nat) (found : Option α) : Option α :=
  if lo < hi then
    let mid := (lo + hi) / 2
    match t[mid]? with
    | none => found
    | some (first, value) =>
      if n < first then search t n lo mid found else search t n (mid + 1) hi (some value)
  else found
termination_by hi - lo

def at? (t : Steps α) (c : Char) : Option α := t.search c.toNat 0 t.size none

end Steps

end RefDoc.Text
