import RefDoc.Pattern.Basic

/-!
# The size of a pattern

Repetition counts multiply, so short patterns can be too large to use. How much room an automaton
for a pattern takes is assumed here: `Pattern.weight` is an estimate, and patterns close to the
limit may be judged differently elsewhere. Nothing but the limit depends on it.
-/

namespace RefDoc

namespace CharProperty

def weight : CharProperty → Nat
  | any | ascii | blank => 500
  | _ => 20000

end CharProperty

namespace CharSet

def weight : CharSet → Nat
  | range first last =>
    if last.toNat < 0x80 then 32 else if first = last then 32 * first.utf8Size else 400
  | blank => 900
  | digit => 3500
  | word => 48000
  | property p => p.weight
  | union s t | inter s t => s.weight + t.weight
  | compl s => s.weight + 500
  | foldCase s => 2 * s.weight
  | foldAscii s => s.weight

end CharSet

namespace Pattern

def weight : Pattern → Nat
  | empty => 0
  | char set => set.weight
  | assertion _ => 32
  | seq p q => p.weight + q.weight
  | alt p q => p.weight + q.weight + 32
  | rep p min max => p.weight * max.getD (min + 1) + 32 * (max.getD (min + 1) - min)

/-- The most room a pattern is assumed to be allowed. -/
def weightLimit : Nat := 10 * 0x100000

end Pattern

end RefDoc
