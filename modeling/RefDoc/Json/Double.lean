/-!
# Binary floating point numbers

Doubles as exact values `mantissa * 2 ^ exponent` with a sign. A quotient is rounded to the nearest
double, ties to even. Printing takes the fewest digits that lie within half a unit of the number,
and of those the nearest ones.
-/

namespace RefDoc.Json

/-- A finite double. The mantissa has 53 bits, or the exponent is the least one. -/
structure Double where
  negative : Bool
  mantissa : Nat
  exponent : Int
  deriving DecidableEq, Repr, Inhabited

namespace Double

/-- The least mantissa of a normal double, two to the power of 52. -/
def leadingBit : Nat := 0x10000000000000

def leastExponent : Int := -1074

def greatestExponent : Int := 971

def zero : Double := ⟨false, 0, leastExponent⟩

def isZero (d : Double) : Bool := d.mantissa == 0

def neg (d : Double) : Double := { d with negative := !d.negative }

/-- The nearest integer to `num / den`, a half going to the even neighbour. -/
def roundDiv (num den : Nat) : Nat :=
  let q := num / den
  let r := num % den
  if 2 * r < den then q
  else if den < 2 * r then q + 1
  else if q % 2 = 0 then q
  else q + 1

/-- `num / den` in units of `2 ^ e`, as a fraction. -/
def scaled (num den : Nat) (e : Int) : Nat × Nat :=
  (num * Nat.pow 2 (-e).toNat, den * Nat.pow 2 e.toNat)

/-- The nearest double to `num / den`, unless that is beyond the greatest one. -/
def ofQuotient? (num den : Nat) : Option Double :=
  if num = 0 then some zero
  else
    let guess : Int := (num.log2 : Int) - den.log2 - 52
    let (n, d) := scaled num den guess
    let tight := if n / d < leadingBit then guess - 1 else guess
    let e := max tight leastExponent
    let (n, d) := scaled num den e
    let m := roundDiv n d
    let (m, e) := if m = 2 * leadingBit then (leadingBit, e + 1) else (m, e)
    if e > greatestExponent then none else some ⟨false, m, e⟩

def ofNat (n : Nat) : Double := (ofQuotient? n 1).getD zero

/-- The magnitude as a fraction. -/
def fraction (d : Double) : Nat × Nat :=
  (d.mantissa * Nat.pow 2 d.exponent.toNat, Nat.pow 2 (-d.exponent).toNat)

def mul? (a b : Double) : Option Double :=
  let (n, d) := a.fraction
  let (n', d') := b.fraction
  (ofQuotient? (n * n') (d * d')).map fun r => { r with negative := a.negative != b.negative }

def div? (a b : Double) : Option Double :=
  let (n, d) := a.fraction
  let (n', d') := b.fraction
  (ofQuotient? (n * d') (d * n')).map fun r => { r with negative := a.negative != b.negative }

/-- The nearest double to a power of ten; exponents up to 308 have one. -/
def powerOfTen (n : Nat) : Double := (ofQuotient? (Nat.pow 10 n) 1).getD zero

/-- `significand * 10 ^ exponent` in double arithmetic: one product or quotient with a power of
ten, after steps of `10 ^ 308` for exponents below `-308`. Nothing if the result is too large. -/
def ofDecimal? (significand : Nat) (exponent : Int) : Option Double :=
  go (exponent.natAbs / 308 + 1) (ofNat significand) exponent
where
  go : Nat → Double → Int → Option Double
    | fuel, f, exponent =>
      if exponent.natAbs ≤ 308 then
        if exponent ≥ 0 then f.mul? (powerOfTen exponent.natAbs)
        else f.div? (powerOfTen exponent.natAbs)
      else if f.isZero then some f
      else if exponent ≥ 0 then none
      else
        match fuel with
        | 0 => some zero
        | fuel + 1 => (f.div? (powerOfTen 308)).bind fun f => go fuel f (exponent + 308)

/-! ### Printing -/

/-- The decimal digits of a number, most significant first. -/
def digits (n : Nat) : List Char := Nat.toDigits 10 n

/-- The greatest `k` with `10 ^ k ≤ num / den`, found from the estimate `k`. -/
def decimalExponent (num den : Nat) : Int :=
  let estimate : Int := ((num.log2 : Int) - den.log2) * 30103 / 100000
  let atLeast (k : Int) : Bool := den * Nat.pow 10 k.toNat ≤ num * Nat.pow 10 (-k).toNat
  if atLeast (estimate + 1) then
    if atLeast (estimate + 2) then estimate + 2 else estimate + 1
  else if atLeast estimate then estimate
  else if atLeast (estimate - 1) then estimate - 1
  else estimate - 2

/-- The numbers that round to `d`, as bounds in quarters of its last unit. -/
def bounds (d : Double) : Nat × Nat :=
  let low := if d.mantissa = leadingBit ∧ d.exponent > leastExponent then 1 else 2
  (4 * d.mantissa - low, 4 * d.mantissa + 2)

/-- Whether `c * 10 ^ k` rounds to `d`. -/
def roundsTo (d : Double) (c : Nat) (k : Int) : Bool :=
  let (low, high) := d.bounds
  let (n, m) := scaled (c * Nat.pow 10 k.toNat) (Nat.pow 10 (-k).toNat) (d.exponent - 2)
  if d.mantissa % 2 = 0 then low * m ≤ n && n ≤ high * m else low * m < n && n < high * m

/-- The multiple of `10 ^ k` nearest to `d` among its two neighbours that round to `d`. -/
def gridPoint? (d : Double) (k : Int) : Option Nat :=
  let (n, m) := d.fraction
  let num := n * Nat.pow 10 (-k).toNat
  let den := m * Nat.pow 10 k.toNat
  let below := num / den
  let above := below + 1
  match d.roundsTo below k && below ≠ 0, d.roundsTo above k with
  | true, true =>
    let r := num % den
    if 2 * r < den then some below
    else if den < 2 * r then some above
    else if below % 2 = 0 then some below
    else some above
  | true, false => some below
  | false, true => some above
  | false, false => none

/-- The fewest digits that read back, and the exponent of the first of them. -/
def shortest (d : Double) : List Char × Int :=
  let (n, m) := d.fraction
  let top := decimalExponent n m
  let candidate (i : Nat) : Option (Nat × Int) :=
    (d.gridPoint? (top - i)).map fun c => (c, top - i)
  match (List.range 17).findSome? candidate with
  | none => (['0'], 0)
  | some (c, k) =>
    let ds := digits c
    let significant := (ds.reverse.dropWhile (· == '0')).reverse
    (significant, k + (ds.length - 1 : Nat))

/-- Positional from `10 ^ -5` up to `10 ^ 16`, with a point and at least one digit on both sides
of it; otherwise with an exponent that always has its sign. -/
def text (d : Double) : String :=
  let sign := if d.negative then ['-'] else []
  if d.isZero then String.ofList (sign ++ ['0', '.', '0'])
  else
    let (ds, top) := d.shortest
    let body : List Char :=
      if 0 ≤ top ∧ top < 16 then
        let whole := top.toNat + 1
        let padded := ds ++ List.replicate (whole - ds.length) '0'
        let rest := padded.drop whole
        padded.take whole ++ ['.'] ++ (if rest.isEmpty then ['0'] else rest)
      else if -5 ≤ top ∧ top < 0 then
        ['0', '.'] ++ List.replicate (-top - 1).toNat '0' ++ ds
      else
        let lead := ds.take 1 ++ (if ds.length ≤ 1 then [] else '.' :: ds.drop 1)
        lead ++ ['e', if top < 0 then '-' else '+'] ++ digits top.natAbs
    String.ofList (sign ++ body)

end Double

end RefDoc.Json
