import RefDoc.Toml.Scan

/-!
# Numbers and times

Integers have 64 bits. A float must not be too large; a date must be one of the calendar. Digits may
be grouped by single underscores.
-/

namespace RefDoc.Toml.Scanner

/-- Digits, with single underscores between some of them. -/
def digits (p : Char → Bool) : Scanner (List Char) := do
  let first ← satisfy p
  let others ← many (do discard (optional (char '_')); satisfy p)
  refuse (char '_')
  return first :: others

def isDigit (c : Char) : Bool := '0' ≤ c && c ≤ '9'

def sign : Scanner (List Char) :=
  (fun c => c.toList) <$> optional (satisfy fun c => c == '+' || c == '-')

/-- Decimal digits; a zero in front stands alone. -/
def wholePart : Scanner (List Char) := do
  let sign ← sign
  let ds ← (do let first ← satisfy (· == '0'); return [first]) <|> digits isDigit
  return sign ++ ds

def numberOf (base : Nat) (ds : List Char) : Nat :=
  ds.foldl (fun n c => n * base + (hexDigit? c).getD 0) 0

/-- An integer of 64 bits. -/
def checked (i : Int) : Scanner Toml :=
  if -0x8000000000000000 ≤ i && i < 0x8000000000000000 then return .integer i else failure

def isBaseDigit (base : Nat) (c : Char) : Bool := (hexDigit? c).any (· < base)

/-- An integer behind a mark for its base. -/
def based (mark : Char) (base : Nat) : Scanner Toml := do
  token ['0', mark]
  checked (numberOf base (← digits (isBaseDigit base)))

def signedNumber (ds : List Char) : Int :=
  match ds with
  | '-' :: ds => -(numberOf 10 ds : Int)
  | '+' :: ds => numberOf 10 ds
  | ds => numberOf 10 ds

def integer : Scanner Toml :=
  based 'x' 16 <|> based 'o' 8 <|> based 'b' 2 <|> (do checked (signedNumber (← wholePart)))

/-! ### Floats -/

/-- Whether a positive decimal number rounds to infinity: whether it is at least halfway between the
greatest double and the next power of two. -/
def tooLarge (significand : Nat) (exponent : Int) : Bool :=
  let top := (Nat.toDigits 10 significand).length + exponent
  if significand = 0 || top < 300 then false
  else if 400 < top then true
  else if 0 ≤ exponent then 0x3fffffffffffff <<< 970 ≤ significand * Nat.pow 10 exponent.toNat
  else (0x3fffffffffffff <<< 970) * Nat.pow 10 (-exponent).toNat ≤ significand

def exponentPart : Scanner (List Char) := do
  discard (satisfy fun c => c == 'e' || c == 'E')
  return (← sign) ++ (← digits isDigit)

def fractionPart : Scanner (List Char) := do
  char '.'
  digits isDigit

def specialFloat : Scanner Toml := do
  let sign ← sign
  let name ← (do token "inf".toList; return "inf") <|> (do token "nan".toList; return "nan")
  return .float (String.ofList sign ++ name)

def float : Scanner Toml := do
  let whole ← wholePart
  let fraction ← optional fractionPart
  let exponent ← optional exponentPart
  if fraction.isNone && exponent.isNone then failure
  let places := fraction.getD []
  let power := signedNumber (exponent.getD [])
  let number := signedNumber (whole ++ places)
  if 0 ≤ number && tooLarge number.toNat (power - places.length) then failure
  let dotted := (fraction.map ('.' :: ·)).getD []
  let raised := (exponent.map ('e' :: ·)).getD []
  return .float (String.ofList (whole ++ dotted ++ raised))

/-! ### Times -/

/-- A number of `count` digits between two bounds. -/
def bounded (count low high : Nat) : Scanner Nat := fun cs => do
  let ds := cs.take count
  if ds.length < count || !ds.all isDigit then none
  else
    let n := numberOf 10 ds
    if low ≤ n && n ≤ high then some (n, cs.drop count) else none

def isLeapYear (year : Nat) : Bool := (year % 4 == 0 && year % 100 != 0) || year % 400 == 0

def daysIn (year month : Nat) : Nat :=
  if month = 2 then if isLeapYear year then 29 else 28
  else if month ∈ [4, 6, 9, 11] then 30
  else 31

def date : Scanner Unit := do
  let year ← bounded 4 0 9999
  char '-'
  let month ← bounded 2 1 12
  char '-'
  discard (bounded 2 1 (daysIn year month))

def time : Scanner Unit := do
  discard (bounded 2 0 23)
  char ':'
  discard (bounded 2 0 59)
  char ':'
  discard (bounded 2 0 60)
  discard (optional (do char '.'; takeSome isDigit))

def timeOffset : Scanner Unit :=
  discard (satisfy fun c => c == 'Z' || c == 'z') <|> do
    discard (satisfy fun c => c == '+' || c == '-')
    discard (bounded 2 0 23)
    char ':'
    discard (bounded 2 0 59)

def dateTime : Scanner Unit := do
  date
  discard <| optional do
    discard (satisfy fun c => c == 'T' || c == 't' || c == ' ')
    time
    optional timeOffset

/-- A date, a time, or both, as it is written. -/
def moment : Scanner Toml := fun cs => do
  let ((), rest) ← (dateTime <|> time) cs
  return (.moment (String.ofList (cs.take (cs.length - rest.length))), rest)

def boolean : Scanner Toml :=
  (do token "true".toList; return .bool true) <|> (do token "false".toList; return .bool false)

def scalar : Scanner Toml :=
  (.string <$> string) <|> boolean <|> moment <|> float <|> specialFloat <|> integer

end RefDoc.Toml.Scanner
