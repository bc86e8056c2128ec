import ViewInput.Toml.Text

/-!
# Numbers, dates and times

An integer has 64 bits; a float has the value nearest to its digits.  An underscore may divide two
digits.  Dates and times are only checked, for nothing reads their value.
-/

namespace ViewInput.Toml

/-! ## Digits -/

/-- Digits of a class, of which underscores may divide any two. -/
def digits (accepts : Char → Bool) : Scan (List Char) := do
  let first ← Scan.one accepts
  let others ← Scan.many (Scan.one accepts <|> (do Scan.literal "_"; Scan.one accepts))
  return first :: others

/-- A sign; `true` for minus. -/
def sign : Scan Bool := do
  match ← Scan.possibly (Scan.one (fun c => c == '+' || c == '-')) with
  | some '-' => return true
  | _ => return false

/-- Decimal digits of which the first is zero only if it is alone. -/
def decimalDigits : Scan (List Char) := do
  match ← Scan.peek with
  | '0' => return [← Scan.one isDigit]
  | _ => digits isDigit

/-! ## Integers -/

/-- A number of 64 bits with sign, or nothing. -/
def int64? (n : Int) : Scan Int :=
  if Int64.minValue.toInt ≤ n ∧ n ≤ Int64.maxValue.toInt then return n else failure

/-- An integer of a base that its first two characters tell. -/
def basedInteger (mark : String) (base : Nat) (accepts : Char → Bool) : Scan Int := do
  Scan.literal mark
  int64? (spelled base (← digits accepts))

/-- An integer. -/
def integer : Scan Int :=
  basedInteger "0x" 16 isHexDigit
    <|> basedInteger "0o" 8 (fun c => '0' ≤ c && c ≤ '7')
    <|> basedInteger "0b" 2 (fun c => c == '0' || c == '1')
    <|> do
      let negative ← sign
      let n : Int := spelled 10 (← decimalDigits)
      int64? (if negative then -n else n)

/-! ## Floats -/

/-- The float nearest to `mantissa * 10 ^ exponent`.  A number whose first digit stands further than
four hundred places from the point is out of range on that side. -/
def nearestFloat (mantissa : Nat) (exponent : Int) : Float :=
  let place := (Nat.toDigits 10 mantissa).length + exponent
  if mantissa = 0 || place < -400 then 0
  else if 400 < place then 1 / 0
  else if exponent < 0 then Float.ofScientific mantissa true (-exponent).toNat
  else Float.ofScientific mantissa false exponent.toNat

/-- The decimals of a float. -/
def decimals : Scan (List Char) := do
  Scan.literal "."
  digits isDigit

/-- The exponent of a float. -/
def exponent : Scan Int := do
  let _ ← Scan.one (fun c => c == 'e' || c == 'E')
  let negative ← sign
  let n : Int := spelled 10 (← digits isDigit)
  return if negative then -n else n

/-- A float in digits.  One that is too large is refused; on the negative side it counts as
infinite. -/
def decimalFloat : Scan Float := do
  let negative ← sign
  let whole ← decimalDigits
  let fraction ← Scan.possibly decimals
  let power ← Scan.possibly exponent
  if fraction.isNone && power.isNone then failure
  let fraction := fraction.getD []
  let unsigned := nearestFloat (spelled 10 (whole ++ fraction)) (power.getD 0 - fraction.length)
  if negative then return -unsigned
  else if unsigned.isInf then failure
  else return unsigned

/-- Infinity, or what is no number. -/
def specialFloat : Scan Float := do
  let negative ← sign
  let unsigned ← (do Scan.literal "inf"; return (1 / 0 : Float))
    <|> (do Scan.literal "nan"; return (0 / 0 : Float))
  return if negative then -unsigned else unsigned

/-- A float. -/
def float : Scan Float := decimalFloat <|> specialFloat

/-! ## Dates and times -/

/-- A number of a given count of digits, between two bounds. -/
def field (count least greatest : Nat) : Scan Nat := do
  let n := spelled 10 (← Scan.exactly count isDigit)
  if least ≤ n ∧ n ≤ greatest then return n else failure

/-- The number of days of a month. -/
def daysOfMonth (year month : Nat) : Nat :=
  if month = 2 then
    if (year % 4 = 0 ∧ year % 100 ≠ 0) ∨ year % 400 = 0 then 29 else 28
  else if month = 4 ∨ month = 6 ∨ month = 9 ∨ month = 11 then 30
  else 31

/-- A date. -/
def date : Scan Unit := do
  let year ← field 4 0 9999
  Scan.literal "-"
  let month ← field 2 1 12
  Scan.literal "-"
  let _ ← field 2 1 (daysOfMonth year month)

/-- A time of day, perhaps with decimals.  The minute may have a leap second. -/
def time : Scan Unit := do
  let _ ← field 2 0 23
  Scan.literal ":"
  let _ ← field 2 0 59
  Scan.literal ":"
  let _ ← field 2 0 60
  let _ ← Scan.possibly (do
    Scan.literal "."
    let _ ← Scan.one isDigit
    Scan.run isDigit)

/-- The distance from universal time. -/
def utcOffset : Scan Unit :=
  (do let _ ← Scan.one (fun c => c == 'Z' || c == 'z'))
    <|> do
      let _ ← Scan.one (fun c => c == '+' || c == '-')
      let _ ← field 2 0 23
      Scan.literal ":"
      let _ ← field 2 0 59

/-- A date, a time, or a date with a time and perhaps an offset. -/
def datetime : Scan Unit :=
  (do
    date
    let _ ← Scan.possibly (do
      let _ ← Scan.one (fun c => c == 'T' || c == 't' || c == ' ')
      time
      Scan.possibly utcOffset))
  <|> time

end ViewInput.Toml
