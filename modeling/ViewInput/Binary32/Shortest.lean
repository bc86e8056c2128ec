import ViewInput.Binary32

/-!
# The shortest decimal of a 32-bit float

A finite float is `m * 2 ^ q`, and the reals that round to it form an interval around it.  Among
the decimals in that interval the shortest one is written, and of those with the fewest digits the
nearest; a tie goes away from zero.

If a grid of `n` digits meets the interval at all, one of the two grid points next to the value
does: so it is enough to **try the two neighbours for one digit, two digits and so on**, in exact
arithmetic on natural numbers.  Nine digits always suffice.

The text is positional, however large or small the number, and a whole number has no point.
-/

namespace ViewInput.Binary32

/-! ## The value and its interval -/

/-- A positive real as a quotient of natural numbers, together with the distances to the ends of
the interval of reals that round to it, over the same denominator.  The ends belong to the interval
when `closed` holds. -/
structure Rounding where
  value : Nat
  below : Nat
  above : Nat
  denominator : Nat
  closed : Bool

/-- The interval of a finite nonzero float, from its encoded magnitude.  All numerators are doubled
twice, so that a quarter of a unit is still whole.  The gap below a power of two is half as wide,
and the ends round to even. -/
def Rounding.ofMagnitude (magnitude : Nat) : Rounding :=
  let exponent := magnitude / exponentStep
  let fraction := magnitude % exponentStep
  let m := if exponent = 0 then fraction else fraction + exponentStep
  let shift := (if exponent = 0 then 1 else exponent) - 1
  let scale := 1 <<< (shift - 149)
  { value := 4 * m * scale
    below := (if fraction = 0 ∧ 1 < exponent then 1 else 2) * scale
    above := 2 * scale
    denominator := 4 <<< (149 - shift)
    closed := m % 2 = 0 }

/-! ## Digits -/

/-- The decimal `digits * 10 ^ exponent`. -/
structure Decimal where
  digits : Nat
  exponent : Int

/-- Numerator and denominator of `value / 10 ^ exponent`, given those of `value`. -/
def scaleDown (numerator denominator : Nat) (exponent : Int) : Nat × Nat :=
  if 0 ≤ exponent then (numerator, denominator * Nat.pow 10 exponent.toNat)
  else (numerator * Nat.pow 10 (-exponent).toNat, denominator)

/-- The place of the first digit: the least `e`, from `from` on and at most `fuel` steps further,
with `value < 10 ^ e`. -/
def leadingPlace (numerator denominator : Nat) : Nat → Int → Int
  | 0, place => place
  | fuel + 1, place =>
    let (n, d) := scaleDown numerator denominator place
    if n < d then place else leadingPlace numerator denominator fuel (place + 1)

namespace Rounding

/-- Whether the grid point `digits * 10 ^ exponent` rounds to the value. -/
def reaches (r : Rounding) (candidate : Decimal) : Bool :=
  let (v, d) := scaleDown r.value r.denominator candidate.exponent
  let (b, _) := scaleDown r.below r.denominator candidate.exponent
  let (a, _) := scaleDown r.above r.denominator candidate.exponent
  let c := candidate.digits * d
  if r.closed then decide (v ≤ c + b ∧ c ≤ v + a) else decide (v < c + b ∧ c < v + a)

/-- The best of the two grid points next to the value, on the grid of step `10 ^ exponent`. -/
def onGrid? (r : Rounding) (exponent : Int) : Option Decimal :=
  let (v, d) := scaleDown r.value r.denominator exponent
  let low : Decimal := ⟨v / d, exponent⟩
  let high : Decimal := ⟨v / d + 1, exponent⟩
  if r.reaches low then
    if r.reaches high && decide (d ≤ 2 * (v % d)) then some high else some low
  else if r.reaches high then some high else none

/-- The first hit among grids that grow finer digit by digit. -/
def firstHit (r : Rounding) (place : Int) : Nat → Nat → Decimal
  | 0, n => ⟨(scaleDown r.value r.denominator (place - n)).1, place - n⟩
  | fuel + 1, n => (r.onGrid? (place - n)).getD (r.firstHit place fuel (n + 1))

/-- The shortest decimal in the interval. -/
def shortest (r : Rounding) : Decimal :=
  r.firstHit (leadingPlace r.value r.denominator 100 (-45)) 9 1

end Rounding

/-! ## Text -/

/-- The digits of a positive decimal without zeros at their end, and the place of the first. -/
def Decimal.layout (d : Decimal) : List Char × Int :=
  let digits := Nat.toDigits 10 d.digits
  ((digits.reverse.dropWhile (· == '0')).reverse, digits.length + d.exponent)

/-- Positional notation, with a point only if there are decimals. -/
def Decimal.positional (d : Decimal) : String :=
  let (digits, place) := d.layout
  if place ≤ 0 then
    "0." ++ String.ofList (List.replicate (-place).toNat '0' ++ digits)
  else
    let whole := place.toNat
    let front := digits.take whole ++ List.replicate (whole - digits.length) '0'
    let back := digits.drop whole
    String.ofList front ++ (if back.isEmpty then "" else "." ++ String.ofList back)

/-- **The text of a float**: the shortest decimal that reads back, never with an exponent. -/
def text (a : Float32) : String :=
  if a.isNaN then "NaN"
  else
    let m := magnitude a
    let unsigned :=
      if m = 0 then "0"
      else if m = 255 * exponentStep then "inf"
      else (Rounding.ofMagnitude m).shortest.positional
    if isNegative a then "-" ++ unsigned else unsigned

end ViewInput.Binary32
