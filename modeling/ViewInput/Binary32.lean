/-!
# Arithmetic on 32-bit coordinates

Every coordinate of the library is a 32-bit float.  Sums, differences, products and comparisons
are those of the type; this file adds the operations that need a rule of their own:

* **`larger` and `smaller`** give way to a number when one operand is not one;
* **`floor`, `ceil` and `nearest`** go to a whole number, computed on the encoding itself, so that
  each of them can be evaluated as well as run.

The encoding of a magnitude grows with the magnitude, and a whole multiple of `2 ^ k` units in the
last place is a carry into the exponent.  Rounding is therefore clearing the low bits, after adding
half of a unit or a whole one.
-/

namespace ViewInput.Binary32

/-! ## Choosing between two numbers -/

/-- The larger of two numbers.  A value that is no number gives way to the other, and of two equal
ones, such as the zeros of either sign, the second is taken. -/
def larger (a b : Float32) : Float32 :=
  if a.isNaN then b else if a ≤ b then b else a

/-- The smaller of two numbers, under the same rules as `larger`. -/
def smaller (a b : Float32) : Float32 :=
  if a.isNaN then b else if b ≤ a then b else a

/-- A length that is negative, or no number at all, counts as zero. -/
def nonNegative (a : Float32) : Float32 :=
  if 0 < a then a else 0

/-! ## Whole numbers -/

/-- The place of the sign in an encoding. -/
def signBit : Nat := 0x80000000

/-- The distance between the encodings of two neighbouring powers of two. -/
def exponentStep : Nat := 0x800000

/-- The encoding without its sign bit. -/
def magnitude (a : Float32) : Nat := a.toBits.toNat % signBit

def isNegative (a : Float32) : Bool := decide (signBit ≤ a.toBits.toNat)

/-- The value with the given sign and encoded magnitude. -/
def ofMagnitude (negative : Bool) (magnitude : Nat) : Float32 :=
  Float32.ofBits (UInt32.ofNat (if negative then signBit + magnitude else magnitude))

def oneBits : Nat := 127 * exponentStep

/-- How many of the low bits of an encoded magnitude of at least one stand for a fraction.  There
are none from `2 ^ 23` on, which takes in the infinities and what is no number. -/
def fractionBits (magnitude : Nat) : Nat := 150 - magnitude / exponentStep

/-- An encoded magnitude with its fraction removed. -/
def truncated (magnitude : Nat) : Nat :=
  if magnitude < oneBits then 0
  else (magnitude >>> fractionBits magnitude) <<< fractionBits magnitude

/-- The next whole number after the truncation of an encoded magnitude. -/
def succTruncated (magnitude : Nat) : Nat :=
  if magnitude < oneBits then oneBits
  else truncated magnitude + 1 <<< fractionBits magnitude

/-- The greatest whole number that is not greater. -/
def floor (a : Float32) : Float32 :=
  let m := magnitude a
  if truncated m = m then a
  else ofMagnitude (isNegative a) (if isNegative a then succTruncated m else truncated m)

/-- The least whole number that is not smaller. -/
def ceil (a : Float32) : Float32 :=
  let m := magnitude a
  if truncated m = m then a
  else ofMagnitude (isNegative a) (if isNegative a then truncated m else succTruncated m)

/-- The nearest whole number; a half goes away from zero. -/
def nearest (a : Float32) : Float32 :=
  let m := magnitude a
  if truncated m = m then a
  else
    let half :=
      if m < oneBits then oneBits - exponentStep else truncated m + 1 <<< (fractionBits m - 1)
    ofMagnitude (isNegative a) (if half ≤ m then succTruncated m else truncated m)

end ViewInput.Binary32
