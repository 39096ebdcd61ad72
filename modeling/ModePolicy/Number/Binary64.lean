/-!
Binary floating-point numbers of 64 bits, as words.

A word holds a sign, eleven bits of exponent and fifty-two bits of fraction. `ofDecimal` reads a
decimal by rounding it to the nearest such number, a tie going to the even fraction. Everything is
exact arithmetic on integers, so that statements about a number are statements about its word.
-/

namespace ModePolicy

/-- A floating-point number, held as its word. -/
structure Binary64 where
  bits : UInt64
  deriving DecidableEq, Repr

namespace Binary64

/-- The exponent of the least positive number, two to the power of which it is. -/
def leastExponent : Int := -1074

/-- The greatest exponent of the last bit. -/
def greatestExponent : Int := 971

/-- The number is below zero, or minus zero. -/
def isNegative (x : Binary64) : Bool := x.bits >>> 63 == 1

/-- The eleven bits of exponent. -/
def exponentField (x : Binary64) : Nat := (x.bits >>> 52).toNat % 2048

/-- The fifty-two bits of fraction. -/
def fractionField (x : Binary64) : Nat := x.bits.toNat % Nat.pow 2 52

/-- The number is an infinity or not a number. -/
def isSpecial (x : Binary64) : Bool := x.exponentField == 2047

/-- Not a number. -/
def isNaN (x : Binary64) : Bool := x.isSpecial && x.fractionField != 0

/-- Zero of either sign. -/
def isZero (x : Binary64) : Bool := x.exponentField == 0 && x.fractionField == 0

/-- The size of a finite number as `m * 2 ^ q`. -/
def magnitude (x : Binary64) : Nat × Int :=
  if x.exponentField == 0 then (x.fractionField, leastExponent)
  else (Nat.pow 2 52 + x.fractionField, leastExponent + x.exponentField - 1)

/-- The word of a sign and thirty-two plus thirty-one bits of size. -/
def ofSize (negative : Bool) (size : Nat) : Binary64 :=
  ⟨UInt64.ofNat (if negative then size + Nat.pow 2 63 else size)⟩

/-- An infinity. -/
def infinity (negative : Bool) : Binary64 := ofSize negative (2047 * Nat.pow 2 52)

/-- Not a number. -/
def nan : Binary64 := ofSize false (2047 * Nat.pow 2 52 + Nat.pow 2 51)

/-- The size of a word whose last bit counts two to the power of `q` and whose significand is `m`,
carried into the exponent where `m` is one bit too long. -/
def sizeOfMagnitude (m : Nat) (q : Int) : Nat :=
  if m < Nat.pow 2 52 then m
  else if m < Nat.pow 2 53 then
    if q > greatestExponent then 2047 * Nat.pow 2 52
    else (q - leastExponent + 1).toNat * Nat.pow 2 52 + (m - Nat.pow 2 52)
  else if q + 1 > greatestExponent then 2047 * Nat.pow 2 52
  else (q + 1 - leastExponent + 1).toNat * Nat.pow 2 52 + (m / 2 - Nat.pow 2 52)

/-- The quotient of two numbers, rounded to the nearest integer, a tie to the even one. -/
def roundQuotient (num den : Nat) : Nat :=
  let floor := num / den
  let twice := 2 * (num % den)
  if twice > den || (twice == den && floor % 2 == 1) then floor + 1 else floor

/-- The nearest number to a positive fraction. -/
def ofFraction (negative : Bool) (num den : Nat) : Binary64 :=
  let estimate : Int := Nat.log2 num - (Nat.log2 den : Int) - 52
  -- the estimate may be one too large
  let exponent : Int :=
    if num * Nat.pow 2 (-estimate).toNat < Nat.pow 2 52 * (den * Nat.pow 2 estimate.toNat) then
      estimate - 1
    else estimate
  let q := max exponent leastExponent
  let significand := roundQuotient (num * Nat.pow 2 (-q).toNat) (den * Nat.pow 2 q.toNat)
  ofSize negative (sizeOfMagnitude significand q)

/-- How many decimal digits a number has; zero has one. -/
def digitCount (n : Nat) : Nat := (Nat.toDigits 10 n).length

/-- The nearest number to `digits * 10 ^ exponent`. Beyond the range it is an infinity or a zero. -/
def ofDecimal (negative : Bool) (digits : Nat) (exponent : Int) : Binary64 :=
  let top : Int := digitCount digits + exponent
  if digits == 0 || top < -330 then ofSize negative 0
  else if top > 310 then infinity negative
  else ofFraction negative (digits * Nat.pow 10 exponent.toNat) (Nat.pow 10 (-exponent).toNat)

/-- The number is this integer. -/
def isInt (x : Binary64) (n : Int) : Bool :=
  !x.isSpecial &&
    let (m, q) := x.magnitude
    let signed : Int := if x.isNegative then -m else m
    signed * Int.pow 2 q.toNat == n * Int.pow 2 (-q).toNat

/-- Two numbers are equal: the two zeros are, and nothing equals not-a-number. -/
def equal (x y : Binary64) : Bool :=
  !x.isNaN && !y.isNaN && (x.bits == y.bits || (x.isZero && y.isZero))

end Binary64

end ModePolicy
