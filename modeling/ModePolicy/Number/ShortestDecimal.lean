import ModePolicy.Number.Binary64

/-!
The shortest decimal that reads back as a floating-point number, and its text.

The decimals that read back as a number fill an interval around it, ends included when its
significand is even. For one digit, two digits and so on the number's two neighbours on the decimal
grid are tried; the first grid with a neighbour inside the interval wins, and of two the nearer.
-/

namespace ModePolicy.Binary64

/-- A decimal `0.d₁d₂… * 10 ^ point`, the digits as one number. -/
structure Shortest where
  digits : Nat
  /-- Where the point stands relative to the first digit. -/
  point : Int
  deriving DecidableEq, Repr

/-- The power of ten next above a positive fraction, which may equal the power below it. -/
def pointOf (num den : Nat) : Int :=
  if num ≥ den then digitCount (num / den)
  else 1 - (digitCount ((den + num - 1) / num - 1) : Int)

/-- The neighbour of `m * 2 ^ q` with `count` digits that reads back, if there is one. -/
def neighbour? (m : Nat) (q : Int) (count : Nat) : Option Shortest :=
  let num := m * Nat.pow 2 q.toNat
  let den := Nat.pow 2 (-q).toNat
  let point := pointOf num den
  let shift : Int := count - point
  let n := num * Nat.pow 10 shift.toNat
  let d := den * Nat.pow 10 (-shift).toNat
  -- the gap below a power of two is half the gap above it
  let below := if m == Nat.pow 2 52 && q > leastExponent then 1 else 2
  let reads (c : Nat) : Bool :=
    let x := c * d * (4 * m)
    let low := n * (4 * m - below)
    let high := n * (4 * m + 2)
    if m % 2 == 0 then low ≤ x && x ≤ high else low < x && x < high
  let floor := n / d
  let pick : Option Nat :=
    match reads floor, reads (floor + 1) with
    | true, false => some floor
    | false, true => some (floor + 1)
    | true, true =>
      let twice := 2 * (n % d)
      some (if twice < d || (twice == d && floor % 2 == 0) then floor else floor + 1)
    | false, false => none
  pick.map fun c => ⟨c, if digitCount c > count then point + 1 else point⟩

/-- The shortest decimal of `m * 2 ^ q`. Seventeen digits always suffice. -/
def shortest (m : Nat) (q : Int) : Shortest :=
  ((List.range 17).findSome? fun i => neighbour? m q (i + 1)).getD ⟨m, 0⟩

/-- The digits without the zeros at their end. -/
def significant (digits : Nat) : List Char :=
  ((Nat.toDigits 10 digits).reverse.dropWhile (· == '0')).reverse

/-- Decimals whose point stands at most this far left of the first digit are written without an
exponent. -/
def leastPositionalPoint : Int := -3

/-- Decimals whose point stands at most this far right of the first digit are written without an
exponent. -/
def greatestPositionalPoint : Int := 16

/-- A decimal as text: positional near one, with at least one digit on each side of the point;
elsewhere one digit before the point and a signed exponent of at least two digits. -/
def Shortest.text (s : Shortest) : List Char :=
  let ds := significant s.digits
  if leastPositionalPoint ≤ s.point && s.point ≤ greatestPositionalPoint then
    if s.point ≤ 0 then '0' :: '.' :: (List.replicate (-s.point).toNat '0' ++ ds)
    else
      let whole := ds.take s.point.toNat
      let rest := ds.drop s.point.toNat
      whole ++ List.replicate (s.point.toNat - whole.length) '0'
        ++ '.' :: (if rest.isEmpty then ['0'] else rest)
  else
    let exponent := s.point - 1
    let size := Nat.toDigits 10 exponent.natAbs
    let padded := if size.length < 2 then '0' :: size else size
    let fraction := match ds.drop 1 with
      | [] => []
      | rest => '.' :: rest
    ds.take 1 ++ fraction ++ 'e' :: (if exponent < 0 then '-' else '+') :: padded

/-- A finite number as text. -/
def finiteText (x : Binary64) : List Char :=
  let size := if x.isZero then ['0', '.', '0'] else
    let (m, q) := x.magnitude
    (shortest m q).text
  if x.isNegative then '-' :: size else size

/-- A number as text, given the words for the special ones. -/
def textWith (notANumber infinite : List Char) (x : Binary64) : List Char :=
  if x.isNaN then notANumber
  else if x.isSpecial then if x.isNegative then '-' :: infinite else infinite
  else x.finiteText

end ModePolicy.Binary64
