/-
The fewest decimal digits that read back.

A floating point number stands for all reals that are nearest to it, an interval whose
ends belong to it when its whole number is even.  Of the decimals in that interval those
with the fewest digits are wanted, and of these the one nearest to the number.  If a point
of a decimal grid lies in the interval, one of the two grid points around the number does,
so it is enough to try these two on grids of one digit, two digits and so on.
-/
import Adventure.Decimal.Binary64

namespace Adventure.Decimal

/-- The interval of a positive number: the number and its ends over one denominator, and
whether the ends belong to it. -/
structure Interval where
  value : Nat
  low : Nat
  high : Nat
  den : Nat
  closed : Bool

namespace Interval

/-- The interval of `mantissa * 2 ^ exponent`.  Below a power of two the neighbour is half
as far away. -/
def ofNumber (mantissa : Nat) (exponent : Int) : Interval :=
  let unit := twoTo exponent
  let den := 4 * twoTo (-exponent)
  let value := 4 * mantissa * unit
  let below := if mantissa == twoTo 52 && exponent > Binary64.leastExponent then 1 else 2
  ⟨value, value - below * unit, value + 2 * unit, den, mantissa % 2 == 0⟩

/-- Whether `digits * 10 ^ power` lies in the interval. -/
def contains (i : Interval) (digits : Nat) (power : Int) : Bool :=
  let point := digits * tenTo power * i.den
  let scale := tenTo (-power)
  if i.closed then i.low * scale ≤ point && point ≤ i.high * scale
  else i.low * scale < point && point < i.high * scale

/-- The number on a decimal grid, rounded down. -/
def floorAt (i : Interval) (power : Int) : Nat :=
  i.value * tenTo (-power) / (i.den * tenTo power)

/-- Whether the upper of the two grid points around the number is the one to take: the
nearer, or with both equally near the one with an even last digit. -/
def takesUpper (i : Interval) (digits : Nat) (power : Int) : Bool :=
  let middle := (2 * digits + 1) * tenTo power * i.den
  let twice := 2 * i.value * tenTo (-power)
  middle < twice || (middle == twice && digits % 2 == 1)

/-- The decimal on one grid that reads back, if there is one. -/
def onGrid? (i : Interval) (power : Int) : Option Nat :=
  let digits := i.floorAt power
  match i.contains digits power, i.contains (digits + 1) power with
  | true, true => some (if i.takesUpper digits power then digits + 1 else digits)
  | true, false => some digits
  | false, true => some (digits + 1)
  | false, false => none

/-- The first power of ten above the number. -/
def magnitude (i : Interval) : Int :=
  if i.den ≤ i.value then ((Nat.toDigits 10 (i.value / i.den)).length : Int)
  else
    match (List.range 400).find? fun (j : Nat) => i.den ≤ i.value * tenTo (j + 1 : Nat) with
    | some j => -(j : Int)
    | none => -400

end Interval

/-- Removes zeros from the end of digits, as long as the fuel lasts. -/
def stripZeros : Nat → Nat → Int → Nat × Int
  | 0, digits, power => (digits, power)
  | fuel + 1, digits, power =>
    if digits != 0 && digits % 10 == 0 then stripZeros fuel (digits / 10) (power + 1)
    else (digits, power)

/-- The shortest decimal of a positive number, as digits and a power of ten. -/
def shortest (mantissa : Nat) (exponent : Int) : Nat × Int :=
  let i := Interval.ofNumber mantissa exponent
  let grids := (List.range 17).map fun (n : Nat) => i.magnitude - ((n + 1 : Nat) : Int)
  match grids.findSome? fun power => (i.onGrid? power).map fun digits => (digits, power) with
  | some (digits, power) => stripZeros 20 digits power
  | none => (0, 0)

end Adventure.Decimal
