/-
Binary floating point numbers of 64 bits, as far as reading and writing them goes.

A finite number is a whole number of at most 53 bits times a power of two from 2^-1074
up.  Reading a decimal takes the nearest such number, and of two that are equally near the
one with an even whole number; what lies beyond the greatest of them is infinite.
-/

namespace Adventure.Decimal

/-- Two to a power; one for a negative power. -/
def twoTo (power : Int) : Nat :=
  Nat.pow 2 power.toNat

/-- Ten to a power; one for a negative power. -/
def tenTo (power : Int) : Nat :=
  Nat.pow 10 power.toNat

/-- A floating point number. -/
inductive Binary64 where
  /-- `mantissa * 2 ^ exponent`, with its sign. -/
  | finite (negative : Bool) (mantissa : Nat) (exponent : Int)
  | infinite (negative : Bool)
  | nan
  deriving DecidableEq, Repr

namespace Binary64

/-- The smallest exponent. -/
def leastExponent : Int := -1074

/-- The greatest exponent of a number with 53 bits. -/
def greatestExponent : Int := 971

/-- Rounds a quotient to the nearest whole number, a half to the even neighbour. -/
def roundQuotient (num den : Nat) : Nat :=
  let whole := num / den
  let twice := 2 * (num % den)
  if twice < den then whole
  else if twice > den then whole + 1
  else if whole % 2 == 0 then whole
  else whole + 1

/-- A quotient divided by a power of two, rounded. -/
def roundAt (num den : Nat) (exponent : Int) : Nat :=
  roundQuotient (num * twoTo (-exponent)) (den * twoTo exponent)

/-- The exponent at which a positive quotient, cut off, has 53 bits, as far as exponents
go down. -/
def exponentOf (num den : Nat) : Int :=
  let guess : Int := (num.log2 : Int) - (den.log2 : Int) - 52
  let tooGreat := num * twoTo (-guess) < den * twoTo guess * twoTo 52
  max leastExponent (if tooGreat then guess - 1 else guess)

/-- The number nearest to a positive quotient. -/
def ofQuotient (negative : Bool) (num den : Nat) : Binary64 :=
  let exponent := exponentOf num den
  let mantissa := roundAt num den exponent
  let (mantissa, exponent) :=
    if mantissa == twoTo 53 then (twoTo 52, exponent + 1) else (mantissa, exponent)
  if exponent > greatestExponent then .infinite negative
  else .finite negative mantissa exponent

/-- The number nearest to `digits * 10 ^ exponent`.  Numbers far out of range are told by
their number of digits, so that no power of ten grows beyond use. -/
def ofDecimal (negative : Bool) (digits : Nat) (exponent : Int) : Binary64 :=
  let magnitude := ((Nat.toDigits 10 digits).length : Int) + exponent
  if digits == 0 || magnitude < -330 then .finite negative 0 leastExponent
  else if magnitude > 310 then .infinite negative
  else ofQuotient negative (digits * tenTo exponent) (tenTo (-exponent))

/-- Whether two numbers are equal: zeros are, whatever their sign, and so is what is not a
number. -/
def same : Binary64 → Binary64 → Bool
  | .finite _ 0 _, .finite _ 0 _ => true
  | x, y => x == y

end Binary64

end Adventure.Decimal
