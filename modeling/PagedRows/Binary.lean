import PagedRows.Binary.Format

/-!
# Binary floating-point numbers

A number of a format is its sign and its magnitude, so equality of numbers is
equality of bit patterns; `equals` is the equality of arithmetic.  All numbers
that arise by calculation are rounded once, to the nearest of their format.
-/

namespace PagedRows

/-- A bit pattern of a floating-point format. -/
structure Binary (format : Binary.Format) where
  negative : Bool
  magnitude : Nat
  bounded : magnitude < 2 ^ format.width
deriving DecidableEq

abbrev Double := Binary .double

abbrev Single := Binary .single

namespace Binary

variable {format : Format}

/-- The pattern whose sign is the highest bit of `bits`. -/
def ofBits (format : Format) (bits : Nat) : Binary format where
  negative := bits.testBit format.width
  magnitude := bits % 2 ^ format.width
  bounded := Nat.mod_lt _ (Nat.two_pow_pos _)

/-- The pattern as one word, the sign in the highest bit. -/
def toBits (number : Binary format) : Nat :=
  number.negative.toNat * 2 ^ format.width + number.magnitude

def infinite (negative : Bool) : Binary format where
  negative := negative
  magnitude := format.infinity
  bounded := format.infinity_lt

/-- The pattern that stands for "not a number" in results. -/
def nan : Binary format where
  negative := false
  magnitude := 2 ^ format.width - 1
  bounded := Nat.sub_lt (Nat.two_pow_pos _) Nat.one_pos

def isNaN (number : Binary format) : Bool :=
  format.infinity < number.magnitude

def isInfinite (number : Binary format) : Bool :=
  number.magnitude = format.infinity

def isFinite (number : Binary format) : Bool :=
  number.magnitude < format.infinity

def isZero (number : Binary format) : Bool :=
  number.magnitude = 0

def negate (number : Binary format) : Binary format :=
  { number with negative := !number.negative }

/-- Arithmetical equality: both zeros are equal, and what is not a number
differs from everything, itself included. -/
def equals (left right : Binary format) : Bool :=
  !left.isNaN && !right.isNaN &&
    (left.isZero && right.isZero || decide (left = right))

/-- The number of units of a finite number, without its sign. -/
def units (number : Binary format) : Nat :=
  format.units number.magnitude

/-- The number nearest to `numerator / denominator` with the given sign. -/
def ofRatio (negative : Bool) (numerator denominator : Nat) : Binary format where
  negative := negative
  magnitude := format.nearest (numerator * 2 ^ format.unitScale) denominator
  bounded := Nat.lt_of_le_of_lt (format.nearest_le_infinity _ _) format.infinity_lt

def ofInt (value : Int) : Binary format :=
  ofRatio (value < 0) value.natAbs 1

/-- The number nearest to `significand * base ^ exponent`, for a base of at least
two.

An exponent beyond the range of the format decides the result alone, whatever
the significand; it is not raised to a power. -/
def ofPower (base : Nat) (negative : Bool) (significand : Nat) (exponent : Int) :
    Binary format :=
  let bound := format.unitScale + significand.log2 + 2
  if significand = 0 ∨ exponent < -bound then ofRatio negative 0 1
  else if bound < exponent then infinite negative
  else
    match exponent with
    | .ofNat power => ofRatio negative (significand * base ^ power) 1
    | .negSucc power => ofRatio negative significand (base ^ (power + 1))

/-- The number nearest to a finite number times `2 ^ exponent`. -/
def scaleBy (number : Binary format) (exponent : Int) : Binary format :=
  if number.isFinite then
    ofPower 2 number.negative number.units (exponent - format.unitScale)
  else number

/-- The integer part, toward zero.  An infinity counts as the first power of
two that is too great for the format. -/
def truncate (number : Binary format) : Int :=
  let whole : Int := number.units / 2 ^ format.unitScale
  if number.negative then -whole else whole

/-- The integer part, brought into the range of 64 bits; zero for what is not
a number. -/
def toInt64 (number : Binary format) : Int64 :=
  if number.isNaN then 0 else Int64.ofIntClamp number.truncate

def convert (number : Binary format) (target : Format) : Binary target :=
  if number.isNaN then nan
  else if number.isInfinite then infinite number.negative
  else ofRatio number.negative number.units (2 ^ format.unitScale)

end Binary

end PagedRows
