import PagedRows.Numeral.Decimal

/-!
# Hexadecimal numerals

A hexadecimal numeral gives a significand in base sixteen, with or without a
point, and a binary exponent that may not be left out.  Its digits are
collected in a word of 64 bits; digits that no longer fit are remembered only
as being zero or not, in the lowest bit.  The word becomes a float, which the
exponent then scales by factors that are floats themselves.
-/

namespace PagedRows.Numeral

/-- The number that a hexadecimal digit stands for. -/
def hexadecimalDigit? (digit : Char) : Option Nat :=
  if digit.isDigit then some (digit.toNat - '0'.toNat)
  else if 'a' ≤ digit ∧ digit ≤ 'f' then some (digit.toNat - 'a'.toNat + 10)
  else if 'A' ≤ digit ∧ digit ≤ 'F' then some (digit.toNat - 'A'.toNat + 10)
  else none

/-- The leading bits of a significand, standing for `mantissa * 2 ^ shift`. -/
structure Significand where
  mantissa : Nat
  shift : Int
deriving DecidableEq

namespace Significand

def empty : Significand := ⟨0, 0⟩

/-- Takes in the next digit, which stands before or after the point.

While the mantissa leaves room it moves up by a digit.  After that a digit only
marks the lowest bit, so that a value beyond a halfway point still lies beyond
it, and one before the point moves the whole significand. -/
def push (fractional : Bool) (significand : Significand) (digit : Nat) :
    Significand :=
  if significand.mantissa < 2 ^ 60 then
    { mantissa := 16 * significand.mantissa + digit
      shift := if fractional then significand.shift - 4 else significand.shift }
  else
    { mantissa :=
        if digit = 0 then significand.mantissa
        else significand.mantissa / 2 * 2 + 1
      shift := if fractional then significand.shift else significand.shift + 4 }

/-- The significand of digits before and after the point. -/
def ofDigits (whole fraction : List Nat) : Significand :=
  fraction.foldl (push true) (whole.foldl (push false) empty)

/-- An integer, or the bound beyond which it lies. -/
def clamp (least greatest value : Int) : Int :=
  max least (min value greatest)

/-- A float times `2 ^ exponent`, by factors between `2 ^ (-1000)` and `2 ^ 1000`.
Every product is rounded. -/
def scaleInSteps (number : Double) (exponent : Int) : Double :=
  if 1000 < exponent then scaleInSteps (number.scaleBy 1000) (exponent - 1000)
  else if exponent < -1000 then scaleInSteps (number.scaleBy (-1000)) (exponent + 1000)
  else number.scaleBy exponent
termination_by exponent.natAbs

/-- The mantissa as a float, scaled by the shift and an exponent.  Their sum is kept
to 64 bits with sign, and to what can still tell a float from zero and infinity. -/
def toDouble (significand : Significand) (exponent : Int) : Double :=
  let power := clamp (-2 ^ 63) (2 ^ 63 - 1) (exponent + significand.shift)
  scaleInSteps (.ofInt significand.mantissa) (clamp (-4000) 4000 power)

end Significand

/-- The greatest exponent that is told from others. -/
def greatestExponent : Nat :=
  2 ^ 63 - 1

/-- The exponent that digits stand for, or the greatest one. -/
def saturatedExponent (digits : List Char) : Nat :=
  digits.foldl
    (fun exponent digit =>
      min (min (10 * exponent) greatestExponent + (digit.toNat - '0'.toNat))
        greatestExponent)
    0

/-- The letters before a binary exponent. -/
def isExponentMark (character : Char) : Bool :=
  character = 'p' || character = 'P'

/-- Reads what follows the mark `0x` of a hexadecimal numeral. -/
def hexadecimal? (text : List Char) : Option Double := do
  let significand := text.takeWhile (!isExponentMark ·)
  let exponent ← (text.dropWhile (!isExponentMark ·)).tail? >>= signed? saturatedExponent
  let whole := significand.takeWhile (· != '.')
  let fraction := (significand.dropWhile (· != '.')).drop 1
  if whole.isEmpty && fraction.isEmpty then none
  let wholeDigits ← whole.mapM hexadecimalDigit?
  let fractionDigits ← fraction.mapM hexadecimalDigit?
  return (Significand.ofDigits wholeDigits fractionDigits).toDouble exponent

end PagedRows.Numeral
