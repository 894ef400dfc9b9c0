import PagedRows.Binary

/-!
# Decimal numbers

A decimal is a whole number of powers of ten.  It is the common form of the
numerals that are read and of the digits that are chosen for printing.
-/

namespace PagedRows

/-- The number `significand * 10 ^ exponent`. -/
structure Decimal where
  significand : Nat
  exponent : Int
deriving DecidableEq

namespace Decimal

/-- The decimal written with digits before and after the point and with an
exponent. -/
def ofDigits (whole fraction : List Char) (exponent : Int) : Decimal where
  significand := Nat.ofDigitChars 10 (whole ++ fraction) 0
  exponent := exponent - fraction.length

def toBinary (decimal : Decimal) (negative : Bool) (format : Binary.Format) :
    Binary format :=
  Binary.ofPower 10 negative decimal.significand decimal.exponent

/-- The digits from the first to the last that is not zero. -/
def digits (decimal : Decimal) : List Char :=
  ((Nat.toDigits 10 decimal.significand).reverse.dropWhile (· == '0')).reverse

/-- The power of ten that the first digit counts. -/
def leadingExponent (decimal : Decimal) : Int :=
  (Nat.toDigits 10 decimal.significand).length - 1 + decimal.exponent

end Decimal

end PagedRows
