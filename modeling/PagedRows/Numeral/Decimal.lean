import PagedRows.Decimal

/-!
# Decimal numerals

A decimal numeral has digits before a point, after it, or on both sides, and
may end in an exponent.  It carries no sign and no suffix; an exponent may be
signed.
-/

namespace PagedRows.Numeral

/-- Whether a text consists of one or more digits and nothing else. -/
def isDigits (text : List Char) : Bool :=
  !text.isEmpty && text.all Char.isDigit

/-- The integer written by digits with at most one sign before them, where `value`
gives the number that the digits stand for. -/
def signed? (value : List Char → Nat) : List Char → Option Int
  | '-' :: digits => if isDigits digits then some (-(value digits : Int)) else none
  | '+' :: digits => if isDigits digits then some (value digits) else none
  | digits => if isDigits digits then some (value digits) else none

/-- From here on an exponent takes in no more digits. -/
def exponentBound : Nat :=
  2 ^ 16

/-- The exponent that digits stand for.  It stays exact far beyond the range of
floats and no longer grows once it has reached the bound. -/
def boundedExponent (digits : List Char) : Nat :=
  digits.foldl
    (fun exponent digit =>
      if exponent < exponentBound then 10 * exponent + (digit.toNat - '0'.toNat)
      else exponent)
    0

/-- What may follow the digits of a numeral: nothing, or an exponent. -/
def exponentPart? : List Char → Option Int
  | [] => some 0
  | mark :: text =>
      if mark = 'e' ∨ mark = 'E' then signed? boundedExponent text else none

/-- Splits off the digits after a point; without a point there are none. -/
def fractionPart : List Char → List Char × List Char
  | '.' :: rest => (rest.takeWhile Char.isDigit, rest.dropWhile Char.isDigit)
  | rest => ([], rest)

/-- Reads a decimal numeral. -/
def decimal? (text : List Char) : Option Decimal :=
  let whole := text.takeWhile Char.isDigit
  let (fraction, rest) := fractionPart (text.dropWhile Char.isDigit)
  if whole.isEmpty && fraction.isEmpty then none
  else (exponentPart? rest).map (Decimal.ofDigits whole fraction)

end PagedRows.Numeral
