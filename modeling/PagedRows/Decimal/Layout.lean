import PagedRows.Decimal.Shortest

/-!
# Layouts of decimal text

A layout says which numbers are written positionally and how the others show
their exponent.  Both forms hold the same digits.
-/

namespace PagedRows

/-- The decisions that a written form of floating-point numbers leaves open. -/
structure Layout where
  /-- The least leading exponent that is written positionally. -/
  leastPositional : Int
  /-- The greatest leading exponent that is written positionally. -/
  greatestPositional : Int
  /-- The character before an exponent. -/
  exponentMark : Char
  /-- Whether an exponent that is not negative has a sign. -/
  plusSign : Bool
  /-- Whether a single digit before an exponent is followed by a fraction. -/
  fractionAlways : Bool
  /-- Which of two equally near shortest decimals is written. -/
  tie : Tie

namespace Layout

/-- Digits in their places, with at least one on each side of the point. -/
def positional (digits : List Char) (leading : Int) : List Char :=
  match leading with
  | .negSucc zeros => '0' :: '.' :: List.replicate zeros '0' ++ digits
  | .ofNat places =>
      let whole := digits.take (places + 1)
      let padding := List.replicate (places + 1 - digits.length) '0'
      let fraction := digits.drop (places + 1)
      whole ++ padding ++ '.' :: (if fraction.isEmpty then ['0'] else fraction)

/-- The exponent after its mark. -/
def exponentText (layout : Layout) (exponent : Int) : List Char :=
  match exponent with
  | .ofNat power =>
      (if layout.plusSign then ['+'] else []) ++ Nat.toDigits 10 power
  | .negSucc power => '-' :: Nat.toDigits 10 (power + 1)

/-- One digit before the point, the others after it, and the exponent. -/
def scientific (layout : Layout) (digits : List Char) (leading : Int) :
    List Char :=
  let fraction := digits.drop 1
  let written :=
    if fraction.isEmpty then
      if layout.fractionAlways then ['.', '0'] else []
    else '.' :: fraction
  digits.take 1 ++ written ++ layout.exponentMark :: layout.exponentText leading

/-- The text of a decimal that is not zero. -/
def decimalText (layout : Layout) (decimal : Decimal) : List Char :=
  let leading := decimal.leadingExponent
  if layout.leastPositional ≤ leading ∧ leading ≤ layout.greatestPositional then
    positional decimal.digits leading
  else
    layout.scientific decimal.digits leading

/-- The text of a finite number. -/
def text (layout : Layout) (number : Double) : List Char :=
  let magnitude :=
    if number.isZero then ['0', '.', '0']
    else layout.decimalText (number.shortestDecimal layout.tie)
  if number.negative then '-' :: magnitude else magnitude

end Layout

end PagedRows
