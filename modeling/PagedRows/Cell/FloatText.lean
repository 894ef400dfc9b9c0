import PagedRows.Decimal.Layout

/-!
# The text of float cells

A float that is read as text appears in decimal, with at least one digit on
each side of the point.  Numbers below a thousandth and from ten million on
have an exponent.
-/

namespace PagedRows

namespace Cell

/-- How finite floats are written. -/
def floatLayout : Layout where
  leastPositional := -3
  greatestPositional := 6
  exponentMark := 'E'
  plusSign := false
  fractionAlways := true
  tie := .above

end Cell

/-- The text of a float; the special values are spelled out. -/
def Double.text (number : Double) : List Char :=
  if number.isNaN then "NaN".toList
  else if number.isInfinite then
    if number.negative then "-Infinity".toList else "Infinity".toList
  else Cell.floatLayout.text number

end PagedRows
