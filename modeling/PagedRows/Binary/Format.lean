import PagedRows.Power

/-!
# Binary floating-point formats

A format is given by the widths of its two stored fields.  The magnitude of a
number is its bit pattern without the sign.  Every finite magnitude stands for
a whole number of *units*, a unit being the least positive value of the format,
so that decoding and rounding are arithmetic on natural numbers.
-/

namespace PagedRows

/-- The integer nearest to `numerator / denominator`; of two, the even one. -/
def divideToEven (numerator denominator : Nat) : Nat :=
  let quotient := numerator / denominator
  let doubledRest := 2 * (numerator % denominator)
  if doubledRest < denominator then quotient
  else if denominator < doubledRest then quotient + 1
  else quotient + quotient % 2

namespace Binary

/-- The widths of the stored fields of a floating-point format. -/
structure Format where
  fractionWidth : Nat
  exponentWidth : Nat
deriving DecidableEq

namespace Format

def double : Format where
  fractionWidth := 52
  exponentWidth := 11

def single : Format where
  fractionWidth := 23
  exponentWidth := 8

def width (format : Format) : Nat :=
  format.exponentWidth + format.fractionWidth

/-- The magnitude of infinity; greater magnitudes are not numbers. -/
def infinity (format : Format) : Nat :=
  (2 ^ format.exponentWidth - 1) * 2 ^ format.fractionWidth

/-- One unit of the format is two to the power of minus this. -/
def unitScale (format : Format) : Nat :=
  2 ^ (format.exponentWidth - 1) - 2 + format.fractionWidth

/-- The number of units that a finite magnitude stands for. -/
def units (format : Format) (magnitude : Nat) : Nat :=
  let fraction := magnitude % 2 ^ format.fractionWidth
  match magnitude / 2 ^ format.fractionWidth with
  | 0 => fraction
  | exponent + 1 => (2 ^ format.fractionWidth + fraction) * 2 ^ exponent

/-- The magnitude nearest to `numerator / denominator` units, ties to even.

Two neighbouring magnitudes near a value are `2 ^ shift` units apart, and the
magnitudes of one shift follow each other without a gap; a quotient that rounds
up to the next power of two is thereby the first magnitude of the next shift. -/
def nearest (format : Format) (numerator denominator : Nat) : Nat :=
  let shift := (numerator / denominator).log2 - format.fractionWidth
  let steps := divideToEven numerator (denominator * 2 ^ shift)
  min (shift * 2 ^ format.fractionWidth + steps) format.infinity

theorem infinity_lt (format : Format) : format.infinity < 2 ^ format.width := by
  have exponentPositive : 0 < 2 ^ format.exponentWidth := Nat.two_pow_pos _
  rw [infinity, width, Nat.pow_add]
  exact Nat.mul_lt_mul_of_pos_right (by omega) (Nat.two_pow_pos _)

theorem nearest_le_infinity (format : Format) (numerator denominator : Nat) :
    format.nearest numerator denominator ≤ format.infinity :=
  Nat.min_le_right _ _

end Format

end Binary

end PagedRows
