import PagedRows.Decimal

/-!
# Shortest decimals

For one, two, … seventeen digits the two decimals next to a number are tried,
one below and one above.  The first grid on which one of them reads back as
the number gives the decimal; if both do, it is the nearer one.  What reads
back is decided by the reader itself.
-/

namespace PagedRows

/-- Which of two equally near decimals is taken. -/
inductive Tie where
  | above
  | even
deriving DecidableEq

namespace Double

/-- Whether a decimal reads as a number, signs aside. -/
def readsFrom (number : Double) (decimal : Decimal) : Bool :=
  (decimal.toBinary false .double).magnitude = number.magnitude

/-- Every positive number exceeds ten to the power of minus this. -/
def leastPower : Nat :=
  324

/-- The power of ten of the first digit of a positive number.  The number is
enlarged before its digits are counted, so that it has at least one. -/
def leadingExponent (number : Double) : Int :=
  let enlarged :=
    number.units * 10 ^ leastPower / 2 ^ Binary.Format.double.unitScale
  (Nat.toDigits 10 enlarged).length - 1 - leastPower

/-- A number as a quotient in steps of `10 ^ exponent`. -/
def inSteps (number : Double) (exponent : Int) : Nat × Nat :=
  let scale := 2 ^ Binary.Format.double.unitScale
  match exponent with
  | .ofNat power => (number.units, scale * 10 ^ power)
  | .negSucc power => (number.units * 10 ^ (power + 1), scale)

/-- The decimal on the grid of steps `10 ^ exponent` that reads back as the
number, preferably the nearer of the two neighbours. -/
def onGrid? (number : Double) (tie : Tie) (exponent : Int) : Option Decimal :=
  let (numerator, denominator) := number.inSteps exponent
  let below : Decimal := ⟨numerator / denominator, exponent⟩
  let above : Decimal := ⟨numerator / denominator + 1, exponent⟩
  match number.readsFrom below, number.readsFrom above with
  | true, true =>
      let doubledRest := 2 * (numerator % denominator)
      if doubledRest < denominator then some below
      else if denominator < doubledRest then some above
      else match tie with
        | .above => some above
        | .even => if below.significand % 2 = 0 then some below else some above
  | true, false => some below
  | false, true => some above
  | false, false => none

/-- The exact value, a multiple of a power of one half and hence of one tenth. -/
def exactDecimal (number : Double) : Decimal :=
  let scale := Binary.Format.double.unitScale
  ⟨number.units * 5 ^ scale, -scale⟩

/-- The shortest decimal that reads back as a positive number. -/
def shortestDecimal (number : Double) (tie : Tie) : Decimal :=
  let leading := number.leadingExponent
  ((List.range 17).findSome? fun (places : Nat) =>
    number.onGrid? tie (leading - places)).getD number.exactDecimal

end Double

end PagedRows
