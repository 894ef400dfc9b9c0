import PagedRows.Proofs.Nearest
import PagedRows.Proofs.Scaling
import PagedRows.Proofs.Spelling

/-!
# The value of hexadecimal numerals

A hexadecimal numeral is read as the float nearest to its value rounded to the bits of a
float.  For numerals of few significant bits, and wherever floats have all their bits, this
is the float nearest to the value.  Among the least floats, which have fewer bits, it need
not be.
-/

namespace PagedRows.Numeral

private theorem hexadecimalDigit?_lt {character : Char} {digit : Nat}
    (read : hexadecimalDigit? character = some digit) : digit < 16 := by
  rw [hexadecimalDigit?] at read
  split at read
  next decimal =>
    cases read
    have most : character.toNat ≤ 57 := (Char.isDigit_iff_toNat.mp decimal).2
    change character.toNat - 48 < 16
    omega
  split at read
  next lower =>
    cases read
    have most : character.toNat ≤ 102 := lower.2
    change character.toNat - 97 + 10 < 16
    omega
  split at read
  next upper =>
    cases read
    have most : character.toNat ≤ 70 := upper.2
    change character.toNat - 65 + 10 < 16
    omega
  next => cases read

theorem saturatedExponent_eq_min (digits : List Char) :
    saturatedExponent digits = min (Nat.ofDigitChars 10 digits 0) greatestExponent := by
  suffices general : ∀ exponent : Nat,
      digits.foldl
          (fun exponent digit =>
            min (min (10 * exponent) greatestExponent + (digit.toNat - '0'.toNat))
              greatestExponent)
          (min exponent greatestExponent) =
        min (Nat.ofDigitChars 10 digits exponent) greatestExponent by
    exact general 0
  induction digits with
  | nil => simp
  | cons digit digits induction =>
      intro exponent
      have taken : min (min (10 * min exponent greatestExponent) greatestExponent +
          (digit.toNat - '0'.toNat)) greatestExponent =
            min (10 * exponent + (digit.toNat - '0'.toNat)) greatestExponent := by
        omega
      rw [List.foldl_cons, taken, induction, Nat.ofDigitChars_cons]

namespace HexadecimalNumeral

variable (numeral : HexadecimalNumeral)

def digitValues : List Nat :=
  (numeral.digits.whole ++ numeral.digits.fraction).filterMap hexadecimalDigit?

/-- What the digits stand for, without the point. -/
def number : Nat :=
  baseSixteen numeral.digitValues

/-- The power of two that the number counts. -/
def power : Int :=
  numeral.exponent.value (Nat.ofDigitChars 10 · 0) - 4 * numeral.digits.fraction.length

private theorem base {digit : Nat} (member : digit ∈ numeral.digitValues) : digit < 16 := by
  obtain ⟨character, -, read⟩ := List.mem_filterMap.mp member
  exact hexadecimalDigit?_lt read

private theorem length_digitValues :
    numeral.digitValues.length =
      numeral.digits.whole.length + numeral.digits.fraction.length := by
  rw [digitValues, ← List.length_append, List.filterMap_length_eq_length]
  intro character member
  rw [isSome_hexadecimalDigit?]
  exact numeral.digits.all character member

theorem exists_holds :
    ∃ dropped, numeral.significand.Holds numeral.digitValues
      numeral.digits.fraction.length dropped := by
  have length : (numeral.digits.fraction.filterMap hexadecimalDigit?).length =
      numeral.digits.fraction.length := by
    rw [List.filterMap_length_eq_length]
    intro character member
    rw [isSome_hexadecimalDigit?]
    exact numeral.digits.forall_fraction character member
  have split : numeral.digitValues =
      numeral.digits.whole.filterMap hexadecimalDigit? ++
        numeral.digits.fraction.filterMap hexadecimalDigit? :=
    List.filterMap_append
  rw [split, ← length]
  apply Significand.holds_ofDigits
  intro digit member
  rw [← split] at member
  exact numeral.base member

/-- No text is so long that it brings an exponent beyond the greatest one back. -/
theorem ofPower_value_exponent {significand : Nat} (small : significand.log2 ≤ 65)
    {shift : Int} (low : -2 ^ 62 ≤ shift) (high : shift ≤ 2 ^ 62) :
    (Binary.ofPower 2 false significand
      (numeral.exponent.value saturatedExponent + shift) : Double) =
        .ofPower 2 false significand
          (numeral.exponent.value (Nat.ofDigitChars 10 · 0) + shift) := by
  have saturated := saturatedExponent_eq_min numeral.exponent.digits
  have scale : Binary.Format.double.unitScale = 1074 := by decide
  have greatest : greatestExponent = 2 ^ 63 - 1 := rfl
  simp only [Exponent.value, Sign.apply]
  generalize Nat.ofDigitChars 10 numeral.exponent.digits 0 = exact at saturated ⊢
  by_cases reached : exact ≤ greatestExponent
  · rw [saturated, Nat.min_eq_left reached]
  · apply Binary.ofPower_of_beyond 1141 false (by omega)
    split
    · left
      omega
    · right
      omega

/-- A numeral is read as its number rounded to significant bits, times its power. -/
theorem value_eq_ofPower
    (short : numeral.digits.whole.length + numeral.digits.fraction.length < 2 ^ 60) :
    numeral.value =
      .ofPower 2 false (Binary.Format.double.significant numeral.number) numeral.power := by
  obtain ⟨dropped, holds⟩ := numeral.exists_holds
  have among := holds.among
  have shift := holds.shift
  rw [length_digitValues] at among
  have small := Significand.log2_significant_le holds.fits
  have sum : numeral.exponent.value (Nat.ofDigitChars 10 · 0) + numeral.significand.shift =
      numeral.power + (4 * dropped : Nat) := by
    rw [shift, power]
    omega
  rw [value, Significand.toDouble_eq_ofPower holds.fits,
    numeral.ofPower_value_exponent small (by omega) (by omega), sum,
    ← Binary.ofPower_mul_pow (Nat.le_refl 2), ← holds.significant_eq, number]

def numerator : Nat :=
  numeral.number * 2 ^ (numeral.power + Binary.Format.double.unitScale).toNat

/-- The numerator after the number has been rounded to the bits of a float. -/
def roundedNumerator : Nat :=
  Binary.Format.double.significant numeral.number *
    2 ^ (numeral.power + Binary.Format.double.unitScale).toNat

def denominator : Nat :=
  2 ^ (-(numeral.power + Binary.Format.double.unitScale)).toNat

theorem denominator_pos : 0 < numeral.denominator :=
  Nat.two_pow_pos _

/-- There are no more significant bits than a float has, or the value is at least the first
float with all its bits. -/
def RoundsOnce : Prop :=
  Binary.Format.double.significant numeral.number = numeral.number ∨
    2 ^ Binary.Format.double.fractionWidth * numeral.denominator ≤ numeral.numerator

theorem magnitude_value
    (short : numeral.digits.whole.length + numeral.digits.fraction.length < 2 ^ 60) :
    numeral.value.magnitude =
      Binary.Format.double.nearest numeral.roundedNumerator numeral.denominator := by
  rw [numeral.value_eq_ofPower short, Binary.magnitude_ofPower_two]
  rfl

private theorem nearest_roundedNumerator (once : numeral.RoundsOnce) :
    Binary.Format.double.nearest numeral.roundedNumerator numeral.denominator =
      Binary.Format.double.nearest numeral.numerator numeral.denominator := by
  rcases once with exact | large
  · rw [roundedNumerator, exact, numerator]
  · exact Binary.Format.double.nearest_significant large

theorem length_digits_le :
    numeral.digits.whole.length + numeral.digits.fraction.length ≤ numeral.text.length := by
  have written : numeral.digits.fraction.length ≤ numeral.digits.fractionText.length := by
    rw [Digits.fraction, Digits.fractionText]
    cases numeral.digits.fraction? with
    | none => exact Nat.le_refl _
    | some fraction => exact Nat.le_succ _
  simp only [text, body, Digits.text, List.length_cons, List.length_append]
  omega

end HexadecimalNumeral

/-- A hexadecimal numeral is read as the float nearest to its value rounded to the bits of
a float, and nearest to its value itself wherever that is no second rounding. -/
theorem read?_hexadecimal {text : List Char} {sign : Sign} {numeral : HexadecimalNumeral}
    (spelled : Text.trim isPadding text = Spelling.text ⟨sign, .hexadecimal numeral⟩)
    (short : text.length < 2 ^ 60) :
    ∃ number : Double, read? text = some number ∧
      number.negative = decide (sign = .minus) ∧
      Binary.Format.double.IsNearest numeral.roundedNumerator numeral.denominator
        number.magnitude ∧
      (numeral.RoundsOnce →
        Binary.Format.double.IsNearest numeral.numerator numeral.denominator
          number.magnitude) := by
  have few : numeral.digits.whole.length + numeral.digits.fraction.length < 2 ^ 60 := by
    have digits := numeral.length_digits_le
    have trimmed := Text.length_trim_le isPadding text
    rw [spelled, Spelling.text, List.length_append] at trimmed
    exact Nat.lt_of_le_of_lt (by simp only [Magnitude.text] at trimmed; omega) short
  have magnitude := numeral.magnitude_value few
  have negative : numeral.value.negative = false := by
    rw [numeral.value_eq_ofPower few, Binary.negative_ofPower (Nat.le_refl 2)]
  have nearest (numerator : Nat) :
      Binary.Format.double.IsNearest numerator numeral.denominator
        (Binary.Format.double.nearest numerator numeral.denominator) :=
    Binary.Format.double.isNearest_nearest (by decide) numerator numeral.denominator_pos
  have signed : (Spelling.value ⟨sign, .hexadecimal numeral⟩).negative =
        decide (sign = .minus) ∧
      (Spelling.value ⟨sign, .hexadecimal numeral⟩).magnitude = numeral.value.magnitude := by
    rw [Spelling.value]
    split
    next minus =>
      have minus : sign = .minus := minus
      exact ⟨by simp [Binary.negate, Magnitude.value, negative, minus], rfl⟩
    next other =>
      have other : sign ≠ .minus := other
      exact ⟨by simp [Magnitude.value, negative, other], rfl⟩
  refine ⟨_, Spelling.read?_eq_some spelled, signed.1, ?_, ?_⟩
  · rw [signed.2, magnitude]
    exact nearest _
  · intro once
    rw [signed.2, magnitude, numeral.nearest_roundedNumerator once]
    exact nearest _

/-- A numeral with one bit more than a float has, which lies halfway between two. -/
def halfwayUp : HexadecimalNumeral where
  capital := true
  digits :=
    { whole := ['1']
      fraction? := some "fffffffffffff8".toList
      all := List.all_eq_true.mp rfl
      present := by decide }
  exponent := ⟨'p', .plus, ['3'], by decide, by decide⟩
  suffix? := some ⟨'d', by decide⟩

theorem read?_hexadecimal_of_halfwayUp :
    ∃ number : Double, read? " -0X1.fffffffffffff8p+3d\n".toList = some number ∧
      number.negative = true ∧
      Binary.Format.double.IsNearest halfwayUp.numerator halfwayUp.denominator
        number.magnitude := by
  have spelled : Text.trim isPadding " -0X1.fffffffffffff8p+3d\n".toList =
      Spelling.text ⟨.minus, .hexadecimal halfwayUp⟩ := by
    decide
  have once : halfwayUp.RoundsOnce := .inr (by decide +kernel)
  obtain ⟨number, read, negative, -, nearest⟩ := read?_hexadecimal spelled (by decide)
  exact ⟨number, read, negative, nearest once⟩

/-- A little more than half of the least positive float. -/
def aboveHalfUnit : HexadecimalNumeral where
  capital := false
  digits :=
    { whole := ['1']
      fraction? := some "00000000000001".toList
      all := List.all_eq_true.mp rfl
      present := by decide }
  exponent := ⟨'p', .minus, "1075".toList, by decide, by decide⟩
  suffix? := none

/-- The bits of a float do not show the little more, and the rest is halfway between zero
and the least positive float, which would have been the nearest. -/
theorem read?_above_half_unit :
    Text.trim isPadding "0x1.00000000000001p-1075".toList =
        Spelling.text ⟨.absent, .hexadecimal aboveHalfUnit⟩ ∧
      (∃ number : Double, read? "0x1.00000000000001p-1075".toList = some number ∧
        number.magnitude = 0 ∧
        ¬Binary.Format.double.IsNearest aboveHalfUnit.numerator aboveHalfUnit.denominator
          number.magnitude) ∧
      Binary.Format.double.IsNearest aboveHalfUnit.numerator aboveHalfUnit.denominator 1 := by
  have spelled : Text.trim isPadding "0x1.00000000000001p-1075".toList =
      Spelling.text ⟨.absent, .hexadecimal aboveHalfUnit⟩ := by
    decide
  have zero : aboveHalfUnit.value.magnitude = 0 := by
    rw [aboveHalfUnit.magnitude_value (by decide)]
    decide +kernel
  have one : Binary.Format.double.nearest aboveHalfUnit.numerator aboveHalfUnit.denominator =
      1 := by
    decide +kernel
  have farther : ¬Binary.Format.double.error aboveHalfUnit.numerator aboveHalfUnit.denominator
      0 ≤ Binary.Format.double.error aboveHalfUnit.numerator aboveHalfUnit.denominator 1 := by
    decide +kernel
  refine ⟨spelled, ⟨_, Spelling.read?_eq_some spelled, zero, ?_⟩, ?_⟩
  · intro nearest
    have closest := nearest.closest 1 (by decide)
    rw [Spelling.value, if_neg (by decide), Magnitude.value, zero] at closest
    exact farther closest
  · rw [← one]
    exact Binary.Format.double.isNearest_nearest (by decide) _ aboveHalfUnit.denominator_pos

end PagedRows.Numeral
