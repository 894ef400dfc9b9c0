import PagedRows.Proofs.Nearest
import PagedRows.Proofs.WrittenDecimal

/-!
# Leading digits and thresholds

Rounding keeps the order of quotients.  So a number and a decimal that is read as it lie
on the same side of a power of ten, unless the number is the one that the power itself is
read as.  Which digits are chosen for a number therefore matters at a threshold only for
one number, and for this one they are the power of ten.
-/

namespace PagedRows

namespace Binary.Format

variable {format : Format} {numerator denominator other divisor : Nat}

private theorem unbounded_le_unbounded (fraction : 0 < format.fractionWidth)
    (positive : 0 < denominator) (least : numerator ≤ other) :
    format.unbounded numerator denominator ≤ format.unbounded other denominator := by
  have surrounds := format.surrounds_unbounded fraction numerator positive
  have surroundsOther := format.surrounds_unbounded fraction other positive
  generalize format.unbounded numerator denominator = magnitude at surrounds ⊢
  generalize format.unbounded other denominator = smaller at surroundsOther ⊢
  apply Nat.le_of_not_lt
  intro less
  obtain ⟨between, rfl⟩ := Nat.exists_eq_add_of_lt less
  have lower := surrounds.lower (smaller + between) rfl
  have upper := surroundsOther.upper
  have next := format.units_le_units (Nat.le_add_right (smaller + 1) between)
  rw [Nat.add_right_comm] at next
  by_cases adjacent : between = 0
  · subst adjacent
    have even := surrounds.lowerTie smaller rfl
    have evenOther := surroundsOther.upperTie
    rw [Nat.add_zero] at lower even
    omega
  · have here := format.units_lt_units
      (Nat.lt_add_of_pos_right (Nat.pos_of_ne_zero adjacent) : smaller < smaller + between)
    have apart := Nat.mul_lt_mul_of_pos_right (Nat.add_lt_add_of_lt_of_le here next) positive
    omega

/-- Rounding keeps the order of quotients. -/
theorem nearest_le_nearest (fraction : 0 < format.fractionWidth) (positive : 0 < denominator)
    (positiveOther : 0 < divisor) (least : numerator * divisor ≤ other * denominator) :
    format.nearest numerator denominator ≤ format.nearest other divisor := by
  have area := Nat.mul_pos positive positiveOther
  calc format.nearest numerator denominator
    _ = format.nearest (numerator * divisor) (denominator * divisor) :=
        format.nearest_congr positive area (by rw [Nat.mul_comm denominator, Nat.mul_assoc])
    _ ≤ format.nearest (other * denominator) (denominator * divisor) := by
        have unbounded := unbounded_le_unbounded fraction area least
        rw [nearest_eq_min, nearest_eq_min]
        omega
    _ = format.nearest other divisor :=
        format.nearest_congr area positiveOther (by rw [Nat.mul_assoc])

/-- A bound on units is a bound on magnitudes, if the units reach it at one magnitude and
not before. -/
theorem le_magnitude_iff {threshold bound factor : Nat}
    (reached : bound ≤ factor * format.units threshold)
    (before : ∀ prior, threshold = prior + 1 → factor * format.units prior < bound)
    (magnitude : Nat) :
    threshold ≤ magnitude ↔ bound ≤ factor * format.units magnitude := by
  constructor
  · intro least
    exact Nat.le_trans reached (Nat.mul_le_mul_left factor (format.units_le_units least))
  · intro enough
    apply Nat.le_of_not_lt
    intro less
    obtain ⟨between, rfl⟩ := Nat.exists_eq_add_of_lt less
    have below := before (magnitude + between) rfl
    have smaller := Nat.mul_le_mul_left factor
      (format.units_le_units (Nat.le_add_right magnitude between))
    omega

end Binary.Format

namespace Decimal

variable {format : Binary.Format}

/-- Reading keeps the order of decimals. -/
theorem magnitude_toBinary_le {left right : Decimal} (fraction : 0 < format.fractionWidth)
    (least : left.significand * 10 ^ (left.exponent.toNat + (-right.exponent).toNat) ≤
      right.significand * 10 ^ (right.exponent.toNat + (-left.exponent).toNat)) :
    (left.toBinary false format).magnitude ≤ (right.toBinary false format).magnitude := by
  have ten (places : Nat) : 0 < 10 ^ places := Nat.pow_pos (by decide)
  have scaled (significand up down : Nat) :
      significand * 10 ^ up * 2 ^ format.unitScale * 10 ^ down =
        significand * 10 ^ (up + down) * 2 ^ format.unitScale := by
    rw [Nat.mul_right_comm, Nat.pow_add, Nat.mul_assoc significand]
  rw [toBinary_eq_ofRatio, toBinary_eq_ofRatio, Binary.magnitude_ofRatio,
    Binary.magnitude_ofRatio]
  apply Binary.Format.nearest_le_nearest fraction (ten _) (ten _)
  rw [scaled, scaled]
  exact Nat.mul_le_mul_right _ least

/-- The magnitude that a power of ten is read as. -/
def powerOfTen (format : Binary.Format) (power : Int) : Nat :=
  (toBinary ⟨1, power⟩ false format).magnitude

variable {decimal : Decimal} {power : Int}

theorem powerOfTen_le (fraction : 0 < format.fractionWidth) (nonzero : decimal.significand ≠ 0)
    (least : power ≤ decimal.leadingExponent) :
    powerOfTen format power ≤ (decimal.toBinary false format).magnitude := by
  have digits : 0 < (Nat.toDigits 10 decimal.significand).length := Nat.length_toDigits_pos
  have leading := ten_pow_le_significand nonzero
  rw [leadingExponent] at least
  apply magnitude_toBinary_le fraction
  generalize (Nat.toDigits 10 decimal.significand).length = length at *
  calc 1 * 10 ^ (power.toNat + (-decimal.exponent).toNat)
    _ ≤ 10 ^ (length - 1 + (decimal.exponent.toNat + (-power).toNat)) := by
        rw [Nat.one_mul]
        exact Nat.pow_le_pow_right (by decide) (by omega)
    _ = 10 ^ (length - 1) * 10 ^ (decimal.exponent.toNat + (-power).toNat) :=
        Nat.pow_add _ _ _
    _ ≤ decimal.significand * 10 ^ (decimal.exponent.toNat + (-power).toNat) :=
        Nat.mul_le_mul_right _ leading

theorem le_powerOfTen (fraction : 0 < format.fractionWidth)
    (less : decimal.leadingExponent < power) :
    (decimal.toBinary false format).magnitude ≤ powerOfTen format power := by
  have leading := decimal.significand_lt_ten_pow
  rw [leadingExponent] at less
  apply magnitude_toBinary_le fraction
  generalize (Nat.toDigits 10 decimal.significand).length = length at *
  calc decimal.significand * 10 ^ (decimal.exponent.toNat + (-power).toNat)
    _ ≤ 10 ^ length * 10 ^ (decimal.exponent.toNat + (-power).toNat) :=
        Nat.mul_le_mul_right _ (Nat.le_of_lt leading)
    _ = 10 ^ (length + (decimal.exponent.toNat + (-power).toNat)) := (Nat.pow_add _ _ _).symm
    _ ≤ 1 * 10 ^ (power.toNat + (-decimal.exponent).toNat) := by
        rw [Nat.one_mul]
        exact Nat.pow_le_pow_right (by decide) (by omega)

end Decimal

namespace Double

variable {number : Double}

/-- The shortest decimal of what a power of ten is read as does not lie below this power. -/
def Reaches (tie : Tie) (power : Int) : Prop :=
  ∀ negative : Bool, power ≤
    (shortestDecimal (Decimal.toBinary ⟨1, power⟩ negative .double) tie).leadingExponent

instance (tie : Tie) (power : Int) : Decidable (Reaches tie power) :=
  inferInstanceAs (Decidable (∀ negative : Bool, power ≤
    (shortestDecimal (Decimal.toBinary ⟨1, power⟩ negative .double) tie).leadingExponent))

/-- Shortest digits begin beyond a power of ten for no other numbers than those that are
at least what the power is read as. -/
theorem le_leadingExponent_shortestDecimal_iff {tie : Tie} {power : Int}
    (reaches : Reaches tie power) (finite : number.isFinite = true)
    (nonzero : number.isZero = false) :
    power ≤ (number.shortestDecimal tie).leadingExponent ↔
      Decimal.powerOfTen .double power ≤ number.magnitude := by
  have reads := of_decide_eq_true (readsFrom_shortestDecimal finite tie)
  have digits := significand_shortestDecimal_ne_zero finite nonzero tie
  constructor
  · intro least
    rw [← reads]
    exact Decimal.powerOfTen_le (by decide) digits least
  · intro least
    apply Int.le_of_not_gt
    intro less
    have most : number.magnitude ≤ Decimal.powerOfTen .double power := by
      rw [← reads]
      exact Decimal.le_powerOfTen (by decide) less
    have itself := toBinary_of_readsFrom (decide_eq_true (Nat.le_antisymm least most))
    have beyond := reaches number.negative
    rw [itself] at beyond
    omega

/-- A number is at least a thousandth and less than ten million. -/
def IsModerate (number : Double) : Prop :=
  2 ^ Binary.Format.double.unitScale ≤ 10 ^ 3 * number.units ∧
    number.units < 10 ^ 7 * 2 ^ Binary.Format.double.unitScale

private theorem powerOfTen_thousandth_le_iff :
    Decimal.powerOfTen .double (-3) ≤ number.magnitude ↔
      2 ^ Binary.Format.double.unitScale ≤ 10 ^ 3 * number.units := by
  have read : Decimal.powerOfTen .double (-3) = 0x3f50624dd2f1a9fc := by decide +kernel
  rw [read]
  apply Binary.Format.le_magnitude_iff (by decide +kernel)
  rintro prior ⟨⟩
  decide +kernel

private theorem powerOfTen_tenMillion_le_iff :
    Decimal.powerOfTen .double 7 ≤ number.magnitude ↔
      10 ^ 7 * 2 ^ Binary.Format.double.unitScale ≤ 1 * number.units := by
  have read : Decimal.powerOfTen .double 7 = 0x416312d000000000 := by decide +kernel
  rw [read]
  apply Binary.Format.le_magnitude_iff (by decide +kernel)
  rintro prior ⟨⟩
  decide +kernel

/-- The leading digit of the shortest decimal tells whether a number is moderate. -/
theorem leadingExponent_shortestDecimal_iff (finite : number.isFinite = true)
    (nonzero : number.isZero = false) :
    (-3 ≤ (number.shortestDecimal .above).leadingExponent ∧
      (number.shortestDecimal .above).leadingExponent ≤ 6) ↔ number.IsModerate := by
  have thousandth : Reaches .above (-3) := by decide +kernel
  have tenMillion : Reaches .above 7 := by decide +kernel
  have low := le_leadingExponent_shortestDecimal_iff thousandth finite nonzero
  have high := le_leadingExponent_shortestDecimal_iff tenMillion finite nonzero
  rw [powerOfTen_thousandth_le_iff] at low
  rw [powerOfTen_tenMillion_le_iff, Nat.one_mul] at high
  rw [IsModerate, ← low, ← Nat.not_le, ← high]
  omega

end Double

end PagedRows
