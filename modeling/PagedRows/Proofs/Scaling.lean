import PagedRows.Proofs.Mantissa

/-!
# Scaling by powers of two

Scaling multiplies by powers of two one after the other and rounds every product.  A
number of few significant bits is not changed by that while it stays away from the least
magnitudes, so that only the last product is really rounded; and exponents are cut off
only where the result is zero or infinity with or without it.
-/

namespace PagedRows

namespace Binary

variable {format : Format}

section Powers

variable (negative : Bool) {significand : Nat} {exponent : Int}

theorem magnitude_ofPower_two (exponent : Int) :
    (ofPower 2 negative significand exponent : Binary format).magnitude =
      format.nearest (significand * 2 ^ (exponent + format.unitScale).toNat)
        (2 ^ (-(exponent + format.unitScale)).toNat) := by
  have positive (power : Nat) : 0 < 2 ^ power := Nat.two_pow_pos power
  rw [ofPower_eq_ofRatio (Nat.le_refl 2), magnitude_ofRatio]
  apply format.nearest_congr (positive _) (positive _)
  simp only [Nat.mul_assoc, ← Nat.pow_add]
  congr 2
  omega

theorem magnitude_ofPower_two_of_whole (places : Nat) :
    (ofPower 2 negative significand (places - format.unitScale) : Binary format).magnitude =
      min (format.unbounded (significand * 2 ^ places) 1) format.infinity := by
  have up : ((places : Int) - format.unitScale + format.unitScale).toNat = places := by omega
  have down : (-((places : Int) - format.unitScale + format.unitScale)).toNat = 0 := by omega
  rw [magnitude_ofPower_two, up, down, Nat.pow_zero, Format.nearest_eq_min]

variable (few : format.significant significand = significand)

include few

/-- Such a number of units with few significant bits is held exactly. -/
theorem units_unbounded_of_few (places : Nat) :
    format.units (format.unbounded (significand * 2 ^ places) 1) =
      significand * 2 ^ places := by
  rw [Format.units_unbounded_one, Format.significant_mul_two_pow, few]

private theorem units_ofPower_two {places : Nat}
    (finite : (ofPower 2 negative significand (places - format.unitScale) :
      Binary format).isFinite = true) :
    (ofPower 2 negative significand (places - format.unitScale) : Binary format).units =
      significand * 2 ^ places := by
  rw [isFinite_iff, magnitude_ofPower_two_of_whole] at finite
  rw [units, magnitude_ofPower_two_of_whole, Nat.min_eq_left (by omega),
    units_unbounded_of_few few]

theorem isFinite_ofPower_two_of_le (places more : Nat)
    (finite : (ofPower 2 negative significand ((places + more : Nat) - format.unitScale) :
      Binary format).isFinite = true) :
    (ofPower 2 negative significand (places - format.unitScale) :
      Binary format).isFinite = true := by
  rw [isFinite_iff, magnitude_ofPower_two_of_whole] at finite ⊢
  have least : format.unbounded (significand * 2 ^ places) 1 ≤
      format.unbounded (significand * 2 ^ (places + more)) 1 := by
    apply Nat.le_of_not_lt
    intro less
    have units := format.units_lt_units less
    rw [units_unbounded_of_few few, units_unbounded_of_few few, Nat.pow_add,
      ← Nat.mul_assoc] at units
    have grown := Nat.le_mul_of_pos_right (significand * 2 ^ places) (Nat.two_pow_pos more)
    omega
  omega

/-- Scaling adds exponents, unless it would have to come back from infinity. -/
theorem scaleBy_ofPower_two {power : Int} (low : -(format.unitScale : Int) ≤ power)
    (reaches : (ofPower 2 negative significand power : Binary format).isFinite = true ∨
      0 ≤ exponent) :
    (ofPower 2 negative significand power : Binary format).scaleBy exponent =
      ofPower 2 negative significand (power + exponent) := by
  obtain ⟨places, rfl⟩ : ∃ places : Nat, power = places - format.unitScale :=
    ⟨(power + format.unitScale).toNat, by omega⟩
  rw [scaleBy]
  split
  next finite =>
    have sum : exponent - format.unitScale + places =
        places - format.unitScale + exponent := by
      omega
    rw [units_ofPower_two negative few finite, negative_ofPower (Nat.le_refl 2),
      ofPower_mul_pow (Nat.le_refl 2), sum]
  next infinite =>
    obtain ⟨more, rfl⟩ : ∃ more : Nat, exponent = more :=
      ⟨exponent.toNat, by have := reaches.resolve_left infinite; omega⟩
    have sum : (places : Int) - format.unitScale + more =
        ((places + more : Nat) : Int) - format.unitScale := by
      omega
    have still := mt (isFinite_ofPower_two_of_le negative few places more) infinite
    rw [sum]
    rw [isFinite_iff] at infinite still
    apply eq_of_magnitude_eq
    · simp
    · rw [magnitude_ofPower_two_of_whole] at infinite still ⊢
      rw [magnitude_ofPower_two_of_whole]
      omega

end Powers

theorem ofInt_eq_ofPower (value : Nat)
    (room : format.fractionWidth ≤ format.unitScale) :
    (ofInt value : Binary format) = ofPower 2 false (format.significant value) 0 := by
  have ratio : (ofPower 2 false (format.significant value) 0 : Binary format) =
      ofRatio false (format.significant value) 1 := by
    rw [ofPower_eq_ofRatio (Nat.le_refl 2)]
    simp
  rw [ratio]
  apply eq_of_magnitude_eq
  · simp [ofInt]
  by_cases zero : value = 0
  · simp [ofInt, zero]
  have large : 2 ^ format.fractionWidth * 2 ^ 0 ≤ value * 2 ^ format.unitScale := by
    rw [Nat.pow_zero, Nat.mul_one]
    refine Nat.le_trans (Nat.pow_le_pow_right (by decide) room) ?_
    exact Nat.le_mul_of_pos_left _ (Nat.pos_of_ne_zero zero)
  simpa [ofInt] using (format.nearest_significant large).symm

private theorem zero_scaleBy (negative : Bool) (exponent : Int) :
    (ofRatio negative 0 1 : Double).scaleBy exponent = ofRatio negative 0 1 := by
  have zero : (ofRatio negative 0 1 : Double).magnitude = 0 := by
    rw [magnitude_ofRatio, Nat.zero_mul]
    exact Format.nearest_of_lt _ (by decide)
  have finite : (ofRatio negative 0 1 : Double).isFinite = true := by
    rw [isFinite_iff, zero]
    decide
  have none : (ofRatio negative 0 1 : Double).units = 0 := by
    rw [units, zero]
    decide
  rw [scaleBy, if_pos finite, none]
  simp [ofPower]

end Binary

namespace Numeral.Significand

theorem scaleInSteps_of_le {number : Double} {exponent : Int} (low : -1000 ≤ exponent)
    (high : exponent ≤ 1000) : scaleInSteps number exponent = number.scaleBy exponent := by
  rw [scaleInSteps, if_neg (by omega), if_neg (by omega)]

private theorem scaleInSteps_zero (negative : Bool) (exponent : Int) :
    scaleInSteps (.ofRatio negative 0 1) exponent = .ofRatio negative 0 1 := by
  rw [scaleInSteps]
  split
  · rw [Binary.zero_scaleBy]
    exact scaleInSteps_zero negative _
  split
  · rw [Binary.zero_scaleBy]
    exact scaleInSteps_zero negative _
  · exact Binary.zero_scaleBy negative exponent
termination_by exponent.natAbs

section Steps

variable (negative : Bool) {significand : Nat}
  (few : Binary.Format.double.significant significand = significand)

include few

/-- Going up, every product is exact or infinite. -/
theorem scaleInSteps_up {power exponent : Int} (whole : 0 ≤ power) (up : 0 ≤ exponent) :
    scaleInSteps (.ofPower 2 negative significand power) exponent =
      .ofPower 2 negative significand (power + exponent) := by
  have low : -(Binary.Format.double.unitScale : Int) ≤ power := by omega
  by_cases more : 1000 < exponent
  · have sum : power + 1000 + (exponent - 1000) = power + exponent := by omega
    rw [scaleInSteps, if_pos more,
      Binary.scaleBy_ofPower_two negative few low (.inr (by decide)),
      scaleInSteps_up (by omega) (by omega), sum]
  · rw [scaleInSteps_of_le (by omega) (by omega)]
    exact Binary.scaleBy_ofPower_two negative few low (.inr up)
termination_by exponent.natAbs

/-- Going down, only the last product is rounded, unless all that is left is zero. -/
theorem scaleInSteps_down {exponent : Int}
    (finite : (Binary.ofPower 2 negative significand 0 : Double).isFinite = true)
    (small : significand.log2 ≤ 65) (down : exponent ≤ 0) :
    scaleInSteps (.ofPower 2 negative significand 0) exponent =
      .ofPower 2 negative significand exponent := by
  have scale : Binary.Format.double.unitScale = 1074 := by decide
  have scaled {power more : Int} (low : -1074 ≤ power) (high : power ≤ 0) :
      (Binary.ofPower 2 negative significand power : Double).scaleBy more =
        .ofPower 2 negative significand (power + more) := by
    apply Binary.scaleBy_ofPower_two negative few (by omega)
    left
    obtain ⟨places, rfl⟩ : ∃ places : Nat,
        power = places - Binary.Format.double.unitScale :=
      ⟨(power + 1074).toNat, by omega⟩
    apply Binary.isFinite_ofPower_two_of_le negative few places (1074 - places)
    have zero : ((places + (1074 - places) : Nat) : Int) - Binary.Format.double.unitScale =
        0 := by
      omega
    rw [zero]
    exact finite
  by_cases near : -1000 ≤ exponent
  · rw [scaleInSteps_of_le near (by omega), scaled (by omega) (by omega), Int.zero_add]
  rw [scaleInSteps, if_neg (by omega), if_pos (by omega), scaled (by omega) (by omega),
    Int.zero_add]
  by_cases second : -1000 ≤ exponent + 1000
  · have sum : -1000 + (exponent + 1000) = exponent := by omega
    rw [scaleInSteps_of_le second (by omega), scaled (by omega) (by omega), sum]
  · have nothing {power : Int} (low : power ≤ -2000) :
        (Binary.ofPower 2 negative significand power : Double) = .ofRatio negative 0 1 := by
      unfold Binary.ofPower
      exact if_pos (.inr (by omega))
    rw [scaleInSteps, if_neg (by omega), if_pos (by omega), scaled (by omega) (by omega),
      nothing (by omega), nothing (by omega), scaleInSteps_zero]

theorem scaleInSteps_ofPower {exponent : Int}
    (finite : (Binary.ofPower 2 negative significand 0 : Double).isFinite = true)
    (small : significand.log2 ≤ 65) :
    scaleInSteps (.ofPower 2 negative significand 0) exponent =
      .ofPower 2 negative significand exponent := by
  rcases Int.le_total 0 exponent with up | down
  · rw [scaleInSteps_up negative few (Int.le_refl 0) up, Int.zero_add]
  · exact scaleInSteps_down negative few finite small down

end Steps

theorem ofPower_clamp (negative : Bool) {significand : Nat} (small : significand.log2 ≤ 65)
    {least greatest : Int} (low : least < -1141) (high : 1141 < greatest) (exponent : Int) :
    (Binary.ofPower 2 negative significand (clamp least greatest exponent) : Double) =
      .ofPower 2 negative significand exponent := by
  have scale : Binary.Format.double.unitScale = 1074 := by decide
  by_cases inside : least ≤ exponent ∧ exponent ≤ greatest
  · have same : clamp least greatest exponent = exponent := by
      rw [clamp]
      omega
    rw [same]
  · apply Binary.ofPower_of_beyond 1141 negative (by omega)
    rw [clamp]
    omega

theorem log2_significant_le {mantissa : Nat} (fits : mantissa < 2 ^ 64) :
    (Binary.Format.double.significant mantissa).log2 ≤ 65 := by
  have twice := Binary.Format.double.significant_le_two_mul mantissa
  by_cases zero : Binary.Format.double.significant mantissa = 0
  · rw [zero, Nat.log2_zero]
    decide
  · exact Nat.le_of_lt_succ ((Nat.log2_lt zero).mpr (by omega))

/-- A significand becomes a float as if its mantissa were rounded to the bits of a float
and then multiplied once. -/
theorem toDouble_eq_ofPower {significand : Significand} (fits : significand.mantissa < 2 ^ 64)
    (exponent : Int) :
    significand.toDouble exponent =
      .ofPower 2 false (Binary.Format.double.significant significand.mantissa)
        (exponent + significand.shift) := by
  have few := Binary.Format.double.significant_significant significand.mantissa
  have small := log2_significant_le fits
  have whole : (Binary.ofInt significand.mantissa : Double) =
      .ofPower 2 false (Binary.Format.double.significant significand.mantissa) 0 :=
    Binary.ofInt_eq_ofPower significand.mantissa (by decide)
  have finite : (Binary.ofPower 2 false
      (Binary.Format.double.significant significand.mantissa) 0 : Double).isFinite = true := by
    have below : (significand.mantissa : Int).natAbs < 2 ^ 64 := fits
    rw [← whole]
    exact Binary.isFinite_ofInt below (by decide) (by decide)
  rw [toDouble, whole, scaleInSteps_ofPower false few finite small,
    ofPower_clamp false small (by decide) (by decide),
    ofPower_clamp false small (by decide) (by decide)]

end Numeral.Significand

end PagedRows
