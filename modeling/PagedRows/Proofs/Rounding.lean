import PagedRows.Binary

/-!
# Rounding exact quotients

Rounding sees nothing of a quotient but its value: numerator and denominator may be
multiplied alike.  A quotient that is a number of the format rounds to that number,
and an exponent so great or so small that it is not raised to a power would have led
to infinity or to zero anyway.
-/

namespace PagedRows

theorem divideToEven_mul_left {factor : Nat} (positive : 0 < factor)
    (numerator denominator : Nat) :
    divideToEven (factor * numerator) (factor * denominator) =
      divideToEven numerator denominator := by
  have quotient : factor * numerator / (factor * denominator) = numerator / denominator :=
    Nat.mul_div_mul_left numerator denominator positive
  have doubled : 2 * (factor * numerator % (factor * denominator)) =
      factor * (2 * (numerator % denominator)) := by
    rw [Nat.mul_mod_mul_left, Nat.mul_left_comm]
  simp only [divideToEven, quotient, doubled, Nat.mul_lt_mul_left positive]

theorem divideToEven_mul_self {denominator : Nat} (positive : 0 < denominator)
    (quotient : Nat) : divideToEven (quotient * denominator) denominator = quotient := by
  simp [divideToEven, Nat.mul_div_cancel _ positive, positive]

theorem divideToEven_le (numerator denominator : Nat) :
    divideToEven numerator denominator ≤ numerator / denominator + 1 := by
  simp only [divideToEven]
  split
  · omega
  · split
    · omega
    · have remainder := Nat.mod_lt (numerator / denominator) (by decide : 0 < 2)
      omega

theorem le_divideToEven (numerator denominator : Nat) :
    numerator / denominator ≤ divideToEven numerator denominator := by
  simp only [divideToEven]
  split
  · omega
  · split
    · omega
    · omega

/-- An integer is nearest to a quotient, and even if it is not the only one. -/
structure RoundsTo (numerator denominator rounded : Nat) : Prop where
  upper : 2 * numerator ≤ (2 * rounded + 1) * denominator
  lower : 2 * rounded * denominator ≤ 2 * numerator + denominator
  upperTie : 2 * numerator = (2 * rounded + 1) * denominator → rounded % 2 = 0
  lowerTie : 2 * rounded * denominator = 2 * numerator + denominator → rounded % 2 = 0

theorem roundsTo_divideToEven {denominator : Nat} (positive : 0 < denominator)
    (numerator : Nat) :
    RoundsTo numerator denominator (divideToEven numerator denominator) := by
  have split := Nat.div_add_mod numerator denominator
  have rest := Nat.mod_lt numerator positive
  unfold divideToEven
  generalize numerator % denominator = remainder at split rest
  generalize numerator / denominator = quotient at split
  have twice : 2 * quotient * denominator = 2 * (denominator * quotient) := by
    rw [Nat.mul_assoc, Nat.mul_comm quotient]
  have stay : (2 * quotient + 1) * denominator = 2 * (denominator * quotient) + denominator := by
    rw [Nat.add_mul, Nat.one_mul, twice]
  have next : 2 * (quotient + 1) * denominator =
      2 * (denominator * quotient) + 2 * denominator := by
    rw [Nat.mul_add, Nat.add_mul, twice, Nat.mul_one]
  have after : (2 * (quotient + 1) + 1) * denominator =
      2 * (denominator * quotient) + 3 * denominator := by
    rw [Nat.add_mul, Nat.one_mul, next]
    omega
  simp only
  split
  · exact ⟨by omega, by omega, by omega, by omega⟩
  split
  · exact ⟨by omega, by omega, by omega, by omega⟩
  rcases Nat.mod_two_eq_zero_or_one quotient with even | odd
  · rw [even, Nat.add_zero]
    exact ⟨by omega, by omega, fun _ => even, fun _ => even⟩
  · rw [odd]
    have even : (quotient + 1) % 2 = 0 := by omega
    exact ⟨by omega, by omega, fun _ => even, fun _ => even⟩

theorem RoundsTo.mul_right {numerator denominator rounded factor : Nat}
    (rounds : RoundsTo numerator denominator rounded) (positive : 0 < factor) :
    RoundsTo (numerator * factor) (denominator * factor) rounded := by
  obtain ⟨upper, lower, upperTie, lowerTie⟩ := rounds
  refine ⟨?_, ?_, ?_, ?_⟩
  · rw [← Nat.mul_assoc, ← Nat.mul_assoc]
    exact Nat.mul_le_mul_right factor upper
  · rw [← Nat.mul_assoc, ← Nat.mul_assoc, ← Nat.add_mul]
    exact Nat.mul_le_mul_right factor lower
  · rw [← Nat.mul_assoc, ← Nat.mul_assoc]
    exact fun tie => upperTie (Nat.eq_of_mul_eq_mul_right positive tie)
  · rw [← Nat.mul_assoc, ← Nat.mul_assoc, ← Nat.add_mul]
    exact fun tie => lowerTie (Nat.eq_of_mul_eq_mul_right positive tie)

theorem RoundsTo.eq_divideToEven {numerator denominator rounded : Nat}
    (positive : 0 < denominator) (rounds : RoundsTo numerator denominator rounded) :
    divideToEven numerator denominator = rounded := by
  have result := roundsTo_divideToEven positive numerator
  generalize divideToEven numerator denominator = other at result
  have apart {left right : Nat} (first : RoundsTo numerator denominator left)
      (second : RoundsTo numerator denominator right) : ¬left < right := by
    intro less
    have steps : 2 * (left + 1) * denominator ≤ 2 * right * denominator :=
      Nat.mul_le_mul_right denominator (Nat.mul_le_mul_left 2 less)
    have upper := first.upper
    have lower := second.lower
    have adjacent : 2 * (left + 1) * denominator =
        (2 * left + 1) * denominator + denominator := by
      rw [← Nat.succ_mul]
      rfl
    have leftEven := first.upperTie (by omega)
    have rightEven := second.lowerTie (by omega)
    have near : right = left + 1 := by
      have most : 2 * right * denominator = 2 * (left + 1) * denominator := by omega
      have same := Nat.eq_of_mul_eq_mul_right positive most
      omega
    omega
  have notLess := apart result rounds
  have notGreater := apart rounds result
  omega

namespace Binary

namespace Format

variable (format : Format)

private theorem nearest_mul_left {factor : Nat} (positive : 0 < factor)
    (numerator denominator : Nat) :
    format.nearest (factor * numerator) (factor * denominator) =
      format.nearest numerator denominator := by
  have quotient : factor * numerator / (factor * denominator) = numerator / denominator :=
    Nat.mul_div_mul_left numerator denominator positive
  simp only [nearest, quotient, Nat.mul_assoc, divideToEven_mul_left positive]

theorem nearest_congr {numerator denominator other divisor : Nat}
    (positive : 0 < denominator) (positiveOther : 0 < divisor)
    (same : numerator * divisor = other * denominator) :
    format.nearest numerator denominator = format.nearest other divisor := by
  calc format.nearest numerator denominator
    _ = format.nearest (divisor * numerator) (divisor * denominator) :=
        (format.nearest_mul_left positiveOther _ _).symm
    _ = format.nearest (denominator * other) (denominator * divisor) := by
        rw [Nat.mul_comm divisor numerator, same, Nat.mul_comm other, Nat.mul_comm divisor]
    _ = format.nearest other divisor := format.nearest_mul_left positive _ _

/-- How many steps of `2 ^ shift` units are nearest to a quotient. -/
def steps (numerator denominator : Nat) (shift : Nat) : Nat :=
  divideToEven numerator (denominator * 2 ^ shift)

/-- The size of the steps in which a quotient is rounded, as a power of two. -/
def stepShift (numerator denominator : Nat) : Nat :=
  (numerator / denominator).log2 - format.fractionWidth

/-- The nearest magnitude where magnitudes go on beyond infinity. -/
def unbounded (numerator denominator : Nat) : Nat :=
  format.stepShift numerator denominator * 2 ^ format.fractionWidth +
    steps numerator denominator (format.stepShift numerator denominator)

theorem nearest_eq_min (numerator denominator : Nat) :
    format.nearest numerator denominator =
      min (format.unbounded numerator denominator) format.infinity :=
  rfl

/-- Steps of more than one unit are no greater than the leading bit calls for. -/
theorem mul_le_of_stepShift_ne_zero {numerator denominator : Nat}
    (several : format.stepShift numerator denominator ≠ 0) :
    2 ^ format.fractionWidth * (denominator * 2 ^ format.stepShift numerator denominator) ≤
      numerator := by
  have nonzero : numerator / denominator ≠ 0 := by
    intro zero
    rw [stepShift, zero, Nat.log2_zero, Nat.zero_sub] at several
    exact several rfl
  have log : (numerator / denominator).log2 =
      format.fractionWidth + format.stepShift numerator denominator := by
    rw [stepShift] at several ⊢
    omega
  have least := Nat.log2_self_le nonzero
  rw [log, Nat.pow_add] at least
  rw [Nat.mul_left_comm, Nat.mul_comm]
  exact Nat.mul_le_of_le_div _ _ _ least

/-- Steps are single units, or there are so many that the leading bit is among them. -/
theorem stepShift_eq_zero_or_le_steps (numerator : Nat) {denominator : Nat}
    (positive : 0 < denominator) :
    format.stepShift numerator denominator = 0 ∨ 2 ^ format.fractionWidth ≤
      steps numerator denominator (format.stepShift numerator denominator) := by
  by_cases single : format.stepShift numerator denominator = 0
  · exact .inl single
  right
  have size := Nat.mul_pos positive
    (Nat.two_pow_pos (format.stepShift numerator denominator))
  exact Nat.le_trans
    ((Nat.le_div_iff_mul_le size).mpr (format.mul_le_of_stepShift_ne_zero single))
    (le_divideToEven _ _)

theorem steps_le (numerator denominator : Nat) :
    steps numerator denominator (format.stepShift numerator denominator) ≤
      2 * 2 ^ format.fractionWidth := by
  have rounded := divideToEven_le numerator
    (denominator * 2 ^ format.stepShift numerator denominator)
  have quotient : numerator / (denominator * 2 ^ format.stepShift numerator denominator) <
      2 ^ (format.fractionWidth + 1) := by
    rw [← Nat.div_div_eq_div_mul]
    apply Nat.div_lt_of_lt_mul
    rw [← Nat.pow_add]
    refine Nat.lt_of_lt_of_le Nat.lt_log2_self (Nat.pow_le_pow_right (by decide) ?_)
    rw [stepShift]
    omega
  rw [Nat.pow_succ] at quotient
  rw [steps]
  omega

theorem unbounded_units (magnitude : Nat) {denominator : Nat} (positive : 0 < denominator) :
    format.unbounded (format.units magnitude * denominator) denominator = magnitude := by
  have split := Nat.div_add_mod magnitude (2 ^ format.fractionWidth)
  have fractionLt := Nat.mod_lt magnitude (Nat.two_pow_pos format.fractionWidth)
  simp only [unbounded, stepShift, steps, Nat.mul_div_cancel _ positive]
  unfold units
  generalize magnitude % 2 ^ format.fractionWidth = fraction at split fractionLt
  generalize magnitude / 2 ^ format.fractionWidth = exponent at split
  cases exponent with
  | zero =>
      have small : fraction.log2 - format.fractionWidth = 0 := by
        by_cases zero : fraction = 0
        · rw [zero, Nat.log2_zero, Nat.zero_sub]
        · have below := (Nat.log2_lt zero).mpr fractionLt
          omega
      simp only [small, Nat.pow_zero, Nat.mul_one, Nat.zero_mul, Nat.zero_add,
        divideToEven_mul_self positive]
      omega
  | succ exponent =>
      have log : ((2 ^ format.fractionWidth + fraction) * 2 ^ exponent).log2 =
          format.fractionWidth + exponent := by
        have positive := Nat.mul_pos (Nat.add_pos_left (Nat.two_pow_pos format.fractionWidth)
          fraction) (Nat.two_pow_pos exponent)
        rw [Nat.log2_eq_iff (Nat.ne_of_gt positive)]
        constructor
        · rw [Nat.pow_add]
          exact Nat.mul_le_mul_right _ (Nat.le_add_right _ _)
        · rw [Nat.add_right_comm, Nat.pow_add]
          apply Nat.mul_lt_mul_of_pos_right _ (Nat.two_pow_pos exponent)
          rw [Nat.pow_succ]
          omega
      have shift : ((2 ^ format.fractionWidth + fraction) * 2 ^ exponent).log2 -
          format.fractionWidth = exponent := by
        omega
      have regroup : (2 ^ format.fractionWidth + fraction) * 2 ^ exponent * denominator =
          (2 ^ format.fractionWidth + fraction) * (denominator * 2 ^ exponent) := by
        rw [Nat.mul_assoc, Nat.mul_comm denominator]
      have steps : 0 < denominator * 2 ^ exponent :=
        Nat.mul_pos positive (Nat.two_pow_pos exponent)
      simp only [shift, regroup, divideToEven_mul_self steps]
      rw [Nat.mul_succ, Nat.mul_comm] at split
      omega

/-- A finite magnitude is the one nearest to its own number of units. -/
theorem nearest_units {magnitude : Nat} (finite : magnitude < format.infinity)
    {denominator : Nat} (positive : 0 < denominator) :
    format.nearest (format.units magnitude * denominator) denominator = magnitude := by
  rw [nearest_eq_min, unbounded_units format magnitude positive]
  exact Nat.min_eq_left (Nat.le_of_lt finite)

theorem nearest_of_lt {numerator denominator : Nat} (tiny : 2 * numerator < denominator) :
    format.nearest numerator denominator = 0 := by
  have quotient : numerator / denominator = 0 := Nat.div_eq_of_lt (by omega)
  have remainder : numerator % denominator = numerator := Nat.mod_eq_of_lt (by omega)
  have shift : (0 : Nat).log2 - format.fractionWidth = 0 := by
    rw [Nat.log2_zero, Nat.zero_sub]
  simp only [nearest, quotient, shift, Nat.pow_zero, Nat.mul_one, divideToEven, remainder,
    if_pos tiny]
  omega

theorem nearest_of_two_pow_le {numerator denominator : Nat}
    (huge : 2 ^ (2 ^ format.exponentWidth - 1 + format.fractionWidth) ≤
      numerator / denominator) :
    format.nearest numerator denominator = format.infinity := by
  have nonzero : numerator / denominator ≠ 0 := by
    have positive := Nat.two_pow_pos (2 ^ format.exponentWidth - 1 + format.fractionWidth)
    omega
  have log := (Nat.le_log2 nonzero).mpr huge
  have enough : format.infinity ≤
      ((numerator / denominator).log2 - format.fractionWidth) * 2 ^ format.fractionWidth :=
    Nat.mul_le_mul_right _ (by omega)
  simp only [nearest]
  omega

theorem nearest_le {numerator denominator bits : Nat}
    (below : numerator / denominator < 2 ^ (bits + format.fractionWidth + 1)) :
    format.nearest numerator denominator ≤ (bits + 2) * 2 ^ format.fractionWidth := by
  have log : (numerator / denominator).log2 ≤ bits + format.fractionWidth := by
    by_cases zero : numerator / denominator = 0
    · rw [zero, Nat.log2_zero]
      exact Nat.zero_le _
    · exact Nat.le_of_lt_succ ((Nat.log2_lt zero).mpr below)
  have shift : (numerator / denominator).log2 - format.fractionWidth ≤ bits := by omega
  have steps := format.steps_le numerator denominator
  have shifted := Nat.mul_le_mul_right (2 ^ format.fractionWidth) shift
  rw [nearest_eq_min, unbounded, Nat.add_mul]
  rw [stepShift] at steps ⊢
  omega

private theorem exponents_le_unitScale :
    2 ^ format.exponentWidth - 1 + format.fractionWidth ≤ 2 * format.unitScale + 3 := by
  rw [unitScale]
  cases format.exponentWidth with
  | zero => simp; omega
  | succ width =>
      have positive := Nat.two_pow_pos width
      rw [Nat.add_sub_cancel, Nat.pow_succ]
      omega

end Format

variable {format : Format}

theorem eq_of_magnitude_eq {left right : Binary format}
    (sign : left.negative = right.negative) (magnitude : left.magnitude = right.magnitude) :
    left = right := by
  cases left
  cases right
  cases sign
  cases magnitude
  rfl

theorem isFinite_iff {number : Binary format} :
    number.isFinite = true ↔ number.magnitude < format.infinity :=
  decide_eq_true_iff

@[simp] theorem negative_ofRatio (negative : Bool) (numerator denominator : Nat) :
    (ofRatio negative numerator denominator : Binary format).negative = negative :=
  rfl

@[simp] theorem magnitude_ofRatio (negative : Bool) (numerator denominator : Nat) :
    (ofRatio negative numerator denominator : Binary format).magnitude =
      format.nearest (numerator * 2 ^ format.unitScale) denominator :=
  rfl

theorem ofRatio_congr {numerator denominator other divisor : Nat} (negative : Bool)
    (positive : 0 < denominator) (positiveOther : 0 < divisor)
    (same : numerator * divisor = other * denominator) :
    (ofRatio negative numerator denominator : Binary format) =
      ofRatio negative other divisor := by
  have scaled : numerator * 2 ^ format.unitScale * divisor =
      other * 2 ^ format.unitScale * denominator := by
    rw [Nat.mul_right_comm, same, Nat.mul_right_comm]
  simp only [ofRatio, format.nearest_congr positive positiveOther scaled]

private theorem ofPower_of_tiny {base significand power : Nat} (atLeastTwo : 2 ≤ base)
    (negative : Bool)
    (tiny : format.unitScale + significand.log2 + 2 < power) :
    (ofRatio negative significand (base ^ power) : Binary format) = ofRatio negative 0 1 := by
  have below : 2 * (significand * 2 ^ format.unitScale) < base ^ power := by
    calc 2 * (significand * 2 ^ format.unitScale)
      _ < 2 * (2 ^ (significand.log2 + 1) * 2 ^ format.unitScale) := by
          apply Nat.mul_lt_mul_of_pos_left _ (by decide)
          exact Nat.mul_lt_mul_of_pos_right Nat.lt_log2_self (Nat.two_pow_pos _)
      _ = 2 ^ (format.unitScale + significand.log2 + 2) := by
          rw [← Nat.pow_add, ← Nat.pow_succ']
          congr 1
          omega
      _ ≤ 2 ^ power := Nat.pow_le_pow_right (by decide) (Nat.le_of_lt tiny)
      _ ≤ base ^ power := Nat.pow_le_pow_left atLeastTwo power
  have zero : format.nearest (0 * 2 ^ format.unitScale) 1 = 0 :=
    format.nearest_of_lt (by omega)
  simp only [ofRatio, format.nearest_of_lt below, zero]

private theorem ofPower_of_huge {base significand power : Nat} (atLeastTwo : 2 ≤ base)
    (negative : Bool) (nonzero : significand ≠ 0)
    (huge : format.unitScale + significand.log2 + 2 < power) :
    (ofRatio negative (significand * base ^ power) 1 : Binary format) = infinite negative := by
  have above : 2 ^ (2 ^ format.exponentWidth - 1 + format.fractionWidth) ≤
      significand * base ^ power * 2 ^ format.unitScale / 1 := by
    rw [Nat.div_one]
    calc 2 ^ (2 ^ format.exponentWidth - 1 + format.fractionWidth)
      _ ≤ 2 ^ (power + format.unitScale) := by
          apply Nat.pow_le_pow_right (by decide)
          have exponents := format.exponents_le_unitScale
          omega
      _ = 2 ^ power * 2 ^ format.unitScale := Nat.pow_add _ _ _
      _ ≤ significand * base ^ power * 2 ^ format.unitScale := by
          apply Nat.mul_le_mul_right
          refine Nat.le_trans (Nat.pow_le_pow_left atLeastTwo power) ?_
          exact Nat.le_mul_of_pos_left _ (Nat.pos_of_ne_zero nonzero)
  simp only [ofRatio, format.nearest_of_two_pow_le above, infinite]

/-- A power is rounded as if it had been raised, whatever its exponent. -/
theorem ofPower_eq_ofRatio {base : Nat} (atLeastTwo : 2 ≤ base) (negative : Bool)
    (significand : Nat) (exponent : Int) :
    (ofPower base negative significand exponent : Binary format) =
      ofRatio negative (significand * base ^ exponent.toNat)
        (base ^ (-exponent).toNat) := by
  have positive (power : Nat) : 0 < base ^ power := Nat.pow_pos (by omega)
  by_cases zero : significand = 0
  · have nothing : (ofPower base negative significand exponent : Binary format) =
        ofRatio negative 0 1 := by
      simp [ofPower, zero]
    rw [nothing]
    apply ofRatio_congr negative Nat.one_pos (positive _)
    simp [zero]
  cases exponent with
  | ofNat power =>
      have natural : Int.ofNat power = (power : Int) := rfl
      have ratio : (ofRatio negative (significand * base ^ (Int.ofNat power).toNat)
          (base ^ (-Int.ofNat power).toNat) : Binary format) =
            ofRatio negative (significand * base ^ power) 1 := by
        have none : (-Int.ofNat power).toNat = 0 := by omega
        rw [none, Nat.pow_zero]
        rfl
      rw [ratio]
      unfold ofPower
      simp only
      rw [if_neg (by omega)]
      split
      next huge => exact (ofPower_of_huge atLeastTwo negative zero (by omega)).symm
      next => rfl
  | negSucc power =>
      have ratio : (ofRatio negative (significand * base ^ (Int.negSucc power).toNat)
          (base ^ (-Int.negSucc power).toNat) : Binary format) =
            ofRatio negative significand (base ^ (power + 1)) := by
        have none : (Int.negSucc power).toNat = 0 := by omega
        rw [none, Nat.pow_zero, Nat.mul_one]
        rfl
      rw [ratio]
      unfold ofPower
      simp only
      split
      next tiny =>
        exact (ofPower_of_tiny atLeastTwo negative (by omega)).symm
      next =>
        rw [if_neg (by omega)]

@[simp] theorem negative_ofPower {base : Nat} (atLeastTwo : 2 ≤ base) (negative : Bool)
    (significand : Nat) (exponent : Int) :
    (ofPower base negative significand exponent : Binary format).negative = negative := by
  rw [ofPower_eq_ofRatio atLeastTwo, negative_ofRatio]

/-- Powers of the base may move from the exponent into the significand. -/
theorem ofPower_mul_pow {base : Nat} (atLeastTwo : 2 ≤ base) (negative : Bool)
    (significand places : Nat) (exponent : Int) :
    (ofPower base negative (significand * base ^ places) exponent : Binary format) =
      ofPower base negative significand (exponent + places) := by
  rw [ofPower_eq_ofRatio atLeastTwo, ofPower_eq_ofRatio atLeastTwo]
  have positive (power : Nat) : 0 < base ^ power := Nat.pow_pos (by omega)
  apply ofRatio_congr negative (positive _) (positive _)
  simp only [Nat.mul_assoc, ← Nat.pow_add]
  congr 2
  omega

/-- Exponents beyond the range of the format are all alike. -/
theorem ofPower_of_beyond {base significand : Nat} {exponent other : Int} (bound : Int)
    (negative : Bool) (enough : format.unitScale + significand.log2 + 2 ≤ bound)
    (beyond : exponent < -bound ∧ other < -bound ∨ bound < exponent ∧ bound < other) :
    (ofPower base negative significand exponent : Binary format) =
      ofPower base negative significand other := by
  by_cases zero : significand = 0
  · simp only [ofPower, zero, true_or, ↓reduceIte]
  have decided {exponent : Int} (beyond : exponent < -bound ∨ bound < exponent) :
      (ofPower base negative significand exponent : Binary format) =
        if exponent < 0 then ofRatio negative 0 1 else infinite negative := by
    unfold ofPower
    simp only
    rcases beyond with low | high
    · rw [if_pos (.inr (by omega)), if_pos (by omega)]
    · rw [if_neg (by omega), if_pos (by omega), if_neg (by omega)]
  rcases beyond with ⟨low, otherLow⟩ | ⟨high, otherHigh⟩
  · rw [decided (.inl low), decided (.inl otherLow), if_pos (by omega), if_pos (by omega)]
  · rw [decided (.inr high), decided (.inr otherHigh), if_neg (by omega), if_neg (by omega)]

theorem isFinite_ofInt {value : Int} {bits : Nat} (below : value.natAbs < 2 ^ bits)
    (enough : format.fractionWidth + 1 ≤ bits + format.unitScale)
    (within : bits + format.unitScale + 2 < 2 ^ format.exponentWidth + format.fractionWidth) :
    (ofInt value : Binary format).isFinite = true := by
  obtain ⟨places, split⟩ := Nat.exists_eq_add_of_le enough
  have scaled : value.natAbs * 2 ^ format.unitScale / 1 <
      2 ^ (places + format.fractionWidth + 1) := by
    have exponent : places + format.fractionWidth + 1 = bits + format.unitScale := by omega
    rw [Nat.div_one, exponent, Nat.pow_add]
    exact Nat.mul_lt_mul_of_pos_right below (Nat.two_pow_pos _)
  have finite : format.nearest (value.natAbs * 2 ^ format.unitScale) 1 < format.infinity := by
    refine Nat.lt_of_le_of_lt (format.nearest_le scaled) ?_
    apply Nat.mul_lt_mul_of_pos_right _ (Nat.two_pow_pos _)
    omega
  exact decide_eq_true finite

end Binary

end PagedRows
