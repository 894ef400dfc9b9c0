import PagedRows.Proofs.Magnitudes

/-!
# Significant bits

A number may be rounded to as many significant bits as magnitudes hold, however great it
is.  Rounding the result to a magnitude is then no second rounding, as long as the number
does not lie where magnitudes have fewer bits.  Bits far below the last significant one
matter only by being zero or not, so that one bit can stand for all of them.
-/

namespace PagedRows

theorem log2_mul_two_pow {number : Nat} (nonzero : number ≠ 0) (places : Nat) :
    (number * 2 ^ places).log2 = number.log2 + places := by
  have positive := Nat.two_pow_pos places
  rw [Nat.log2_eq_iff (Nat.mul_ne_zero nonzero (Nat.ne_of_gt positive))]
  constructor
  · rw [Nat.pow_add]
    exact Nat.mul_le_mul_right _ (Nat.log2_self_le nonzero)
  · rw [Nat.add_right_comm, Nat.pow_add]
    exact Nat.mul_lt_mul_of_pos_right Nat.lt_log2_self positive

private theorem log2_div_two_pow (number places : Nat) :
    (number / 2 ^ places).log2 = number.log2 - places := by
  by_cases zero : number / 2 ^ places = 0
  · rw [zero, Nat.log2_zero]
    have below : number < 2 ^ places :=
      (Nat.div_eq_zero_iff_lt (Nat.two_pow_pos places)).mp zero
    by_cases nothing : number = 0
    · rw [nothing, Nat.log2_zero, Nat.zero_sub]
    · have less := (Nat.log2_lt nothing).mpr below
      omega
  have nonzero : number ≠ 0 := by
    rintro rfl
    exact zero (Nat.zero_div _)
  have enough : places ≤ number.log2 := by
    rw [Nat.le_log2 nonzero]
    have least := (Nat.le_div_iff_mul_le (Nat.two_pow_pos places)).mp (Nat.pos_of_ne_zero zero)
    omega
  have exponent : number.log2 - places + places = number.log2 := Nat.sub_add_cancel enough
  rw [Nat.log2_eq_iff zero, Nat.le_div_iff_mul_le (Nat.two_pow_pos places),
    Nat.div_lt_iff_lt_mul (Nat.two_pow_pos places), ← Nat.pow_add, ← Nat.pow_add,
    Nat.add_right_comm, exponent]
  exact ⟨Nat.log2_self_le nonzero, Nat.lt_log2_self⟩

namespace Binary.Format

variable (format : Format)

/-- The nearest number that has no more significant bits than a magnitude. -/
def significant (number : Nat) : Nat :=
  let shift := number.log2 - format.fractionWidth
  divideToEven number (2 ^ shift) * 2 ^ shift

@[simp] theorem significant_zero : format.significant 0 = 0 := by
  simp [significant, divideToEven]

theorem significant_of_log2_le {number : Nat} (few : number.log2 ≤ format.fractionWidth) :
    format.significant number = number := by
  have single : number.log2 - format.fractionWidth = 0 := Nat.sub_eq_zero_of_le few
  have exact : divideToEven (number * 1) 1 = number := divideToEven_mul_self Nat.one_pos number
  rw [Nat.mul_one] at exact
  simp only [significant, single, Nat.pow_zero, exact, Nat.mul_one]

private theorem significant_of_lt {number : Nat} (few : number < 2 ^ (format.fractionWidth + 1)) :
    format.significant number = number := by
  apply significant_of_log2_le
  by_cases zero : number = 0
  · rw [zero, Nat.log2_zero]
    exact Nat.zero_le _
  · exact Nat.le_of_lt_succ ((Nat.log2_lt zero).mpr few)

/-- A power of two has no part in which bits are significant. -/
theorem significant_mul_two_pow (number places : Nat) :
    format.significant (number * 2 ^ places) = format.significant number * 2 ^ places := by
  by_cases zero : number = 0
  · rw [zero, Nat.zero_mul, significant_zero, Nat.zero_mul]
  have positive (shift : Nat) : 0 < 2 ^ shift := Nat.two_pow_pos shift
  rcases Nat.le_total number.log2 format.fractionWidth with few | many
  · rw [format.significant_of_log2_le few]
    obtain ⟨rest, split⟩ := Nat.exists_eq_add_of_le
      (by omega : number.log2 + places - format.fractionWidth ≤ places)
    have steps : number * 2 ^ places =
        number * 2 ^ rest * 2 ^ (number.log2 + places - format.fractionWidth) := by
      rw [Nat.mul_assoc, ← Nat.pow_add]
      congr 2
      omega
    simp only [significant, log2_mul_two_pow zero]
    rw [steps, divideToEven_mul_self (positive _)]
  · have shift : number.log2 + places - format.fractionWidth =
        number.log2 - format.fractionWidth + places := by
      omega
    simp only [significant, log2_mul_two_pow zero, shift, Nat.pow_add]
    rw [Nat.mul_comm number, Nat.mul_comm _ (2 ^ places), divideToEven_mul_left (positive _),
      Nat.mul_left_comm, Nat.mul_comm (2 ^ places)]

theorem significant_of_le_two_pow {number : Nat}
    (few : number ≤ 2 ^ (format.fractionWidth + 1)) :
    format.significant number = number := by
  rcases Nat.lt_or_eq_of_le few with less | rfl
  · exact format.significant_of_lt less
  · have one : format.significant 1 = 1 :=
      format.significant_of_lt (Nat.one_lt_two_pow (Nat.succ_ne_zero _))
    have scaled := format.significant_mul_two_pow 1 (format.fractionWidth + 1)
    rwa [one, Nat.one_mul] at scaled

/-- As long as the steps of magnitudes leave room, the nearest magnitude holds the
significant bits. -/
theorem units_unbounded (number places : Nat)
    (large : places ≤ number.log2 - format.fractionWidth) :
    format.units (format.unbounded number (2 ^ places)) * 2 ^ places =
      format.significant number := by
  have positive := Nat.two_pow_pos places
  obtain ⟨shift, split⟩ := Nat.exists_eq_add_of_le large
  have stepShift : format.stepShift number (2 ^ places) = shift := by
    rw [Binary.Format.stepShift, log2_div_two_pow]
    omega
  have full := format.stepShift_eq_zero_or_le_steps number positive
  have below := format.steps_le number (2 ^ places)
  rw [unbounded, format.units_grid full below, stepShift, steps, ← Nat.pow_add, Nat.mul_assoc,
    ← Nat.pow_add, Nat.add_comm shift]
  simp only [significant, split]

/-- Among the magnitudes with all bits, rounding twice is rounding once. -/
theorem unbounded_significant {number places : Nat}
    (large : places ≤ number.log2 - format.fractionWidth) :
    format.unbounded (format.significant number) (2 ^ places) =
      format.unbounded number (2 ^ places) := by
  rw [← format.units_unbounded number places large]
  exact format.unbounded_units _ (Nat.two_pow_pos places)

theorem significant_le_two_mul (number : Nat) : format.significant number ≤ 2 * number := by
  by_cases zero : number = 0
  · subst zero
    exact Nat.le_of_eq format.significant_zero
  have rounded := divideToEven_le number (2 ^ (number.log2 - format.fractionWidth))
  have quotient := Nat.div_mul_le_self number (2 ^ (number.log2 - format.fractionWidth))
  have step : 2 ^ (number.log2 - format.fractionWidth) ≤ number :=
    Nat.le_trans (Nat.pow_le_pow_right (by decide) (Nat.sub_le _ _)) (Nat.log2_self_le zero)
  have product := Nat.mul_le_mul_right (2 ^ (number.log2 - format.fractionWidth)) rounded
  rw [Nat.add_mul, Nat.one_mul] at product
  simp only [significant]
  omega

theorem units_unbounded_one (number : Nat) :
    format.units (format.unbounded number 1) = format.significant number := by
  have exact := format.units_unbounded number 0 (Nat.zero_le _)
  rwa [Nat.pow_zero, Nat.mul_one] at exact

theorem significant_significant (number : Nat) :
    format.significant (format.significant number) = format.significant number := by
  rw [← units_unbounded_one, ← units_unbounded_one]
  congr 1
  have same := format.unbounded_units (format.unbounded number 1) Nat.one_pos
  rwa [Nat.mul_one] at same

/-- Rounding to significant bits first makes no difference to a quotient that is at least
the first magnitude with all bits. -/
theorem nearest_significant {number up down : Nat}
    (large : 2 ^ format.fractionWidth * 2 ^ down ≤ number * 2 ^ up) :
    format.nearest (format.significant number * 2 ^ up) (2 ^ down) =
      format.nearest (number * 2 ^ up) (2 ^ down) := by
  have nonzero : number * 2 ^ up ≠ 0 := by
    have positive := Nat.mul_pos (Nat.two_pow_pos format.fractionWidth) (Nat.two_pow_pos down)
    omega
  have room : down ≤ (number * 2 ^ up).log2 - format.fractionWidth := by
    rw [← Nat.pow_add] at large
    have log := (Nat.le_log2 nonzero).mpr large
    omega
  rw [nearest_eq_min, nearest_eq_min, ← significant_mul_two_pow,
    format.unbounded_significant room]

end Binary.Format

/-- A mantissa counts units exactly, or its last bit is set and stands for whatever lies
between the even numbers of units before and after it. -/
def StandsFor (mantissa unit value : Nat) : Prop :=
  value = mantissa * unit ∨
    ∃ half, mantissa = 2 * half + 1 ∧ 2 * (half * unit) < value ∧
      value < 2 * ((half + 1) * unit)

namespace StandsFor

variable {mantissa unit value digit : Nat}

theorem eq_of_one (stands : StandsFor mantissa 1 value) : value = mantissa := by
  rcases stands with rfl | ⟨half, odd, above, below⟩
  · exact Nat.mul_one _
  · omega

theorem drop (stands : StandsFor mantissa unit value) (positive : 0 < unit)
    (base : digit < 16) :
    StandsFor (if digit = 0 then mantissa else mantissa / 2 * 2 + 1) (unit * 16)
      (16 * value + digit) := by
  have scaled (count : Nat) : count * (unit * 16) = 16 * (count * unit) := by
    rw [← Nat.mul_assoc, Nat.mul_comm]
  rcases stands with rfl | ⟨half, rfl, above, below⟩
  · by_cases zero : digit = 0
    · left
      rw [if_pos zero, zero, scaled, Nat.add_zero]
    · right
      refine ⟨mantissa / 2, by rw [if_neg zero]; omega, ?_, ?_⟩
      · have least : 2 * (mantissa / 2) * unit ≤ mantissa * unit :=
          Nat.mul_le_mul_right unit (by omega)
        rw [Nat.mul_assoc] at least
        rw [scaled]
        omega
      · have most : (mantissa + 1) * unit ≤ 2 * (mantissa / 2 + 1) * unit :=
          Nat.mul_le_mul_right unit (by omega)
        rw [Nat.mul_assoc, Nat.add_mul, Nat.one_mul] at most
        rw [scaled]
        omega
  · have kept : (if digit = 0 then 2 * half + 1 else (2 * half + 1) / 2 * 2 + 1) =
        2 * half + 1 := by
      split
      · rfl
      · omega
    refine .inr ⟨half, kept, ?_, ?_⟩
    · rw [scaled]
      omega
    · rw [scaled]
      omega

theorem log2_eq {places : Nat} (stands : StandsFor mantissa (2 ^ places) value)
    (several : 2 ≤ mantissa) : value.log2 = mantissa.log2 + places := by
  have nonzero : mantissa ≠ 0 := by omega
  rcases stands with rfl | ⟨half, rfl, above, below⟩
  · exact log2_mul_two_pow nonzero places
  obtain ⟨log, split⟩ : ∃ log, (2 * half + 1).log2 = log + 1 := by
    have one : 1 ≤ (2 * half + 1).log2 := (Nat.le_log2 nonzero).mpr several
    exact ⟨_, (Nat.sub_add_cancel one).symm⟩
  have least := Nat.log2_self_le nonzero
  have most := @Nat.lt_log2_self (2 * half + 1)
  rw [split, Nat.pow_succ] at least most
  rw [Nat.pow_succ] at most
  have lowBits : 2 ^ log * 2 ^ places ≤ half * 2 ^ places :=
    Nat.mul_le_mul_right _ (by omega)
  have highBits : (half + 1) * 2 ^ places ≤ 2 ^ log * 2 * 2 ^ places :=
    Nat.mul_le_mul_right _ (by omega)
  have low : 2 ^ (log + 1 + places) = 2 * (2 ^ log * 2 ^ places) := by
    rw [Nat.add_right_comm, Nat.pow_succ, Nat.pow_add, Nat.mul_comm]
  have high : 2 ^ (log + 1 + places + 1) = 2 * (2 ^ log * 2 * 2 ^ places) := by
    rw [Nat.pow_succ, low, Nat.mul_comm, Nat.mul_right_comm]
    omega
  rw [split, Nat.log2_eq_iff (by omega), low, high]
  exact ⟨by omega, by omega⟩

/-- An even number of units lies on the same side of the number as of the mantissa, and
if steps are four units, so do the middles between them. -/
theorem roundsTo {quarter rounded : Nat} (stands : StandsFor mantissa unit value)
    (rounds : RoundsTo mantissa (4 * quarter) rounded) (positive : 0 < unit) :
    RoundsTo value (4 * quarter * unit) rounded := by
  rcases stands with rfl | ⟨half, rfl, above, below⟩
  · exact rounds.mul_right positive
  have upper := rounds.upper
  have lower := rounds.lower
  have middle : (2 * rounded + 1) * (4 * quarter) = 4 * ((2 * rounded + 1) * quarter) :=
    Nat.mul_left_comm _ _ _
  have whole : 2 * rounded * (4 * quarter) = 4 * (2 * (rounded * quarter)) := by
    rw [Nat.mul_left_comm, Nat.mul_assoc]
  have middleSide : (half + 1) * unit ≤ (2 * rounded + 1) * quarter * unit :=
    Nat.mul_le_mul_right unit (by omega)
  have wholeSide : 2 * (rounded * quarter) * unit ≤ (half + quarter) * unit :=
    Nat.mul_le_mul_right unit (by omega)
  have middles : (2 * rounded + 1) * (4 * quarter * unit) =
      4 * ((2 * rounded + 1) * quarter * unit) := by
    rw [← Nat.mul_assoc, middle, Nat.mul_assoc]
  have wholes : 2 * rounded * (4 * quarter * unit) = 4 * (2 * (rounded * quarter) * unit) := by
    rw [← Nat.mul_assoc, whole, Nat.mul_assoc]
  have step : 4 * quarter * unit = 4 * (quarter * unit) := Nat.mul_assoc _ _ _
  rw [Nat.add_mul] at wholeSide
  exact ⟨by omega, by omega, by omega, by omega⟩

/-- A mantissa with two bits to spare is rounded like the number it stands for. -/
theorem significant_eq (format : Binary.Format) {places : Nat}
    (stands : StandsFor mantissa (2 ^ places) value)
    (enough : 2 ^ (format.fractionWidth + 2) ≤ mantissa) :
    format.significant value = format.significant mantissa * 2 ^ places := by
  have several : 2 ≤ mantissa := by
    have positive := Nat.two_pow_pos (format.fractionWidth)
    rw [Nat.pow_add] at enough
    omega
  obtain ⟨quarter, split⟩ : ∃ quarter,
      mantissa.log2 - format.fractionWidth = quarter + 2 := by
    have log := (Nat.le_log2 (by omega)).mpr enough
    exact ⟨mantissa.log2 - format.fractionWidth - 2, by omega⟩
  have shift : value.log2 - format.fractionWidth = quarter + 2 + places := by
    rw [stands.log2_eq several]
    omega
  have step : 2 ^ (quarter + 2) = 4 * 2 ^ quarter := by
    rw [Nat.pow_add, Nat.mul_comm]
  have positive : 0 < 4 * 2 ^ quarter := Nat.mul_pos (by decide) (Nat.two_pow_pos quarter)
  have unit := Nat.two_pow_pos places
  have rounds := stands.roundsTo (roundsTo_divideToEven positive mantissa) unit
  have same := rounds.eq_divideToEven (Nat.mul_pos positive unit)
  simp only [Binary.Format.significant, split, shift]
  rw [Nat.pow_add _ _ places, step, same]
  exact (Nat.mul_assoc _ _ _).symm

end StandsFor

end PagedRows
