import PagedRows.Proofs.Magnitudes

/-!
# The nearest magnitude

Rounding finds, of all magnitudes of a format, the one that lies nearest to a quotient,
and of two that lie equally near the even one.  Infinity takes part in this as the first
power of two that is too great for the format.
-/

namespace PagedRows.Binary.Format

/-- How far two numbers lie apart. -/
def distance (left right : Nat) : Nat :=
  (left - right) + (right - left)

variable (format : Format)

/-- How far a quotient of units lies from a magnitude, in parts of its denominator. -/
def error (numerator denominator magnitude : Nat) : Nat :=
  distance numerator (format.units magnitude * denominator)

/-- A magnitude is the nearest one to a quotient of units, and even if it is not the only
nearest one. -/
structure IsNearest (numerator denominator magnitude : Nat) : Prop where
  within : magnitude ≤ format.infinity
  closest : ∀ other ≤ format.infinity,
    format.error numerator denominator magnitude ≤ format.error numerator denominator other
  even : ∀ other ≤ format.infinity, other ≠ magnitude →
    format.error numerator denominator magnitude = format.error numerator denominator other →
      magnitude % 2 = 0

/-- A quotient lies between the midpoints to the magnitudes before and after, and not on
one of them if the magnitude is odd. -/
structure Surrounds (numerator denominator magnitude : Nat) : Prop where
  upper : 2 * numerator ≤
    (format.units magnitude + format.units (magnitude + 1)) * denominator
  lower : ∀ before, magnitude = before + 1 →
    (format.units before + format.units magnitude) * denominator ≤ 2 * numerator
  upperTie : 2 * numerator =
    (format.units magnitude + format.units (magnitude + 1)) * denominator → magnitude % 2 = 0
  lowerTie : ∀ before, magnitude = before + 1 →
    (format.units before + format.units magnitude) * denominator = 2 * numerator →
      magnitude % 2 = 0

variable {format}

namespace Surrounds

variable {numerator denominator magnitude other : Nat}

theorem of_greater (surrounds : format.Surrounds numerator denominator magnitude)
    (positive : 0 < denominator) (greater : magnitude < other) :
    format.error numerator denominator magnitude ≤ format.error numerator denominator other ∧
      (format.error numerator denominator magnitude = format.error numerator denominator other →
        magnitude % 2 = 0) := by
  have next : format.units (magnitude + 1) * denominator ≤ format.units other * denominator :=
    Nat.mul_le_mul_right denominator (format.units_le_units greater)
  have above := Nat.mul_lt_mul_of_pos_right
    (format.units_lt_units (Nat.lt_add_one magnitude)) positive
  have upper := surrounds.upper
  have tie := surrounds.upperTie
  rw [Nat.add_mul] at upper tie
  simp only [error, distance]
  constructor
  · omega
  · intro same
    apply tie
    omega

theorem of_less (surrounds : format.Surrounds numerator denominator magnitude)
    (positive : 0 < denominator) (less : other < magnitude) :
    format.error numerator denominator magnitude ≤ format.error numerator denominator other ∧
      (format.error numerator denominator magnitude = format.error numerator denominator other →
        magnitude % 2 = 0) := by
  obtain ⟨before, rfl⟩ := Nat.exists_eq_add_of_lt less
  have previous := Nat.mul_le_mul_right denominator
    (format.units_le_units (Nat.le_add_right other before))
  have below := Nat.mul_lt_mul_of_pos_right
    (format.units_lt_units (Nat.lt_add_one (other + before))) positive
  have lower := surrounds.lower (other + before) rfl
  have tie := surrounds.lowerTie (other + before) rfl
  rw [Nat.add_mul] at lower tie
  simp only [error, distance]
  constructor
  · omega
  · intro same
    apply tie
    omega

theorem closest (surrounds : format.Surrounds numerator denominator magnitude)
    (positive : 0 < denominator) (different : other ≠ magnitude) :
    format.error numerator denominator magnitude ≤ format.error numerator denominator other ∧
      (format.error numerator denominator magnitude = format.error numerator denominator other →
        magnitude % 2 = 0) := by
  rcases Nat.lt_or_gt_of_ne different with less | greater
  · exact surrounds.of_less positive less
  · exact surrounds.of_greater positive greater

/-- Beyond the format, infinity is the nearest magnitude, and the only one. -/
theorem isNearest_infinity (surrounds : format.Surrounds numerator denominator magnitude)
    (positive : 0 < denominator) (beyond : format.infinity < magnitude) :
    format.IsNearest numerator denominator format.infinity := by
  obtain ⟨before, rfl⟩ := Nat.exists_eq_add_of_lt beyond
  have least := Nat.mul_le_mul_right denominator
    (format.units_le_units (Nat.le_add_right format.infinity before))
  have above := Nat.mul_lt_mul_of_pos_right
    (format.units_lt_units (Nat.lt_add_one (format.infinity + before))) positive
  have lower := surrounds.lower (format.infinity + before) rfl
  rw [Nat.add_mul] at lower
  have farther {other : Nat} (less : other < format.infinity) :
      format.error numerator denominator format.infinity <
        format.error numerator denominator other := by
    have smaller := Nat.mul_lt_mul_of_pos_right (format.units_lt_units less) positive
    simp only [error, distance]
    omega
  refine ⟨Nat.le_refl _, ?_, ?_⟩
  · intro other inside
    rcases Nat.lt_or_eq_of_le inside with less | rfl
    · exact Nat.le_of_lt (farther less)
    · exact Nat.le_refl _
  · intro other inside different same
    have strict := farther (Nat.lt_of_le_of_ne inside different)
    omega

end Surrounds

variable (format)

theorem mod_two_add_steps (fraction : 0 < format.fractionWidth) (shift steps : Nat) :
    (shift * 2 ^ format.fractionWidth + steps) % 2 = steps % 2 := by
  obtain ⟨width, wide⟩ := Nat.exists_eq_add_of_lt fraction
  have even : shift * 2 ^ format.fractionWidth = 2 * (shift * 2 ^ width) := by
    rw [wide, Nat.zero_add, Nat.pow_succ, ← Nat.mul_assoc, Nat.mul_comm]
  omega

theorem units_add_step_le {shift magnitude : Nat}
    (large : shift = 0 ∨ (shift + 1) * 2 ^ format.fractionWidth ≤ magnitude)
    (denominator : Nat) :
    format.units magnitude * denominator + denominator * 2 ^ shift ≤
      format.units (magnitude + 1) * denominator := by
  rw [units_succ, Nat.add_mul, Nat.mul_comm denominator]
  exact Nat.add_le_add_left
    (Nat.mul_le_mul_right denominator (format.two_pow_le_gap large)) _

/-- A quotient that is rounded to steps does not lie before the midpoint to the magnitude
before. -/
theorem midpoint_before_le {numerator denominator shift count before : Nat}
    (positive : 0 < denominator) (full : shift = 0 ∨ 2 ^ format.fractionWidth ≤ count)
    (least : shift ≠ 0 → 2 ^ format.fractionWidth * (denominator * 2 ^ shift) ≤ numerator)
    (rounds : RoundsTo numerator (denominator * 2 ^ shift) count)
    (here : format.units (before + 1) * denominator = count * (denominator * 2 ^ shift))
    (placed : shift * 2 ^ format.fractionWidth + count = before + 1) :
    (format.units before + format.units (before + 1)) * denominator ≤ 2 * numerator ∧
      ((format.units before + format.units (before + 1)) * denominator = 2 * numerator →
        count % 2 = 0) := by
  have lower := rounds.lower
  have lowerTie := rounds.lowerTie
  rw [Nat.mul_assoc] at lower lowerTie
  rw [Nat.add_mul]
  by_cases large : shift = 0 ∨ (shift + 1) * 2 ^ format.fractionWidth ≤ before
  · have step := format.units_add_step_le large denominator
    refine ⟨by omega, ?_⟩
    intro tie
    apply lowerTie
    omega
  · have first : count = 2 ^ format.fractionWidth := by
      rw [Nat.add_mul] at large
      omega
    have enough := least fun single => large (.inl single)
    have smaller : format.units before * denominator <
        format.units (before + 1) * denominator :=
      Nat.mul_lt_mul_of_pos_right (format.units_lt_units (Nat.lt_add_one before)) positive
    rw [← first] at enough
    exact ⟨by omega, by omega⟩

theorem surrounds_unbounded (fraction : 0 < format.fractionWidth) (numerator : Nat)
    {denominator : Nat} (positive : 0 < denominator) :
    format.Surrounds numerator denominator (format.unbounded numerator denominator) := by
  have full := format.stepShift_eq_zero_or_le_steps numerator positive
  have below := format.steps_le numerator denominator
  have least := @mul_le_of_stepShift_ne_zero format numerator denominator
  have size := Nat.mul_pos positive
    (Nat.two_pow_pos (format.stepShift numerator denominator))
  have rounds : RoundsTo numerator
      (denominator * 2 ^ format.stepShift numerator denominator)
      (steps numerator denominator (format.stepShift numerator denominator)) :=
    roundsTo_divideToEven size numerator
  rw [unbounded]
  generalize format.stepShift numerator denominator = shift at full below least rounds
  generalize steps numerator denominator shift = count at full below rounds
  have parity := format.mod_two_add_steps fraction shift count
  have here : format.units (shift * 2 ^ format.fractionWidth + count) * denominator =
      count * (denominator * 2 ^ shift) := by
    rw [format.units_grid full below, Nat.mul_assoc, Nat.mul_comm denominator]
  have large : shift = 0 ∨ (shift + 1) * 2 ^ format.fractionWidth ≤
      shift * 2 ^ format.fractionWidth + count := by
    rw [Nat.add_mul]
    omega
  have next := format.units_add_step_le large denominator
  have upper := rounds.upper
  have upperTie := rounds.upperTie
  rw [Nat.add_mul, Nat.mul_assoc] at upper upperTie
  refine ⟨?_, ?_, ?_, ?_⟩
  · rw [Nat.add_mul]
    omega
  · intro before placed
    rw [placed] at here ⊢
    exact (format.midpoint_before_le positive full least rounds here placed).1
  · rw [Nat.add_mul, parity]
    intro tie
    apply upperTie
    omega
  · intro before placed
    rw [parity]
    rw [placed] at here ⊢
    exact (format.midpoint_before_le positive full least rounds here placed).2

/-- Rounding gives the nearest magnitude. -/
theorem isNearest_nearest (fraction : 0 < format.fractionWidth) (numerator : Nat)
    {denominator : Nat} (positive : 0 < denominator) :
    format.IsNearest numerator denominator (format.nearest numerator denominator) := by
  have surrounds := format.surrounds_unbounded fraction numerator positive
  rw [nearest_eq_min]
  rcases Nat.lt_or_ge format.infinity (format.unbounded numerator denominator) with
    beyond | inside
  · rw [Nat.min_eq_right (Nat.le_of_lt beyond)]
    exact surrounds.isNearest_infinity positive beyond
  · rw [Nat.min_eq_left inside]
    refine ⟨inside, ?_, ?_⟩
    · intro other _
      by_cases same : other = format.unbounded numerator denominator
      · subst same
        exact Nat.le_refl _
      · exact (surrounds.closest positive same).1
    · intro other _ different
      exact (surrounds.closest positive different).2

end PagedRows.Binary.Format
