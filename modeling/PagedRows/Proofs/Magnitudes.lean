import PagedRows.Proofs.Rounding

/-!
# The order of magnitudes

The magnitudes of a format stand for more and more units.  From one to the next it is a
power of two, the same for all magnitudes with the same leading bit, and this goes on
where the format ends.
-/

namespace PagedRows.Binary.Format

variable (format : Format)

/-- Steps of `2 ^ shift` units are counted by the magnitude, unless there are so few of
them that smaller steps would do, or so many that greater ones begin. -/
theorem units_grid {shift steps : Nat} (full : shift = 0 ∨ 2 ^ format.fractionWidth ≤ steps)
    (below : steps ≤ 2 * 2 ^ format.fractionWidth) :
    format.units (shift * 2 ^ format.fractionWidth + steps) = steps * 2 ^ shift := by
  have positive := Nat.two_pow_pos format.fractionWidth
  have field (exponent fraction : Nat) (fits : fraction < 2 ^ format.fractionWidth) :
      (exponent * 2 ^ format.fractionWidth + fraction) / 2 ^ format.fractionWidth = exponent ∧
      (exponent * 2 ^ format.fractionWidth + fraction) % 2 ^ format.fractionWidth =
        fraction := by
    rw [Nat.mul_comm, Nat.mul_add_div positive, Nat.mul_add_mod, Nat.div_eq_of_lt fits,
      Nat.mod_eq_of_lt fits]
    exact ⟨rfl, rfl⟩
  have normal (exponent fraction : Nat) (fits : fraction < 2 ^ format.fractionWidth) :
      format.units ((exponent + 1) * 2 ^ format.fractionWidth + fraction) =
        (2 ^ format.fractionWidth + fraction) * 2 ^ exponent := by
    obtain ⟨quotient, remainder⟩ := field (exponent + 1) fraction fits
    simp only [units, quotient, remainder]
  by_cases few : steps < 2 ^ format.fractionWidth
  · have single : shift = 0 := full.resolve_right (Nat.not_le_of_lt few)
    obtain ⟨quotient, remainder⟩ := field 0 steps few
    subst single
    simp only [units, quotient, remainder, Nat.pow_zero, Nat.mul_one]
  by_cases most : steps = 2 * 2 ^ format.fractionWidth
  · have carried : shift * 2 ^ format.fractionWidth + steps =
        (shift + 1 + 1) * 2 ^ format.fractionWidth + 0 := by
      rw [most, Nat.add_mul, Nat.add_mul]
      omega
    rw [carried, normal (shift + 1) 0 positive, most, Nat.pow_succ]
    simp only [Nat.add_zero]
    rw [Nat.mul_comm 2, Nat.mul_assoc, Nat.mul_comm 2]
  · obtain ⟨fraction, rfl⟩ := Nat.exists_eq_add_of_le (Nat.le_of_not_lt few)
    have placed : shift * 2 ^ format.fractionWidth + (2 ^ format.fractionWidth + fraction) =
        (shift + 1) * 2 ^ format.fractionWidth + fraction := by
      rw [Nat.add_mul]
      omega
    rw [placed, normal shift fraction (by omega)]

/-- How many units a magnitude lies below the next one. -/
def gap (magnitude : Nat) : Nat :=
  2 ^ (magnitude / 2 ^ format.fractionWidth - 1)

theorem exists_grid (magnitude : Nat) :
    ∃ shift steps, magnitude = shift * 2 ^ format.fractionWidth + steps ∧
      (shift = 0 ∨ 2 ^ format.fractionWidth ≤ steps) ∧
      steps < 2 * 2 ^ format.fractionWidth ∧ format.gap magnitude = 2 ^ shift := by
  have split := Nat.div_add_mod magnitude (2 ^ format.fractionWidth)
  have fractionLt := Nat.mod_lt magnitude (Nat.two_pow_pos format.fractionWidth)
  unfold gap
  generalize magnitude % 2 ^ format.fractionWidth = fraction at split fractionLt
  generalize magnitude / 2 ^ format.fractionWidth = exponent at split
  cases exponent with
  | zero => exact ⟨0, magnitude, by omega, .inl rfl, by omega, rfl⟩
  | succ exponent =>
      refine ⟨exponent, 2 ^ format.fractionWidth + fraction, ?_, .inr (Nat.le_add_right _ _),
        by omega, rfl⟩
      rw [Nat.mul_succ, Nat.mul_comm] at split
      omega

theorem two_pow_le_gap {shift magnitude : Nat}
    (large : shift = 0 ∨ (shift + 1) * 2 ^ format.fractionWidth ≤ magnitude) :
    2 ^ shift ≤ format.gap magnitude := by
  apply Nat.pow_le_pow_right (by decide)
  rcases large with rfl | large
  · exact Nat.zero_le _
  · have field := (Nat.le_div_iff_mul_le (Nat.two_pow_pos format.fractionWidth)).mpr large
    omega

theorem units_succ (magnitude : Nat) :
    format.units (magnitude + 1) = format.units magnitude + format.gap magnitude := by
  obtain ⟨shift, steps, placed, full, below, gap⟩ := format.exists_grid magnitude
  have next : shift = 0 ∨ 2 ^ format.fractionWidth ≤ steps + 1 :=
    full.imp id fun enough => Nat.le_succ_of_le enough
  rw [gap, placed, Nat.add_assoc, format.units_grid full (Nat.le_of_lt below),
    format.units_grid next below, Nat.add_mul, Nat.one_mul]

theorem units_lt_units {left right : Nat} (less : left < right) :
    format.units left < format.units right := by
  induction less with
  | refl =>
      rw [units_succ]
      exact Nat.lt_add_of_pos_right (Nat.two_pow_pos _)
  | step _ induction =>
      rw [units_succ]
      exact Nat.lt_add_right _ induction

theorem units_le_units {left right : Nat} (least : left ≤ right) :
    format.units left ≤ format.units right := by
  rcases Nat.lt_or_eq_of_le least with less | rfl
  · exact Nat.le_of_lt (format.units_lt_units less)
  · exact Nat.le_refl _

end PagedRows.Binary.Format
