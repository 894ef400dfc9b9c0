import Mathlib.Algebra.Order.Field.Power
import Mathlib.Data.Rat.Cast.Order
import Mathlib.Tactic.Linarith
import PagedRows.Proofs.Nearest
import PagedRows.Proofs.Significance

/-!
# Rounding to significant bits

A rational number is rounded to so many binary digits, wherever its point stands: to the
nearest number that has no more of them, and to the one that ends in an even digit if two
are equally near.  There is one such number, it moves with the point, and for natural
numbers it is found by dividing.
-/

namespace PagedRows

/-- A number has no more than so many binary digits, wherever its point stands. -/
def HasBits (bits : Nat) (number : ℚ) : Prop :=
  ∃ (significand : Nat) (exponent : Int),
    significand < 2 ^ bits ∧ number = significand * 2 ^ exponent

/-- A number has so many binary digits, of which the last is even. -/
def EndsEven (bits : Nat) (number : ℚ) : Prop :=
  ∃ (significand : Nat) (exponent : Int), 2 ^ (bits - 1) ≤ significand ∧
    significand < 2 ^ bits ∧ significand % 2 = 0 ∧ number = significand * 2 ^ exponent

/-- A number is the nearest one to a value among all that have so many binary digits, and
ends even if another one is as near. -/
structure RoundsToBits (bits : Nat) (value rounded : ℚ) : Prop where
  few : HasBits bits rounded
  closest : ∀ other, HasBits bits other → |value - rounded| ≤ |value - other|
  even : ∀ other, HasBits bits other → other ≠ rounded →
    |value - rounded| = |value - other| → EndsEven bits rounded

theorem two_zpow_natCast (exponent : Nat) : (2 : ℚ) ^ (exponent : Int) = (2 ^ exponent : Nat) := by
  rw [Nat.cast_pow]
  exact zpow_natCast 2 exponent

theorem mul_two_zpow_of_le (significand : Nat) {exponent step : Int} (coarse : step ≤ exponent) :
    (significand : ℚ) * 2 ^ exponent =
      (significand * 2 ^ (exponent - step).toNat : Nat) * 2 ^ step := by
  obtain ⟨places, rfl⟩ := Int.le.dest coarse
  have count : (step + places - step).toNat = places := by omega
  rw [count, Int.add_comm, zpow_add₀ (two_ne_zero' ℚ), two_zpow_natCast, Nat.cast_mul, mul_assoc]

theorem mul_two_zpow_lt {less full : Nat} (few : less < 2 * full) {power exponent : Int}
    (fine : power < exponent) : (less : ℚ) * 2 ^ power < full * 2 ^ exponent := by
  have grown := Nat.le_mul_of_pos_right full (Nat.two_pow_pos (exponent - (power + 1)).toNat)
  have enough : less < full * 2 ^ (exponent - (power + 1)).toNat * 2 := by omega
  have step : (2 : ℚ) ^ (power + 1) = (2 : Nat) * 2 ^ power := by
    rw [Int.add_comm, zpow_add₀ (two_ne_zero' ℚ)]
    rfl
  rw [mul_two_zpow_of_le full (by omega : power + 1 ≤ exponent), step, ← mul_assoc,
    ← Nat.cast_mul]
  exact mul_lt_mul_of_pos_right (Nat.cast_lt.mpr enough) (zpow_pos two_pos power)

section Moving

variable {bits : Nat} {number value rounded : ℚ}

theorem HasBits.mul_two_zpow (few : HasBits bits number) (places : Int) :
    HasBits bits (number * 2 ^ places) := by
  obtain ⟨significand, exponent, below, rfl⟩ := few
  exact ⟨significand, exponent + places, below, by rw [zpow_add₀ (two_ne_zero' ℚ), mul_assoc]⟩

theorem EndsEven.mul_two_zpow (even : EndsEven bits number) (places : Int) :
    EndsEven bits (number * 2 ^ places) := by
  obtain ⟨significand, exponent, full, below, last, rfl⟩ := even
  exact ⟨significand, exponent + places, full, below, last,
    by rw [zpow_add₀ (two_ne_zero' ℚ), mul_assoc]⟩

private theorem abs_sub_mul_two_zpow (left right : ℚ) (places : Int) :
    |left * 2 ^ places - right * 2 ^ places| = |left - right| * 2 ^ places := by
  have positive : (0 : ℚ) < 2 ^ places := zpow_pos two_pos places
  rw [← sub_mul, abs_mul, abs_of_pos positive]

private theorem mul_two_zpow_neg_mul (number : ℚ) (places : Int) :
    number * 2 ^ (-places) * 2 ^ places = number := by
  rw [mul_assoc, ← zpow_add₀ (two_ne_zero' ℚ), Int.add_left_neg]
  exact mul_one number

/-- What a value rounds to moves with its point. -/
theorem RoundsToBits.mul_two_zpow (rounds : RoundsToBits bits value rounded) (places : Int) :
    RoundsToBits bits (value * 2 ^ places) (rounded * 2 ^ places) where
  few := rounds.few.mul_two_zpow places
  closest := by
    intro other few
    have closest := rounds.closest _ (few.mul_two_zpow (-places))
    have positive : (0 : ℚ) < 2 ^ places := zpow_pos two_pos places
    have scaled := mul_le_mul_of_nonneg_right closest positive.le
    rwa [← abs_sub_mul_two_zpow, ← abs_sub_mul_two_zpow, mul_two_zpow_neg_mul] at scaled
  even := by
    intro other few different same
    apply EndsEven.mul_two_zpow
    apply rounds.even _ (few.mul_two_zpow (-places))
    · intro equal
      apply different
      rw [← equal, mul_two_zpow_neg_mul]
    · have nonzero : (2 : ℚ) ^ places ≠ 0 := zpow_ne_zero places two_ne_zero
      rw [← mul_two_zpow_neg_mul other places, abs_sub_mul_two_zpow, abs_sub_mul_two_zpow] at same
      exact mul_right_cancel₀ nonzero same

end Moving

private theorem abs_sub_lt_of_between {value left between right : ℚ} (above : left < between)
    (below : between < right) (same : |value - left| = |value - right|) :
    |value - between| < |value - left| := by
  have middle : value - left = right - value := by
    rcases abs_eq_abs.mp same with equal | opposite
    · linarith
    · linarith
  rw [abs_of_pos (by linarith : 0 < value - left), abs_lt]
  exact ⟨by linarith, by linarith⟩

/-- Between two different numbers that end even there is another with as many digits. -/
theorem EndsEven.exists_between {bits : Nat} {left right : ℚ} (first : EndsEven bits left)
    (second : EndsEven bits right) (less : left < right) :
    ∃ between, HasBits bits between ∧ left < between ∧ between < right := by
  obtain ⟨significand, exponent, full, below, even, rfl⟩ := first
  obtain ⟨greater, power, -, most, evenOther, rfl⟩ := second
  have unit : (0 : ℚ) < 2 ^ exponent := zpow_pos two_pos exponent
  obtain ⟨places, rfl⟩ : ∃ places, bits = places + 1 := by
    cases bits with
    | zero => omega
    | succ places => exact ⟨places, rfl⟩
  rw [Nat.pow_succ] at below most
  have coarse : exponent ≤ power := by
    by_contra fine
    rw [Nat.add_sub_cancel] at full
    exact absurd (mul_two_zpow_lt (by omega : greater < 2 * significand) (not_le.mp fine))
      less.not_gt
  rw [mul_two_zpow_of_le greater coarse] at less ⊢
  generalize split : (power - exponent).toNat = shift at less ⊢
  have last : greater * 2 ^ shift % 2 = 0 := by
    rw [Nat.mul_mod, evenOther, Nat.zero_mul]
  have counted : significand < greater * 2 ^ shift := by
    exact_mod_cast lt_of_mul_lt_mul_right less unit.le
  refine ⟨(significand + 1 : Nat) * 2 ^ exponent, ⟨significand + 1, exponent, ?_, rfl⟩, ?_, ?_⟩
  · rw [Nat.pow_succ]
    omega
  · apply mul_lt_mul_of_pos_right _ unit
    exact_mod_cast Nat.lt_add_one significand
  · apply mul_lt_mul_of_pos_right _ unit
    exact_mod_cast (by omega)

/-- There is no other number to round to. -/
theorem RoundsToBits.unique {bits : Nat} {value left right : ℚ}
    (first : RoundsToBits bits value left) (second : RoundsToBits bits value right) :
    left = right := by
  have apart {left right : ℚ} (first : RoundsToBits bits value left)
      (second : RoundsToBits bits value right) : ¬left < right := by
    intro less
    have same := le_antisymm (first.closest right second.few) (second.closest left first.few)
    have even := first.even right second.few less.ne' same
    have evenOther := second.even left first.few less.ne same.symm
    obtain ⟨between, few, above, below⟩ := even.exists_between evenOther less
    exact absurd (abs_sub_lt_of_between above below same) (first.closest between few).not_gt
  exact le_antisymm (not_lt.mp (apart second first)) (not_lt.mp (apart first second))

theorem RoundsToBits.self {bits : Nat} {value : ℚ} (few : HasBits bits value) :
    RoundsToBits bits value value where
  few := few
  closest := by
    intro other _
    rw [sub_self, abs_zero]
    exact abs_nonneg _
  even := by
    intro other _ different same
    rw [sub_self, abs_zero, eq_comm, abs_eq_zero, sub_eq_zero] at same
    exact (different same.symm).elim

theorem RoundsToBits.iff_eq {bits : Nat} {value rounded number : ℚ}
    (rounds : RoundsToBits bits value rounded) :
    RoundsToBits bits value number ↔ number = rounded :=
  ⟨fun other => other.unique rounds, fun equal => equal ▸ rounds⟩

theorem RoundsTo.closest {numerator denominator rounded : Nat}
    (rounds : RoundsTo numerator denominator rounded) (other : Nat) :
    Binary.Format.distance numerator (rounded * denominator) ≤
        Binary.Format.distance numerator (other * denominator) ∧
      (other ≠ rounded → Binary.Format.distance numerator (rounded * denominator) =
        Binary.Format.distance numerator (other * denominator) → rounded % 2 = 0) := by
  obtain ⟨upper, lower, upperTie, lowerTie⟩ := rounds
  rw [Nat.add_mul, Nat.one_mul, Nat.mul_assoc] at upper upperTie
  rw [Nat.mul_assoc] at lower lowerTie
  simp only [Binary.Format.distance]
  rcases Nat.lt_trichotomy other rounded with less | rfl | greater
  · have step := Nat.mul_le_mul_right denominator less
    rw [Nat.succ_mul] at step
    exact ⟨by omega, fun _ _ => by omega⟩
  · exact ⟨Nat.le_refl _, fun different => (different rfl).elim⟩
  · have step := Nat.mul_le_mul_right denominator greater
    rw [Nat.succ_mul] at step
    exact ⟨by omega, fun _ _ => by omega⟩

theorem abs_sub_natCast (left right : Nat) :
    |(left : ℚ) - right| = Binary.Format.distance left right := by
  rw [Binary.Format.distance]
  rcases Nat.le_total left right with less | greater
  · rw [Nat.sub_eq_zero_of_le less, Nat.zero_add, abs_sub_comm, ← Nat.cast_sub less,
      Nat.abs_cast]
  · rw [Nat.sub_eq_zero_of_le greater, Nat.add_zero, ← Nat.cast_sub greater, Nat.abs_cast]

namespace Binary.Format

variable (format : Format)

theorem hasBits_of_le {significand : Nat} (few : significand ≤ 2 * 2 ^ format.fractionWidth)
    (exponent : Int) : HasBits (format.fractionWidth + 1) (significand * 2 ^ exponent) := by
  rcases Nat.lt_or_eq_of_le few with less | rfl
  · exact ⟨significand, exponent, by rwa [Nat.pow_succ, Nat.mul_comm], rfl⟩
  · refine ⟨2 ^ format.fractionWidth, exponent + 1, Nat.pow_lt_pow_succ (by decide), ?_⟩
    rw [Int.add_comm, zpow_add₀ (two_ne_zero' ℚ), Nat.mul_comm, Nat.cast_mul, mul_assoc]
    rfl

private theorem endsEven_of_le (fraction : 0 < format.fractionWidth) {significand : Nat}
    (full : 2 ^ format.fractionWidth ≤ significand)
    (few : significand ≤ 2 * 2 ^ format.fractionWidth) (even : significand % 2 = 0)
    (exponent : Int) : EndsEven (format.fractionWidth + 1) (significand * 2 ^ exponent) := by
  rcases Nat.lt_or_eq_of_le few with less | rfl
  · exact ⟨significand, exponent, full, by rwa [Nat.pow_succ, Nat.mul_comm], even, rfl⟩
  · refine ⟨2 ^ format.fractionWidth, exponent + 1, Nat.le_refl _,
      Nat.pow_lt_pow_succ (by decide), ?_, ?_⟩
    · obtain ⟨width, wide⟩ := Nat.exists_eq_succ_of_ne_zero (Nat.ne_of_gt fraction)
      rw [wide, Nat.pow_succ]
      exact Nat.mul_mod_left _ _
    · rw [Int.add_comm, zpow_add₀ (two_ne_zero' ℚ), Nat.mul_comm, Nat.cast_mul, mul_assoc]
      rfl

/-- A number of so many bits counts steps, or lies below the first number that has all its
bits before the point of the steps. -/
theorem hasBits_cases {other : ℚ} (few : HasBits (format.fractionWidth + 1) other)
    (shift : Nat) :
    other < (2 ^ format.fractionWidth * 2 ^ shift : Nat) ∨
      ∃ count : Nat, other = (count * 2 ^ shift : Nat) := by
  obtain ⟨significand, exponent, below, rfl⟩ := few
  rw [Nat.pow_succ, Nat.mul_comm] at below
  rcases Int.lt_or_le exponent shift with fine | coarse
  · left
    have least := mul_two_zpow_lt below fine
    rwa [two_zpow_natCast, ← Nat.cast_mul] at least
  · right
    refine ⟨significand * 2 ^ (exponent - shift).toNat, ?_⟩
    rw [mul_two_zpow_of_le significand coarse, two_zpow_natCast, ← Nat.cast_mul]

variable {number count shift : Nat}

/-- Whatever lies below the first number that has all its bits is farther away than the
multiple of a step that is rounded to. -/
theorem abs_sub_lt_of_lt (rounds : RoundsTo number (2 ^ shift) count)
    (least : 2 ^ format.fractionWidth * 2 ^ shift ≤ number) {other : ℚ}
    (less : other < (2 ^ format.fractionWidth * 2 ^ shift : Nat)) :
    |(number : ℚ) - (count * 2 ^ shift : Nat)| < |number - other| := by
  have nearer := (rounds.closest (2 ^ format.fractionWidth)).1
  have first : |(number : ℚ) - (2 ^ format.fractionWidth * 2 ^ shift : Nat)| =
      number - (2 ^ format.fractionWidth * 2 ^ shift : Nat) :=
    abs_of_nonneg (sub_nonneg.mpr (Nat.cast_le.mpr least))
  calc |(number : ℚ) - (count * 2 ^ shift : Nat)|
    _ ≤ |(number : ℚ) - (2 ^ format.fractionWidth * 2 ^ shift : Nat)| := by
        rw [abs_sub_natCast, abs_sub_natCast]
        exact Nat.cast_le.mpr nearer
    _ < number - other := by
        rw [first]
        exact sub_lt_sub_left less _
    _ ≤ |number - other| := le_abs_self _

/-- A number that is rounded to steps, of which it has no fewer than all bits count, is
rounded to as many bits. -/
theorem roundsToBits_of_roundsTo (fraction : 0 < format.fractionWidth)
    (rounds : RoundsTo number (2 ^ shift) count) (full : 2 ^ format.fractionWidth ≤ count)
    (below : count ≤ 2 * 2 ^ format.fractionWidth)
    (least : 2 ^ format.fractionWidth * 2 ^ shift ≤ number) :
    RoundsToBits (format.fractionWidth + 1) number (count * 2 ^ shift : Nat) := by
  have value : ((count * 2 ^ shift : Nat) : ℚ) = count * 2 ^ (shift : Int) := by
    rw [two_zpow_natCast, Nat.cast_mul]
  refine ⟨?_, ?_, ?_⟩
  · rw [value]
    exact format.hasBits_of_le below shift
  · intro other few
    rcases format.hasBits_cases few shift with less | ⟨steps, rfl⟩
    · exact (format.abs_sub_lt_of_lt rounds least less).le
    · rw [abs_sub_natCast, abs_sub_natCast]
      exact Nat.cast_le.mpr (rounds.closest steps).1
  · intro other few different same
    rcases format.hasBits_cases few shift with less | ⟨steps, rfl⟩
    · exact absurd same (format.abs_sub_lt_of_lt rounds least less).ne
    · rw [abs_sub_natCast, abs_sub_natCast, Nat.cast_inj] at same
      have even := (rounds.closest steps).2 (fun equal => different (by rw [equal])) same
      rw [value]
      exact format.endsEven_of_le fraction full below even shift

/-- Rounding a natural number to significant bits gives the nearest number that has no more
bits, ties to even. -/
theorem roundsToBits_significant (fraction : 0 < format.fractionWidth) (number : Nat) :
    RoundsToBits (format.fractionWidth + 1) number (format.significant number) := by
  rcases Nat.lt_or_ge format.fractionWidth number.log2 with many | few
  · have nonzero : number ≠ 0 := by
      rintro rfl
      rw [Nat.log2_zero] at many
      omega
    have positive := Nat.two_pow_pos (number.log2 - format.fractionWidth)
    have least : 2 ^ format.fractionWidth * 2 ^ (number.log2 - format.fractionWidth) ≤
        number := by
      rw [← Nat.pow_add, Nat.add_sub_cancel' (Nat.le_of_lt many)]
      exact Nat.log2_self_le nonzero
    have below := format.steps_le number 1
    simp only [steps, stepShift, Nat.div_one, Nat.one_mul] at below
    exact format.roundsToBits_of_roundsTo fraction (roundsTo_divideToEven positive number)
      (Nat.le_trans ((Nat.le_div_iff_mul_le positive).mpr least) (le_divideToEven _ _)) below
      least
  · rw [format.significant_of_log2_le few]
    have small : number < 2 ^ (format.fractionWidth + 1) :=
      Nat.lt_of_lt_of_le Nat.lt_log2_self
        (Nat.pow_le_pow_right (by decide) (Nat.succ_le_succ few))
    exact .self ⟨number, 0, small, by rw [zpow_zero, mul_one]⟩

end Binary.Format

end PagedRows
