import Mathlib.Algebra.Order.Field.Power
import Mathlib.Tactic.Ring
import PagedRows.Proofs.DigitWords
import PagedRows.Proofs.SignificantBits

/-!
# The value of digits

The digits before and after a point stand for a rational number.  A significand is that
number if no digit but zeros was dropped.  In any case it is rounded to the bits of a float
as the number is, since the last bit tells on which side of every number with so many bits
the value lies.
-/

namespace PagedRows.Numeral

private theorem baseSixteen_append (digits more : List Nat) :
    baseSixteen (digits ++ more) = baseSixteen digits * 16 ^ more.length + baseSixteen more := by
  induction more using List.reverseRecOn with
  | nil => simp [baseSixteen]
  | append_singleton more digit induction =>
      rw [← List.append_assoc, baseSixteen_concat, baseSixteen_concat, induction,
        List.length_append, List.length_singleton, Nat.pow_succ]
      ring

/-- The number that digits before and after a point stand for. -/
def pointedValue (whole fraction : List Nat) : ℚ :=
  baseSixteen whole + baseSixteen fraction / (16 ^ fraction.length : Nat)

/-- The number that digits in their places stand for. -/
def placesValue (places : List Place) : ℚ :=
  baseSixteen (places.map Place.digit) *
    2 ^ (-((4 * places.countP Place.fractional : Nat) : Int))

private theorem placesValue_places (whole fraction : List Nat) :
    placesValue (places whole fraction) = pointedValue whole fraction := by
  have positive : ((16 ^ fraction.length : Nat) : ℚ) ≠ 0 :=
    Nat.cast_ne_zero.mpr (Nat.ne_of_gt (Nat.pow_pos (by decide)))
  rw [placesValue, map_digit_places, countP_fractional_places, baseSixteen_append, zpow_neg,
    two_zpow_natCast, Nat.pow_mul, pointedValue, Nat.cast_add, Nat.cast_mul, add_mul,
    mul_inv_cancel_right₀ positive, div_eq_mul_inv]

theorem placesValue_concat (places : List Place) (place : Place) :
    placesValue (places ++ [place]) =
      (16 * baseSixteen (places.map Place.digit) + place.digit : Nat) *
        2 ^ (-((4 * places.countP Place.fractional : Nat) : Int) -
          4 * place.fractional.toNat) := by
  rw [placesValue, List.map_append, List.map_singleton, baseSixteen_concat,
    countP_fractional_concat]
  congr 2
  omega

theorem placesValue_concat_zero (places : List Place) (after : Bool) :
    placesValue (places ++ [⟨0, after⟩]) =
      placesValue places * 2 ^ (4 - 4 * (after.toNat : Int)) := by
  rw [placesValue_concat, placesValue, mul_assoc, ← zpow_add₀ (two_ne_zero' ℚ)]
  generalize -((4 * places.countP Place.fractional : Nat) : Int) = power
  have fine : power - 4 * after.toNat ≤ power + (4 - 4 * after.toNat) := by omega
  have four : (power + (4 - 4 * after.toNat) - (power - 4 * after.toNat)).toNat = 4 := by omega
  rw [mul_two_zpow_of_le _ fine, four, Nat.mul_comm]
  rfl

namespace Significand

/-- The number that a significand stands for. -/
def value (significand : Significand) : ℚ :=
  significand.mantissa * 2 ^ significand.shift

/-- Every digit that meets a full mantissa is a zero. -/
def DropsZeros (places : List Place) : Prop :=
  ∀ read place unread, places = read ++ place :: unread →
    2 ^ 60 ≤ (ofPlaces read).mantissa → place.digit = 0

section

variable {significand : Significand} {digits : List Nat} {fractional dropped : Nat}

theorem Holds.eq_of_lt (holds : significand.Holds digits fractional dropped)
    (room : significand.mantissa < 2 ^ 60) :
    baseSixteen digits = significand.mantissa ∧
      significand.shift = -((4 * fractional : Nat) : Int) := by
  obtain ⟨-, shift, full, -, stands⟩ := holds
  obtain rfl := full.resolve_right (Nat.not_le_of_lt room)
  exact ⟨stands.eq_of_one, by omega⟩

private theorem value_push_of_lt (room : significand.mantissa < 2 ^ 60) (after : Bool)
    (digit : Nat) :
    (significand.push after digit).value =
      (16 * significand.mantissa + digit : Nat) * 2 ^ (significand.shift - 4 * after.toNat) := by
  rw [push, if_pos room, value]
  cases after
  · simp
  · simp

theorem value_push_zero (full : ¬significand.mantissa < 2 ^ 60) (after : Bool) :
    (significand.push after 0).value =
      significand.value * 2 ^ (4 - 4 * (after.toNat : Int)) := by
  rw [push, if_neg full, value, value, mul_assoc, ← zpow_add₀ (two_ne_zero' ℚ)]
  cases after
  · simp
  · simp

end

/-- The significand is the number that the digits stand for if only zeros were dropped. -/
theorem value_ofPlaces {places : List Place} (base : ∀ place ∈ places, place.digit < 16)
    (zeros : DropsZeros places) : (ofPlaces places).value = placesValue places := by
  induction places using List.reverseRecOn with
  | nil => rfl
  | append_singleton places place induction =>
      obtain ⟨digit, after⟩ := place
      have before : ∀ place ∈ places, place.digit < 16 :=
        fun other member => base other (List.mem_append_left _ member)
      rw [ofPlaces_concat]
      by_cases room : (ofPlaces places).mantissa < 2 ^ 60
      · obtain ⟨_, holds⟩ := holds_ofPlaces before
        obtain ⟨exact, shift⟩ := holds.eq_of_lt room
        rw [value_push_of_lt room, placesValue_concat, exact, shift]
      · obtain rfl : digit = 0 := zeros places _ [] rfl (Nat.le_of_not_lt room)
        have same := induction before fun read place unread split =>
          zeros read place (unread ++ [⟨0, after⟩]) (by rw [split, List.append_assoc]; rfl)
        rw [value_push_zero room, placesValue_concat_zero, same]

/-- The value is rounded as the mantissa is. -/
theorem roundsToBits_ofPlaces {places : List Place}
    (base : ∀ place ∈ places, place.digit < 16) :
    RoundsToBits 53 (placesValue places)
      (Binary.Format.double.significant (ofPlaces places).mantissa *
        2 ^ (ofPlaces places).shift) := by
  obtain ⟨dropped, holds⟩ := holds_ofPlaces base
  have shift := holds.shift
  have coarse : -((4 * places.countP Place.fractional : Nat) : Int) ≤
      (ofPlaces places).shift := by
    omega
  have steps : ((ofPlaces places).shift -
      -((4 * places.countP Place.fractional : Nat) : Int)).toNat = 4 * dropped := by
    omega
  rw [mul_two_zpow_of_le _ coarse, steps, ← holds.significant_eq]
  exact (Binary.Format.double.roundsToBits_significant (by decide) _).mul_two_zpow _

/-- Digits before and after a point, fewer than `2 ^ 60` in all, are taken into machine words
as into a natural number and an integer, and the mantissa loses no bit that is set when it
moves up.  The significand is the value of the digits if only zeros were dropped, and in any
case what the value is rounded to, with as many bits as a float has and an exponent without
bounds, is what the mantissa is rounded to, moved by the shift. -/
theorem ofDigits_keeps_value {whole fraction : List Nat}
    (base : ∀ digit ∈ whole ++ fraction, digit < 16)
    (few : whole.length + fraction.length < 2 ^ 60) :
    (Words.ofPlaces (places whole fraction)).significand = ofDigits whole fraction ∧
    (∀ read unread, places whole fraction = read ++ unread →
      (Words.ofPlaces read).significand = ofPlaces read ∧
      ((Words.ofPlaces read).HasRoom → ((Words.ofPlaces read).mantissa <<< 4).toNat =
        (Words.ofPlaces read).mantissa.toNat * 2 ^ 4)) ∧
    (DropsZeros (places whole fraction) →
      (ofDigits whole fraction).value = pointedValue whole fraction) ∧
    ∃ rounded,
      (∀ number, RoundsToBits 53 (ofDigits whole fraction).mantissa number ↔
        number = rounded) ∧
      ∀ number, RoundsToBits 53 (pointedValue whole fraction) number ↔
        number = rounded * 2 ^ (ofDigits whole fraction).shift := by
  have digits : ∀ place ∈ places whole fraction, place.digit < 16 :=
    fun _ => digit_lt_of_mem_places base
  have agrees (read unread : List Place) (split : places whole fraction = read ++ unread) :
      (Words.ofPlaces read).significand = ofPlaces read := by
    rw [← length_places, split, List.length_append] at few
    rw [split] at digits
    exact Words.significand_ofPlaces (fun place member =>
      digits place (List.mem_append_left unread member)) (by omega)
  rw [← ofPlaces_places, ← placesValue_places]
  refine ⟨agrees _ [] (List.append_nil _).symm, ?_, value_ofPlaces digits, ?_⟩
  · intro read unread split
    exact ⟨agrees read unread split, Words.HasRoom.toNat_shiftLeft⟩
  · exact ⟨_, fun _ => (Binary.Format.double.roundsToBits_significant (by decide) _).iff_eq,
      fun _ => (roundsToBits_ofPlaces digits).iff_eq⟩

/-- Halfway between two floats but for the last digit, which is far away. -/
def almostHalfway : List Nat :=
  List.replicate 13 0 ++ 8 :: List.replicate 20 0 ++ [1]

theorem ofDigits_keeps_value_of_almostHalfway :
    (ofDigits [0, 1] almostHalfway).mantissa = 2 ^ 60 + 2 ^ 7 + 1 ∧
      RoundsToBits 53 (pointedValue [0, 1] almostHalfway)
        ((2 ^ 60 + 2 ^ 8 : Nat) * 2 ^ (-60 : Int)) := by
  have significand : ofDigits [0, 1] almostHalfway = ⟨2 ^ 60 + 2 ^ 7 + 1, -60⟩ := by
    decide +kernel
  have upward : Binary.Format.double.significant (2 ^ 60 + 2 ^ 7 + 1) = 2 ^ 60 + 2 ^ 8 := by
    decide +kernel
  obtain ⟨-, -, -, rounded, mantissa, value⟩ :=
    ofDigits_keeps_value (by decide : ∀ digit ∈ [0, 1] ++ almostHalfway, digit < 16) (by decide)
  rw [significand] at mantissa value ⊢
  have equal := (mantissa _).mp (Binary.Format.double.roundsToBits_significant (by decide) _)
  rw [upward] at equal
  exact ⟨rfl, (value _).mpr (congrArg (· * _) equal)⟩

end Significand

end PagedRows.Numeral
