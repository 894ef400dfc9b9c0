import Mathlib.Data.List.Induction
import PagedRows.Numeral.Hexadecimal
import PagedRows.Proofs.Significance

/-!
# The digits in a mantissa

The digits of a hexadecimal numeral are taken in one after the other.  What the mantissa
and the shift then hold is the number that the digits stand for, up to bits that have been
dropped and for which the last bit stands; and these never count when the number is
rounded to as many bits as a float has.
-/

namespace PagedRows.Numeral

/-- The number that digits of base sixteen stand for, without a point. -/
def baseSixteen (digits : List Nat) : Nat :=
  digits.foldl (fun number digit => 16 * number + digit) 0

theorem baseSixteen_concat (digits : List Nat) (digit : Nat) :
    baseSixteen (digits ++ [digit]) = 16 * baseSixteen digits + digit := by
  simp [baseSixteen]

/-- A digit and whether it stands after the point. -/
structure Place where
  digit : Nat
  fractional : Bool
deriving DecidableEq

/-- The digits before and after a point, in their places. -/
def places (whole fraction : List Nat) : List Place :=
  whole.map (⟨·, false⟩) ++ fraction.map (⟨·, true⟩)

theorem map_digit_places (whole fraction : List Nat) :
    (places whole fraction).map Place.digit = whole ++ fraction := by
  simp [places, Function.comp_def]

theorem length_places (whole fraction : List Nat) :
    (places whole fraction).length = whole.length + fraction.length := by
  rw [places, List.length_append, List.length_map, List.length_map]

theorem digit_lt_of_mem_places {whole fraction : List Nat}
    (base : ∀ digit ∈ whole ++ fraction, digit < 16) {place : Place}
    (member : place ∈ places whole fraction) : place.digit < 16 := by
  apply base
  rw [← map_digit_places]
  exact List.mem_map_of_mem member

theorem countP_fractional_places (whole fraction : List Nat) :
    (places whole fraction).countP Place.fractional = fraction.length := by
  simp [places, List.countP_map, Function.comp_def]

theorem countP_fractional_concat (places : List Place) (place : Place) :
    (places ++ [place]).countP Place.fractional =
      places.countP Place.fractional + place.fractional.toNat := by
  rw [List.countP_append, List.countP_singleton]
  cases place.fractional <;> rfl

namespace Significand

/-- The significand of digits in their places. -/
def ofPlaces (places : List Place) : Significand :=
  places.foldl (fun significand place => significand.push place.fractional place.digit) empty

theorem ofPlaces_concat (places : List Place) (place : Place) :
    ofPlaces (places ++ [place]) = (ofPlaces places).push place.fractional place.digit := by
  rw [ofPlaces, List.foldl_append]
  rfl

theorem ofPlaces_places (whole fraction : List Nat) :
    ofPlaces (places whole fraction) = ofDigits whole fraction := by
  rw [ofPlaces, places, List.foldl_append, List.foldl_map, List.foldl_map]
  rfl

/-- A significand holds digits, of which some stand after the point, and for some that
were dropped the last bit of the mantissa stands. -/
structure Holds (significand : Significand) (digits : List Nat) (fractional dropped : Nat) :
    Prop where
  fits : significand.mantissa < 2 ^ 64
  shift : significand.shift = 4 * (dropped : Int) - 4 * (fractional : Int)
  full : dropped = 0 ∨ 2 ^ 60 ≤ significand.mantissa
  among : dropped ≤ digits.length
  stands : StandsFor significand.mantissa (2 ^ (4 * dropped)) (baseSixteen digits)

theorem holds_empty : empty.Holds [] 0 0 where
  fits := by decide
  shift := by decide
  full := .inl rfl
  among := Nat.le_refl 0
  stands := .inl rfl

theorem Holds.push {significand : Significand} {digits : List Nat}
    {fractional dropped digit : Nat} (holds : significand.Holds digits fractional dropped)
    (base : digit < 16) (after : Bool) :
    ∃ dropped, (significand.push after digit).Holds (digits ++ [digit])
      (fractional + after.toNat) dropped := by
  obtain ⟨fits, shift, full, among, stands⟩ := holds
  have length : (digits ++ [digit]).length = digits.length + 1 := List.length_append
  by_cases room : significand.mantissa < 2 ^ 60
  · have none : dropped = 0 := full.resolve_right (Nat.not_le_of_lt room)
    subst none
    have exact := stands.eq_of_one
    have pushed : significand.push after digit =
        ⟨16 * significand.mantissa + digit,
          if after then significand.shift - 4 else significand.shift⟩ := by
      rw [Significand.push, if_pos room]
    rw [pushed]
    refine ⟨0, ?_, ?_, .inl rfl, Nat.zero_le _, ?_⟩
    · simp only
      omega
    · cases after
      · simpa using shift
      · simp only [shift, Bool.toNat_true, ↓reduceIte]
        omega
    · left
      rw [baseSixteen_concat, exact, Nat.mul_zero, Nat.pow_zero, Nat.mul_one]
  · have pushed : significand.push after digit =
        ⟨if digit = 0 then significand.mantissa else significand.mantissa / 2 * 2 + 1,
          if after then significand.shift else significand.shift + 4⟩ := by
      rw [Significand.push, if_neg room]
    rw [pushed]
    refine ⟨dropped + 1, ?_, ?_, ?_, ?_, ?_⟩
    · simp only
      split
      · exact fits
      · omega
    · cases after
      · simp only [shift, Bool.toNat_false, Bool.false_eq_true, ↓reduceIte]
        omega
      · simp only [shift, Bool.toNat_true, ↓reduceIte]
        omega
    · right
      simp only
      split
      · omega
      · omega
    · omega
    · have unit : 2 ^ (4 * (dropped + 1)) = 2 ^ (4 * dropped) * 16 := by
        rw [Nat.mul_add, Nat.pow_add]
      rw [baseSixteen_concat, unit]
      exact stands.drop (Nat.two_pow_pos _) base

theorem holds_ofPlaces {places : List Place} (base : ∀ place ∈ places, place.digit < 16) :
    ∃ dropped, (ofPlaces places).Holds (places.map Place.digit)
      (places.countP Place.fractional) dropped := by
  induction places using List.reverseRecOn with
  | nil => exact ⟨0, holds_empty⟩
  | append_singleton places place induction =>
      obtain ⟨dropped, holds⟩ :=
        induction fun other member => base other (List.mem_append_left _ member)
      rw [ofPlaces_concat, List.map_append, countP_fractional_concat]
      exact holds.push (base place List.mem_concat_self) place.fractional

theorem holds_ofDigits {whole fraction : List Nat}
    (base : ∀ digit ∈ whole ++ fraction, digit < 16) :
    ∃ dropped, (ofDigits whole fraction).Holds (whole ++ fraction) fraction.length dropped := by
  rw [← ofPlaces_places, ← map_digit_places whole fraction, ← countP_fractional_places whole]
  exact holds_ofPlaces fun _ => digit_lt_of_mem_places base

/-- Rounding the mantissa rounds the number. -/
theorem Holds.significant_eq {significand : Significand} {digits : List Nat}
    {fractional dropped : Nat} (holds : significand.Holds digits fractional dropped) :
    Binary.Format.double.significant (baseSixteen digits) =
      Binary.Format.double.significant significand.mantissa * 2 ^ (4 * dropped) := by
  have stands := holds.stands
  rcases holds.full with rfl | full
  · rw [stands.eq_of_one, Nat.mul_zero, Nat.pow_zero, Nat.mul_one]
  · apply stands.significant_eq
    have enough : 2 ^ (Binary.Format.double.fractionWidth + 2) ≤ 2 ^ 60 := by decide
    exact Nat.le_trans enough full

end Significand

end PagedRows.Numeral
