import PagedRows.Proofs.Mantissa

/-!
# Digits in machine words

A mantissa and a shift are kept in machine words.  The mantissa moves up only while its
highest four bits are clear, so none of its bits is lost, and the shift changes by four at
most with each digit.  The words therefore hold the same as a natural number and an integer
of any size would.
-/

namespace PagedRows.Numeral.Significand

private theorem or_one_eq (number : Nat) : number ||| 1 = number / 2 * 2 + 1 := by
  rw [← Nat.div_add_mod (number ||| 1) 2, Nat.or_div_two, Nat.or_mod_two_eq_one.mpr (.inr rfl),
    Nat.or_zero, Nat.mul_comm]

private theorem natAbs_shift_push_le (significand : Significand) (after : Bool) (digit : Nat) :
    (significand.push after digit).shift.natAbs ≤ significand.shift.natAbs + 4 := by
  rw [push]
  cases after
  · split
    · simp
    · simp only [Bool.false_eq_true, ↓reduceIte]
      omega
  · split
    · simp only [↓reduceIte]
      omega
    · simp

private theorem natAbs_shift_ofPlaces_le (places : List Place) :
    (ofPlaces places).shift.natAbs ≤ 4 * places.length := by
  induction places using List.reverseRecOn with
  | nil => exact Nat.le_refl 0
  | append_singleton places place induction =>
      have step := natAbs_shift_push_le (ofPlaces places) place.fractional place.digit
      rw [ofPlaces_concat, List.length_append, List.length_singleton]
      omega

/-- A significand in a word without sign and one with sign. -/
structure Words where
  mantissa : UInt64
  shift : Int64
deriving DecidableEq

namespace Words

def empty : Words := ⟨0, 0⟩

/-- The highest four bits of the mantissa are clear. -/
def HasRoom (words : Words) : Prop :=
  words.mantissa >>> 60 = 0

instance (words : Words) : Decidable words.HasRoom :=
  inferInstanceAs (Decidable (_ = _))

/-- Takes in the next digit by operations on bits. -/
def push (words : Words) (place : Place) : Words :=
  if words.HasRoom then
    { mantissa := words.mantissa <<< 4 ||| .ofNat place.digit
      shift := if place.fractional then words.shift - 4 else words.shift }
  else
    { mantissa := if place.digit = 0 then words.mantissa else words.mantissa ||| 1
      shift := if place.fractional then words.shift else words.shift + 4 }

/-- The words after digits in their places. -/
def ofPlaces (places : List Place) : Words :=
  places.foldl push empty

/-- What the words stand for. -/
def significand (words : Words) : Significand :=
  ⟨words.mantissa.toNat, words.shift.toInt⟩

theorem ofPlaces_concat (places : List Place) (place : Place) :
    ofPlaces (places ++ [place]) = (ofPlaces places).push place := by
  rw [ofPlaces, List.foldl_append]
  rfl

section

variable {words : Words}

theorem hasRoom_iff : words.HasRoom ↔ words.significand.mantissa < 2 ^ 60 := by
  rw [HasRoom, ← UInt64.toNat_inj, UInt64.toNat_shiftRight, Nat.shiftRight_eq_div_pow]
  exact Nat.div_eq_zero_iff_lt (Nat.two_pow_pos 60)

/-- No bit that is set is shifted out. -/
theorem HasRoom.toNat_shiftLeft (room : words.HasRoom) :
    (words.mantissa <<< 4).toNat = words.mantissa.toNat * 2 ^ 4 := by
  have below : words.mantissa.toNat < 2 ^ 60 := hasRoom_iff.mp room
  rw [UInt64.toNat_shiftLeft]
  change words.mantissa.toNat <<< 4 % 2 ^ 64 = _
  rw [Nat.shiftLeft_eq, Nat.mod_eq_of_lt (by omega)]

theorem HasRoom.toNat_shiftLeft_or (room : words.HasRoom) {digit : Nat} (base : digit < 16) :
    (words.mantissa <<< 4 ||| .ofNat digit).toNat = 16 * words.mantissa.toNat + digit := by
  have small : digit < UInt64.size := Nat.lt_trans base (by decide)
  rw [UInt64.toNat_or, room.toNat_shiftLeft, UInt64.toNat_ofNat_of_lt' small, Nat.mul_comm,
    ← Nat.two_pow_add_eq_or_of_lt base]

theorem toInt_shift_add {change : Int64} (few : words.shift.toInt.natAbs ≤ 2 ^ 62)
    (little : change.toInt.natAbs ≤ 4) :
    (words.shift + change).toInt = words.shift.toInt + change.toInt := by
  rw [Int64.toInt_add]
  apply Int.bmod_eq_of_le
  · omega
  · omega

/-- The words take in a digit as a natural number and an integer do. -/
theorem significand_push {place : Place} (base : place.digit < 16)
    (few : words.significand.shift.natAbs ≤ 2 ^ 62) :
    (words.push place).significand =
      words.significand.push place.fractional place.digit := by
  by_cases room : words.HasRoom
  · rw [push, if_pos room, Significand.push, if_pos (hasRoom_iff.mp room)]
    have lowered : (words.shift - 4).toInt = words.shift.toInt - 4 := by
      rw [Int64.sub_eq_add_neg]
      exact toInt_shift_add few (by decide)
    apply congrArg₂ Significand.mk (room.toNat_shiftLeft_or base)
    cases place.fractional
    · rfl
    · exact lowered
  · rw [push, if_neg room, Significand.push, if_neg (mt hasRoom_iff.mpr room)]
    have raised : (words.shift + 4).toInt = words.shift.toInt + 4 :=
      toInt_shift_add few (by decide)
    have marked : (words.mantissa ||| 1).toNat = words.mantissa.toNat / 2 * 2 + 1 := by
      rw [UInt64.toNat_or]
      exact or_one_eq _
    apply congrArg₂ Significand.mk
    · split
      · rfl
      · exact marked
    · cases place.fractional
      · exact raised
      · rfl

end

/-- The words hold the same as a natural number and an integer after any digits, unless
there are more of them than the shift can count. -/
theorem significand_ofPlaces {places : List Place} (base : ∀ place ∈ places, place.digit < 16)
    (few : places.length ≤ 2 ^ 60) :
    (ofPlaces places).significand = Significand.ofPlaces places := by
  induction places using List.reverseRecOn with
  | nil => rfl
  | append_singleton places place induction =>
      rw [List.length_append, List.length_singleton] at few
      have before := induction (fun other member => base other (List.mem_append_left _ member))
        (Nat.le_of_succ_le few)
      have bound := natAbs_shift_ofPlaces_le places
      rw [ofPlaces_concat, Significand.ofPlaces_concat, ← before]
      apply significand_push (base place List.mem_concat_self)
      rw [before]
      omega

end Words

end PagedRows.Numeral.Significand
