import PagedRows.Decimal.Layout
import PagedRows.Proofs.Rounding
import PagedRows.Text.Integer

/-!
# Written decimals

A decimal keeps its value when powers of ten move between significand and exponent.
So it makes no difference to a reader which zeros are written and where the point
stands: every layout of the digits of a decimal gives digits that have its value.
-/

namespace PagedRows

theorem head?_toDigits_ne_zero {number : Nat} (nonzero : number ≠ 0) :
    (Nat.toDigits 10 number).head? ≠ some '0' := by
  induction number using Nat.base_induction 10 (by decide) with
  | single digit below =>
      rw [Nat.toDigits_of_lt_base below, List.head?_cons]
      simpa using nonzero
  | digit number digit below positive induction =>
      rw [← Nat.toDigits_append_toDigits (by decide) positive below, List.head?_append]
      cases first : (Nat.toDigits 10 number).head? with
      | none => exact (Nat.toDigits_ne_nil (List.head?_eq_none_iff.mp first)).elim
      | some digit =>
          rw [first] at induction
          exact induction (Nat.ne_of_gt positive)

theorem ofDigitChars_append_replicate_zero (digits : List Char) (zeros : Nat) :
    Nat.ofDigitChars 10 (digits ++ List.replicate zeros '0') 0 =
      Nat.ofDigitChars 10 digits 0 * 10 ^ zeros := by
  rw [Nat.ofDigitChars_append, Nat.ofDigitChars_replicate_zero, Nat.mul_comm]

private theorem ofDigitChars_replicate_zero_append (zeros : Nat) (digits : List Char) :
    Nat.ofDigitChars 10 (List.replicate zeros '0' ++ digits) 0 =
      Nat.ofDigitChars 10 digits 0 := by
  rw [Nat.ofDigitChars_append, Nat.ofDigitChars_replicate_zero, Nat.mul_zero]

namespace Decimal

theorem toBinary_eq_ofRatio (decimal : Decimal) (negative : Bool) (format : Binary.Format) :
    decimal.toBinary negative format =
      .ofRatio negative (decimal.significand * 10 ^ decimal.exponent.toNat)
        (10 ^ (-decimal.exponent).toNat) :=
  Binary.ofPower_eq_ofRatio (by decide) _ _ _

@[simp] theorem negate_toBinary (decimal : Decimal) (format : Binary.Format) :
    (decimal.toBinary false format).negate = decimal.toBinary true format := by
  rw [toBinary_eq_ofRatio, toBinary_eq_ofRatio]
  rfl

theorem toBinary_mul_ten_pow (significand zeros : Nat) (exponent : Int) (negative : Bool)
    (format : Binary.Format) :
    toBinary ⟨significand * 10 ^ zeros, exponent - zeros⟩ negative format =
      toBinary ⟨significand, exponent⟩ negative format := by
  have moved : exponent - zeros + zeros = exponent := Int.sub_add_cancel _ _
  rw [toBinary, toBinary, Binary.ofPower_mul_pow (by decide), moved]

/-- The decimal of digits, of which the first counts a power of ten. -/
def ofLeading (digits : List Char) (leading : Int) : Decimal where
  significand := Nat.ofDigitChars 10 digits 0
  exponent := leading + 1 - digits.length

theorem exists_toDigits_eq_append (decimal : Decimal) :
    ∃ zeros, Nat.toDigits 10 decimal.significand =
      decimal.digits ++ List.replicate zeros '0' := by
  generalize written : Nat.toDigits 10 decimal.significand = text
  have split : text.reverse.takeWhile (· == '0') ++ text.reverse.dropWhile (· == '0') =
      text.reverse := List.takeWhile_append_dropWhile
  have zeros : text.reverse.takeWhile (· == '0') =
      List.replicate (text.reverse.takeWhile (· == '0')).length '0' := by
    apply List.eq_replicate_of_mem
    intro digit member
    exact eq_of_beq (List.all_eq_true.mp List.all_takeWhile digit member)
  refine ⟨(text.reverse.takeWhile (· == '0')).length, ?_⟩
  calc text
    _ = (text.reverse.takeWhile (· == '0') ++
          text.reverse.dropWhile (· == '0')).reverse := by
        rw [split, List.reverse_reverse]
    _ = (text.reverse.dropWhile (· == '0')).reverse ++
          List.replicate (text.reverse.takeWhile (· == '0')).length '0' := by
        rw [List.reverse_append, zeros, List.reverse_replicate, List.length_replicate]
    _ = decimal.digits ++ _ := by rw [digits, written]

theorem isDigit_of_mem_digits {decimal : Decimal} {digit : Char}
    (member : digit ∈ decimal.digits) : digit.isDigit = true := by
  obtain ⟨zeros, split⟩ := decimal.exists_toDigits_eq_append
  have written : digit ∈ Nat.toDigits 10 decimal.significand := by
    rw [split]
    exact List.mem_append_left _ member
  exact Nat.isDigit_of_mem_toDigits (by decide) (by decide) written

/-- A decimal that is not zero has digits, and the first of them is not zero. -/
theorem exists_digits_eq_cons {decimal : Decimal} (nonzero : decimal.significand ≠ 0) :
    ∃ first rest, decimal.digits = first :: rest ∧ first ≠ '0' := by
  obtain ⟨zeros, split⟩ := decimal.exists_toDigits_eq_append
  have head := head?_toDigits_ne_zero nonzero
  rw [split] at head
  cases digits : decimal.digits with
  | nil =>
      rw [digits] at split head
      cases zeros with
      | zero => exact (Nat.toDigits_ne_nil split).elim
      | succ zeros => exact (head rfl).elim
  | cons first rest =>
      rw [digits] at head
      refine ⟨first, rest, rfl, ?_⟩
      rintro rfl
      exact head rfl

private theorem toBinary_ofLeading_digits (decimal : Decimal) (negative : Bool)
    (format : Binary.Format) :
    (ofLeading decimal.digits decimal.leadingExponent).toBinary negative format =
      decimal.toBinary negative format := by
  obtain ⟨zeros, split⟩ := decimal.exists_toDigits_eq_append
  have significand : decimal.significand =
      Nat.ofDigitChars 10 decimal.digits 0 * 10 ^ zeros := by
    rw [← ofDigitChars_append_replicate_zero, ← split, Nat.ofDigitChars_ten_toDigits]
  have exponent : decimal.exponent =
      decimal.leadingExponent + 1 - decimal.digits.length - zeros := by
    rw [leadingExponent, split, List.length_append, List.length_replicate]
    omega
  have same : decimal = ⟨Nat.ofDigitChars 10 decimal.digits 0 * 10 ^ zeros,
      decimal.leadingExponent + 1 - decimal.digits.length - zeros⟩ := by
    rw [← significand, ← exponent]
  rw [same, toBinary_mul_ten_pow, ← same]
  rfl

/-- Digits read as they are written, up to zeros at their end, which the place of the
point makes up for. -/
theorem toBinary_ofDigits {whole fraction digits : List Char} {zeros : Nat}
    {exponent leading : Int}
    (written : whole ++ fraction = digits ++ List.replicate zeros '0')
    (placed : exponent - fraction.length = leading + 1 - digits.length - zeros)
    (negative : Bool) (format : Binary.Format) :
    (ofDigits whole fraction exponent).toBinary negative format =
      (ofLeading digits leading).toBinary negative format := by
  have moved : ofDigits whole fraction exponent =
      ⟨Nat.ofDigitChars 10 digits 0 * 10 ^ zeros,
        leading + 1 - digits.length - zeros⟩ := by
    rw [ofDigits, written, ofDigitChars_append_replicate_zero, placed]
  rw [moved, toBinary_mul_ten_pow]
  rfl

theorem ten_pow_le_significand {decimal : Decimal} (nonzero : decimal.significand ≠ 0) :
    10 ^ ((Nat.toDigits 10 decimal.significand).length - 1) ≤ decimal.significand := by
  by_cases single : (Nat.toDigits 10 decimal.significand).length ≤ 1
  · rw [Nat.sub_eq_zero_of_le single, Nat.pow_zero]
    exact Nat.pos_of_ne_zero nonzero
  · apply Nat.le_of_not_lt
    intro below
    have shorter := (Nat.length_toDigits_le_iff (by decide) (by omega)).mpr below
    omega

theorem significand_lt_ten_pow (decimal : Decimal) :
    decimal.significand < 10 ^ (Nat.toDigits 10 decimal.significand).length :=
  (Nat.length_toDigits_le_iff (by decide) Nat.length_toDigits_pos).mp (Nat.le_refl _)

/-- A decimal that is not too great for a format has no leading digit in a place beyond
all its exponents. -/
theorem leadingExponent_lt {decimal : Decimal} {negative : Bool} {format : Binary.Format}
    (nonzero : decimal.significand ≠ 0)
    (finite : (decimal.toBinary negative format).magnitude < format.infinity) :
    decimal.leadingExponent < (2 ^ format.exponentWidth - 1 + format.fractionWidth : Nat) := by
  apply Int.lt_of_not_ge
  intro beyond
  have digits : 0 < (Nat.toDigits 10 decimal.significand).length := Nat.length_toDigits_pos
  have least := ten_pow_le_significand nonzero
  rw [leadingExponent] at beyond
  rw [toBinary_eq_ofRatio, Binary.magnitude_ofRatio] at finite
  generalize (Nat.toDigits 10 decimal.significand).length = length at *
  have huge : 2 ^ (2 ^ format.exponentWidth - 1 + format.fractionWidth) ≤
      decimal.significand * 10 ^ decimal.exponent.toNat * 2 ^ format.unitScale /
        10 ^ (-decimal.exponent).toNat := by
    rw [Nat.le_div_iff_mul_le (Nat.pow_pos (by decide))]
    calc 2 ^ (2 ^ format.exponentWidth - 1 + format.fractionWidth) *
          10 ^ (-decimal.exponent).toNat
      _ ≤ 10 ^ (2 ^ format.exponentWidth - 1 + format.fractionWidth) *
            10 ^ (-decimal.exponent).toNat :=
          Nat.mul_le_mul_right _ (Nat.pow_le_pow_left (by decide) _)
      _ = 10 ^ (2 ^ format.exponentWidth - 1 + format.fractionWidth +
            (-decimal.exponent).toNat) := (Nat.pow_add _ _ _).symm
      _ ≤ 10 ^ (length - 1 + decimal.exponent.toNat) :=
          Nat.pow_le_pow_right (by decide) (by omega)
      _ = 10 ^ (length - 1) * 10 ^ decimal.exponent.toNat := Nat.pow_add _ _ _
      _ ≤ decimal.significand * 10 ^ decimal.exponent.toNat := Nat.mul_le_mul_right _ least
      _ ≤ decimal.significand * 10 ^ decimal.exponent.toNat * 2 ^ format.unitScale :=
          Nat.le_mul_of_pos_right _ (Nat.two_pow_pos _)
  rw [format.nearest_of_two_pow_le huge] at finite
  exact Nat.lt_irrefl _ finite

/-- A decimal that is not too small for a format has its leading digit not far behind the
least unit. -/
theorem lt_leadingExponent {decimal : Decimal} {negative : Bool} {format : Binary.Format}
    (nonzero : (decimal.toBinary negative format).magnitude ≠ 0) :
    -(format.unitScale + 2 : Int) < decimal.leadingExponent := by
  apply Int.lt_of_not_ge
  intro beyond
  have digits : 0 < (Nat.toDigits 10 decimal.significand).length := Nat.length_toDigits_pos
  have most := decimal.significand_lt_ten_pow
  rw [leadingExponent] at beyond
  rw [toBinary_eq_ofRatio, Binary.magnitude_ofRatio] at nonzero
  generalize (Nat.toDigits 10 decimal.significand).length = length at *
  have none : decimal.exponent.toNat = 0 := by omega
  have tiny : 2 * (decimal.significand * 10 ^ decimal.exponent.toNat * 2 ^ format.unitScale) <
      10 ^ (-decimal.exponent).toNat := by
    calc 2 * (decimal.significand * 10 ^ decimal.exponent.toNat * 2 ^ format.unitScale)
      _ = decimal.significand * 2 ^ (format.unitScale + 1) := by
          rw [none, Nat.pow_zero, Nat.mul_one, Nat.pow_succ, Nat.mul_comm, Nat.mul_assoc]
      _ < 10 ^ length * 2 ^ (format.unitScale + 1) :=
          Nat.mul_lt_mul_of_pos_right most (Nat.two_pow_pos _)
      _ ≤ 10 ^ length * 10 ^ (format.unitScale + 1) :=
          Nat.mul_le_mul_left _ (Nat.pow_le_pow_left (by decide) _)
      _ = 10 ^ (length + (format.unitScale + 1)) := (Nat.pow_add _ _ _).symm
      _ ≤ 10 ^ (-decimal.exponent).toNat := Nat.pow_le_pow_right (by decide) (by omega)
  exact nonzero (format.nearest_of_lt tiny)

end Decimal

namespace Layout

/-- The digits before a point, those after it, and an exponent. -/
structure Parts where
  whole : List Char
  fraction? : Option (List Char)
  exponent? : Option Int

namespace Parts

def fractionText (parts : Parts) : List Char :=
  match parts.fraction? with
  | none => []
  | some fraction => '.' :: fraction

def exponentText (layout : Layout) (parts : Parts) : List Char :=
  match parts.exponent? with
  | none => []
  | some exponent => layout.exponentMark :: layout.exponentText exponent

def text (layout : Layout) (parts : Parts) : List Char :=
  parts.whole ++ (parts.fractionText ++ parts.exponentText layout)

def signedText (layout : Layout) (negative : Bool) (parts : Parts) : List Char :=
  if negative then '-' :: parts.text layout else parts.text layout

def decimal (parts : Parts) : Decimal :=
  .ofDigits parts.whole (parts.fraction?.getD []) (parts.exponent?.getD 0)

/-- The parts of a number in the common grammar: a zero before the point stands alone,
and a point has digits after it. -/
structure Proper (parts : Parts) : Prop where
  whole : ∃ first rest, parts.whole = first :: rest ∧ (first = '0' → rest = [])
  wholeDigits : ∀ digit ∈ parts.whole, digit.isDigit = true
  fraction : ∀ fraction, parts.fraction? = some fraction →
    fraction ≠ [] ∧ ∀ digit ∈ fraction, digit.isDigit = true

/-- A point or an exponent tells a float from an integer. -/
structure ProperFloat (parts : Parts) : Prop extends Proper parts where
  marked : parts.fraction? = none → parts.exponent? ≠ none

end Parts

def positionalParts (digits : List Char) (leading : Int) : Parts :=
  match leading with
  | .negSucc zeros =>
      { whole := ['0']
        fraction? := some (List.replicate zeros '0' ++ digits)
        exponent? := none }
  | .ofNat places =>
      { whole := digits.take (places + 1) ++
          List.replicate (places + 1 - digits.length) '0'
        fraction? := some
          (if (digits.drop (places + 1)).isEmpty then ['0'] else digits.drop (places + 1))
        exponent? := none }

def scientificParts (layout : Layout) (digits : List Char) (leading : Int) : Parts where
  whole := digits.take 1
  fraction? :=
    if (digits.drop 1).isEmpty then
      if layout.fractionAlways then some ['0'] else none
    else some (digits.drop 1)
  exponent? := some leading

/-- The parts in which a layout writes a decimal. -/
def decimalParts (layout : Layout) (decimal : Decimal) : Parts :=
  let leading := decimal.leadingExponent
  if layout.leastPositional ≤ leading ∧ leading ≤ layout.greatestPositional then
    positionalParts decimal.digits leading
  else
    layout.scientificParts decimal.digits leading

private theorem text_positionalParts (layout : Layout) (digits : List Char) (leading : Int) :
    (positionalParts digits leading).text layout = positional digits leading := by
  cases leading with
  | negSucc zeros =>
      simp [positionalParts, Parts.text, Parts.fractionText, Parts.exponentText, positional]
  | ofNat places =>
      simp [positionalParts, Parts.text, Parts.fractionText, Parts.exponentText, positional]

private theorem text_scientificParts (layout : Layout) (digits : List Char) (leading : Int) :
    (layout.scientificParts digits leading).text layout =
      layout.scientific digits leading := by
  cases digits with
  | nil => cases always : layout.fractionAlways <;> simp [scientificParts, Parts.text,
      Parts.fractionText, Parts.exponentText, scientific, always]
  | cons first rest =>
      cases rest with
      | nil => cases always : layout.fractionAlways <;> simp [scientificParts, Parts.text,
          Parts.fractionText, Parts.exponentText, scientific, always]
      | cons second rest =>
          simp [scientificParts, Parts.text, Parts.fractionText, Parts.exponentText,
            scientific]

theorem text_decimalParts (layout : Layout) (decimal : Decimal) :
    (layout.decimalParts decimal).text layout = layout.decimalText decimal := by
  simp only [decimalParts, decimalText]
  split
  · exact text_positionalParts layout _ _
  · exact text_scientificParts layout _ _

private theorem toBinary_positionalParts (digits : List Char) (leading : Int) (negative : Bool)
    (format : Binary.Format) :
    (positionalParts digits leading).decimal.toBinary negative format =
      (Decimal.ofLeading digits leading).toBinary negative format := by
  cases leading with
  | negSucc zeros =>
      have value : (positionalParts digits (.negSucc zeros)).decimal =
          Decimal.ofLeading digits (.negSucc zeros) := by
        have written : ['0'] ++ (List.replicate zeros '0' ++ digits) =
            List.replicate (zeros + 1) '0' ++ digits := by
          rw [List.replicate_succ]
          rfl
        simp only [positionalParts, Parts.decimal, Option.getD_some, Option.getD_none,
          Decimal.ofDigits, written, ofDigitChars_replicate_zero_append, Decimal.ofLeading,
          List.length_append, List.length_replicate, Decimal.mk.injEq, true_and]
        omega
      rw [value]
  | ofNat places =>
      by_cases short : digits.drop (places + 1) = []
      · have length : digits.length ≤ places + 1 := List.drop_eq_nil_iff.mp short
        have whole : digits.take (places + 1) = digits := List.take_of_length_le length
        simp only [positionalParts, Parts.decimal, short, whole, List.isEmpty_nil, ↓reduceIte,
          Option.getD_some, Option.getD_none]
        have written : (digits ++ List.replicate (places + 1 - digits.length) '0') ++ ['0'] =
            digits ++ List.replicate (places + 1 - digits.length + 1) '0' := by
          rw [List.append_assoc, List.replicate_succ']
        apply Decimal.toBinary_ofDigits written
        simp only [List.length_singleton, Int.ofNat_eq_natCast]
        omega
      · have length : places + 1 < digits.length := by
          simpa using short
        have unpadded : places + 1 - digits.length = 0 := by omega
        simp only [positionalParts, Parts.decimal, List.isEmpty_iff, short, unpadded,
          ↓reduceIte, Option.getD_some, Option.getD_none, List.replicate_zero,
          List.append_nil]
        have written : digits.take (places + 1) ++ digits.drop (places + 1) =
            digits ++ List.replicate 0 '0' := by
          rw [List.take_append_drop, List.replicate_zero, List.append_nil]
        apply Decimal.toBinary_ofDigits written
        simp only [List.length_drop, Int.ofNat_eq_natCast]
        omega

private theorem toBinary_scientificParts (layout : Layout) {digits : List Char} (leading : Int)
    (present : digits ≠ []) (negative : Bool) (format : Binary.Format) :
    (layout.scientificParts digits leading).decimal.toBinary negative format =
      (Decimal.ofLeading digits leading).toBinary negative format := by
  obtain ⟨first, rest, rfl⟩ := List.exists_cons_of_ne_nil present
  cases rest with
  | nil =>
      cases always : layout.fractionAlways with
      | true =>
          have value : (layout.scientificParts [first] leading).decimal =
              .ofDigits [first] ['0'] leading := by
            simp [scientificParts, Parts.decimal, always]
          rw [value]
          apply Decimal.toBinary_ofDigits (rfl : _ = [first] ++ List.replicate 1 '0')
          simp
      | false =>
          have value : (layout.scientificParts [first] leading).decimal =
              .ofDigits [first] [] leading := by
            simp [scientificParts, Parts.decimal, always]
          rw [value]
          apply Decimal.toBinary_ofDigits (rfl : _ = [first] ++ List.replicate 0 '0')
          simp
  | cons second rest =>
      have value : (layout.scientificParts (first :: second :: rest) leading).decimal =
          .ofDigits [first] (second :: rest) leading := by
        simp [scientificParts, Parts.decimal]
      rw [value]
      have written : [first] ++ (second :: rest) =
          (first :: second :: rest) ++ List.replicate 0 '0' := by
        simp
      apply Decimal.toBinary_ofDigits written
      simp only [List.length_cons]
      omega

theorem toBinary_decimalParts (layout : Layout) {decimal : Decimal}
    (nonzero : decimal.significand ≠ 0) (negative : Bool) (format : Binary.Format) :
    (layout.decimalParts decimal).decimal.toBinary negative format =
      decimal.toBinary negative format := by
  obtain ⟨first, rest, digits, -⟩ := Decimal.exists_digits_eq_cons nonzero
  rw [← decimal.toBinary_ofLeading_digits]
  simp only [decimalParts]
  split
  · exact toBinary_positionalParts _ _ negative format
  · apply toBinary_scientificParts
    simp [digits]

private theorem isDigit_of_mem_replicate {digit : Char} {zeros : Nat}
    (member : digit ∈ List.replicate zeros '0') : digit.isDigit = true := by
  rw [List.eq_of_mem_replicate member]
  rfl

theorem isDigit_of_mem_zero {digit : Char} (member : digit ∈ ['0']) :
    digit.isDigit = true := by
  rw [List.mem_singleton.mp member]
  rfl

theorem proper_positionalParts {first : Char} {rest : List Char}
    (all : ∀ digit ∈ first :: rest, digit.isDigit = true) (nonzero : first ≠ '0')
    (leading : Int) : (positionalParts (first :: rest) leading).ProperFloat := by
  cases leading with
  | negSucc zeros =>
      exact {
        whole := ⟨'0', [], rfl, fun _ => rfl⟩
        wholeDigits := fun _ => isDigit_of_mem_zero
        fraction := by
          intro fraction written
          cases written
          refine ⟨by simp, ?_⟩
          intro digit member
          rcases List.mem_append.mp member with zero | later
          · exact isDigit_of_mem_replicate zero
          · exact all digit later
        marked := by
          intro none
          cases none }
  | ofNat places =>
      exact {
        whole := ⟨first, _, rfl, fun zero => (nonzero zero).elim⟩
        wholeDigits := by
          intro digit member
          rcases List.mem_append.mp member with early | zero
          · exact all digit (List.mem_of_mem_take early)
          · exact isDigit_of_mem_replicate zero
        fraction := by
          intro fraction written
          cases written
          split
          next => exact ⟨by simp, fun _ => isDigit_of_mem_zero⟩
          next present =>
            refine ⟨by simpa using present, ?_⟩
            intro digit member
            exact all digit (List.mem_of_mem_drop member)
        marked := by
          intro none
          cases none }

theorem proper_scientificParts (layout : Layout) {first : Char} {rest : List Char}
    (all : ∀ digit ∈ first :: rest, digit.isDigit = true) (leading : Int) :
    (layout.scientificParts (first :: rest) leading).ProperFloat where
  whole := ⟨first, [], rfl, fun _ => rfl⟩
  wholeDigits := by
    intro digit member
    cases List.mem_singleton.mp member
    exact all first List.mem_cons_self
  fraction := by
    intro fraction written
    simp only [scientificParts] at written
    split at written
    next =>
      split at written
      · cases written
        exact ⟨by simp, fun _ => isDigit_of_mem_zero⟩
      · cases written
    next present =>
      cases written
      refine ⟨by simpa using present, ?_⟩
      intro digit member
      exact all digit (List.mem_of_mem_drop member)
  marked := by
    intro _ none
    cases none

theorem proper_decimalParts (layout : Layout) {decimal : Decimal}
    (nonzero : decimal.significand ≠ 0) : (layout.decimalParts decimal).ProperFloat := by
  obtain ⟨first, rest, digits, head⟩ := Decimal.exists_digits_eq_cons nonzero
  have all : ∀ digit ∈ first :: rest, digit.isDigit = true := by
    intro digit member
    rw [← digits] at member
    exact Decimal.isDigit_of_mem_digits member
  simp only [decimalParts, digits]
  split
  · exact proper_positionalParts all head _
  · exact proper_scientificParts layout all _

end Layout

namespace Double

variable {number : Double}

private theorem readsFrom_of_onGrid? {tie : Tie} {exponent : Int} {decimal : Decimal}
    (found : number.onGrid? tie exponent = some decimal) :
    number.readsFrom decimal = true := by
  simp only [onGrid?] at found
  split at found
  next below above =>
    split at found
    · cases found
      exact below
    split at found
    · cases found
      exact above
    cases tie with
    | above =>
        cases found
        exact above
    | even =>
        simp only at found
        split at found
        · cases found
          exact below
        · cases found
          exact above
  next below _ =>
    cases found
    exact below
  next _ above =>
    cases found
    exact above
  next => cases found

/-- One unit is a power of one half, and as many powers of one tenth hold it exactly. -/
theorem readsFrom_exactDecimal (finite : number.isFinite = true) :
    number.readsFrom number.exactDecimal = true := by
  have within : number.magnitude < Binary.Format.double.infinity := by
    simpa [Binary.isFinite] using finite
  have positive : 0 < 10 ^ Binary.Format.double.unitScale := Nat.pow_pos (by decide)
  have up : (-(Binary.Format.double.unitScale : Int)).toNat = 0 := by omega
  have down : (-(-(Binary.Format.double.unitScale : Int))).toNat =
      Binary.Format.double.unitScale := by
    omega
  have scaled : number.units * 5 ^ Binary.Format.double.unitScale *
        2 ^ Binary.Format.double.unitScale =
      Binary.Format.double.units number.magnitude * 10 ^ Binary.Format.double.unitScale := by
    rw [Nat.mul_assoc, ← Nat.mul_pow, Binary.units]
  have whole : (number.exactDecimal.toBinary false .double).magnitude = number.magnitude := by
    rw [Decimal.toBinary_eq_ofRatio]
    simp only [exactDecimal, Binary.ofRatio, up, down, Nat.pow_zero, Nat.mul_one, scaled]
    exact Binary.Format.double.nearest_units within positive
  simp only [readsFrom, whole, decide_true]

/-- The shortest decimal of a finite number reads back as the number. -/
theorem readsFrom_shortestDecimal (finite : number.isFinite = true) (tie : Tie) :
    number.readsFrom (number.shortestDecimal tie) = true := by
  have shortest : number.shortestDecimal tie =
      ((List.range 17).findSome? fun (places : Nat) =>
        number.onGrid? tie (number.leadingExponent - places)).getD number.exactDecimal := rfl
  rw [shortest]
  cases found : (List.range 17).findSome? fun (places : Nat) =>
      number.onGrid? tie (number.leadingExponent - places) with
  | none => exact readsFrom_exactDecimal finite
  | some decimal =>
      obtain ⟨places, -, read⟩ := List.exists_of_findSome?_eq_some found
      exact readsFrom_of_onGrid? read

theorem toBinary_of_readsFrom {decimal : Decimal}
    (reads : number.readsFrom decimal = true) :
    decimal.toBinary number.negative .double = number := by
  apply Binary.eq_of_magnitude_eq
  · rw [Decimal.toBinary_eq_ofRatio, Binary.negative_ofRatio]
  · rw [← of_decide_eq_true reads]
    simp only [Decimal.toBinary_eq_ofRatio, Binary.magnitude_ofRatio]

theorem toBinary_zero (exponent : Int) (negative : Bool) :
    (Decimal.toBinary ⟨0, exponent⟩ negative .double).magnitude = 0 := by
  have positive : 0 < 10 ^ (-exponent).toNat := Nat.pow_pos (by decide)
  rw [Decimal.toBinary_eq_ofRatio, Binary.magnitude_ofRatio]
  apply Binary.Format.nearest_of_lt
  simpa only [Nat.zero_mul] using positive

theorem significand_shortestDecimal_ne_zero (finite : number.isFinite = true)
    (nonzero : number.isZero = false) (tie : Tie) :
    (number.shortestDecimal tie).significand ≠ 0 := by
  intro zero
  have reads := readsFrom_shortestDecimal finite tie
  have none : number.magnitude = 0 := by
    rw [← of_decide_eq_true reads]
    cases shortest : number.shortestDecimal tie with
    | mk significand exponent =>
        rw [shortest] at zero
        cases zero
        exact toBinary_zero exponent false
  simp [Binary.isZero, none] at nonzero

end Double

namespace Layout

/-- The parts in which a layout writes a number, which follow its sign. -/
def parts (layout : Layout) (number : Double) : Parts :=
  if number.isZero then { whole := ['0'], fraction? := some ['0'], exponent? := none }
  else layout.decimalParts (number.shortestDecimal layout.tie)

theorem text_eq_parts (layout : Layout) (number : Double) :
    layout.text number = (layout.parts number).signedText layout number.negative := by
  rw [text, parts, Parts.signedText]
  by_cases zero : number.isZero = true
  · simp only [zero, ↓reduceIte]
    rfl
  · simp only [zero, Bool.false_eq_true, ↓reduceIte, text_decimalParts]

variable {number : Double}

theorem proper_parts (layout : Layout) (finite : number.isFinite = true) :
    (layout.parts number).ProperFloat := by
  rw [parts]
  split
  next =>
    exact {
      whole := ⟨'0', [], rfl, fun _ => rfl⟩
      wholeDigits := fun _ => isDigit_of_mem_zero
      fraction := by
        intro fraction written
        cases written
        exact ⟨by simp, fun _ => isDigit_of_mem_zero⟩
      marked := by
        intro none
        cases none }
  next nonzero =>
    apply proper_decimalParts
    exact Double.significand_shortestDecimal_ne_zero finite (by simpa using nonzero) _

/-- What a layout writes for a finite number is read as that number. -/
theorem toBinary_parts (layout : Layout) (finite : number.isFinite = true) :
    (layout.parts number).decimal.toBinary number.negative .double = number := by
  rw [parts]
  split
  next zero =>
    apply Double.toBinary_of_readsFrom
    have none : number.magnitude = 0 := by simpa [Binary.isZero] using zero
    have read := Double.toBinary_zero (-1) false
    rw [Double.readsFrom, none]
    exact decide_eq_true read
  next nonzero =>
    rw [toBinary_decimalParts]
    · exact Double.toBinary_of_readsFrom (Double.readsFrom_shortestDecimal finite _)
    · exact Double.significand_shortestDecimal_ne_zero finite (by simpa using nonzero) _

theorem exponent?_positionalParts (digits : List Char) (leading : Int) :
    (positionalParts digits leading).exponent? = none := by
  cases leading with
  | negSucc zeros => rfl
  | ofNat places => rfl

/-- Written exponents are those of numbers that a float can be near to. -/
theorem natAbs_lt_of_exponent? (layout : Layout) (finite : number.isFinite = true)
    {exponent : Int} (written : (layout.parts number).exponent? = some exponent) :
    exponent.natAbs < 2 ^ 12 := by
  rw [parts] at written
  split at written
  next => cases written
  next present =>
    have nonzero : number.isZero = false := by simpa using present
    have some := Double.significand_shortestDecimal_ne_zero finite nonzero layout.tie
    have reads := Double.readsFrom_shortestDecimal finite layout.tie
    have magnitude := of_decide_eq_true reads
    have positive : ((number.shortestDecimal layout.tie).toBinary false .double).magnitude ≠
        0 := by
      rw [magnitude]
      simpa [Binary.isZero] using nonzero
    have within : ((number.shortestDecimal layout.tie).toBinary false .double).magnitude <
        Binary.Format.double.infinity := by
      rw [magnitude]
      simpa [Binary.isFinite] using finite
    have low := Decimal.lt_leadingExponent positive
    have high := Decimal.leadingExponent_lt some within
    have least : Binary.Format.double.unitScale = 1074 := by decide
    have bits : 2 ^ Binary.Format.double.exponentWidth - 1 +
        Binary.Format.double.fractionWidth = 2099 := by
      decide
    simp only [decimalParts] at written
    split at written
    next =>
      rw [exponent?_positionalParts] at written
      cases written
    next =>
      cases written
      omega

/-- The parts of an integer, which follow its sign. -/
def integerParts (value : Int) : Parts where
  whole := Nat.toDigits 10 value.natAbs
  fraction? := none
  exponent? := none

theorem integerText_eq_parts (layout : Layout) (value : Int) :
    Text.integer value = (integerParts value).signedText layout (decide (value < 0)) := by
  have text : (integerParts value).text layout = Nat.toDigits 10 value.natAbs :=
    List.append_nil _
  rw [Parts.signedText, text]
  cases value with
  | ofNat magnitude => rfl
  | negSucc below =>
      rw [decide_eq_true (Int.negSucc_lt_zero below), if_pos rfl]
      rfl

theorem proper_integerParts (value : Int) : (integerParts value).Proper where
  whole := by
    obtain ⟨first, rest, digits⟩ :=
      List.exists_cons_of_ne_nil (Nat.toDigits_ne_nil (n := value.natAbs) (b := 10))
    refine ⟨first, rest, digits, ?_⟩
    intro zero
    by_cases none : value.natAbs = 0
    · rw [none] at digits
      exact (List.cons.inj digits).2.symm
    · refine (head?_toDigits_ne_zero none ?_).elim
      rw [digits, zero, List.head?_cons]
  wholeDigits := fun digit member =>
    Nat.isDigit_of_mem_toDigits (by decide) (by decide) member
  fraction := by
    intro fraction written
    cases written

end Layout

end PagedRows
