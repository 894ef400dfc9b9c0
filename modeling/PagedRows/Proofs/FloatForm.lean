import PagedRows.Proofs.NumberText
import PagedRows.Proofs.Thresholds

/-!
# The form of float text

A finite float that is not zero is written with digits on both sides of a point.  For
moderate numbers this is all; the others have one digit before the point, and after the
digits a power of ten that is less than a thousandth or at least ten million.  The number
is the one nearest to what is written.
-/

namespace PagedRows

/-- Digits around a point, with no zeros but those that keep a side from being empty and
those that hold a place. -/
structure Pointed (whole fraction : List Char) : Prop where
  wholeDigits : Numeral.isDigits whole = true
  fractionDigits : Numeral.isDigits fraction = true
  leading : whole.head? = some '0' → whole = ['0']
  trailing : fraction.getLast? = some '0' → fraction = ['0']

/-- What is written after the sign of a float: digits around a point, and perhaps the mark
of an exponent, a minus sign if the exponent lies below zero, and its digits. -/
inductive FloatForm where
  | plain (whole fraction : List Char)
  | scientific (first : Char) (fraction : List Char) (below : Bool) (power : List Char)

namespace FloatForm

def text : FloatForm → List Char
  | plain whole fraction => whole ++ '.' :: fraction
  | scientific first fraction below power =>
      first :: '.' :: (fraction ++ 'E' :: (if below then '-' :: power else power))

def isPlain : FloatForm → Bool
  | plain _ _ => true
  | scientific _ _ _ _ => false

def exponent (below : Bool) (power : List Char) : Int :=
  if below then -Nat.ofDigitChars 10 power 0 else Nat.ofDigitChars 10 power 0

def decimal : FloatForm → Decimal
  | plain whole fraction => .ofDigits whole fraction 0
  | scientific first fraction below power =>
      .ofDigits [first] fraction (exponent below power)

/-- A scientific form has one digit before the point, which is not zero, and an exponent
without padding that no moderate number has. -/
def Documented : FloatForm → Prop
  | plain whole fraction => Pointed whole fraction
  | scientific first fraction below power =>
      Pointed [first] fraction ∧ first ≠ '0' ∧ Numeral.isDigits power = true ∧
        power.head? ≠ some '0' ∧ (exponent below power ≤ -4 ∨ 7 ≤ exponent below power)

private theorem count_point_of_isDigits {digits : List Char}
    (written : Numeral.isDigits digits = true) : digits.count '.' = 0 := by
  rw [List.count_eq_zero]
  intro point
  have digit := Numeral.forall_isDigit_of_isDigits written _ point
  cases digit

theorem Documented.count_point {form : FloatForm} (documented : form.Documented) :
    form.text.count '.' = 1 := by
  cases form with
  | plain whole fraction =>
      have before := count_point_of_isDigits documented.wholeDigits
      have after := count_point_of_isDigits documented.fractionDigits
      rw [text, List.count_append, List.count_cons_self, before, after]
  | scientific first fraction below power =>
      obtain ⟨pointed, -, digits, -, -⟩ := documented
      have before := count_point_of_isDigits pointed.wholeDigits
      have after := count_point_of_isDigits pointed.fractionDigits
      have last := count_point_of_isDigits digits
      have marked : ('E' :: (if below then '-' :: power else power)).count '.' = 0 := by
        cases below with
        | true => rwa [if_pos rfl, List.count_cons_of_ne (by decide),
            List.count_cons_of_ne (by decide)]
        | false => rwa [if_neg Bool.false_ne_true, List.count_cons_of_ne (by decide)]
      have split : text (.scientific first fraction below power) =
          [first] ++ '.' :: (fraction ++ 'E' :: (if below then '-' :: power else power)) := rfl
      rw [split, List.count_append, before, List.count_cons_self, List.count_append, after,
        marked]

end FloatForm

private theorem FloatForm.exponent_toDigits (power : Int) :
    exponent (decide (power < 0)) (Nat.toDigits 10 power.natAbs) = power := by
  rw [exponent, Nat.ofDigitChars_ten_toDigits]
  by_cases below : power < 0
  · rw [decide_eq_true below, if_pos rfl]
    omega
  · rw [decide_eq_false below, if_neg Bool.false_ne_true]
    omega

private theorem Decimal.getLast?_digits_ne_zero (decimal : Decimal) :
    decimal.digits.getLast? ≠ some '0' := by
  rw [digits, List.getLast?_reverse]
  intro zero
  have kept := List.head?_dropWhile_not (· == '0')
    (Nat.toDigits 10 decimal.significand).reverse
  rw [zero] at kept
  cases kept

namespace Layout

variable {digits fraction : List Char}

theorem getLast?_drop_ne_zero (last : digits.getLast? ≠ some '0') (places : Nat) :
    (digits.drop places).getLast? ≠ some '0' := by
  rw [List.getLast?_drop]
  split
  · intro none
    cases none
  · exact last

/-- Zeros in a fraction stand before its digits, or one stands alone. -/
theorem trailing_positionalParts (present : digits ≠ []) (last : digits.getLast? ≠ some '0')
    (leading : Int)
    (written : (positionalParts digits leading).fraction? = some fraction)
    (zero : fraction.getLast? = some '0') : fraction = ['0'] := by
  cases leading with
  | negSucc zeros =>
      cases written
      obtain ⟨final, ending⟩ :=
        Option.ne_none_iff_exists'.mp (mt List.getLast?_eq_none_iff.mp present)
      rw [List.getLast?_append, ending, Option.some_or, ← ending] at zero
      exact (last zero).elim
  | ofNat places =>
      cases written
      split
      next => rfl
      next filled =>
        rw [if_neg filled] at zero
        exact (getLast?_drop_ne_zero last _ zero).elim

theorem pointed_of_proper {parts : Parts} (proper : parts.Proper)
    (written : parts.fraction? = some fraction)
    (trailing : fraction.getLast? = some '0' → fraction = ['0']) :
    Pointed parts.whole fraction where
  wholeDigits := by
    obtain ⟨first, rest, whole, -⟩ := proper.whole
    rw [Numeral.isDigits, List.all_eq_true.mpr proper.wholeDigits, whole]
    rfl
  fractionDigits := by
    obtain ⟨present, digits⟩ := proper.fraction fraction written
    rw [Numeral.isDigits, List.all_eq_true.mpr digits, Bool.and_true, Bool.not_eq_true',
      List.isEmpty_eq_false_iff]
    exact present
  leading := by
    obtain ⟨first, rest, whole, alone⟩ := proper.whole
    intro zero
    rw [whole, List.head?_cons, Option.some.injEq] at zero
    rw [whole, alone zero, zero]
  trailing := trailing

theorem exists_plain {first : Char} {rest : List Char}
    (all : ∀ digit ∈ first :: rest, digit.isDigit = true) (nonzero : first ≠ '0')
    (last : (first :: rest).getLast? ≠ some '0') (leading : Int) (layout : Layout) :
    ∃ whole fraction, Pointed whole fraction ∧
      (positionalParts (first :: rest) leading).text layout =
        (FloatForm.plain whole fraction).text ∧
      (positionalParts (first :: rest) leading).decimal =
        (FloatForm.plain whole fraction).decimal := by
  have proper := proper_positionalParts all nonzero leading
  have unmarked := exponent?_positionalParts (first :: rest) leading
  generalize parted : positionalParts (first :: rest) leading = parts at proper unmarked ⊢
  cases written : parts.fraction? with
  | none => exact (proper.marked written unmarked).elim
  | some fraction =>
      refine ⟨parts.whole, fraction, pointed_of_proper proper.toProper written ?_, ?_, ?_⟩
      · rw [← parted] at written
        exact trailing_positionalParts (List.cons_ne_nil _ _) last leading written
      · simp only [Parts.text, Parts.fractionText, Parts.exponentText, written, unmarked,
          List.append_nil, FloatForm.text]
      · simp only [Parts.decimal, written, unmarked, Option.getD_some, Option.getD_none,
          FloatForm.decimal]

private theorem exponentText_of_plusless {layout : Layout} (plusless : layout.plusSign = false)
    (exponent : Int) :
    layout.exponentText exponent =
      if decide (exponent < 0) = true then '-' :: Nat.toDigits 10 exponent.natAbs
      else Nat.toDigits 10 exponent.natAbs := by
  cases exponent with
  | ofNat power =>
      have whole : ¬Int.ofNat power < 0 := Int.not_lt.mpr (Int.natCast_nonneg power)
      rw [exponentText, plusless, decide_eq_false whole]
      rfl
  | negSucc power =>
      rw [decide_eq_true (Int.negSucc_lt_zero power)]
      rfl

private theorem fraction?_scientificParts (first : Char) (rest : List Char) (leading : Int) :
    (Cell.floatLayout.scientificParts (first :: rest) leading).fraction? =
      some (if rest.isEmpty then ['0'] else rest) := by
  cases rest with
  | nil => rfl
  | cons second rest => rfl

theorem exists_scientific {first : Char} {rest : List Char}
    (all : ∀ digit ∈ first :: rest, digit.isDigit = true) (nonzero : first ≠ '0')
    (last : (first :: rest).getLast? ≠ some '0') {leading : Int}
    (outside : leading ≤ -4 ∨ 7 ≤ leading) :
    ∃ fraction below power,
      (FloatForm.scientific first fraction below power).Documented ∧
      (Cell.floatLayout.scientificParts (first :: rest) leading).text Cell.floatLayout =
        (FloatForm.scientific first fraction below power).text ∧
      (Cell.floatLayout.scientificParts (first :: rest) leading).decimal =
        (FloatForm.scientific first fraction below power).decimal := by
  have proper := proper_scientificParts Cell.floatLayout all leading
  have written := fraction?_scientificParts first rest leading
  have value := FloatForm.exponent_toDigits leading
  refine ⟨_, decide (leading < 0), Nat.toDigits 10 leading.natAbs,
    ⟨pointed_of_proper proper.toProper written ?_, nonzero, Numeral.isDigits_toDigits _,
      head?_toDigits_ne_zero (by omega), by rwa [value]⟩, ?_, ?_⟩
  · intro zero
    split at zero
    next single => rw [if_pos single]
    next several => exact (getLast?_drop_ne_zero last 1 zero).elim
  · have power : Cell.floatLayout.exponentText leading = _ := exponentText_of_plusless rfl leading
    simp only [Parts.text, Parts.fractionText, Parts.exponentText, written, FloatForm.text]
    rw [← power]
    rfl
  · simp only [Parts.decimal, written, Option.getD_some, FloatForm.decimal, value]
    rfl

/-- The text of a float cell has a documented form, plain if the leading digit of its
decimal is one of a moderate number. -/
theorem exists_form {decimal : Decimal} (nonzero : decimal.significand ≠ 0) :
    ∃ form : FloatForm, form.Documented ∧
      (Cell.floatLayout.decimalParts decimal).text Cell.floatLayout = form.text ∧
      (Cell.floatLayout.decimalParts decimal).decimal = form.decimal ∧
      (form.isPlain = true ↔ -3 ≤ decimal.leadingExponent ∧ decimal.leadingExponent ≤ 6) := by
  obtain ⟨first, rest, digits, head⟩ := Decimal.exists_digits_eq_cons nonzero
  have last := decimal.getLast?_digits_ne_zero
  have all : ∀ digit ∈ first :: rest, digit.isDigit = true := by
    intro digit member
    rw [← digits] at member
    exact Decimal.isDigit_of_mem_digits member
  rw [digits] at last
  by_cases moderate : -3 ≤ decimal.leadingExponent ∧ decimal.leadingExponent ≤ 6
  · have parts : Cell.floatLayout.decimalParts decimal =
        positionalParts (first :: rest) decimal.leadingExponent := by
      rw [← digits]
      exact if_pos moderate
    obtain ⟨whole, fraction, pointed, text, value⟩ :=
      exists_plain all head last decimal.leadingExponent Cell.floatLayout
    rw [parts]
    exact ⟨.plain whole fraction, pointed, text, value, iff_of_true rfl moderate⟩
  · have parts : Cell.floatLayout.decimalParts decimal =
        Cell.floatLayout.scientificParts (first :: rest) decimal.leadingExponent := by
      rw [← digits]
      exact if_neg moderate
    obtain ⟨fraction, below, power, documented, text, value⟩ :=
      exists_scientific all head last
        (by omega : decimal.leadingExponent ≤ -4 ∨ 7 ≤ decimal.leadingExponent)
    rw [parts]
    exact ⟨.scientific first fraction below power, documented, text, value,
      iff_of_false Bool.false_ne_true moderate⟩

end Layout

/-- Of all magnitudes, the one of the number is nearest to the decimal. -/
def Decimal.HasNearest (decimal : Decimal) (number : Double) : Prop :=
  Binary.Format.double.IsNearest
    (decimal.significand * 10 ^ decimal.exponent.toNat *
      2 ^ Binary.Format.double.unitScale)
    (10 ^ (-decimal.exponent).toNat) number.magnitude

private theorem Decimal.hasNearest_of_toBinary_eq {decimal : Decimal} {negative : Bool}
    {number : Double} (read : decimal.toBinary negative .double = number) : decimal.HasNearest number := by
  rw [HasNearest, ← read, toBinary_eq_ofRatio, Binary.magnitude_ofRatio]
  exact Binary.Format.double.isNearest_nearest (by decide) _ (Nat.pow_pos (by decide))

private theorem Double.text_of_isFinite {number : Double} (finite : number.isFinite = true) :
    number.text = Cell.floatLayout.text number := by
  have within := Binary.isFinite_iff.mp finite
  have isNumber : ¬number.isNaN = true := by
    rw [Binary.isNaN, decide_eq_true_eq]
    omega
  have bounded : ¬number.isInfinite = true := by
    rw [Binary.isInfinite, decide_eq_true_eq]
    omega
  rw [Double.text, if_neg isNumber, if_neg bounded]

/-- A finite float that is not zero is written in a documented form after a minus sign if it
is negative: in plain form if it is at least a thousandth and less than ten million, and
otherwise with an exponent.  There is one point, and the number is the one nearest to the
decimal that is written. -/
theorem Double.text_has_documented_form {number : Double} (finite : number.isFinite = true)
    (nonzero : number.isZero = false) :
    ∃ form : FloatForm, form.Documented ∧
      number.text = (if number.negative then ['-'] else []) ++ form.text ∧
      (form.isPlain = true ↔ number.IsModerate) ∧
      number.text.count '.' = 1 ∧
      form.decimal.HasNearest number := by
  have digits := significand_shortestDecimal_ne_zero finite nonzero .above
  obtain ⟨form, documented, text, value, plain⟩ := Layout.exists_form digits
  have parts : Cell.floatLayout.parts number =
      Cell.floatLayout.decimalParts (number.shortestDecimal .above) :=
    if_neg (Bool.eq_false_iff.mp nonzero)
  have written : number.text = (if number.negative then ['-'] else []) ++ form.text := by
    rw [text_of_isFinite finite, Layout.text_eq_parts, parts, Layout.Parts.signedText, text]
    cases number.negative with
    | true => rfl
    | false => rfl
  have point : number.text.count '.' = 1 := by
    rw [written, List.count_append, documented.count_point]
    cases number.negative with
    | true => rfl
    | false => rfl
  have nearest : form.decimal.HasNearest number := by
    rw [← value, ← parts]
    exact Decimal.hasNearest_of_toBinary_eq (Cell.floatLayout.toBinary_parts finite)
  exact ⟨form, documented, written,
    plain.trans (leadingExponent_shortestDecimal_iff finite nonzero), point, nearest⟩

/-- The negative float next to a thousandth, which is a little less than that. -/
def Double.belowThousandth : Double where
  negative := true
  magnitude := 0x3f50624dd2f1a9fb
  bounded := by decide

theorem Double.text_has_documented_form_of_belowThousandth :
    belowThousandth.text = "-9.999999999999998E-4".toList ∧
      ∃ form : FloatForm, form.Documented ∧ belowThousandth.text = '-' :: form.text ∧
        form.isPlain = false ∧ form.decimal.HasNearest belowThousandth := by
  have written : belowThousandth.text = "-9.999999999999998E-4".toList := by decide +kernel
  have tiny : ¬belowThousandth.IsModerate := by
    rw [IsModerate]
    decide +kernel
  obtain ⟨form, documented, text, plain, -, nearest⟩ :=
    text_has_documented_form (by decide : belowThousandth.isFinite = true) (by decide)
  exact ⟨written, form, documented, text, Bool.eq_false_iff.mpr (mt plain.mp tiny), nearest⟩

end PagedRows
