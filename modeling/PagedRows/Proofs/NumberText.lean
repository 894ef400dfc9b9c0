import PagedRows.Proofs.Getters
import PagedRows.Proofs.Nearest
import PagedRows.Proofs.Significance
import PagedRows.Proofs.Spelling
import PagedRows.Proofs.WrittenDecimal

/-!
# The text of numbers

What is written for a number is a spelling: its sign, its digits with or without a point,
and perhaps an exponent.  So it is read again, a float as itself and an integer as the
nearest float.
-/

namespace PagedRows

namespace Numeral

theorem boundedExponent_of_lt {digits : List Char}
    (below : Nat.ofDigitChars 10 digits 0 < exponentBound) :
    boundedExponent digits = Nat.ofDigitChars 10 digits 0 := by
  have grows (digits : List Char) (exponent : Nat) :
      exponent ≤ Nat.ofDigitChars 10 digits exponent := by
    induction digits generalizing exponent with
    | nil => exact Nat.le_refl _
    | cons digit digits induction =>
        rw [Nat.ofDigitChars_cons]
        exact Nat.le_trans (by omega) (induction _)
  suffices general : ∀ exponent, Nat.ofDigitChars 10 digits exponent < exponentBound →
      digits.foldl
          (fun exponent digit =>
            if exponent < exponentBound then 10 * exponent + (digit.toNat - '0'.toNat)
            else exponent)
          exponent =
        Nat.ofDigitChars 10 digits exponent by
    exact general 0 below
  clear below
  induction digits with
  | nil =>
      intro exponent _
      rfl
  | cons digit digits induction =>
      intro exponent below
      rw [Nat.ofDigitChars_cons] at below ⊢
      have room : exponent < exponentBound := by
        have next := grows digits (10 * exponent + (digit.toNat - '0'.toNat))
        omega
      rw [List.foldl_cons, if_pos room]
      exact induction _ below

theorem isDigits_toDigits (number : Nat) : isDigits (Nat.toDigits 10 number) = true := by
  have all : (Nat.toDigits 10 number).all Char.isDigit = true :=
    List.all_eq_true.mpr fun digit member =>
      Nat.isDigit_of_mem_toDigits (by decide) (by decide) member
  simp [isDigits, all, Nat.toDigits_ne_nil]

variable {layout : Layout}

/-- A written exponent as a part of a numeral. -/
def Exponent.ofInt (marks : isPowerMark layout.exponentMark = true) :
    Int → Exponent isPowerMark
  | .ofNat power =>
      { mark := layout.exponentMark
        sign := if layout.plusSign then .plus else .absent
        digits := Nat.toDigits 10 power
        marks := marks
        present := isDigits_toDigits power }
  | .negSucc power =>
      { mark := layout.exponentMark
        sign := .minus
        digits := Nat.toDigits 10 (power + 1)
        marks := marks
        present := isDigits_toDigits (power + 1) }

private theorem Exponent.text_ofInt (marks : isPowerMark layout.exponentMark = true)
    (exponent : Int) :
    (Exponent.ofInt marks exponent).text =
      layout.exponentMark :: layout.exponentText exponent := by
  cases exponent with
  | ofNat power =>
      simp only [Exponent.ofInt, Exponent.text, Layout.exponentText]
      cases layout.plusSign with
      | false => rfl
      | true => rfl
  | negSucc power => rfl

private theorem Exponent.value_ofInt (marks : isPowerMark layout.exponentMark = true)
    {exponent : Int} (small : exponent.natAbs < exponentBound) :
    (Exponent.ofInt marks exponent).value boundedExponent = exponent := by
  have exact {power : Nat} (below : power < exponentBound) :
      boundedExponent (Nat.toDigits 10 power) = power := by
    rw [boundedExponent_of_lt, Nat.ofDigitChars_ten_toDigits]
    rwa [Nat.ofDigitChars_ten_toDigits]
  cases exponent with
  | ofNat power =>
      have read : boundedExponent (Nat.toDigits 10 power) = power := exact small
      simp only [Exponent.ofInt, Exponent.value, read]
      cases layout.plusSign with
      | false => rfl
      | true => rfl
  | negSucc power =>
      have read : boundedExponent (Nat.toDigits 10 (power + 1)) = power + 1 := exact small
      simp only [Exponent.ofInt, Exponent.value, read]
      rfl

/-- The parts of a written number as a numeral. -/
def DecimalNumeral.ofParts (marks : isPowerMark layout.exponentMark = true)
    {parts : Layout.Parts} (proper : parts.Proper) : DecimalNumeral where
  digits :=
    { whole := parts.whole
      fraction? := parts.fraction?
      all := by
        intro digit member
        rcases List.mem_append.mp member with early | later
        · exact proper.wholeDigits digit early
        cases written : parts.fraction? with
        | none =>
            rw [written] at later
            cases later
        | some fraction =>
            rw [written] at later
            exact (proper.fraction fraction written).2 digit later
      present := by
        obtain ⟨first, rest, whole, -⟩ := proper.whole
        simp [whole] }
  exponent? := parts.exponent?.map (Exponent.ofInt marks)
  suffix? := none

namespace DecimalNumeral

variable (marks : isPowerMark layout.exponentMark = true) {parts : Layout.Parts}
  (proper : parts.Proper)

private theorem text_ofParts : (ofParts marks proper).text = parts.text layout := by
  have fraction : (ofParts marks proper).digits.fractionText = parts.fractionText := by
    have same : (ofParts marks proper).digits.fraction? = parts.fraction? := rfl
    rw [Digits.fractionText, Layout.Parts.fractionText, same]
    cases parts.fraction? with
    | none => rfl
    | some fraction => rfl
  have exponent : Exponent.optionalText (ofParts marks proper).exponent? =
      parts.exponentText layout := by
    rw [Exponent.optionalText, Layout.Parts.exponentText, ofParts]
    cases parts.exponent? with
    | none => rfl
    | some exponent => exact Exponent.text_ofInt marks exponent
  have suffix : TypeSuffix.optionalText (ofParts marks proper).suffix? = [] := rfl
  rw [text, suffix, List.append_nil, body, Digits.text, fraction, exponent, List.append_assoc]
  rfl

private theorem decimal_ofParts
    (small : ∀ exponent ∈ parts.exponent?, exponent.natAbs < exponentBound) :
    (ofParts marks proper).decimal = parts.decimal := by
  have exponent : ((ofParts marks proper).exponent?.map (·.value boundedExponent)).getD 0 =
      parts.exponent?.getD 0 := by
    rw [ofParts]
    cases written : parts.exponent? with
    | none => rfl
    | some exponent => exact Exponent.value_ofInt marks (small exponent written)
  rw [decimal, exponent, Layout.Parts.decimal]
  rfl

end DecimalNumeral

/-- Written numbers are read as the decimals that their parts stand for. -/
theorem read?_signedText (marks : isPowerMark layout.exponentMark = true)
    {parts : Layout.Parts} (proper : parts.Proper)
    (small : ∀ exponent ∈ parts.exponent?, exponent.natAbs < exponentBound)
    (negative : Bool) :
    read? (parts.signedText layout negative) =
      some (parts.decimal.toBinary negative .double) := by
  have text := DecimalNumeral.text_ofParts marks proper
  have decimal := DecimalNumeral.decimal_ofParts marks proper small
  have unpadded : ∀ character ∈ parts.text layout, isPadding character = false := by
    intro character member
    rw [← text] at member
    have body : (DecimalNumeral.ofParts marks proper).text =
        (DecimalNumeral.ofParts marks proper).body := List.append_nil _
    rw [body] at member
    exact (DecimalNumeral.ne_of_mem_body member).2.2.2
  cases negative with
  | true =>
      have spelled : Text.trim isPadding (parts.signedText layout true) =
          Spelling.text ⟨.minus, .decimal (DecimalNumeral.ofParts marks proper)⟩ := by
        rw [Text.trim_of_forall]
        · rw [Spelling.text, Magnitude.text, text]
          rfl
        · intro character member
          rcases List.mem_cons.mp member with rfl | later
          · rfl
          · exact unpadded character later
      rw [Spelling.read?_eq_some spelled, Spelling.value, if_pos rfl, Magnitude.value, decimal,
        Decimal.negate_toBinary]
  | false =>
      have spelled : Text.trim isPadding (parts.signedText layout false) =
          Spelling.text ⟨.absent, .decimal (DecimalNumeral.ofParts marks proper)⟩ := by
        rw [Text.trim_of_forall]
        · rw [Spelling.text, Magnitude.text, text]
          rfl
        · exact unpadded
      have plain : Sign.absent ≠ .minus := by decide
      rw [Spelling.read?_eq_some spelled, Spelling.value, if_neg plain, Magnitude.value, decimal]

/-- A float is read from its own text, and what is not a number as that. -/
theorem read?_text (number : Double) :
    read? number.text = some (if number.isNaN then .nan else number) := by
  rw [Double.text]
  by_cases nan : number.isNaN = true
  · rw [if_pos nan, if_pos nan]
    decide +kernel
  rw [if_neg nan, if_neg nan]
  by_cases infinite : number.isInfinite = true
  · rw [if_pos infinite]
    have magnitude : number.magnitude = Binary.Format.double.infinity :=
      of_decide_eq_true infinite
    have same : number = .infinite number.negative := Binary.eq_of_magnitude_eq rfl magnitude
    rw [same]
    cases number.negative with
    | true => decide +kernel
    | false => decide +kernel
  rw [if_neg infinite]
  have finite : number.isFinite = true := by
    simp only [Binary.isNaN, Binary.isInfinite, Binary.isFinite, decide_eq_true_eq] at *
    omega
  have proper := Cell.floatLayout.proper_parts finite
  have small : ∀ exponent ∈ (Cell.floatLayout.parts number).exponent?,
      exponent.natAbs < exponentBound := by
    intro exponent written
    exact Nat.lt_trans (Cell.floatLayout.natAbs_lt_of_exponent? finite written) (by decide)
  rw [Layout.text_eq_parts, read?_signedText (by decide) proper.toProper small,
    Layout.toBinary_parts _ finite]

/-- An integer is read from its text as the nearest float. -/
theorem read?_integer (value : Int) :
    read? (Text.integer value) = some (.ofInt value) := by
  have small : ∀ exponent ∈ (Layout.integerParts value).exponent?,
      exponent.natAbs < exponentBound := by
    intro exponent written
    cases written
  have decimal : (Layout.integerParts value).decimal = ⟨value.natAbs, 0⟩ := by
    simp [Layout.integerParts, Layout.Parts.decimal, Decimal.ofDigits]
  rw [Layout.integerText_eq_parts Cell.floatLayout,
    read?_signedText (by decide) (Layout.proper_integerParts value) small, decimal,
    Decimal.toBinary_eq_ofRatio]
  simp [Binary.ofInt]

end Numeral

namespace Binary

variable {format : Format}

theorem isNearest_ofInt (fraction : 0 < format.fractionWidth) (value : Int) :
    format.IsNearest (value.natAbs * 2 ^ format.unitScale) 1
      (ofInt value : Binary format).magnitude :=
  format.isNearest_nearest fraction _ Nat.one_pos

theorem units_ofInt {value : Int} (few : format.significant value.natAbs = value.natAbs)
    (finite : (ofInt value : Binary format).isFinite = true) :
    (ofInt value : Binary format).units = value.natAbs * 2 ^ format.unitScale := by
  have magnitude : (ofInt value : Binary format).magnitude =
      min (format.unbounded (value.natAbs * 2 ^ format.unitScale) 1) format.infinity := rfl
  have within := of_decide_eq_true finite
  rw [magnitude] at within
  rw [units, magnitude, Nat.min_eq_left (by omega), Format.units_unbounded_one,
    Format.significant_mul_two_pow, few]

theorem toInt64_ofInt {value : Int64} (few : value.toInt.natAbs ≤ 2 ^ 53) :
    (ofInt value.toInt : Double).toInt64 = value := by
  have below : value.toInt.natAbs < 2 ^ 54 := by omega
  have finite : (ofInt value.toInt : Double).isFinite = true :=
    isFinite_ofInt below (by decide) (by decide)
  have units := units_ofInt (Format.double.significant_of_le_two_pow few) finite
  have number : (ofInt value.toInt : Double).isNaN = false := by
    simp only [isFinite, isNaN, decide_eq_true_eq, decide_eq_false_iff_not] at *
    omega
  have whole : (ofInt value.toInt : Double).truncate = value.toInt := by
    have scale : (2 : Int) ^ Format.double.unitScale = (2 ^ Format.double.unitScale : Nat) :=
      (Int.natCast_pow 2 _).symm
    have quotient : ((value.toInt.natAbs * 2 ^ Format.double.unitScale : Nat) : Int) /
        (2 ^ Format.double.unitScale : Nat) = value.toInt.natAbs := by
      rw [← Int.natCast_ediv, Nat.mul_div_cancel _ (Nat.two_pow_pos _)]
    have negative : (ofInt value.toInt : Double).negative = decide (value.toInt < 0) := rfl
    rw [truncate, units, negative, scale, quotient]
    by_cases below : value.toInt < 0
    · rw [decide_eq_true below, if_pos rfl]
      omega
    · rw [decide_eq_false below, if_neg Bool.false_ne_true]
      omega
  have clamped : Int64.ofIntClamp value.toInt = value :=
    Int64.ofIntLE_eq_ofIntClamp.symm.trans (Int64.ofIntLE_toInt value)
  rw [toInt64, number, if_neg Bool.false_ne_true, whole, clamped]

/-- Two floats are one and the same number, or neither is a number. -/
def SameNumber (left right : Binary format) : Prop :=
  left = right ∨ left.isNaN = true ∧ right.isNaN = true

theorem SameNumber.convert_eq {left right : Binary format} (same : left.SameNumber right)
    (target : Format) : left.convert target = right.convert target := by
  rcases same with rfl | ⟨neither, nor⟩
  · rfl
  · rw [convert, convert, if_pos neither, if_pos nor]

theorem SameNumber.toInt64_eq {left right : Binary format} (same : left.SameNumber right) :
    left.toInt64 = right.toInt64 := by
  rcases same with rfl | ⟨neither, nor⟩
  · rfl
  · rw [toInt64, toInt64, if_pos neither, if_pos nor]

/-- All that is not a number may be replaced by one pattern. -/
theorem sameNumber_nan (number : Double) :
    (if number.isNaN then nan else number).SameNumber number := by
  by_cases neither : number.isNaN = true
  · have other : (nan : Double).isNaN = true := by decide
    rw [if_pos neither]
    exact .inr ⟨other, neither⟩
  · rw [if_neg neither]
    exact .inl rfl

end Binary

theorem Cell.quantity_text (number : Double) :
    (Cell.string (String.ofList number.text)).quantity =
      .ok (.float (if number.isNaN then .nan else number)) := by
  rw [Cell.quantity, String.toList_ofList, Numeral.read?_text]
  rfl

namespace Quantity

/-- The cell that holds a number. -/
def cell : Quantity → Cell
  | integer value => .integer value
  | float value => .float value

/-- A float holds it exactly. -/
def FitsFloat : Quantity → Prop
  | integer value => value.toInt.natAbs ≤ 2 ^ 53
  | float _ => True

/-- The text of a number is read as the same float, and as the same integer unless the
float had to be rounded. -/
theorem exists_text (quantity : Quantity) :
    ∃ text number, quantity.cell.text? = .ok (some text) ∧
      (Cell.string text).quantity = .ok (.float number) ∧
      number.SameNumber quantity.toDouble ∧
      number.convert .single = quantity.toDouble.convert .single ∧
      (quantity.FitsFloat → number.toInt64 = quantity.toInt64) := by
  cases quantity with
  | integer value =>
      refine ⟨String.ofList (Text.integer value.toInt), .ofInt value.toInt, rfl, ?_, .inl rfl,
        rfl, fun few => Binary.toInt64_ofInt few⟩
      rw [Cell.quantity, String.toList_ofList, Numeral.read?_integer]
      rfl
  | float value =>
      have same := Binary.sameNumber_nan value
      exact ⟨String.ofList value.text, _, rfl, Cell.quantity_text value, same,
        same.convert_eq _, fun _ => same.toInt64_eq⟩

end Quantity

namespace Window

variable {window : Window} {row : Position} {column : Nat} {cell : Cell}

theorem exists_putCell (value : Cell) (held : window.cell row column = .ok cell) :
    ∃ changed, (Action.putCell value row column).run window = .ok () changed ∧
      changed.cell row column = .ok value := by
  obtain ⟨opened, index, cells, placed, lookup, inside⟩ := cell_eq_ok_iff.mp held
  refine ⟨_, Action.run_putCell_of_find value (find_of_placed opened placed lookup inside), ?_⟩
  rw [cell_eq_ok_iff]
  obtain ⟨within, -⟩ := Array.getElem?_eq_some_iff.mp inside
  refine ⟨opened, index, cells.setIfInBounds column value, placed, ?_, ?_⟩
  · simp [Array.getElem?_modify, lookup]
  · simp [within]

end Window

/-- Numbers survive as text: a float is read from its text as itself, an integer as the
nearest float, and a cell into which the text of a number was put is read like the number,
as an integer too if a float holds the number exactly. -/
theorem Window.numbers_survive_as_text :
    (∀ number : Double,
      Numeral.read? number.text = some (if number.isNaN then .nan else number)) ∧
    (∀ value : Int64, ∃ text number, (Cell.integer value).text? = .ok (some text) ∧
      Numeral.read? text.toList = some number ∧
      number.negative = decide (value.toInt < 0) ∧
      Binary.Format.double.IsNearest
        (value.toInt.natAbs * 2 ^ Binary.Format.double.unitScale) 1 number.magnitude) ∧
    ∀ (source target : Window) (row other : Position) (column otherColumn : Nat)
      (quantity : Quantity) (replaced : Cell),
      source.cell row column = .ok quantity.cell →
      target.cell other otherColumn = .ok replaced →
      ∃ text changed before after, source.textAt row column = .ok (some text) ∧
        (Action.putString (some text) other otherColumn).run target = .ok () changed ∧
        source.doubleAt row column = .ok before ∧
        changed.doubleAt other otherColumn = .ok after ∧ after.SameNumber before ∧
        changed.singleAt other otherColumn = source.singleAt row column ∧
        (quantity.FitsFloat →
          changed.longAt other otherColumn = source.longAt row column ∧
          changed.intAt other otherColumn = source.intAt row column ∧
          changed.shortAt other otherColumn = source.shortAt row column) := by
  refine ⟨Numeral.read?_text, ?_, ?_⟩
  · intro value
    refine ⟨_, .ofInt value.toInt, rfl, ?_, rfl, Binary.isNearest_ofInt (by decide) _⟩
    rw [String.toList_ofList, Numeral.read?_integer]
  · intro source target row other column otherColumn quantity replaced held place
    obtain ⟨text, number, written, read, same, single, exact⟩ := quantity.exists_text
    obtain ⟨changed, put, moved⟩ := exists_putCell (.string text) place
    have original : quantity.cell.quantity = .ok quantity := by
      cases quantity with
      | integer value => rfl
      | float value => rfl
    have before : source.quantityAt row column = .ok quantity := view_of_cell held original
    have after : changed.quantityAt other otherColumn = .ok (.float number) :=
      view_of_cell moved read
    have doubles : source.doubleAt row column = .ok quantity.toDouble := by
      rw [doubleAt, before]
      rfl
    have double : changed.doubleAt other otherColumn = .ok number := by
      rw [doubleAt, after]
      rfl
    refine ⟨text, changed, _, _, view_of_cell held written, put, doubles, double, same, ?_, ?_⟩
    · rw [singleAt, singleAt, doubles, double]
      exact congrArg Except.ok single
    · intro fits
      have long : changed.longAt other otherColumn = source.longAt row column := by
        rw [longAt, longAt, before, after]
        exact congrArg Except.ok (exact fits)
      exact ⟨long, by rw [intAt, intAt, long], by rw [shortAt, shortAt, long]⟩

/-- The negative float next to zero, and a place for its text. -/
def Window.leastAndPlace : Window :=
  { Window.empty none 0 with
    columns := 2
    rows := #[#[.float (.ofBits .double 0x8000000000000001), .null]] }

theorem Window.numbers_survive_as_text_of_least :
    ∃ text changed, leastAndPlace.textAt 0 0 = .ok (some text) ∧
      (Action.putString (some text) 0 1).run leastAndPlace = .ok () changed ∧
      changed.singleAt 0 1 = leastAndPlace.singleAt 0 0 ∧
      changed.longAt 0 1 = leastAndPlace.longAt 0 0 := by
  have held : leastAndPlace.cell 0 0 =
      .ok (Quantity.float (.ofBits .double 0x8000000000000001)).cell :=
    rfl
  have place : leastAndPlace.cell 0 1 = .ok .null := rfl
  obtain ⟨text, changed, -, -, written, put, -, -, -, single, exact⟩ :=
    numbers_survive_as_text.2.2 leastAndPlace leastAndPlace 0 0 0 1 _ _ held place
  exact ⟨text, changed, written, put, single, (exact trivial).1⟩

end PagedRows
