import PagedRows.Cell.Views
import PagedRows.Proofs.Grammar
import PagedRows.Proofs.TextEnds

/-!
# Reading numerals

The texts that can be read as numbers are those of the grammar, between spaces and
control characters, and every one is read as the value of its syntax tree.  The reader
splits a text where the parts of the tree meet, since no part begins with a character
that could have belonged to the one before.
-/

namespace PagedRows.Numeral

theorem forall_isDigit_of_isDigits {digits : List Char} (written : isDigits digits = true) :
    ∀ digit ∈ digits, digit.isDigit = true := by
  rw [isDigits, Bool.and_eq_true] at written
  exact List.all_eq_true.mp written.2

theorem ne_nil_of_isDigits {digits : List Char} (written : isDigits digits = true) :
    digits ≠ [] := by
  rintro rfl
  cases written

theorem ne_of_isDigit {character other : Char} (digit : character.isDigit = true)
    (different : other.isDigit = false) : character ≠ other := by
  rintro rfl
  rw [digit] at different
  cases different

theorem isTypeSuffix_of_isDigit {character : Char} (digit : character.isDigit = true) :
    isTypeSuffix character = false := by
  simp [isTypeSuffix, ne_of_isDigit digit]

private theorem isPadding_of_isDigit {character : Char} (digit : character.isDigit = true) :
    isPadding character = false := by
  have least := (Char.isDigit_iff_toNat.mp digit).1
  rw [isPadding, decide_eq_false_iff_not]
  intro padding
  have most : character.toNat ≤ ' '.toNat := padding
  exact absurd (Nat.le_trans least most) (by decide)

theorem ne_of_isHexadecimalDigit {character other : Char}
    (digit : isHexadecimalDigit character = true)
    (different : isHexadecimalDigit other = false) : character ≠ other := by
  rintro rfl
  rw [digit] at different
  cases different

theorem isSome_hexadecimalDigit? (character : Char) :
    (hexadecimalDigit? character).isSome = isHexadecimalDigit character := by
  rw [hexadecimalDigit?, isHexadecimalDigit]
  by_cases decimal : character.isDigit = true
  · simp only [decimal, ↓reduceIte, Option.isSome_some, Bool.true_or]
  by_cases lower : 'a' ≤ character ∧ character ≤ 'f'
  · simp only [decimal, lower, Bool.false_eq_true, and_self, ↓reduceIte, Option.isSome_some,
      decide_true, Bool.or_true, Bool.true_or]
  by_cases upper : 'A' ≤ character ∧ character ≤ 'F'
  · simp only [decimal, lower, upper, Bool.false_eq_true, and_self, ↓reduceIte,
      Option.isSome_some, decide_true, Bool.or_true]
  · simp only [decimal, lower, upper, Bool.false_eq_true, ↓reduceIte, Option.isSome_none,
      decide_false, Bool.or_false]

private theorem mapM_hexadecimalDigit? {digits : List Char}
    (all : ∀ digit ∈ digits, isHexadecimalDigit digit = true) :
    digits.mapM hexadecimalDigit? = some (digits.filterMap hexadecimalDigit?) := by
  induction digits with
  | nil => rfl
  | cons digit digits induction =>
      have first := all digit List.mem_cons_self
      rw [← isSome_hexadecimalDigit?] at first
      obtain ⟨value, read⟩ := Option.isSome_iff_exists.mp first
      rw [List.mapM_cons, induction fun other member => all other (List.mem_cons_of_mem _ member),
        List.filterMap_cons_some read, read]
      rfl

private theorem forall_of_mapM_hexadecimalDigit? {digits : List Char} {values : List Nat}
    (read : digits.mapM hexadecimalDigit? = some values) :
    ∀ digit ∈ digits, isHexadecimalDigit digit = true := by
  induction digits generalizing values with
  | nil => simp
  | cons digit digits induction =>
      rw [List.mapM_cons] at read
      obtain ⟨value, first, read⟩ := Option.bind_eq_some_iff.mp read
      obtain ⟨others, rest, -⟩ := Option.bind_eq_some_iff.mp read
      intro other member
      rcases List.mem_cons.mp member with rfl | later
      · rw [← isSome_hexadecimalDigit?, first]
        rfl
      · exact induction rest other later

theorem signed?_text {digits : List Char} (written : isDigits digits = true) (sign : Sign)
    (value : List Char → Nat) :
    signed? value (sign.text ++ digits) = some (sign.apply (value digits)) := by
  cases sign with
  | plus => simp [signed?, Sign.text, Sign.apply, written]
  | minus => simp [signed?, Sign.text, Sign.apply, written]
  | absent =>
      obtain ⟨first, rest, rfl⟩ := List.exists_cons_of_ne_nil (ne_nil_of_isDigits written)
      have digit := forall_isDigit_of_isDigits written first List.mem_cons_self
      rw [Sign.text, List.nil_append, signed?]
      · simp [written, Sign.apply]
      · rintro rest same
        exact ne_of_isDigit digit rfl (List.cons.inj same).1
      · rintro rest same
        exact ne_of_isDigit digit rfl (List.cons.inj same).1

theorem exists_of_signed?_eq_some {text : List Char} {value : List Char → Nat} {number : Int}
    (read : signed? value text = some number) :
    ∃ (sign : Sign) (digits : List Char), isDigits digits = true ∧
      sign.text ++ digits = text := by
  rw [signed?.eq_def] at read
  split at read
  next digits =>
    split at read
    next written => exact ⟨.minus, digits, written, rfl⟩
    next => cases read
  next digits =>
    split at read
    next written => exact ⟨.plus, digits, written, rfl⟩
    next => cases read
  next =>
    split at read
    next written => exact ⟨.absent, _, written, rfl⟩
    next => cases read

theorem withoutTypeSuffix_append {body : List Char}
    (plain : ∀ last ∈ body.getLast?, isTypeSuffix last = false)
    (suffix? : Option TypeSuffix) :
    withoutTypeSuffix (body ++ TypeSuffix.optionalText suffix?) = body := by
  rw [withoutTypeSuffix]
  cases suffix? with
  | some suffix => simp [TypeSuffix.optionalText, suffix.property]
  | none =>
      rw [TypeSuffix.optionalText, Option.map_none, Option.toList_none, List.append_nil]
      cases ending : body.getLast? with
      | none => rfl
      | some last => simp [plain last ending]

private theorem exists_withoutTypeSuffix (text : List Char) :
    ∃ suffix?, withoutTypeSuffix text ++ TypeSuffix.optionalText suffix? = text := by
  rw [withoutTypeSuffix]
  cases ending : text.getLast? with
  | none => exact ⟨none, List.append_nil _⟩
  | some last =>
      by_cases suffix : isTypeSuffix last = true
      · refine ⟨some ⟨last, suffix⟩, ?_⟩
        simp only [suffix, ↓reduceIte]
        obtain ⟨body, rfl⟩ := List.getLast?_eq_some_iff.mp ending
        rw [List.dropLast_concat]
        rfl
      · simp only [suffix, Bool.false_eq_true, ↓reduceIte]
        exact ⟨none, List.append_nil _⟩

namespace Digits

variable {isDigit : Char → Bool} (digits : Digits isDigit)

theorem forall_whole : ∀ digit ∈ digits.whole, isDigit digit = true :=
  fun digit member => digits.all digit (List.mem_append_left _ member)

theorem forall_fraction : ∀ digit ∈ digits.fraction, isDigit digit = true :=
  fun digit member => digits.all digit (List.mem_append_right _ member)

theorem not_both_empty : (digits.whole.isEmpty && digits.fraction.isEmpty) = false := by
  rw [Bool.eq_false_iff]
  intro empty
  rw [Bool.and_eq_true, List.isEmpty_iff, List.isEmpty_iff, fraction] at empty
  exact digits.present (List.append_eq_nil_iff.mpr empty)

theorem eq_of_mem_fractionText {rest : List Char} {character : Char}
    (first : character ∈ (digits.fractionText ++ rest).head?) :
    character = '.' ∨ digits.fraction? = none ∧ character ∈ rest.head? := by
  rw [fractionText] at first
  cases written : digits.fraction? with
  | none =>
      rw [written] at first
      exact .inr ⟨rfl, first⟩
  | some fraction =>
      rw [written] at first
      cases first
      exact .inl rfl

theorem eq_of_mem_text {character : Char} (member : character ∈ digits.text) :
    isDigit character = true ∨ character = '.' := by
  rcases List.mem_append.mp member with early | later
  · exact .inl (digits.forall_whole character early)
  rw [fractionText] at later
  have all := digits.forall_fraction
  rw [fraction] at all
  cases written : digits.fraction? with
  | none =>
      rw [written] at later
      cases later
  | some fraction =>
      rw [written] at later all
      rcases List.mem_cons.mp later with point | later
      · exact .inr point
      · exact .inl (all character later)

theorem exists_text_eq_cons :
    ∃ first rest, digits.text = first :: rest ∧ (isDigit first = true ∨ first = '.') := by
  have nonempty : digits.text ≠ [] := by
    have present := digits.present
    rw [text, fractionText]
    cases written : digits.fraction? with
    | none =>
        rw [written] at present
        simpa using present
    | some fraction => simp
  obtain ⟨first, rest, written⟩ := List.exists_cons_of_ne_nil nonempty
  refine ⟨first, rest, written, digits.eq_of_mem_text ?_⟩
  rw [written]
  exact List.mem_cons_self

end Digits

private theorem fractionPart_append (digits : Digits Char.isDigit) {rest : List Char}
    (stops : ∀ character ∈ rest.head?, character.isDigit = false ∧ character ≠ '.') :
    fractionPart (digits.fractionText ++ rest) = (digits.fraction, rest) := by
  have ended : ∀ character ∈ rest.head?, character.isDigit = false :=
    fun character member => (stops character member).1
  have all := digits.forall_fraction
  rw [Digits.fraction] at all
  rw [Digits.fractionText, Digits.fraction]
  cases written : digits.fraction? with
  | none =>
      cases rest with
      | nil => rfl
      | cons character rest =>
          simp only [Option.map_none, Option.getD_none, List.nil_append]
          rw [fractionPart]
          intro other same
          exact (stops character rfl).2 (List.cons.inj same).1
  | some fraction =>
      rw [written, Option.getD_some] at all
      simp only [Option.map_some, Option.getD_some, List.cons_append, fractionPart]
      rw [takeWhile_append all ended, dropWhile_append all ended]

private theorem exponentPart?_optionalText (exponent? : Option (Exponent isPowerMark)) :
    exponentPart? (Exponent.optionalText exponent?) =
      some ((exponent?.map (·.value boundedExponent)).getD 0) := by
  cases exponent? with
  | none => rfl
  | some exponent =>
      have mark : exponent.mark = 'e' ∨ exponent.mark = 'E' := by
        simpa [isPowerMark] using exponent.marks
      have read := signed?_text exponent.present exponent.sign boundedExponent
      simp only [Exponent.optionalText, Exponent.text, Option.map_some, Option.getD_some,
        exponentPart?, mark, ↓reduceIte, read, Exponent.value]

private theorem exists_of_exponentPart?_eq_some {text : List Char} {number : Int}
    (read : exponentPart? text = some number) :
    ∃ exponent? : Option (Exponent isPowerMark),
      Exponent.optionalText exponent? = text := by
  cases text with
  | nil => exact ⟨none, rfl⟩
  | cons mark text =>
      rw [exponentPart?] at read
      split at read
      next marks =>
        obtain ⟨sign, digits, present, written⟩ := exists_of_signed?_eq_some read
        have marks : isPowerMark mark = true := by simpa [isPowerMark] using marks
        refine ⟨some ⟨mark, sign, digits, marks, present⟩, ?_⟩
        simp only [Exponent.optionalText, Exponent.text, Option.map_some, Option.getD_some,
          written]
      next => cases read

namespace Exponent

variable {isMark : Char → Bool}

theorem eq_of_mem_text {exponent : Exponent isMark} {character : Char}
    (member : character ∈ exponent.text) :
    isMark character = true ∨ character = '+' ∨ character = '-' ∨
      character.isDigit = true := by
  rcases List.mem_cons.mp member with rfl | member
  · exact .inl exponent.marks
  rcases List.mem_append.mp member with sign | digit
  · cases kind : exponent.sign with
    | absent =>
        rw [kind] at sign
        cases sign
    | plus =>
        rw [kind] at sign
        exact .inr (.inl (List.mem_singleton.mp sign))
    | minus =>
        rw [kind] at sign
        exact .inr (.inr (.inl (List.mem_singleton.mp sign)))
  · exact .inr (.inr (.inr (forall_isDigit_of_isDigits exponent.present character digit)))

private theorem isDigit_of_mem_getLast? {exponent : Exponent isMark} (front : List Char)
    {last : Char} (ends : last ∈ (front ++ exponent.text).getLast?) :
    last.isDigit = true := by
  have split : front ++ exponent.text =
      (front ++ exponent.mark :: exponent.sign.text) ++ exponent.digits := by
    simp [text]
  rw [split, List.getLast?_append] at ends
  cases ending : exponent.digits.getLast? with
  | none => exact (ne_nil_of_isDigits exponent.present (List.getLast?_eq_none_iff.mp ending)).elim
  | some digit =>
      rw [ending] at ends
      cases ends
      exact forall_isDigit_of_isDigits exponent.present last
        (List.mem_of_mem_getLast? ending)

end Exponent

namespace DecimalNumeral

theorem decimal?_body (numeral : DecimalNumeral) :
    decimal? numeral.body = some numeral.decimal := by
  have afterFraction : ∀ character ∈ (Exponent.optionalText numeral.exponent?).head?,
      character.isDigit = false ∧ character ≠ '.' := by
    intro character first
    cases written : numeral.exponent? with
    | none =>
        rw [written] at first
        cases first
    | some exponent =>
        rw [written] at first
        cases first
        have marks := exponent.marks
        rw [isPowerMark, Bool.or_eq_true, decide_eq_true_iff, decide_eq_true_iff] at marks
        rcases marks with lower | upper
        · simp [lower]
        · simp [upper]
  have afterWhole : ∀ character ∈
      (numeral.digits.fractionText ++ Exponent.optionalText numeral.exponent?).head?,
      character.isDigit = false := by
    intro character first
    rcases numeral.digits.eq_of_mem_fractionText first with rfl | ⟨-, first⟩
    · rfl
    · exact (afterFraction character first).1
  have whole := numeral.digits.forall_whole
  have present := numeral.digits.not_both_empty
  rw [decimal?, body, Digits.text, List.append_assoc, takeWhile_append whole afterWhole,
    dropWhile_append whole afterWhole, fractionPart_append numeral.digits afterFraction]
  simp only [present, Bool.false_eq_true, ↓reduceIte, exponentPart?_optionalText,
    Option.map_some]
  rfl

theorem exists_of_decimal?_eq_some {text : List Char} {read : Decimal}
    (reads : decimal? text = some read) (suffix? : Option TypeSuffix) :
    ∃ numeral : DecimalNumeral, numeral.body = text ∧ numeral.suffix? = suffix? := by
  have wholeDigits : ∀ digit ∈ text.takeWhile Char.isDigit, digit.isDigit = true :=
    List.all_eq_true.mp List.all_takeWhile
  have split : text.takeWhile Char.isDigit ++ text.dropWhile Char.isDigit = text :=
    List.takeWhile_append_dropWhile
  rw [decimal?] at reads
  generalize text.takeWhile Char.isDigit = whole at *
  generalize text.dropWhile Char.isDigit = rest at *
  obtain ⟨fraction?, written, fractionDigits⟩ : ∃ fraction? : Option (List Char),
      (fractionPart rest).1 = fraction?.getD [] ∧
        (fraction?.map ('.' :: ·)).getD [] ++ (fractionPart rest).2 = rest ∧
        ∀ digit ∈ fraction?.getD [], digit.isDigit = true := by
    rw [fractionPart.eq_def]
    split
    next rest =>
      refine ⟨some (rest.takeWhile Char.isDigit), rfl, ?_, ?_⟩
      · simp [List.takeWhile_append_dropWhile]
      · exact List.all_eq_true.mp List.all_takeWhile
    next => exact ⟨none, rfl, rfl, by simp⟩
  obtain ⟨placed, fractionDigits⟩ := fractionDigits
  generalize fractionPart rest = parts at *
  obtain ⟨fraction, rest⟩ := parts
  subst written
  simp only at reads placed
  split at reads
  next => cases reads
  next some =>
    obtain ⟨exponent, power, -⟩ := Option.map_eq_some_iff.mp reads
    obtain ⟨exponent?, rfl⟩ := exists_of_exponentPart?_eq_some power
    have present : whole ++ fraction?.getD [] ≠ [] := by
      intro none
      apply some
      simpa using none
    have all : ∀ digit ∈ whole ++ fraction?.getD [], digit.isDigit = true := by
      intro digit member
      rcases List.mem_append.mp member with early | later
      · exact wholeDigits digit early
      · exact fractionDigits digit later
    refine ⟨⟨⟨whole, fraction?, all, present⟩, exponent?, suffix?⟩, ?_, rfl⟩
    rw [body, Digits.text, Digits.fractionText, List.append_assoc, placed, split]

end DecimalNumeral

private theorem not_isExponentMark_of_isHexadecimalDigit {character : Char}
    (digit : isHexadecimalDigit character = true) : isExponentMark character = false := by
  have lower : character ≠ 'p' := ne_of_isHexadecimalDigit digit rfl
  have upper : character ≠ 'P' := ne_of_isHexadecimalDigit digit rfl
  simp [isExponentMark, lower, upper]

namespace HexadecimalNumeral

theorem hexadecimal?_body (numeral : HexadecimalNumeral) :
    hexadecimal? numeral.body = some numeral.value := by
  have beforeMark : ∀ character ∈ numeral.digits.text,
      (!isExponentMark character) = true := by
    intro character member
    rcases numeral.digits.eq_of_mem_text member with digit | rfl
    · rw [not_isExponentMark_of_isHexadecimalDigit digit]
      rfl
    · rfl
  have atMark : ∀ character ∈ numeral.exponent.text.head?,
      (!isExponentMark character) = false := by
    intro character first
    cases first
    rw [numeral.exponent.marks]
    rfl
  have beforePoint : ∀ character ∈ numeral.digits.whole, (character != '.') = true := by
    intro character member
    have digit := numeral.digits.forall_whole character member
    simpa using ne_of_isHexadecimalDigit digit (rfl : isHexadecimalDigit '.' = false)
  have atPoint : ∀ character ∈ numeral.digits.fractionText.head?,
      (character != '.') = false := by
    intro character first
    rw [← List.append_nil numeral.digits.fractionText] at first
    rcases numeral.digits.eq_of_mem_fractionText first with rfl | ⟨-, first⟩
    · rfl
    · cases first
  have afterPoint : numeral.digits.fractionText.drop 1 = numeral.digits.fraction := by
    rw [Digits.fractionText, Digits.fraction]
    cases numeral.digits.fraction? with
    | none => rfl
    | some fraction => rfl
  have present := numeral.digits.not_both_empty
  have exponent := signed?_text numeral.exponent.present numeral.exponent.sign saturatedExponent
  have whole := mapM_hexadecimalDigit? numeral.digits.forall_whole
  have fraction := mapM_hexadecimalDigit? numeral.digits.forall_fraction
  rw [hexadecimal?, body, takeWhile_append beforeMark atMark, dropWhile_append beforeMark atMark,
    Exponent.text, List.tail?_cons, Digits.text, takeWhile_append beforePoint atPoint,
    dropWhile_append beforePoint atPoint, afterPoint]
  simp only [Option.bind_eq_bind, Option.bind_some, exponent, present, Bool.false_eq_true,
    ↓reduceIte, whole, fraction]
  rfl

theorem exists_fraction? (text : List Char) :
    ∃ fraction? : Option (List Char),
      text.takeWhile (· != '.') ++ (fraction?.map ('.' :: ·)).getD [] = text ∧
        (text.dropWhile (· != '.')).drop 1 = fraction?.getD [] := by
  have split : text.takeWhile (· != '.') ++ text.dropWhile (· != '.') = text :=
    List.takeWhile_append_dropWhile
  have stops := List.head?_dropWhile_not (· != '.') text
  generalize text.dropWhile (· != '.') = rest at split stops
  cases rest with
  | nil => exact ⟨none, split, rfl⟩
  | cons point fraction =>
      have point : point = '.' := by simpa using stops
      subst point
      exact ⟨some fraction, split, rfl⟩

theorem exists_of_hexadecimal?_eq_some {text : List Char} {read : Double}
    (reads : hexadecimal? text = some read) (capital : Bool) (suffix? : Option TypeSuffix) :
    ∃ numeral : HexadecimalNumeral, numeral.body = text ∧ numeral.capital = capital ∧
      numeral.suffix? = suffix? := by
  have split : text.takeWhile (!isExponentMark ·) ++ text.dropWhile (!isExponentMark ·) = text :=
    List.takeWhile_append_dropWhile
  have stops := List.head?_dropWhile_not (!isExponentMark ·) text
  rw [hexadecimal?, Option.bind_eq_bind, Option.bind_eq_some_iff] at reads
  obtain ⟨power, exponent, reads⟩ := reads
  rw [Option.bind_eq_bind, Option.bind_eq_some_iff] at exponent
  obtain ⟨signed, rest, exponent⟩ := exponent
  obtain ⟨sign, written, isDigits, rfl⟩ := exists_of_signed?_eq_some exponent
  obtain ⟨fraction?, placed, after⟩ := exists_fraction? (text.takeWhile (!isExponentMark ·))
  rw [after] at reads
  generalize text.takeWhile (!isExponentMark ·) = significand at *
  generalize text.dropWhile (!isExponentMark ·) = ending at *
  generalize significand.takeWhile (· != '.') = whole at *
  dsimp only at reads
  split at reads
  next => cases reads
  next some =>
    obtain ⟨wholeDigits, readWhole, reads⟩ := Option.bind_eq_some_iff.mp reads
    obtain ⟨fractionDigits, readFraction, -⟩ := Option.bind_eq_some_iff.mp reads
    have present : whole ++ fraction?.getD [] ≠ [] := by
      intro none
      apply some
      simpa using none
    have all : ∀ digit ∈ whole ++ fraction?.getD [], isHexadecimalDigit digit = true := by
      intro digit member
      rcases List.mem_append.mp member with early | later
      · exact forall_of_mapM_hexadecimalDigit? readWhole digit early
      · exact forall_of_mapM_hexadecimalDigit? readFraction digit later
    cases ending with
    | nil => cases rest
    | cons mark ending =>
        cases rest
        have marks : isExponentMark mark = true := by simpa using stops
        refine ⟨⟨capital, ⟨whole, fraction?, all, present⟩,
          ⟨mark, sign, written, marks, isDigits⟩, suffix?⟩, ?_, rfl, rfl⟩
        rw [body, Digits.text, Digits.fractionText, placed, Exponent.text, split]

end HexadecimalNumeral

namespace DecimalNumeral

theorem ne_of_mem_body {numeral : DecimalNumeral} {character : Char}
    (member : character ∈ numeral.body) :
    isTypeSuffix character = false ∧ character ≠ 'x' ∧ character ≠ 'X' ∧
      isPadding character = false := by
  have digit {character : Char} (digit : character.isDigit = true) :
      isTypeSuffix character = false ∧ character ≠ 'x' ∧ character ≠ 'X' ∧
        isPadding character = false :=
    ⟨isTypeSuffix_of_isDigit digit, ne_of_isDigit digit rfl, ne_of_isDigit digit rfl,
      isPadding_of_isDigit digit⟩
  rcases List.mem_append.mp member with early | later
  · rcases numeral.digits.eq_of_mem_text early with decimal | rfl
    · exact digit decimal
    · decide
  cases written : numeral.exponent? with
  | none =>
      rw [written] at later
      cases later
  | some exponent =>
      rw [written] at later
      rcases Exponent.eq_of_mem_text later with mark | rfl | rfl | decimal
      · rw [isPowerMark, Bool.or_eq_true, decide_eq_true_iff, decide_eq_true_iff] at mark
        rcases mark with rfl | rfl
        · decide
        · decide
      · decide
      · decide
      · exact digit decimal

theorem exists_text_eq_cons (numeral : DecimalNumeral) :
    ∃ first rest, numeral.text = first :: rest ∧
      (first.isDigit = true ∨ first = '.') := by
  obtain ⟨first, rest, written, begins⟩ := numeral.digits.exists_text_eq_cons
  refine ⟨first, rest ++ (Exponent.optionalText numeral.exponent? ++
    TypeSuffix.optionalText numeral.suffix?), ?_, begins⟩
  rw [text, body, written, List.append_assoc, List.cons_append]

theorem withoutTypeSuffix_text (numeral : DecimalNumeral) :
    withoutTypeSuffix numeral.text = numeral.body :=
  withoutTypeSuffix_append
    (fun _ ends => (ne_of_mem_body (List.mem_of_mem_getLast? ends)).1) numeral.suffix?

end DecimalNumeral

theorem HexadecimalNumeral.withoutTypeSuffix_text (numeral : HexadecimalNumeral) :
    withoutTypeSuffix numeral.text =
      '0' :: (if numeral.capital then 'X' else 'x') :: numeral.body := by
  have ends : ∀ last ∈
      ('0' :: (if numeral.capital then 'X' else 'x') :: numeral.body).getLast?,
      isTypeSuffix last = false := by
    intro last ends
    apply isTypeSuffix_of_isDigit
    exact Exponent.isDigit_of_mem_getLast?
      ('0' :: (if numeral.capital then 'X' else 'x') :: numeral.digits.text) ends
  exact withoutTypeSuffix_append ends numeral.suffix?

theorem unsigned?_of_begins {first : Char} {rest : List Char} (notWord : first ≠ 'N')
    (notName : first ≠ 'I') :
    unsigned? (first :: rest) =
      match withoutTypeSuffix (first :: rest) with
      | '0' :: 'x' :: rest => hexadecimal? rest
      | '0' :: 'X' :: rest => hexadecimal? rest
      | rest => (decimal? rest).map (·.toBinary false .double) := by
  have word : first :: rest ≠ "NaN".toList := by
    intro same
    exact notWord (List.cons.inj same).1
  have name : first :: rest ≠ "Infinity".toList := by
    intro same
    exact notName (List.cons.inj same).1
  rw [unsigned?]
  exact (if_neg word).trans (if_neg name)

namespace Magnitude

theorem unsigned?_text (magnitude : Magnitude) :
    unsigned? magnitude.text = some magnitude.value := by
  cases magnitude with
  | notANumber => rw [text, unsigned?, if_pos (by decide), value]
  | infinity => rw [text, unsigned?, if_neg (by decide), if_pos (by decide), value]
  | decimal numeral =>
      obtain ⟨first, rest, written, begins⟩ := numeral.exists_text_eq_cons
      have notWord : first ≠ 'N' ∧ first ≠ 'I' := by
        rcases begins with digit | rfl
        · exact ⟨ne_of_isDigit digit rfl, ne_of_isDigit digit rfl⟩
        · decide
      have body := numeral.withoutTypeSuffix_text
      rw [written] at body
      rw [text, written, unsigned?_of_begins notWord.1 notWord.2, body]
      split
      next rest same =>
        have member : 'x' ∈ numeral.body := by simp [same]
        exact ((DecimalNumeral.ne_of_mem_body member).2.1 rfl).elim
      next rest same =>
        have member : 'X' ∈ numeral.body := by simp [same]
        exact ((DecimalNumeral.ne_of_mem_body member).2.2.1 rfl).elim
      next => rw [numeral.decimal?_body, Option.map_some, value]
  | hexadecimal numeral =>
      have body := numeral.withoutTypeSuffix_text
      rw [HexadecimalNumeral.text] at body
      rw [text, HexadecimalNumeral.text, unsigned?_of_begins (by decide) (by decide), body]
      cases numeral.capital with
      | false => exact numeral.hexadecimal?_body
      | true => exact numeral.hexadecimal?_body

theorem exists_of_unsigned?_eq_some {text : List Char} {number : Double}
    (read : unsigned? text = some number) : ∃ magnitude : Magnitude, magnitude.text = text := by
  rw [unsigned?] at read
  split at read
  next word => exact ⟨.notANumber, word.symm⟩
  split at read
  next word => exact ⟨.infinity, word.symm⟩
  obtain ⟨suffix?, split⟩ := exists_withoutTypeSuffix text
  split at read
  next body written =>
    obtain ⟨numeral, rfl, capital, rfl⟩ :=
      HexadecimalNumeral.exists_of_hexadecimal?_eq_some read false suffix?
    refine ⟨.hexadecimal numeral, ?_⟩
    rw [← split, written, Magnitude.text, HexadecimalNumeral.text, capital]
    rfl
  next body written =>
    obtain ⟨numeral, rfl, capital, rfl⟩ :=
      HexadecimalNumeral.exists_of_hexadecimal?_eq_some read true suffix?
    refine ⟨.hexadecimal numeral, ?_⟩
    rw [← split, written, Magnitude.text, HexadecimalNumeral.text, capital]
    rfl
  next =>
    obtain ⟨decimal, reads, -⟩ := Option.map_eq_some_iff.mp read
    obtain ⟨numeral, written, rfl⟩ :=
      DecimalNumeral.exists_of_decimal?_eq_some reads suffix?
    refine ⟨.decimal numeral, ?_⟩
    rw [← split, ← written, Magnitude.text, DecimalNumeral.text]

theorem exists_text_eq_cons (magnitude : Magnitude) :
    ∃ first rest, magnitude.text = first :: rest ∧ first ≠ '-' ∧ first ≠ '+' := by
  cases magnitude with
  | notANumber => exact ⟨'N', ['a', 'N'], rfl, by decide, by decide⟩
  | infinity => exact ⟨'I', _, rfl, by decide, by decide⟩
  | decimal numeral =>
      obtain ⟨first, rest, written, begins⟩ := numeral.exists_text_eq_cons
      refine ⟨first, rest, written, ?_⟩
      rcases begins with digit | rfl
      · exact ⟨ne_of_isDigit digit rfl, ne_of_isDigit digit rfl⟩
      · decide
  | hexadecimal numeral => exact ⟨'0', _, rfl, by decide, by decide⟩

end Magnitude

/-- A spelling is read as its value. -/
theorem Spelling.read?_eq_some {spelling : Spelling} {text : List Char}
    (spelled : Text.trim isPadding text = spelling.text) :
    read? text = some spelling.value := by
  obtain ⟨sign, magnitude⟩ := spelling
  have unsigned := magnitude.unsigned?_text
  rw [read?, spelled, Spelling.text, Spelling.value]
  cases sign with
  | plus => exact unsigned
  | minus =>
      refine (congrArg (Option.map Binary.negate) unsigned).trans ?_
      rfl
  | absent =>
      obtain ⟨first, rest, written, notMinus, notPlus⟩ := magnitude.exists_text_eq_cons
      simp only [Sign.text, List.nil_append, reduceCtorEq, ↓reduceIte]
      rw [← unsigned]
      split
      next same =>
        rw [written] at same
        exact (notMinus (List.cons.inj same).1).elim
      next same =>
        rw [written] at same
        exact (notPlus (List.cons.inj same).1).elim
      next => rfl

/-- Nothing but spellings can be read. -/
theorem exists_of_read?_eq_some {text : List Char} {number : Double}
    (read : read? text = some number) :
    ∃ spelling : Spelling, Text.trim isPadding text = spelling.text := by
  rw [read?] at read
  split at read
  next rest trimmed =>
    obtain ⟨value, read, -⟩ := Option.map_eq_some_iff.mp read
    obtain ⟨magnitude, rfl⟩ := Magnitude.exists_of_unsigned?_eq_some read
    exact ⟨⟨.minus, magnitude⟩, trimmed⟩
  next rest trimmed =>
    obtain ⟨magnitude, rfl⟩ := Magnitude.exists_of_unsigned?_eq_some read
    exact ⟨⟨.plus, magnitude⟩, trimmed⟩
  next =>
    obtain ⟨magnitude, written⟩ := Magnitude.exists_of_unsigned?_eq_some read
    exact ⟨⟨.absent, magnitude⟩, written.symm⟩

/-- A text of a spelling is read as a number, and every other text cell counts as zero. -/
theorem read?_spelled_iff (text : String) :
    ((read? text.toList).isSome = true ↔
        ∃ spelling : Spelling, Text.trim isPadding text.toList = spelling.text) ∧
      ((∀ spelling : Spelling, Text.trim isPadding text.toList ≠ spelling.text) →
        read? text.toList = none ∧ (Cell.string text).quantity = .ok (.integer 0)) := by
  have readable : (read? text.toList).isSome = true ↔
      ∃ spelling : Spelling, Text.trim isPadding text.toList = spelling.text := by
    constructor
    · intro some
      obtain ⟨number, read⟩ := Option.isSome_iff_exists.mp some
      exact exists_of_read?_eq_some read
    · rintro ⟨spelling, spelled⟩
      rw [spelling.read?_eq_some spelled]
      rfl
  refine ⟨readable, ?_⟩
  intro other
  have unread : read? text.toList = none := by
    rw [Option.eq_none_iff_forall_ne_some]
    intro number read
    obtain ⟨spelling, spelled⟩ := exists_of_read?_eq_some read
    exact other spelling spelled
  exact ⟨unread, by rw [Cell.quantity, unread]; rfl⟩

/-- A hexadecimal numeral needs an exponent; with one it may have a sign, a suffix and
space around it. -/
theorem read?_spelled_iff_of_bareHexadecimal :
    read? "0x10".toList = none ∧ (Cell.string "0x10").quantity = .ok (.integer 0) ∧
      ∃ spelling : Spelling, Text.trim isPadding " -0x1.8p1f\n".toList = spelling.text := by
  have bare : ∀ spelling : Spelling, Text.trim isPadding "0x10".toList ≠ spelling.text := by
    intro spelling spelled
    have readable := (read?_spelled_iff "0x10").1.mpr ⟨spelling, spelled⟩
    exact absurd readable (by decide +kernel)
  obtain ⟨unread, zero⟩ := (read?_spelled_iff "0x10").2 bare
  exact ⟨unread, zero, (read?_spelled_iff " -0x1.8p1f\n").1.mp (by decide +kernel)⟩

end PagedRows.Numeral
