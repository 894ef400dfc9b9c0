import PagedRows.Json.Printer
import PagedRows.Json.Reader
import PagedRows.Proofs.TextEnds
import PagedRows.Proofs.WrittenDecimal

/-!
# Printed numbers and strings

Printed numbers and strings are read back, whatever can follow them.  A number has no
end of its own, so what follows it may not go on with it.
-/

namespace PagedRows

namespace Json

/-- What can follow a value inside an array or an object, or at the end of a text. -/
def Ends (rest : List Char) : Prop :=
  ∀ character ∈ rest.head?, character = ',' ∨ character = ']' ∨ character = '}'

theorem ends_nil : Ends [] := by
  intro character member
  cases member

theorem ends_cons {character : Char} {rest : List Char}
    (closes : character = ',' ∨ character = ']' ∨ character = '}') :
    Ends (character :: rest) := by
  intro first member
  cases member
  exact closes

theorem readWhole_append {whole rest : List Char}
    (shape : ∃ first others, whole = first :: others ∧ (first = '0' → others = []))
    (digits : ∀ digit ∈ whole, digit.isDigit = true)
    (stops : ∀ character ∈ rest.head?, character.isDigit = false) :
    readWhole (whole ++ rest) = .ok (whole, rest) := by
  obtain ⟨first, others, rfl, alone⟩ := shape
  by_cases zero : first = '0'
  · subst zero
    rw [alone rfl]
    rfl
  · have taken := takeWhile_append digits stops
    have left := dropWhile_append digits stops
    rw [List.cons_append] at taken left ⊢
    rw [readWhole, taken, left]
    · rfl
    · intro other same
      exact zero (List.cons.inj same).1

theorem readFraction_append {parts : Layout.Parts} {rest : List Char}
    (proper : parts.Proper)
    (stops : ∀ character ∈ rest.head?, character.isDigit = false ∧ character ≠ '.') :
    readFraction (parts.fractionText ++ rest) = .ok (parts.fraction?, rest) := by
  rw [Layout.Parts.fractionText]
  cases written : parts.fraction? with
  | none =>
      cases rest with
      | nil => rfl
      | cons character rest =>
          rw [List.nil_append, readFraction]
          intro other same
          exact (stops character rfl).2 (List.cons.inj same).1
  | some fraction =>
      obtain ⟨present, digits⟩ := proper.fraction fraction written
      have ended : ∀ character ∈ rest.head?, character.isDigit = false :=
        fun character member => (stops character member).1
      rw [List.cons_append, readFraction, takeWhile_append digits ended,
        dropWhile_append digits ended]
      simp [present]

theorem readPower_toDigits (negative : Bool) (power : Nat) {rest : List Char}
    (stops : ∀ character ∈ rest.head?, character.isDigit = false) :
    readPower negative (Nat.toDigits 10 power ++ rest) =
      .ok (some (if negative then -(power : Int) else power), rest) := by
  have digits : ∀ digit ∈ Nat.toDigits 10 power, digit.isDigit = true :=
    fun digit member => Nat.isDigit_of_mem_toDigits (by decide) (by decide) member
  rw [readPower, takeWhile_append digits stops, dropWhile_append digits stops]
  simp [Nat.toDigits_ne_nil, Nat.ofDigitChars_ten_toDigits]

theorem readExponent_append (parts : Layout.Parts) {rest : List Char}
    (stops : ∀ character ∈ rest.head?,
      character.isDigit = false ∧ character ≠ 'e' ∧ character ≠ 'E') :
    readExponent (parts.exponentText floatLayout ++ rest) = .ok (parts.exponent?, rest) := by
  have ended : ∀ character ∈ rest.head?, character.isDigit = false :=
    fun character member => (stops character member).1
  rw [Layout.Parts.exponentText]
  cases parts.exponent? with
  | none =>
      cases rest with
      | nil => rfl
      | cons character rest =>
          obtain ⟨-, lower, upper⟩ := stops character rfl
          simp [readExponent, lower, upper]
  | some exponent =>
      cases exponent with
      | ofNat power => exact readPower_toDigits false power ended
      | negSucc power => exact readPower_toDigits true (power + 1) ended

/-- The value that the parts of a number have for the reader. -/
def partsValue (negative : Bool) (parts : Layout.Parts) : Except Flaw Json :=
  if parts.fraction?.isNone && parts.exponent?.isNone then
    integerValue negative (Nat.ofDigitChars 10 parts.whole 0)
  else floatValue negative parts.decimal

private theorem eq_or_mem_of_mem_fractionText {parts : Layout.Parts} {rest : List Char}
    {character : Char} (member : character ∈ (parts.fractionText ++ rest).head?) :
    character = '.' ∨ character ∈ rest.head? := by
  rw [Layout.Parts.fractionText] at member
  cases written : parts.fraction? with
  | none =>
      rw [written] at member
      exact .inr member
  | some fraction =>
      rw [written] at member
      cases member
      exact .inl rfl

private theorem eq_or_mem_of_mem_exponentText {parts : Layout.Parts} {rest : List Char}
    {character : Char}
    (member : character ∈ (parts.exponentText floatLayout ++ rest).head?) :
    character = 'e' ∨ character ∈ rest.head? := by
  rw [Layout.Parts.exponentText] at member
  cases written : parts.exponent? with
  | none =>
      rw [written] at member
      exact .inr member
  | some exponent =>
      rw [written] at member
      cases member
      exact .inl rfl

/-- Each part of a number ends where the next one begins, and the last one where the
number ends. -/
theorem readMagnitude_append {parts : Layout.Parts} {rest : List Char}
    (proper : parts.Proper) (ends : Ends rest) {negative : Bool} {value : Json}
    (read : partsValue negative parts = .ok value) :
    readMagnitude negative (parts.text floatLayout ++ rest) = .ok (value, rest) := by
  have afterExponent : ∀ character ∈ rest.head?,
      character.isDigit = false ∧ character ≠ '.' ∧ character ≠ 'e' ∧ character ≠ 'E' := by
    intro character member
    rcases ends character member with rfl | rfl | rfl
    · decide
    · decide
    · decide
  have afterFraction : ∀ character ∈ (parts.exponentText floatLayout ++ rest).head?,
      character.isDigit = false ∧ character ≠ '.' := by
    intro character member
    rcases eq_or_mem_of_mem_exponentText member with rfl | member
    · decide
    · exact ⟨(afterExponent character member).1, (afterExponent character member).2.1⟩
  have afterWhole : ∀ character ∈
      (parts.fractionText ++ (parts.exponentText floatLayout ++ rest)).head?,
      character.isDigit = false := by
    intro character member
    rcases eq_or_mem_of_mem_fractionText member with rfl | member
    · rfl
    · exact (afterFraction character member).1
  have whole := readWhole_append proper.whole proper.wholeDigits afterWhole
  have fraction := readFraction_append proper afterFraction
  have exponent := readExponent_append parts fun character member =>
    ⟨(afterExponent character member).1, (afterExponent character member).2.2⟩
  rw [Layout.Parts.text, List.append_assoc, List.append_assoc, readMagnitude, whole]
  change (readFraction _ >>= _) = _
  rw [fraction]
  change (readExponent _ >>= _) = _
  rw [exponent]
  rw [partsValue] at read
  by_cases integral : (parts.fraction?.isNone && parts.exponent?.isNone) = true
  · rw [if_pos integral] at read
    refine (if_pos integral).trans ?_
    rw [read]
    rfl
  · rw [if_neg integral] at read
    rw [Layout.Parts.decimal] at read
    refine (if_neg integral).trans ?_
    rw [read]
    rfl

theorem readNumber_of_digit {first : Char} (digit : first.isDigit = true)
    (text : List Char) : readNumber (first :: text) = readMagnitude false (first :: text) := by
  rw [readNumber]
  intro rest same
  rw [(List.cons.inj same).1] at digit
  cases digit

theorem text_parts_eq_cons {parts : Layout.Parts} (proper : parts.Proper) (layout : Layout) :
    ∃ first after, parts.text layout = first :: after ∧ first.isDigit = true := by
  obtain ⟨first, others, whole, -⟩ := proper.whole
  refine ⟨first, others ++ (parts.fractionText ++ parts.exponentText layout), ?_, ?_⟩
  · rw [Layout.Parts.text, whole, List.cons_append]
  · apply proper.wholeDigits
    rw [whole]
    exact List.mem_cons_self

theorem signedText_eq_cons {parts : Layout.Parts} (proper : parts.Proper) (layout : Layout)
    (negative : Bool) :
    ∃ first after, parts.signedText layout negative = first :: after ∧
      (first = '-' ∨ first.isDigit = true) := by
  obtain ⟨first, after, text, digit⟩ := text_parts_eq_cons proper layout
  cases negative with
  | true => exact ⟨'-', _, rfl, .inl rfl⟩
  | false => exact ⟨first, after, text, .inr digit⟩

theorem readNumber_append {parts : Layout.Parts} {rest : List Char}
    (proper : parts.Proper) (ends : Ends rest) {negative : Bool} {value : Json}
    (read : partsValue negative parts = .ok value) :
    readNumber (parts.signedText floatLayout negative ++ rest) = .ok (value, rest) := by
  have magnitude := readMagnitude_append proper ends read
  cases negative with
  | true => exact magnitude
  | false =>
      obtain ⟨first, after, text, digit⟩ := text_parts_eq_cons proper floatLayout
      change readNumber (parts.text floatLayout ++ rest) = _
      rw [text] at magnitude ⊢
      rw [List.cons_append] at magnitude ⊢
      rw [readNumber_of_digit digit, magnitude]

theorem partsValue_parts {number : Double} (finite : number.isFinite = true) :
    partsValue number.negative (floatLayout.parts number) = .ok (.float number finite) := by
  have proper := floatLayout.proper_parts finite
  have marked : ((floatLayout.parts number).fraction?.isNone &&
      (floatLayout.parts number).exponent?.isNone) = false := by
    cases fraction : (floatLayout.parts number).fraction? with
    | some fraction => rfl
    | none =>
        cases exponent : (floatLayout.parts number).exponent? with
        | some exponent => rfl
        | none => exact (proper.marked fraction exponent).elim
  simp only [partsValue, marked, Bool.false_eq_true, ↓reduceIte, floatValue,
    Layout.toBinary_parts floatLayout finite, finite, ↓reduceDIte]

theorem partsValue_integerParts {value : Int} (least : -2 ^ 63 ≤ value)
    (below : value < 2 ^ 64) :
    partsValue (decide (value < 0)) (Layout.integerParts value) = .ok (.integer value) := by
  have signed : (if decide (value < 0) then -(value.natAbs : Int) else value.natAbs) =
      value := by
    by_cases negative : value < 0
    · rw [decide_eq_true negative, if_pos rfl]
      omega
    · rw [decide_eq_false negative, if_neg Bool.false_ne_true]
      omega
  have plain : value ≠ 0 ∨ decide (value < 0) = false := by
    by_cases zero : value = 0
    · subst zero
      exact .inr rfl
    · exact .inl zero
  rw [partsValue]
  refine (if_pos rfl).trans ?_
  simp only [Layout.integerParts, Nat.ofDigitChars_ten_toDigits]
  rw [integerValue, signed]
  exact if_pos ⟨plain, least, below⟩

private theorem hexadecimalDigit?_digitChar {digit : Nat} (below : digit < 16) :
    Numeral.hexadecimalDigit? (Nat.digitChar digit) = some digit := by
  have all : ∀ digit < 16,
      Numeral.hexadecimalDigit? (Nat.digitChar digit) = some digit := by decide
  exact all digit below

theorem readCharacters_code {character : Char} (control : character < ' ')
    (taken rest : List Char) :
    readCharacters taken ('\\' :: 'u' :: '0' :: '0' ::
        Nat.digitChar (character.toNat / 16) :: Nat.digitChar (character.toNat % 16) :: rest) =
      readCharacters (character :: taken) rest := by
  have below : character.toNat < 32 := control
  have zero : Numeral.hexadecimalDigit? '0' = some 0 := by decide
  have unit : codeUnit? '0' '0' (Nat.digitChar (character.toNat / 16))
      (Nat.digitChar (character.toNat % 16)) = some character.toNat := by
    rw [codeUnit?, zero, hexadecimalDigit?_digitChar (by omega),
      hexadecimalDigit?_digitChar (by omega)]
    change some (((0 * 16 + 0) * 16 + character.toNat / 16) * 16 + character.toNat % 16) = _
    congr 1
    omega
  have high : isHighSurrogate character.toNat = false := by
    simp only [isHighSurrogate, Bool.and_eq_false_imp, decide_eq_true_eq]
    omega
  have low : isLowSurrogate character.toNat = false := by
    simp only [isLowSurrogate, Bool.and_eq_false_imp, decide_eq_true_eq]
    omega
  rw [readCharacters]
  simp only [unit, high, low, Bool.false_eq_true, ↓reduceIte, Char.ofNat_toNat]

theorem readCharacters_cons {character : Char} (noQuote : character ≠ '"')
    (noBackslash : character ≠ '\\') (printed : ¬character < ' ')
    (taken rest : List Char) :
    readCharacters taken (character :: rest) =
      readCharacters (character :: taken) rest := by
  rw [readCharacters, if_neg printed]
  · exact noQuote
  · intro _ _ _ _ _ backslash _
    exact noBackslash backslash
  · intro _ _ backslash _
    exact noBackslash backslash

theorem readCharacters_escaped (character : Char) (taken rest : List Char) :
    readCharacters taken (escaped character ++ rest) =
      readCharacters (character :: taken) rest := by
  rw [escaped.eq_def]
  split
  · rfl
  · rfl
  · rfl
  · rfl
  · rfl
  · rfl
  · rfl
  next noQuote noBackslash _ _ _ _ _ =>
    split
    next control => exact readCharacters_code control taken rest
    next printed => exact readCharacters_cons noQuote noBackslash printed taken rest

theorem readCharacters_flatMap (characters taken rest : List Char) :
    readCharacters taken (characters.flatMap escaped ++ '"' :: rest) =
      .ok (String.ofList (taken.reverse ++ characters), rest) := by
  induction characters generalizing taken with
  | nil => simp [readCharacters]
  | cons character characters induction =>
      rw [List.flatMap_cons, List.append_assoc, readCharacters_escaped, induction]
      simp

/-- A printed string is read as the string, after its first quotation mark. -/
theorem stringText_append (text : String) (rest : List Char) :
    ∃ after, stringText text ++ rest = '"' :: after ∧
      readCharacters [] after = .ok (text, rest) := by
  refine ⟨text.toList.flatMap escaped ++ '"' :: rest, by simp [stringText], ?_⟩
  rw [readCharacters_flatMap]
  simp

end Json

end PagedRows
