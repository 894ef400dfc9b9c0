import PagedRows.Proofs.JsonText
import PagedRows.Text.Blank
import PagedRows.Text.Lines

/-!
# Printed values on lines

A printed value holds no control character, so it stands on one line of a text, and the
lines of a text of printed values are these values again.
-/

namespace PagedRows

namespace Json

/-- Characters that are shown in the place where they stand. -/
def Plain (text : List Char) : Prop :=
  ∀ character ∈ text, ¬character < ' '

instance (text : List Char) : Decidable (Plain text) :=
  List.decidableBAll (fun character => ¬character < ' ') text

theorem plain_nil : Plain [] :=
  nofun

theorem plain_cons {character : Char} {text : List Char} :
    Plain (character :: text) ↔ ¬character < ' ' ∧ Plain text :=
  List.forall_mem_cons

theorem plain_append {front back : List Char} :
    Plain (front ++ back) ↔ Plain front ∧ Plain back :=
  List.forall_mem_append

theorem Plain.intercalate {texts : List (List Char)} (each : ∀ text ∈ texts, Plain text) :
    Plain ([','].intercalate texts) := by
  induction texts with
  | nil => exact plain_nil
  | cons first texts induction =>
      have head := each first List.mem_cons_self
      have tail := induction fun text among => each text (List.mem_cons_of_mem _ among)
      cases texts with
      | nil => simpa using head
      | cons second texts =>
          rw [List.intercalate_cons_cons]
          exact plain_append.mpr ⟨plain_append.mpr ⟨head, by decide⟩, tail⟩

private theorem not_control_of_isDigit {digit : Char} (isDigit : digit.isDigit = true) :
    ¬digit < ' ' := by
  intro control
  simp only [Char.isDigit, Bool.and_eq_true, decide_eq_true_eq] at isDigit
  have least : 48 ≤ digit.toNat := isDigit.1
  have greatest : digit.toNat < 32 := control
  omega

theorem plain_of_digits {digits : List Char}
    (all : ∀ digit ∈ digits, digit.isDigit = true) : Plain digits :=
  fun digit member => not_control_of_isDigit (all digit member)

private theorem plain_toDigits (number : Nat) : Plain (Nat.toDigits 10 number) :=
  plain_of_digits fun _ member =>
    Nat.isDigit_of_mem_toDigits (by decide) (by decide) member

private theorem plain_signedText {parts : Layout.Parts} (proper : parts.Proper) (negative : Bool) :
    Plain (parts.signedText floatLayout negative) := by
  have fraction : Plain parts.fractionText := by
    rw [Layout.Parts.fractionText]
    cases written : parts.fraction? with
    | none => exact plain_nil
    | some fraction =>
        exact plain_cons.mpr ⟨by decide, plain_of_digits (proper.fraction fraction written).2⟩
  have exponent : Plain (parts.exponentText floatLayout) := by
    rw [Layout.Parts.exponentText]
    cases parts.exponent? with
    | none => exact plain_nil
    | some exponent =>
        cases exponent with
        | ofNat power =>
            exact plain_cons.mpr ⟨by decide, plain_cons.mpr ⟨by decide, plain_toDigits power⟩⟩
        | negSucc power =>
            exact plain_cons.mpr
              ⟨by decide, plain_cons.mpr ⟨by decide, plain_toDigits (power + 1)⟩⟩
  have text : Plain (parts.text floatLayout) :=
    plain_append.mpr ⟨plain_of_digits proper.wholeDigits,
      plain_append.mpr ⟨fraction, exponent⟩⟩
  cases negative with
  | true => exact plain_cons.mpr ⟨by decide, text⟩
  | false => exact text

private theorem plain_escaped (character : Char) : Plain (escaped character) := by
  have hexadecimal : ∀ digit < 16, ¬Nat.digitChar digit < ' ' := by decide
  rw [escaped.eq_def]
  split
  · decide
  · decide
  · decide
  · decide
  · decide
  · decide
  · decide
  · split
    next control =>
      have below : character.toNat < 32 := control
      have front : Plain ['\\', 'u', '0', '0'] := by decide
      refine plain_append.mpr ⟨front, ?_⟩
      exact plain_cons.mpr ⟨hexadecimal _ (by omega),
        plain_cons.mpr ⟨hexadecimal _ (by omega), plain_nil⟩⟩
    next printed => exact plain_cons.mpr ⟨printed, plain_nil⟩

private theorem plain_stringText (text : String) : Plain (stringText text) := by
  have inside : Plain (text.toList.flatMap escaped) := by
    intro character member
    obtain ⟨source, -, among⟩ := List.mem_flatMap.mp member
    exact plain_escaped source character among
  exact plain_cons.mpr ⟨by decide, plain_append.mpr ⟨inside, by decide⟩⟩

theorem Readable.plain_text {depth : Nat} {value : Json} (readable : Readable depth value) :
    Plain value.text := by
  induction readable with
  | null => decide
  | @bool _ value =>
      cases value with
      | false => decide
      | true => decide
  | @integer _ value =>
      rw [text, Layout.integerText_eq_parts floatLayout]
      exact plain_signedText (Layout.proper_integerParts value) _
  | @float _ value finite =>
      rw [text, Layout.text_eq_parts]
      exact plain_signedText (floatLayout.proper_parts finite).toProper _
  | string => exact plain_stringText _
  | @array _ items each induction =>
      rw [text, itemsText_eq]
      have inside : Plain ([','].intercalate (items.map text)) := by
        apply Plain.intercalate
        intro written member
        obtain ⟨item, among, rfl⟩ := List.mem_map.mp member
        exact induction item among
      exact plain_cons.mpr ⟨by decide, plain_append.mpr ⟨inside, by decide⟩⟩
  | @object _ members ordered each induction =>
      rw [text, membersText_eq]
      have inside : Plain ([','].intercalate (members.map memberText)) := by
        apply Plain.intercalate
        intro written member
        obtain ⟨held, among, rfl⟩ := List.mem_map.mp member
        exact plain_append.mpr ⟨plain_stringText held.1,
          plain_cons.mpr ⟨by decide, induction held among⟩⟩
      exact plain_cons.mpr ⟨by decide, plain_append.mpr ⟨inside, by decide⟩⟩

end Json

namespace Text

/-- The text that consists of some lines, each with a newline at its end. -/
def unlines (lines : List (List Char)) : List Char :=
  lines.flatMap fun line => line ++ ['\n']

theorem lines_unlines {written : List (List Char)}
    (single : ∀ line ∈ written, '\n' ∉ line) :
    lines (unlines written) = written ++ [[]] := by
  induction written with
  | nil => rfl
  | cons line written induction =>
      have first := single line List.mem_cons_self
      have others := induction fun other among => single other (List.mem_cons_of_mem _ among)
      have text : unlines (line :: written) = line ++ '\n' :: unlines written := by
        simp [unlines]
      rw [text, lines_append, lines_of_not_mem first, others]
      rfl

end Text

theorem Json.newline_not_mem_of_plain {text : List Char} (plain : Plain text) : '\n' ∉ text :=
  fun member => plain '\n' member (by decide)

end PagedRows
