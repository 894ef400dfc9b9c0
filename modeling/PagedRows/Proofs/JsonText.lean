import PagedRows.Proofs.JsonTokens

/-!
# Printed values

The values that a reader can give back are the ones that are read from their own text:
integers in 64 bits, and objects and arrays that are not nested too deeply, with the
members in the order of their keys.
-/

namespace PagedRows.Json

/-- The values that are read where at most so many arrays and objects may be open. -/
inductive Readable : Nat → Json → Prop where
  | null {depth : Nat} : Readable depth .null
  | bool {depth : Nat} {value : Bool} : Readable depth (.bool value)
  | integer {depth : Nat} {value : Int} (least : -2 ^ 63 ≤ value) (below : value < 2 ^ 64) :
      Readable depth (.integer value)
  | float {depth : Nat} {value : Double} {finite : value.isFinite = true} :
      Readable depth (.float value finite)
  | string {depth : Nat} {text : String} : Readable depth (.string text)
  | array {depth : Nat} {items : List Json}
      (each : ∀ item ∈ items, Readable depth item) :
      Readable (depth + 1) (.array items)
  | object {depth : Nat} {members : List (String × Json)}
      (ordered : members.Pairwise fun member later => member.1 < later.1)
      (each : ∀ member ∈ members, Readable depth member.2) :
      Readable (depth + 1) (.object members)

def memberText (member : String × Json) : List Char :=
  stringText member.1 ++ ':' :: text member.2

theorem itemsText_eq (items : List Json) :
    itemsText items = [','].intercalate (items.map text) := by
  induction items with
  | nil => rfl
  | cons item items induction =>
      cases items with
      | nil => simp [itemsText]
      | cons next items =>
          rw [itemsText, induction]
          · simp
          · exact nofun

theorem membersText_eq (members : List (String × Json)) :
    membersText members = [','].intercalate (members.map memberText) := by
  induction members with
  | nil => rfl
  | cons member members induction =>
      cases members with
      | nil => simp [membersText, memberText]
      | cons next members =>
          rw [membersText, induction]
          · simp [memberText]
          · exact nofun

/-- What is written for a value can be read back where it ends, and cannot be mistaken for
the closing of an array or an object. -/
structure ReadsBack {α : Type} (item : Read α) (write : α → List Char) (value : α) :
    Prop where
  begins : ∀ rest, ∃ first after, write value ++ rest = first :: after ∧
    isBlank first = false ∧ first ≠ ']' ∧ first ≠ '}'
  reads : ∀ rest, Ends rest → item (write value ++ rest) = .ok (value, rest)

section Separated

variable {α : Type} {item : Read α} {write : α → List Char} {close : Char}

theorem not_blank_of_closes (closes : close = ']' ∨ close = '}') :
    isBlank close = false ∧ close ≠ ',' := by
  rcases closes with rfl | rfl
  · decide
  · decide

theorem readItems_intercalate (closes : close = ']' ∨ close = '}') {value : α}
    {values : List α} (each : ∀ other ∈ value :: values, ReadsBack item write other)
    {bound : Nat} (enough : values.length < bound) (taken : List α) (rest : List Char) :
    readItems item close bound taken
        ([','].intercalate ((value :: values).map write) ++ close :: rest) =
      .ok (taken.reverse ++ value :: values, rest) := by
  obtain ⟨notBlank, notComma⟩ := not_blank_of_closes closes
  -- The bound falls with every item, and the list of items that are left with it.
  induction values generalizing value bound taken with
  | nil =>
      obtain ⟨bound, rfl⟩ := Nat.exists_eq_succ_of_ne_zero (Nat.ne_of_gt enough)
      have read := (each value List.mem_cons_self).reads (close :: rest)
        (ends_cons (.inr closes))
      have text : [','].intercalate ([value].map write) = write value := by simp
      rw [readItems, text, read]
      simp [notBlank, notComma]
  | cons next values induction =>
      obtain ⟨bound, rfl⟩ := Nat.exists_eq_succ_of_ne_zero
        (Nat.ne_of_gt (Nat.lt_of_le_of_lt (Nat.zero_le _) enough))
      have text : [','].intercalate ((value :: next :: values).map write) ++ close :: rest =
          write value ++
            ',' :: ([','].intercalate ((next :: values).map write) ++ close :: rest) := by
        simp
      have read := (each value List.mem_cons_self).reads
        (',' :: ([','].intercalate ((next :: values).map write) ++ close :: rest))
        (ends_cons (.inl rfl))
      have later := induction (fun other member => each other (List.mem_cons_of_mem _ member))
        (Nat.lt_of_succ_lt_succ enough) (value :: taken)
      have comma : isBlank ',' = false := rfl
      rw [readItems, text, read]
      simp only [List.dropWhile_cons, comma, Bool.false_eq_true, ↓reduceIte, later]
      simp

theorem length_le_intercalate (texts : List (List Char)) :
    texts.length ≤ ([','].intercalate texts).length + 1 := by
  induction texts with
  | nil => exact Nat.zero_le _
  | cons first texts induction =>
      cases texts with
      | nil => simp
      | cons second texts =>
          rw [List.intercalate_cons_cons]
          simp only [List.length_append, List.length_cons, List.length_nil] at induction ⊢
          omega

theorem readUntil_intercalate (closes : close = ']' ∨ close = '}') {values : List α}
    (each : ∀ value ∈ values, ReadsBack item write value) (rest : List Char) :
    readUntil item close ([','].intercalate (values.map write) ++ close :: rest) =
      .ok (values, rest) := by
  cases values with
  | nil =>
      simp [readUntil, (not_blank_of_closes closes).1]
  | cons value values =>
      have enough : values.length <
          ([','].intercalate ((value :: values).map write) ++ close :: rest).length := by
        have commas := length_le_intercalate ((value :: values).map write)
        simp only [List.length_map, List.length_append, List.length_cons] at commas ⊢
        omega
      have items := readItems_intercalate closes each enough [] rest
      have first : ∃ others, [','].intercalate ((value :: values).map write) ++
          close :: rest = write value ++ others := by
        cases values with
        | nil => exact ⟨close :: rest, by simp⟩
        | cons next values =>
            exact ⟨',' :: ([','].intercalate ((next :: values).map write) ++ close :: rest),
              by simp⟩
      obtain ⟨others, first⟩ := first
      obtain ⟨character, after, text, notBlank, noBracket, noBrace⟩ :=
        (each value List.mem_cons_self).begins others
      have noClose : character ≠ close := by
        rcases closes with rfl | rfl
        · exact noBracket
        · exact noBrace
      rw [first, text] at items ⊢
      simp only [readUntil, List.dropWhile_cons, notBlank, Bool.false_eq_true, ↓reduceIte,
        noClose]
      exact items

end Separated

theorem ne_of_begins_number {first character : Char}
    (begins : first = '-' ∨ first.isDigit = true) (noSign : character ≠ '-')
    (noDigit : character.isDigit = false) : first ≠ character := by
  rintro rfl
  rcases begins with sign | digit
  · exact noSign sign
  · rw [noDigit] at digit
    cases digit

theorem isBlank_of_begins_number {first : Char}
    (begins : first = '-' ∨ first.isDigit = true) : isBlank first = false := by
  simp only [isBlank, Bool.or_eq_false_iff, decide_eq_false_iff_not]
  exact ⟨⟨⟨ne_of_begins_number begins (by decide) rfl,
    ne_of_begins_number begins (by decide) rfl⟩,
    ne_of_begins_number begins (by decide) rfl⟩,
    ne_of_begins_number begins (by decide) rfl⟩

/-- No other value begins with a sign or a digit. -/
theorem readValue_of_begins_number {first : Char}
    (begins : first = '-' ∨ first.isDigit = true) (depth : Nat) (rest : List Char) :
    readValue depth (first :: rest) = readNumber (first :: rest) := by
  have kept : (first :: rest).dropWhile isBlank = first :: rest := by
    simp [isBlank_of_begins_number begins]
  have other {character : Char} {after : List Char} (same : first :: rest = character :: after)
      (noSign : character ≠ '-') (noDigit : character.isDigit = false) : False :=
    ne_of_begins_number begins noSign noDigit (List.cons.inj same).1
  rw [readValue, kept]
  split
  next same => exact (other same (by decide) rfl).elim
  next same => exact (other same (by decide) rfl).elim
  next same => exact (other same (by decide) rfl).elim
  next same => exact (other same (by decide) rfl).elim
  next same => exact (other same (by decide) rfl).elim
  next same => exact (other same (by decide) rfl).elim
  next => rfl

theorem ReadsBack.of_parts {depth : Nat} {value : Json} {parts : Layout.Parts}
    {negative : Bool} (proper : parts.Proper)
    (written : text value = parts.signedText floatLayout negative)
    (read : partsValue negative parts = .ok value) :
    ReadsBack (readValue depth) text value := by
  obtain ⟨first, after, begins, number⟩ := signedText_eq_cons proper floatLayout negative
  have front (rest : List Char) : text value ++ rest = first :: (after ++ rest) := by
    rw [written, begins, List.cons_append]
  constructor
  · intro rest
    exact ⟨first, after ++ rest, front rest, isBlank_of_begins_number number,
      ne_of_begins_number number (by decide) rfl, ne_of_begins_number number (by decide) rfl⟩
  · intro rest ends
    rw [front, readValue_of_begins_number number, ← front, written]
    exact readNumber_append proper ends read

theorem readMember_memberText {depth : Nat} {member : String × Json}
    (value : ReadsBack (readValue depth) text member.2) :
    ReadsBack (readMember (readValue depth)) memberText member where
  begins := by
    intro rest
    exact ⟨'"', _, rfl, rfl, by decide, by decide⟩
  reads := by
    intro rest ends
    obtain ⟨after, text, key⟩ := stringText_append member.1 (':' :: (text member.2 ++ rest))
    have written : memberText member ++ rest = '"' :: after := by
      rw [← text, memberText, List.append_assoc, List.cons_append]
    have held := value.reads rest ends
    rw [written, readMember]
    change (readCharacters [] after >>= _) = _
    rw [key]
    change (readValue depth _ >>= _) = _
    rw [held]
    rfl

private theorem insertMember_of_lt {members : List (String × Json)} {key : String} {value : Json}
    (greatest : ∀ member ∈ members, member.1 < key) :
    insertMember key value members = members ++ [(key, value)] := by
  induction members with
  | nil => rfl
  | cons member members induction =>
      have before := greatest member List.mem_cons_self
      have other : key ≠ member.1 := by
        rintro rfl
        exact String.lt_irrefl _ before
      rw [insertMember, if_neg (String.lt_asymm before), if_neg other,
        induction fun later among => greatest later (List.mem_cons_of_mem _ among)]
      rfl

private theorem foldl_insertMember_of_pairwise {held members : List (String × Json)}
    (ordered : (held ++ members).Pairwise fun member later => member.1 < later.1) :
    members.foldl (fun held member => insertMember member.1 member.2 held) held =
      held ++ members := by
  induction members generalizing held with
  | nil => simp
  | cons member members induction =>
      have greatest : ∀ earlier ∈ held, earlier.1 < member.1 := by
        intro earlier among
        exact (List.pairwise_append.mp ordered).2.2 earlier among member List.mem_cons_self
      rw [List.foldl_cons, insertMember_of_lt greatest, induction]
      · simp
      · simpa using ordered

theorem ofMembers_of_pairwise {members : List (String × Json)}
    (ordered : members.Pairwise fun member later => member.1 < later.1) :
    ofMembers members = .object members :=
  congrArg Json.object (foldl_insertMember_of_pairwise ordered)

/-- A value that is readable is read back from its text. -/
theorem Readable.readsBack {depth : Nat} {value : Json} (readable : Readable depth value) :
    ReadsBack (readValue depth) text value := by
  induction readable with
  | null =>
      constructor
      · intro rest
        exact ⟨'n', _, rfl, rfl, by decide, by decide⟩
      · intro rest _
        rw [readValue.eq_def]
        rfl
  | @bool _ value =>
      cases value with
      | false =>
          constructor
          · intro rest
            exact ⟨'f', _, rfl, rfl, by decide, by decide⟩
          · intro rest _
            rw [readValue.eq_def]
            rfl
      | true =>
          constructor
          · intro rest
            exact ⟨'t', _, rfl, rfl, by decide, by decide⟩
          · intro rest _
            rw [readValue.eq_def]
            rfl
  | integer least below =>
      exact .of_parts (Layout.proper_integerParts _) (Layout.integerText_eq_parts _ _)
        (partsValue_integerParts least below)
  | @float _ _ finite =>
      exact .of_parts (floatLayout.proper_parts finite).toProper
        (floatLayout.text_eq_parts _) (partsValue_parts finite)
  | @string depth string =>
      constructor
      · intro rest
        exact ⟨'"', _, rfl, rfl, by decide, by decide⟩
      · intro rest _
        obtain ⟨after, written, read⟩ := stringText_append string rest
        change readValue depth (stringText string ++ rest) = _
        rw [written, readValue.eq_def]
        change (readCharacters [] after).map _ = _
        rw [read]
        rfl
  | @array depth items each induction =>
      constructor
      · intro rest
        exact ⟨'[', _, rfl, rfl, by decide, by decide⟩
      · intro rest _
        have read := readUntil_intercalate (.inl rfl) induction rest
        have written : text (.array items) ++ rest =
            '[' :: ([','].intercalate (items.map text) ++ ']' :: rest) := by
          rw [text, itemsText_eq]
          simp
        rw [written, readValue.eq_def]
        change (readUntil (readValue depth) ']' _).map _ = _
        rw [read]
        rfl
  | @object depth members ordered each induction =>
      constructor
      · intro rest
        exact ⟨'{', _, rfl, rfl, by decide, by decide⟩
      · intro rest _
        have read := readUntil_intercalate (.inr rfl)
          (fun member among => readMember_memberText (induction member among)) rest
        have written : text (.object members) ++ rest =
            '{' :: ([','].intercalate (members.map memberText) ++ '}' :: rest) := by
          rw [text, membersText_eq]
          simp
        rw [written, readValue.eq_def]
        change (readUntil (readMember (readValue depth)) '}' _).map _ = _
        rw [read]
        change Except.ok (ofMembers members, rest) = _
        rw [ofMembers_of_pairwise ordered]

theorem read_text_of_readable {value : Json} (readable : Readable depthLimit value) :
    read value.text = .ok value := by
  have taken := readable.readsBack.reads [] ends_nil
  rw [List.append_nil] at taken
  rw [read, taken]
  rfl

end PagedRows.Json
