import PagedRows.Proofs.Outcomes
import PagedRows.RowLines

/-!
# Reading one line after another

A text is read line by line: a line gives one row, or none where it is blank, and the first
fault ends it all.  Whatever is said about the rows of a text is said about those of its
lines first.
-/

namespace PagedRows.RowLines

open Text

theorem row_of_error {line : List Char} {flaw : Json.Flaw}
    (read : Json.read line = .error flaw) (number : Nat) :
    row line number = .error (syntaxFault number flaw) := by
  rw [row, read]

theorem row_of_ok {line : List Char} {value : Json} (read : Json.read line = .ok value)
    (number : Nat) :
    row line number = (Cell.rowOfJson value).mapError (locateFault number) := by
  rw [row, read]

theorem row_eq_ok_iff {line : List Char} {number : Nat} {cells : List Cell} :
    row line number = .ok cells ↔
      ∃ value, Json.read line = .ok value ∧ Cell.rowOfJson value = .ok cells := by
  constructor
  · intro done
    cases read : Json.read line with
    | error flaw =>
        rw [row_of_error read] at done
        cases done
    | ok value =>
        rw [row_of_ok read] at done
        exact ⟨value, rfl, mapError_eq_ok_iff.mp done⟩
  · rintro ⟨value, read, held⟩
    rw [row_of_ok read]
    exact mapError_eq_ok_iff.mpr held

/-- What is read from a line: a row, or nothing where there is only white space. -/
def rowsOfLine (line : List Char) (number : Nat) : Except Fault (List (List Cell)) :=
  if (trim isBlank line).isEmpty then .ok []
  else (row (trim isBlank line) number).map fun cells => [cells]

/-- What is read from lines of which the first has the given number. -/
def readLines : List (List Char) → Nat → Except Fault (List (List Cell))
  | [], _ => .ok []
  | line :: lines, number => do
      let found ← rowsOfLine line number
      let others ← readLines lines (number + 1)
      return found ++ others

theorem rowsOfLine_of_blank {line : List Char} (blank : trim isBlank line = [])
    (number : Nat) : rowsOfLine line number = .ok [] := by
  rw [rowsOfLine, blank]
  rfl

theorem rowsOfLine_of_present {line : List Char} (present : trim isBlank line ≠ [])
    (number : Nat) :
    rowsOfLine line number =
      (row (trim isBlank line) number).map fun cells => [cells] :=
  if_neg fun empty => present (List.isEmpty_iff.mp empty)

theorem rowsOfLine_eq_ok_cases {line : List Char} {number : Nat} {found : List (List Cell)}
    (read : rowsOfLine line number = .ok found) :
    found = [] ∨ ∃ cells, found = [cells] ∧ row (trim isBlank line) number = .ok cells := by
  by_cases blank : trim isBlank line = []
  · rw [rowsOfLine_of_blank blank] at read
    cases read
    exact .inl rfl
  · rw [rowsOfLine_of_present blank] at read
    obtain ⟨cells, held, same⟩ := exists_of_map_eq_ok read
    exact .inr ⟨cells, same.symm, held⟩

theorem readLines_cons_of_ok {line : List Char} {number : Nat} {found : List (List Cell)}
    (read : rowsOfLine line number = .ok found) (lines : List (List Char)) :
    readLines (line :: lines) number = (readLines lines (number + 1)).map (found ++ ·) := by
  rw [readLines, read]
  rfl

theorem readLines_cons_of_error {line : List Char} {number : Nat} {fault : Fault}
    (refused : rowsOfLine line number = .error fault) (lines : List (List Char)) :
    readLines (line :: lines) number = .error fault := by
  rw [readLines, refused]
  rfl

theorem readLines_cons_of_blank {line : List Char} (blank : trim isBlank line = [])
    (number : Nat) (lines : List (List Char)) :
    readLines (line :: lines) number = readLines lines (number + 1) := by
  rw [readLines_cons_of_ok (rowsOfLine_of_blank blank number)]
  cases readLines lines (number + 1) with
  | error fault => rfl
  | ok rows => rfl

theorem exists_of_readLines_cons_eq_ok {line : List Char} {lines : List (List Char)}
    {number : Nat} {rows : List (List Cell)}
    (done : readLines (line :: lines) number = .ok rows) :
    ∃ found others, rowsOfLine line number = .ok found ∧
      readLines lines (number + 1) = .ok others ∧ rows = found ++ others := by
  rw [readLines] at done
  obtain ⟨found, first, done⟩ := exists_of_bind_eq_ok done
  obtain ⟨others, rest, done⟩ := exists_of_bind_eq_ok done
  cases done
  exact ⟨found, others, first, rest, rfl⟩

theorem readLines_append (front back : List (List Char)) (number : Nat) :
    readLines (front ++ back) number = do
      let found ← readLines front number
      let others ← readLines back (number + front.length)
      return found ++ others := by
  induction front generalizing number with
  | nil =>
      change readLines back number = readLines back number >>= fun others => .ok others
      cases readLines back number with
      | error fault => rfl
      | ok rows => rfl
  | cons line front induction =>
      cases here : rowsOfLine line number with
      | error fault =>
          rw [List.cons_append, readLines_cons_of_error here, readLines_cons_of_error here]
          rfl
      | ok found =>
          have next : number + (line :: front).length = number + 1 + front.length := by
            rw [List.length_cons]
            omega
          rw [List.cons_append, readLines_cons_of_ok here, readLines_cons_of_ok here,
            induction, next]
          cases readLines front (number + 1) with
          | error fault => rfl
          | ok earlier =>
              cases readLines back (number + 1 + front.length) with
              | error fault => rfl
              | ok others =>
                  exact congrArg Except.ok (List.append_assoc found earlier others).symm

theorem length_readLines_le {lines : List (List Char)} {number : Nat}
    {rows : List (List Cell)} (done : readLines lines number = .ok rows) :
    rows.length ≤ lines.length := by
  induction lines generalizing number rows with
  | nil =>
      cases done
      exact Nat.le_refl _
  | cons line lines induction =>
      obtain ⟨found, others, first, rest, rfl⟩ := exists_of_readLines_cons_eq_ok done
      have later := induction rest
      have here : found.length ≤ 1 := by
        rcases rowsOfLine_eq_ok_cases first with rfl | ⟨cells, rfl, -⟩
        · exact Nat.zero_le _
        · exact Nat.le_refl _
      rw [List.length_append, List.length_cons]
      omega

theorem read_eq_readLines (text : List Char) : read text = readLines (lines text) 1 := by
  have numbered (number : Nat) (lines : List (List Char)) :
      ((((lines.map (trim isBlank)).zipIdx number).filter fun entry =>
        !entry.1.isEmpty).mapM fun entry => row entry.1 entry.2) = readLines lines number := by
    induction lines generalizing number with
    | nil => rfl
    | cons line lines induction =>
        rw [List.map_cons, List.zipIdx_cons]
        cases trimmed : trim isBlank line with
        | nil =>
            rw [readLines_cons_of_blank trimmed, ← induction]
            rfl
        | cons first rest =>
            have present : trim isBlank line ≠ [] := by
              rw [trimmed]
              exact List.cons_ne_nil first rest
            rw [List.filter_cons_of_pos rfl, List.mapM_cons, induction, readLines,
              rowsOfLine_of_present present, trimmed]
            cases row (first :: rest) number with
            | error fault => rfl
            | ok cells => rfl
  exact numbered 1 (lines text)

theorem exists_row_of_mem_read {text : List Char} {rows : List (List Cell)}
    (accepted : read text = .ok rows) {cells : List Cell} (member : cells ∈ rows) :
    ∃ line number, row line number = .ok cells := by
  obtain ⟨⟨line, number⟩, -, held⟩ := exists_of_mem_mapM accepted member
  exact ⟨line, number, held⟩

theorem exists_row_of_read_eq_error {text : List Char} {fault : Fault}
    (refused : read text = .error fault) :
    ∃ line number, row line number = .error fault := by
  obtain ⟨⟨line, number⟩, -, refused⟩ := exists_of_mapM_eq_error refused
  exact ⟨line, number, refused⟩

end PagedRows.RowLines
