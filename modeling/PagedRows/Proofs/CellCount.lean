import PagedRows.Proofs.CellText

/-!
# The number of cells in a text

Every item of an array takes a character at least, and every row has a line of its own.
So rows that are read from a text have no more cells than the text has characters.
-/

namespace PagedRows

namespace Json

section Items

variable {α : Type} {item : Read α} {close : Char} {values : List α} {text rest : List Char}

private theorem length_le_of_readItems {bound : Nat} {taken : List α}
    (read : readItems item close bound taken text = .ok (values, rest)) :
    values.length ≤ taken.length + bound := by
  induction bound generalizing taken text with
  | zero => cases read
  | succ bound induction =>
      rw [readItems] at read
      cases first : item text with
      | error flaw =>
          rw [first] at read
          cases read
      | ok result =>
          rw [first] at read
          simp only at read
          split at read
          · cases read
          split at read
          · have most := induction read
            rw [List.length_cons] at most
            omega
          split at read
          · cases read
            rw [List.length_reverse, List.length_cons]
            omega
          · cases read

private theorem length_le_of_readUntil (read : readUntil item close text = .ok (values, rest)) :
    values.length ≤ text.length := by
  rw [readUntil] at read
  split at read
  · cases read
  split at read
  · cases read
    exact Nat.zero_le _
  · have most := length_le_of_readItems read
    rwa [List.length_nil, Nat.zero_add] at most

end Items

private theorem length_le_of_readValue {depth : Nat} {text rest : List Char} {items : List Json}
    (read : readValue depth text = .ok (.array items, rest)) : items.length ≤ text.length := by
  have fewer : (text.dropWhile isBlank).length ≤ text.length :=
    (List.dropWhile_sublist isBlank).length_le
  rw [readValue.eq_def] at read
  split at read
  next => cases read
  next => cases read
  next => cases read
  next =>
    obtain ⟨string, -, same⟩ := exists_of_map_eq_ok read
    cases same
  next opened =>
    split at read
    next => cases read
    next =>
      obtain ⟨⟨others, after⟩, array, same⟩ := exists_of_map_eq_ok read
      cases same
      have most := length_le_of_readUntil array
      rw [opened, List.length_cons] at fewer
      omega
  next =>
    split at read
    next => cases read
    next =>
      obtain ⟨members, -, same⟩ := exists_of_map_eq_ok read
      cases same
  next =>
    cases @readable_of_readNumber 0 _ _ _ read

private theorem length_le_of_read {text : List Char} {items : List Json}
    (accepted : read text = .ok (.array items)) : items.length ≤ text.length := by
  rw [read] at accepted
  obtain ⟨⟨held, rest⟩, taken, accepted⟩ := exists_of_bind_eq_ok accepted
  simp only at accepted
  split at accepted
  · cases accepted
    exact length_le_of_readValue taken
  · cases accepted

end Json

namespace Text

/-- The number of characters in all lines together. -/
def total : List (List Char) → Nat
  | [] => 0
  | line :: lines => line.length + total lines

theorem total_cons (line : List Char) (lines : List (List Char)) :
    total (line :: lines) = line.length + total lines :=
  rfl

private theorem total_lines_le (text : List Char) : total (lines text) ≤ text.length := by
  induction text with
  | nil => exact Nat.le_refl _
  | cons character text induction =>
      have longer : ∀ lines : List (List Char),
          total (consLine character lines) ≤ total lines + 1 := by
        intro lines
        unfold consLine
        split
        · rw [total_cons, List.length_nil]
          omega
        · cases lines with
          | nil => exact Nat.le_refl _
          | cons line lines =>
              simp only [total_cons, List.length_cons]
              omega
      have first := longer (lines text)
      simp only [lines, List.foldr_cons, List.length_cons] at first induction ⊢
      omega

end Text

namespace RowLines

private theorem length_le_of_row {line : List Char} {number : Nat} {cells : List Cell}
    (done : row line number = .ok cells) : cells.length ≤ line.length := by
  obtain ⟨value, read, held⟩ := row_eq_ok_iff.mp done
  cases value with
  | array items =>
      have counted : cells.length = items.length := length_of_mapM_eq_ok held
      rw [counted]
      exact Json.length_le_of_read read
  | _ => cases held

private theorem length_flatten_readLines_le {lines : List (List Char)} {number : Nat}
    {rows : List (List Cell)} (done : readLines lines number = .ok rows) :
    rows.flatten.length ≤ Text.total lines := by
  induction lines generalizing number rows with
  | nil =>
      cases done
      exact Nat.le_refl _
  | cons line lines induction =>
      obtain ⟨found, others, first, rest, rfl⟩ := exists_of_readLines_cons_eq_ok done
      have later := induction rest
      have here : found.flatten.length ≤ line.length := by
        rcases rowsOfLine_eq_ok_cases first with rfl | ⟨cells, rfl, held⟩
        · exact Nat.zero_le _
        · rw [List.flatten_singleton]
          exact Nat.le_trans (length_le_of_row held) (Text.length_trim_le _ line)
      rw [List.flatten_append, List.length_append, Text.total_cons]
      omega

/-- There are no more cells in a text than characters. -/
theorem length_flatten_read_le {text : List Char} {rows : List (List Cell)}
    (accepted : read text = .ok rows) : rows.flatten.length ≤ text.length := by
  rw [read_eq_readLines] at accepted
  exact Nat.le_trans (length_flatten_readLines_le accepted) (Text.total_lines_le text)

end RowLines

end PagedRows
