import PagedRows.Proofs.CellValues
import PagedRows.Proofs.PrintedLines
import PagedRows.Proofs.ReadLines
import PagedRows.Proofs.ReadValues
import PagedRows.Proofs.RowText

/-!
# Rows in text

A row whose floats are finite is read back from its text, cell by cell and bit by bit;
and rows that have been read from any text have no other floats.
-/

namespace PagedRows

namespace Cell

/-- A float that can be written as a number; other cells always can be written. -/
def Finite : Cell → Prop
  | float value => value.isFinite = true
  | _ => True

theorem denotes_toJson {cell : Cell} (finite : cell.Finite) : cell.toJson.Denotes cell := by
  cases cell with
  | null => exact .null
  | integer value =>
      have denotes := Json.Denotes.integer ⟨value.le_toInt, value.toInt_lt⟩
      rw [Int64.ofInt_toInt] at denotes
      exact denotes
  | float value =>
      have written : toJson (.float value) = .float value finite := dif_pos finite
      rw [written]
      exact .float
  | string text => exact .string
  | blob bytes => exact .blob

theorem ofJson_toJson {cell : Cell} (finite : cell.Finite) :
    ofJson cell.toJson = .ok cell :=
  ofJson_eq_ok_iff.mpr (denotes_toJson finite)

theorem readable_toJson {cell : Cell} (depth : Nat) :
    Json.Readable (depth + 2) cell.toJson := by
  cases cell with
  | null => exact .null
  | integer value =>
      have below := value.toInt_lt
      exact .integer value.le_toInt (by omega)
  | float value =>
      rw [toJson]
      split
      · exact .float
      · exact .string
  | string text => exact .string
  | blob bytes =>
      apply Json.Readable.object (List.pairwise_singleton _ _)
      intro member among
      rw [List.mem_singleton.mp among]
      apply Json.Readable.array
      intro item member
      obtain ⟨byte, -, rfl⟩ := List.mem_map.mp member
      have below := byte.toNat_lt
      exact .integer (by omega) (by omega)

theorem finite_of_ofJson {depth : Nat} {value : Json} {cell : Cell}
    (readable : Json.Readable depth value) (done : ofJson value = .ok cell) :
    cell.Finite := by
  cases ofJson_eq_ok_iff.mp done with
  | null => trivial
  | integer => trivial
  | @wide number =>
      cases readable with
      | integer least below =>
          have small : number.natAbs < 2 ^ 64 := by omega
          exact Binary.isFinite_ofInt small (by decide) (by decide)
  | @float _ finite => exact finite
  | string => trivial
  | blob => trivial

/-- The cells of a row, as an array. -/
def rowArray (cells : List Cell) : Json :=
  .array (cells.map toJson)

private theorem rowOfJson_rowArray {cells : List Cell} (finite : ∀ cell ∈ cells, cell.Finite) :
    rowOfJson (rowArray cells) = .ok cells := by
  have read : cells.mapM (ofJson ∘ toJson) = .ok (cells.map id) :=
    mapM_eq_ok cells fun cell among => ofJson_toJson (finite cell among)
  rw [List.map_id] at read
  rw [rowArray, rowOfJson, List.mapM_map, read]

theorem readable_rowArray (cells : List Cell) (depth : Nat) :
    Json.Readable (depth + 3) (rowArray cells) := by
  apply Json.Readable.array
  intro item member
  obtain ⟨cell, -, rfl⟩ := List.mem_map.mp member
  exact readable_toJson depth

private theorem read_rowArray (cells : List Cell) :
    Json.read (rowArray cells).text = .ok (rowArray cells) :=
  Json.read_text_of_readable (readable_rowArray cells 124)

private theorem finite_of_rowOfJson {depth : Nat} {value : Json} {cells : List Cell}
    (readable : Json.Readable depth value) (done : rowOfJson value = .ok cells) :
    ∀ cell ∈ cells, cell.Finite := by
  intro cell member
  cases readable with
  | array each =>
      obtain ⟨item, among, read⟩ := exists_of_mem_mapM done member
      exact finite_of_ofJson (each item among) read
  | null => cases done
  | bool => cases done
  | integer _ _ => cases done
  | float => cases done
  | string => cases done
  | object _ _ => cases done

end Cell

namespace RowLines

theorem finite_of_read {text : List Char} {rows : List (List Cell)}
    (accepted : read text = .ok rows) : ∀ cells ∈ rows, ∀ cell ∈ cells, cell.Finite := by
  intro cells member
  obtain ⟨line, number, held⟩ := exists_row_of_mem_read accepted member
  obtain ⟨value, read, done⟩ := row_eq_ok_iff.mp held
  exact Cell.finite_of_rowOfJson (Json.readable_of_read read) done

private theorem rowsOfLine_rowArray {cells : List Cell} (finite : ∀ cell ∈ cells, cell.Finite)
    (number : Nat) : rowsOfLine (Cell.rowArray cells).text number = .ok [cells] := by
  have trimmed : Text.trim Text.isBlank (Cell.rowArray cells).text =
      (Cell.rowArray cells).text := by
    rw [Cell.rowArray, Json.text]
    exact Text.trim_of_ends (Json.itemsText (cells.map Cell.toJson)) rfl rfl
  have present : Text.trim Text.isBlank (Cell.rowArray cells).text ≠ [] := by
    rw [trimmed, Cell.rowArray, Json.text]
    exact List.cons_ne_nil _ _
  have held : row (Cell.rowArray cells).text number = .ok cells :=
    row_eq_ok_iff.mpr ⟨_, Cell.read_rowArray cells, Cell.rowOfJson_rowArray finite⟩
  rw [rowsOfLine_of_present present, trimmed, held]
  rfl

private theorem readLines_rowArrays {rows : List (List Cell)}
    (finite : ∀ cells ∈ rows, ∀ cell ∈ cells, cell.Finite) (number : Nat) :
    readLines (rows.map fun cells => (Cell.rowArray cells).text) number = .ok rows := by
  induction rows generalizing number with
  | nil => rfl
  | cons cells rows induction =>
      obtain ⟨first, others⟩ := List.forall_mem_cons.mp finite
      rw [List.map_cons, readLines_cons_of_ok (rowsOfLine_rowArray first number),
        induction others]
      rfl

/-- Rows are read back from lines that hold them as arrays. -/
theorem read_unlines {rows : List (List Cell)}
    (finite : ∀ cells ∈ rows, ∀ cell ∈ cells, cell.Finite) :
    read (Text.unlines (rows.map fun cells => (Cell.rowArray cells).text)) = .ok rows := by
  have single : ∀ line ∈ rows.map fun cells => (Cell.rowArray cells).text, '\n' ∉ line := by
    intro line member
    obtain ⟨cells, -, rfl⟩ := List.mem_map.mp member
    exact Json.newline_not_mem_of_plain (Cell.readable_rowArray cells 0).plain_text
  rw [read_eq_readLines, Text.lines_unlines single, readLines_append, readLines_rowArrays finite]
  exact congrArg Except.ok (List.append_nil rows)

end RowLines

end PagedRows
