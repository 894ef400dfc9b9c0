import PagedRows.Window.Access

/-!
# Filling windows

Filling replaces the contents of a window by consecutive rows of one width.  It
goes row by row through the operations of the window.  A row of another width
is taken back, and the rows before it stay.
-/

namespace PagedRows.Window.Action

/-- The fault of a row whose width differs from the declared one. -/
def widthFault (row : Position) (columns : Nat) (relation : String) : Fault :=
  (Fault.new .preconditionViolation
    s!"row has {relation} cells than the {columns} declared columns").withRow
      row.val

/-- The fault of a row that has no position. -/
def unaddressableFault (written : Nat) : Fault :=
  (Fault.new .outOfRange
    s!"row {written} would lie past the last addressable position").withHint
      "Start the page at a lower position."

/-- Writes the cells of a row from a column on. -/
def writeCells (row : Position) (columns : Nat) (column : Nat) :
    List Cell → Action Unit
  | [] => if column < columns then throw (widthFault row columns "fewer") else pure ()
  | cell :: cells => do
      if columns ≤ column then throw (widthFault row columns "more")
      put cell row column
      writeCells row columns (column + 1) cells

/-- Appends a row, or leaves the rows as they were. -/
def writeRow (row : Position) (columns : Nat) (cells : List Cell) : Action Unit := do
  allocateRow
  try writeCells row columns 0 cells
  catch fault =>
    freeLastRow
    throw fault

/-- Appends rows after those already written; the result counts all of them. -/
def writeRows (start : Position) (columns : Nat) (written : Nat) :
    List (List Cell) → Action Nat
  | [] => pure written
  | cells :: rows =>
      match start.advance? written with
      | none => throw (unaddressableFault written)
      | some row => do
          writeRow row columns cells
          writeRows start columns (written + 1) rows

/-- Replaces the contents of the window by rows from a start position on. -/
def fill (start : Position) (columns : Nat) (rows : List (List Cell)) :
    Action Nat := do
  clear
  setStart start
  setColumns columns
  writeRows start columns 0 rows

end PagedRows.Window.Action
