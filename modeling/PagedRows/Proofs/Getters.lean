import PagedRows.Proofs.Changes
import PagedRows.Proofs.Outcomes
import PagedRows.Window.Getter

/-!
# Getters as views

A getter looks at one cell and makes a reading of it, or refuses its kind.  All else that
it reports comes from the address: it fails where the window has no cell to show, and the
faults of both sorts name the address that was given.
-/

namespace PagedRows

/-- What a getter makes of a cell. -/
def Getter.look : Getter → Cell → Except Fault Reading
  | kind, cell => .ok (.kind cell.kind)
  | isNull, cell => .ok (.flag (cell.kind = .null))
  | isBlob, cell => .ok (.flag (cell.kind = .blob || cell.kind = .null))
  | isLong, cell => .ok (.flag (cell.kind = .integer))
  | isFloat, cell => .ok (.flag (cell.kind = .float))
  | isString, cell => .ok (.flag (cell.kind = .string || cell.kind = .null))
  | blob, cell => cell.bytes?.map .blob
  | string, cell => cell.text?.map .string
  | long, cell => cell.quantity.map fun quantity => .long quantity.toInt64
  | short, cell => cell.quantity.map fun quantity => .short quantity.toInt64.toInt16
  | int, cell => cell.quantity.map fun quantity => .int quantity.toInt64.toInt32
  | double, cell => cell.quantity.map fun quantity => .double quantity.toDouble
  | float, cell => cell.quantity.map fun quantity => .float (quantity.toDouble.convert .single)
  | json, cell => .ok (.json cell.toJson)

namespace Window

section Views

variable {α β : Type} {window : Window} {row : Position} {column : Nat} {cell : Cell}
  {look : Cell → Except Fault α}

theorem view_eq_of_cell (held : window.cell row column = .ok cell) :
    window.view row column look = (look cell).mapError (·.atCell row.val column) := by
  rw [view, held]
  rfl

theorem view_of_cell {shown : α} (held : window.cell row column = .ok cell)
    (looks : look cell = .ok shown) : window.view row column look = .ok shown := by
  rw [view_eq_of_cell held, looks]
  rfl

theorem view_of_refused {fault : Fault} (held : window.cell row column = .ok cell)
    (refused : look cell = .error fault) :
    window.view row column look = .error (fault.atCell row.val column) := by
  rw [view_eq_of_cell held, refused]
  rfl

theorem view_of_fault {fault : Fault} (missing : window.cell row column = .error fault) :
    window.view row column look = .error fault := by
  rw [view, missing]
  rfl

theorem map_view (change : α → β) :
    (window.view row column look).map change =
      window.view row column fun cell => (look cell).map change := by
  cases found : window.cell row column with
  | error fault =>
      rw [view_of_fault found, view_of_fault found]
      rfl
  | ok cell =>
      rw [view_eq_of_cell found, view_eq_of_cell found]
      cases look cell with
      | error fault => rfl
      | ok shown => rfl

theorem map_cell (change : Cell → α) :
    (window.cell row column).map change =
      window.view row column fun cell => .ok (change cell) := by
  cases found : window.cell row column with
  | error fault =>
      rw [view_of_fault found]
      rfl
  | ok cell =>
      rw [view_eq_of_cell found]
      rfl

end Views

/-- Every getter is a view of one cell. -/
theorem read_eq_view (window : Window) (row : Position) (column : Nat) (getter : Getter) :
    window.read row column getter = window.view row column getter.look := by
  cases getter with
  | kind => rw [read, kindAt, map_cell, map_view]; rfl
  | isNull => rw [read, isNull, kindAt, map_map, map_cell, map_view]; rfl
  | isBlob => rw [read, isBlob, kindAt, map_map, map_cell, map_view]; rfl
  | isLong => rw [read, isInteger, kindAt, map_map, map_cell, map_view]; rfl
  | isFloat => rw [read, isFloat, kindAt, map_map, map_cell, map_view]; rfl
  | isString => rw [read, isString, kindAt, map_map, map_cell, map_view]; rfl
  | blob => exact map_view _
  | string => exact map_view _
  | long => rw [read, longAt, map_map, quantityAt, map_view]; rfl
  | short => rw [read, shortAt, longAt, map_map, map_map, quantityAt, map_view]; rfl
  | int => rw [read, intAt, longAt, map_map, map_map, quantityAt, map_view]; rfl
  | double => rw [read, doubleAt, map_map, quantityAt, map_view]; rfl
  | float => rw [read, singleAt, doubleAt, map_map, map_map, quantityAt, map_view]; rfl
  | json => rw [read, cellJson_eq_map, map_map, map_cell]; rfl

end Window

end PagedRows
