import PagedRows.Binary
import PagedRows.Cell.Views
import PagedRows.Window

/-!
# Access to single cells

Cells are addressed by the position of their row in the whole result and by
their column.  Faults of reading and writing name the address that was given,
not the place of the row inside the window.
-/

namespace PagedRows

namespace Window

/-- The row at a position, with its index inside the window. -/
def rowAt? (window : Window) (row : Position) : Option (Nat × Array Cell) := do
  let index ← row.offsetFrom? window.start
  let cells ← window.rows[index]?
  return (index, cells)

/-- The cell at an address, with the index of its row inside the window. -/
def find (window : Window) (row : Position) (column : Nat) :
    Except Fault (Nat × Cell) :=
  if window.isDisposed then .error window.disposedFault
  else
    match window.rowAt? row with
    | none =>
        .error ((Fault.new .outOfRange
          (s!"bad row number: start position {window.start.val}, " ++
            s!"row count {window.rows.size}")).atCell row.val column)
    | some (index, cells) =>
        match cells[column]? with
        | none =>
            .error ((Fault.new .outOfRange
              s!"bad column number: row has {cells.size} columns").atCell
                row.val column)
        | some cell => .ok (index, cell)

def cell (window : Window) (row : Position) (column : Nat) : Except Fault Cell :=
  (window.find row column).map Prod.snd

/-- What a view shows of the cell at an address. -/
def view {α : Type} (window : Window) (row : Position) (column : Nat)
    (look : Cell → Except Fault α) : Except Fault α := do
  let cell ← window.cell row column
  (look cell).mapError (·.atCell row.val column)

section Reading

variable (window : Window) (row : Position) (column : Nat)

def kindAt : Except Fault Cell.Kind :=
  (window.cell row column).map Cell.kind

def isNull : Except Fault Bool :=
  (window.kindAt row column).map fun kind => kind = .null

/-- Null cells count as blobs. -/
def isBlob : Except Fault Bool :=
  (window.kindAt row column).map fun kind => kind = .blob || kind = .null

def isInteger : Except Fault Bool :=
  (window.kindAt row column).map fun kind => kind = .integer

def isFloat : Except Fault Bool :=
  (window.kindAt row column).map fun kind => kind = .float

/-- Null cells count as text. -/
def isString : Except Fault Bool :=
  (window.kindAt row column).map fun kind => kind = .string || kind = .null

def bytesAt : Except Fault (Option (List UInt8)) :=
  window.view row column Cell.bytes?

def textAt : Except Fault (Option String) :=
  window.view row column Cell.text?

def quantityAt : Except Fault Quantity :=
  window.view row column Cell.quantity

def longAt : Except Fault Int64 :=
  (window.quantityAt row column).map Quantity.toInt64

/-- The low 32 bits of the integer. -/
def intAt : Except Fault Int32 :=
  (window.longAt row column).map Int64.toInt32

/-- The low 16 bits of the integer. -/
def shortAt : Except Fault Int16 :=
  (window.longAt row column).map Int64.toInt16

def doubleAt : Except Fault Double :=
  (window.quantityAt row column).map Quantity.toDouble

/-- The nearest float of 32 bits. -/
def singleAt : Except Fault Single :=
  (window.doubleAt row column).map (·.convert .single)

/-- What a buffer holds after the text of a cell has been copied into it; a
null cell empties it. -/
def copyText : Except Fault String :=
  (window.textAt row column).map (·.getD "")

end Reading

namespace Action

def putCell (value : Cell) (row : Position) (column : Nat) : Action Unit := do
  let window ← get
  match window.find row column with
  | .error fault => throw fault
  | .ok (index, _) =>
      set { window with
        rows := window.rows.modify index (·.setIfInBounds column value) }

def putNull (row : Position) (column : Nat) : Action Unit :=
  putCell .null row column

def putLong (value : Int64) (row : Position) (column : Nat) : Action Unit :=
  putCell (.integer value) row column

def putDouble (value : Double) (row : Position) (column : Nat) : Action Unit :=
  putCell (.float value) row column

/-- Writes text.  An absent value is refused before anything else is looked at. -/
def putString (text? : Option String) (row : Position) (column : Nat) :
    Action Unit :=
  match text? with
  | some text => putCell (.string text) row column
  | none =>
      throw ((Fault.new .preconditionViolation
        "string value must not be absent").atCell row.val column)

/-- Writes bytes.  An absent value is refused before anything else is looked at. -/
def putBlob (bytes? : Option (List UInt8)) (row : Position) (column : Nat) :
    Action Unit :=
  match bytes? with
  | some bytes => putCell (.blob bytes) row column
  | none =>
      throw ((Fault.new .preconditionViolation
        "blob value must not be absent").atCell row.val column)

/-- Writes a cell in the way of its kind. -/
def put (cell : Cell) (row : Position) (column : Nat) : Action Unit :=
  match cell with
  | .null => putNull row column
  | .integer value => putLong value row column
  | .float value => putDouble value row column
  | .string text => putString (some text) row column
  | .blob bytes => putBlob (some bytes) row column

theorem put_eq_putCell (cell : Cell) (row : Position) (column : Nat) :
    put cell row column = putCell cell row column := by
  cases cell with
  | null => rfl
  | integer value => rfl
  | float value => rfl
  | string text => rfl
  | blob bytes => rfl

end Action

end Window

end PagedRows
