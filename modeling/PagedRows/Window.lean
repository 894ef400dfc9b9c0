import PagedRows.Cell
import PagedRows.Position

/-!
# Windows

A window holds a slice of consecutive rows of a larger result, beginning at its
start position.  Whoever uses it holds a reference; when the last reference is
released the rows are dropped and the window is disposed for good.

Operations that change a window are actions: they run on a window and either
succeed or fail, and what they have changed stays changed in both cases.
-/

namespace PagedRows

/-- A named buffer of rows. -/
structure Window where
  name : String
  /-- The budget in bytes, which is recorded and not enforced. -/
  sizeBytes : Nat
  start : Position
  /-- The width of the rows that are allocated from now on. -/
  columns : Nat
  rows : Array (Array Cell)
  references : Nat
deriving DecidableEq

namespace Window

/-- The budget of a window for which none was given. -/
def defaultSizeBytes : Nat :=
  2024 * 1024

/-- The name of a window for which none was given, or an empty one. -/
def unnamed : String :=
  "<unnamed>"

/-- An empty window with one reference. -/
def empty (name? : Option String) (sizeBytes : Nat) : Window where
  name := (name?.filter (· ≠ "")).getD unnamed
  sizeBytes := sizeBytes
  start := 0
  columns := 0
  rows := #[]
  references := 1

/-- An empty window of the default size. -/
def named (name? : Option String) : Window :=
  .empty name? defaultSizeBytes

/-- An empty window of a size that may turn out to be negative. -/
def ofSize (name? : Option String) : Int → Except Fault Window
  | .ofNat sizeBytes => .ok (.empty name? sizeBytes)
  | .negSucc _ =>
      .error (Fault.new .invalidConstruction "window size cannot be less than 0")

/-- The flags that describe special contents; no window has any. -/
def contentFlags (_window : Window) : Nat :=
  0

def isDisposed (window : Window) : Bool :=
  window.references = 0

/-- The fault of every use after disposal. -/
def disposedFault (window : Window) : Fault :=
  Fault.new .disposed s!"window {window.name} has been disposed"

/-- Gives up one reference, and with the last one the rows. -/
def release (window : Window) : Window :=
  match window.references with
  | 0 => window
  | 1 => { window with references := 0, rows := #[] }
  | references + 2 => { window with references := references + 1 }

/-- Gives up the reference that the window was opened with. -/
def close (window : Window) : Window :=
  window.release

/-- Something done to a window, with a result or a fault. -/
abbrev Action (α : Type) :=
  EStateM Fault Window α

namespace Action

def ensureOpen : Action Unit := do
  let window ← get
  if window.isDisposed then throw window.disposedFault

/-- Moves the rows to other positions. -/
def setStart (start : Position) : Action Unit := do
  ensureOpen
  modify fun window => { window with start := start }

/-- Declares the width of rows, which stays fixed while there are rows. -/
def setColumns (columns : Nat) : Action Unit := do
  ensureOpen
  let window ← get
  if window.rows.size ≠ 0 ∧ columns ≠ window.columns then
    throw ((Fault.new .preconditionViolation
      (s!"cannot change column count from {window.columns} to {columns} " ++
        s!"while {window.rows.size} rows exist")).withHint
      "Call clear() before declaring a new column count.")
  set { window with columns := columns }

/-- Appends a row of null cells. -/
def allocateRow : Action Unit := do
  ensureOpen
  modify fun window =>
    { window with rows := window.rows.push (Array.replicate window.columns .null) }

def freeLastRow : Action Unit := do
  ensureOpen
  let window ← get
  if window.rows.isEmpty then throw (Fault.new .emptyRemoval "no rows to free")
  set { window with rows := window.rows.pop }

/-- Removes all rows and forgets their position and width. -/
def clear : Action Unit := do
  ensureOpen
  modify fun window => { window with rows := #[], start := 0, columns := 0 }

def acquire : Action Unit := do
  ensureOpen
  modify fun window => { window with references := window.references + 1 }

/-- Runs an action under a reference of its own, which is released however the
action ends. -/
def withReference {α : Type} (action : Action α) : Action α := do
  acquire
  fun window =>
    match action window with
    | .ok result after => .ok result after.release
    | .error fault after => .error fault after.release

end Action

end Window

end PagedRows
