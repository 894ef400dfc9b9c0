import PagedRows.Window

/-!
# Cursors

A cursor walks the positions of a result one by one, through whatever window
holds them at the time.  Where the window has no row for it, the cursor stays
and the window can be refilled.  After the row at the last position the cursor
stays there and yields nothing more.
-/

namespace PagedRows

/-- A place in the sequence of rows. -/
structure Cursor where
  position : Position
  /-- Whether the row at the last position has been yielded. -/
  exhausted : Bool
deriving DecidableEq

namespace Cursor

/-- Where a cursor without a row lies. -/
inductive Gap where
  | beforeWindow
  | pastWindow
deriving DecidableEq

/-- What a window holds for a cursor. -/
inductive Found where
  | row (position : Position)
  | gap (gap : Gap)
deriving DecidableEq

def startingAt (position : Position) : Cursor where
  position := position
  exhausted := false

/-- The cursor after the row at its position. -/
def advance (cursor : Cursor) : Cursor :=
  match cursor.position.next? with
  | some position => { cursor with position := position }
  | none => { cursor with exhausted := true }

/-- Yields the row at the cursor and moves past it. -/
def next (cursor : Cursor) (window : Window) : Except Fault (Found × Cursor) :=
  if window.isDisposed then .error window.disposedFault
  else if cursor.exhausted then .ok (.gap .pastWindow, cursor)
  else
    match cursor.position.offsetFrom? window.start with
    | none => .ok (.gap .beforeWindow, cursor)
    | some offset =>
        if offset < window.rows.size then .ok (.row cursor.position, cursor.advance)
        else .ok (.gap .pastWindow, cursor)

end Cursor

end PagedRows
