import PagedRows.Cursor
import PagedRows.Window.Getter

/-!
# Steps of a session

A session is a run of steps on one window, with any number of cursors and a
text buffer beside it.  Steps are data, and so are the replies to them.
-/

namespace PagedRows.Session

/-- A value to be written into a cell.  Text and bytes may be absent. -/
inductive Written where
  | null
  | long (value : Int64)
  | double (value : Double)
  | string (text? : Option String)
  | blob (bytes? : Option (List UInt8))

inductive Step where
  /-- Replaces the window by a new one, of the default size if none is given. -/
  | renew (name? : Option String) (sizeBytes? : Option Int)
  | describe
  | info
  | setStart (start : Position)
  | setColumns (columns : Nat)
  | allocateRow
  | freeLastRow
  | clear
  | acquire
  | release
  | close
  /-- Runs steps under a reference of their own, which is released after them;
  a failed one may end them early. -/
  | guarded (steps : List Step) (stopAtFailure : Bool)
  | read (getter : Getter) (row : Position) (column : Nat)
  | readAll (row : Position) (column : Nat)
  | copyText (row : Position) (column : Nat)
  | write (value : Written) (row : Position) (column : Nat)
  | fill (start : Position) (columns : Nat) (rows : List (List Cell))
  | fillLines (start : Position) (columns : Nat) (text : String)
  /-- Puts a cursor before the row at a position, a new cursor or a used one. -/
  | placeCursor (id : Nat) (position : Position)
  /-- Asks a cursor for its next row, and the row for readings of columns and
  for its JSON. -/
  | next (id : Nat) (readings? : Option (List (Getter × Nat))) (rendered : Bool)
  | drain (id : Nat)

/-- What every step shows of the window. -/
structure Summary where
  start : Position
  rows : Nat
  columns : Nat
  disposed : Bool
deriving DecidableEq

structure YieldedRow where
  position : Position
  columns : Nat
  windowName : String
  readings? : Option (List (Except Fault Reading))
  json? : Option (Except Fault Json)

/-- What a step that succeeds replies. -/
inductive Reply where
  | done
  | description (name : String) (sizeBytes contentFlags : Nat)
  | json (value : Json)
  | guarded (results : List (Except Fault Reply × Summary))
  | reading (reading : Reading)
  | readings (readings : List (Getter × Except Fault Reading))
  | buffer (text : String) (fault? : Option Fault)
  | count (count : Nat)
  | yielded (row : YieldedRow) (cursor : Position)
  | missing (gap : Cursor.Gap) (cursor : Position)
  | drained (rows : List Json) (gap : Cursor.Gap) (cursor : Position)

/-- The outcome of a step, and the window after it. -/
abbrev Result :=
  Except Fault Reply × Summary

end PagedRows.Session
