import PagedRows.Window.Rendering

/-!
# Getters

The typed ways of reading a cell, as data, so that a reader can be told which
of them to use.
-/

namespace PagedRows

/-- A typed way of reading a cell. -/
inductive Getter where
  | kind
  | isNull
  | isBlob
  | isLong
  | isFloat
  | isString
  | blob
  | string
  | long
  | short
  | int
  | double
  | float
  | json
deriving DecidableEq

inductive Reading where
  | kind (kind : Cell.Kind)
  | flag (holds : Bool)
  | blob (bytes? : Option (List UInt8))
  | string (text? : Option String)
  | long (value : Int64)
  | short (value : Int16)
  | int (value : Int32)
  | double (value : Double)
  | float (value : Single)
  | json (value : Json)

namespace Getter

def all : List Getter :=
  [kind, isNull, isBlob, isLong, isFloat, isString, blob, string, long, short,
    int, double, float, json]

end Getter

/-- Reads the cell at an address in a typed way. -/
def Window.read (window : Window) (row : Position) (column : Nat) :
    Getter → Except Fault Reading
  | .kind => (window.kindAt row column).map .kind
  | .isNull => (window.isNull row column).map .flag
  | .isBlob => (window.isBlob row column).map .flag
  | .isLong => (window.isInteger row column).map .flag
  | .isFloat => (window.isFloat row column).map .flag
  | .isString => (window.isString row column).map .flag
  | .blob => (window.bytesAt row column).map .blob
  | .string => (window.textAt row column).map .string
  | .long => (window.longAt row column).map .long
  | .short => (window.shortAt row column).map .short
  | .int => (window.intAt row column).map .int
  | .double => (window.doubleAt row column).map .double
  | .float => (window.singleAt row column).map .float
  | .json => (window.cellJson row column).map .json

end PagedRows
