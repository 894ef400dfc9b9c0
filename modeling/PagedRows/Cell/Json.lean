import PagedRows.Cell
import PagedRows.Cell.FloatText
import PagedRows.Json.Printer

/-!
# Cells as JSON

Null, numbers and strings are written as themselves, and a blob as an object
with its bytes.  Floats that JSON lacks are written as their text.  Everything
else that JSON can say is not a cell.
-/

namespace PagedRows.Cell

/-- The only key of the object that stands for a blob. -/
def blobKey : String :=
  "blob"

def toJson : Cell → Json
  | null => .null
  | integer value => .integer value.toInt
  | float value =>
      if finite : value.isFinite then .float value finite
      else .string (String.ofList value.text)
  | string text => .string text
  | blob bytes => .object [(blobKey, .array (bytes.map fun byte => .ofNat byte.toNat))]

def unsupportedFault (value : Json) : Fault :=
  (Fault.new .usage ("unsupported cell value: " ++ value.print)).withHint
    "Cells are null, numbers, strings, or \x7b\"blob\": [bytes]\x7d."

def byteOfJson? : Json → Option UInt8
  | .integer value =>
      if 0 ≤ value ∧ value < 256 then some (UInt8.ofNat value.toNat) else none
  | _ => none

/-- The cell that a value stands for.  Integers beyond 64 bits with sign are
taken as floats. -/
def ofJson (value : Json) : Except Fault Cell :=
  match value with
  | .null => .ok .null
  | .integer number =>
      if -2 ^ 63 ≤ number ∧ number < 2 ^ 63 then .ok (.integer (Int64.ofInt number))
      else .ok (.float (.ofInt number))
  | .float number _ => .ok (.float number)
  | .string text => .ok (.string text)
  | .object [(key, .array items)] =>
      match items.mapM byteOfJson? with
      | some bytes =>
          if key = blobKey then .ok (.blob bytes) else .error (unsupportedFault value)
      | none => .error (unsupportedFault value)
  | _ => .error (unsupportedFault value)

/-- The cells of a row, which is written as an array. -/
def rowOfJson (value : Json) : Except Fault (List Cell) :=
  match value with
  | .array items => items.mapM ofJson
  | _ =>
      .error ((Fault.new .usage "row must be a JSON array of cells").withHint
        "Write each row as an array, e.g. [1, \"text\", null].")

end PagedRows.Cell
