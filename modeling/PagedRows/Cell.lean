import PagedRows.Binary
import PagedRows.Fault

/-!
# Cells

A cell holds a value of one of five kinds.  Two cells are identical when they
hold the same bits; `equals` compares the floats in them as numbers instead.
-/

namespace PagedRows

inductive Cell.Kind where
  | null
  | integer
  | float
  | string
  | blob
deriving DecidableEq

namespace Cell.Kind

/-- The kinds in the order of their codes. -/
def all : List Cell.Kind :=
  [null, integer, float, string, blob]

def code : Cell.Kind → Nat
  | null => 0
  | integer => 1
  | float => 2
  | string => 3
  | blob => 4

def name : Cell.Kind → String
  | null => "null"
  | integer => "integer"
  | float => "float"
  | string => "string"
  | blob => "blob"

def ofCode (code : Nat) : Except Fault Cell.Kind :=
  match all.find? (·.code = code) with
  | some kind => .ok kind
  | none =>
      .error (Fault.new .typeMismatch s!"unknown field type code {code}")

end Cell.Kind

inductive Cell where
  | null
  | integer (value : Int64)
  | float (value : Double)
  | string (text : String)
  | blob (bytes : List UInt8)
deriving DecidableEq

namespace Cell

def kind : Cell → Cell.Kind
  | null => .null
  | integer _ => .integer
  | float _ => .float
  | string _ => .string
  | blob _ => .blob

/-- Equality of the values held. -/
def equals : Cell → Cell → Bool
  | float left, float right => left.equals right
  | left, right => left = right

end Cell

end PagedRows
