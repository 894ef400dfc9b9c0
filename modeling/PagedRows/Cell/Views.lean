import PagedRows.Cell
import PagedRows.Cell.FloatText
import PagedRows.Numeral
import PagedRows.Text.Integer

/-!
# Views of cells

Every cell can be asked for its bytes, its text or its number, whatever its
kind.  Null answers each of them, and each refuses the kinds for which it has
no meaning.
-/

namespace PagedRows

/-- A number of either representation. -/
inductive Quantity where
  | integer (value : Int64)
  | float (value : Double)
deriving DecidableEq

namespace Quantity

/-- As an integer: floats lose their fraction and stay within range. -/
def toInt64 : Quantity → Int64
  | integer value => value
  | float value => value.toInt64

/-- As a float: integers round to the nearest. -/
def toDouble : Quantity → Double
  | integer value => .ofInt value.toInt
  | float value => value

end Quantity

namespace Cell

/-- The bytes of text, closed by a zero byte. -/
def terminatedBytes (text : String) : List UInt8 :=
  text.toList.flatMap String.utf8EncodeChar ++ [0]

/-- The bytes of a blob or of text; null has none, numbers refuse. -/
def bytes? : Cell → Except Fault (Option (List UInt8))
  | null => .ok none
  | blob bytes => .ok (some bytes)
  | string text => .ok (some (terminatedBytes text))
  | integer _ | float _ =>
      .error (Fault.new .typeMismatch "getting blob when column is non-blob")

/-- The text of a number or of text; null has none, blobs refuse. -/
def text? : Cell → Except Fault (Option String)
  | null => .ok none
  | integer value => .ok (some (String.ofList (Text.integer value.toInt)))
  | float value => .ok (some (String.ofList value.text))
  | string text => .ok (some text)
  | blob _ =>
      .error (Fault.new .typeMismatch "getting string when column is blob")

/-- The number held, or written in text.  Null and other text count as zero,
blobs refuse. -/
def quantity : Cell → Except Fault Quantity
  | null => .ok (.integer 0)
  | integer value => .ok (.integer value)
  | float value => .ok (.float value)
  | string text =>
      .ok (((Numeral.read? text.toList).map Quantity.float).getD (.integer 0))
  | blob _ =>
      .error (Fault.new .typeMismatch "could not convert blob to a number")

end Cell

end PagedRows
