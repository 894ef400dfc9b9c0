import PagedRows.Cell.Json
import PagedRows.Window.Access

/-!
# Rows as JSON

A row is rendered with its cells and its position.
-/

namespace PagedRows.Window

/-- Renders a cell as the typed ways of reading it show it. -/
def cellJson (window : Window) (row : Position) (column : Nat) : Except Fault Json := do
  match ← window.kindAt row column with
  | .null => return Cell.null.toJson
  | .integer => return (Cell.integer (← window.longAt row column)).toJson
  | .float => return (Cell.float (← window.doubleAt row column)).toJson
  | .string =>
      let text? ← window.textAt row column
      return ((text?.map Cell.string).getD .null).toJson
  | .blob =>
      let bytes? ← window.bytesAt row column
      return ((bytes?.map Cell.blob).getD .null).toJson

theorem cellJson_eq_map (window : Window) (row : Position) (column : Nat) :
    window.cellJson row column = (window.cell row column).map Cell.toJson := by
  rw [cellJson, kindAt, longAt, doubleAt, textAt, bytesAt, quantityAt, view, view, view]
  cases window.cell row column with
  | error fault => rfl
  | ok cell =>
      cases cell with
      | null => rfl
      | integer value => rfl
      | float value => rfl
      | string text => rfl
      | blob bytes => rfl

def rowJson (window : Window) (row : Position) : Except Fault Json := do
  let cells ← (List.range window.columns).mapM (window.cellJson row)
  return Json.ofMembers [("pos", .ofNat row.val), ("cells", .array cells)]

end PagedRows.Window
