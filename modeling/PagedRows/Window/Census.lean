import PagedRows.Json
import PagedRows.Window.Access

/-!
# The census of a window

A window describes itself by its properties and by how many cells of each kind
it holds.  Rows that lie past the last position have no address and are not
counted.
-/

namespace PagedRows.Window

/-- The positions of the rows held, as far as they have one. -/
def positions (window : Window) : List Position :=
  (List.range window.rows.size).filterMap window.start.advance?

/-- The kinds of all cells that have an address, row by row. -/
def kinds (window : Window) : Except Fault (List Cell.Kind) := do
  let rows ← window.positions.mapM fun row =>
    (List.range window.columns).mapM (window.kindAt row)
  return rows.flatten

def census (window : Window) : Except Fault (List (Cell.Kind × Nat)) :=
  window.kinds.map fun kinds => Cell.Kind.all.map fun kind => (kind, kinds.count kind)

/-- The properties of a window and its census. -/
def infoJson (window : Window) : Except Fault Json := do
  let census ← window.census
  return Json.ofMembers
    [("name", .string window.name),
      ("size_bytes", .ofNat window.sizeBytes),
      ("start_position", .ofNat window.start.val),
      ("num_rows", .ofNat window.rows.size),
      ("num_columns", .ofNat window.columns),
      ("describe_contents", .ofNat window.contentFlags),
      ("types", Json.ofMembers (census.map fun (kind, count) => (kind.name, .ofNat count)))]

end PagedRows.Window
