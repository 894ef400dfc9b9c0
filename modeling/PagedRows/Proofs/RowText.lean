import PagedRows.Json.Printer
import PagedRows.Proofs.Changes
import PagedRows.Proofs.Outcomes
import PagedRows.Window.Rendering

/-!
# Rows in print

A row that a window holds is rendered with all of its cells, and printed as one
object whose members are its cells and its position.
-/

namespace PagedRows

/-- The value that stands for a row at a position. -/
def rowValue (position : Nat) (cells : List Cell) : Json :=
  .object [("cells", .array (cells.map Cell.toJson)), ("pos", .ofNat position)]

/-- The text of that value. -/
def rowLine (position : Nat) (cells : List Cell) : String :=
  "\x7b\"cells\":" ++ (Json.array (cells.map Cell.toJson)).print ++
    ",\"pos\":" ++ toString position ++ "\x7d"

theorem print_rowValue (position : Nat) (cells : List Cell) :
    (rowValue position cells).print = rowLine position cells := by
  have cellsKey : Json.stringText "cells" = "\"cells\"".toList := by decide
  have posKey : Json.stringText "pos" = "\"pos\"".toList := by decide
  have number : toString position = String.ofList (Json.text (.ofNat position)) := rfl
  rw [rowLine, number]
  simp only [Json.print, rowValue, Json.text, Json.membersText, cellsKey, posKey]
  apply String.toList_injective
  simp

namespace Window

theorem mapM_cell_of_held {α : Type} {window : Window} {row : Position} {index : Nat}
    {cells : Array Cell} (opened : window.isDisposed = false)
    (placed : window.start.val + index = row.val)
    (lookup : window.rows[index]? = some cells) (width : cells.size = window.columns)
    (look : Cell → α) :
    ((List.range window.columns).mapM fun column => (window.cell row column).map look) =
      .ok (cells.toList.map look) := by
  have each : ∀ column ∈ List.range window.columns, (window.cell row column).map look =
      .ok (look ((cells[column]?).getD .null)) := by
    intro column member
    have inside : column < cells.size := by
      rw [width]
      exact List.mem_range.mp member
    have held : window.cell row column = .ok cells[column] :=
      cell_eq_ok_iff.mpr
        ⟨opened, index, cells, placed, lookup, Array.getElem?_eq_getElem inside⟩
    rw [held, Array.getElem?_eq_getElem inside]
    rfl
  have values : (List.range window.columns).map
      (fun column => look ((cells[column]?).getD .null)) = cells.toList.map look := by
    apply List.ext_getElem
    · simp [width]
    · intro column left right
      have inside : column < cells.size := by simpa using right
      simp [inside]
  rw [mapM_eq_ok _ each, values]

theorem rowJson_of_held {window : Window} {row : Position} {index : Nat}
    {cells : Array Cell} (opened : window.isDisposed = false)
    (placed : window.start.val + index = row.val)
    (lookup : window.rows[index]? = some cells) (width : cells.size = window.columns) :
    window.rowJson row = .ok (rowValue row.val cells.toList) := by
  have shown : window.cellJson row = fun column => (window.cell row column).map Cell.toJson :=
    funext (window.cellJson_eq_map row)
  rw [rowJson, shown, mapM_cell_of_held opened placed lookup width Cell.toJson]
  rfl

end Window

end PagedRows
