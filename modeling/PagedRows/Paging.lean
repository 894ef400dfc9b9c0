import PagedRows.Cursor
import PagedRows.Window.Fill
import PagedRows.Window.Rendering

/-!
# Paging

Rows are paged through a window that never holds more than one page of them.  A
cursor asks for row after row; where the window has none, the page of the row is
loaded, and the cursor asks again.  Pages begin at the multiples of their size.
-/

namespace PagedRows

structure Paging where
  rows : Array (List Cell)
  columns : Nat
  pageSize : Nat
  /-- At most so many rows are emitted. -/
  limit : Nat

namespace Paging

structure Progress where
  window : Window
  cursor : Cursor
  /-- The rows emitted, in order. -/
  emitted : Array Json
  /-- The first positions of the pages loaded, in order. -/
  loaded : Array Position

inductive Ending where
  | complete
  | failed (fault : Fault)
  /-- The bound on the number of steps was too low. -/
  | outOfSteps
deriving DecidableEq

/-- The next state, or the last one and how the paging ends in it. -/
inductive Step where
  | next (progress : Progress)
  | done (progress : Progress) (ending : Ending)

/-- The position at which the page of a row begins. -/
def pageStart (paging : Paging) (position : Position) : Position :=
  ⟨position.val - position.val % paging.pageSize,
    Nat.lt_of_le_of_lt (Nat.sub_le _ _) position.isLt⟩

/-- The rows of the page that begins at a position. -/
def page (paging : Paging) (start : Position) : List (List Cell) :=
  (paging.rows.extract start.val
    (min paging.rows.size (start.val + paging.pageSize))).toList

/-- Loads the page of a position that the window has no row for. -/
def load (paging : Paging) (progress : Progress) : Step :=
  let position := progress.cursor.position
  if paging.rows.size ≤ position.val then .done progress .complete
  else
    let start := paging.pageStart position
    match Window.Action.fill start paging.columns (paging.page start) progress.window with
    | .ok _ window =>
        .next { progress with window := window, loaded := progress.loaded.push start }
    | .error fault window => .done { progress with window := window } (.failed fault)

/-- Emits the row at the cursor or loads its page. -/
def step (paging : Paging) (progress : Progress) : Step :=
  if paging.limit ≤ progress.emitted.size then .done progress .complete
  else
    match progress.cursor.next progress.window with
    | .error fault => .done progress (.failed fault)
    | .ok (.gap _, cursor) => paging.load { progress with cursor := cursor }
    | .ok (.row position, cursor) =>
        match progress.window.rowJson position with
        | .error fault => .done { progress with cursor := cursor } (.failed fault)
        | .ok row =>
            .next { progress with cursor := cursor, emitted := progress.emitted.push row }

/-- Takes at most so many steps. -/
def runSteps (paging : Paging) : Nat → Progress → Progress × Ending
  | 0, progress => (progress, .outOfSteps)
  | bound + 1, progress =>
      match paging.step progress with
      | .next progress => paging.runSteps bound progress
      | .done progress ending => (progress, ending)

/-- Pages through a window from a position on.  Every row is emitted at most once
and loads at most one page, and one more step finds the end. -/
def run (paging : Paging) (window : Window) (start : Position) : Progress × Ending :=
  paging.runSteps (2 * paging.rows.size + 2)
    { window := window, cursor := .startingAt start, emitted := #[], loaded := #[] }

end Paging

end PagedRows
