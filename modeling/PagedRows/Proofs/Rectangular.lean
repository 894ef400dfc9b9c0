import PagedRows.Proofs.Advance
import PagedRows.Proofs.History

/-!
# Rectangular windows

The width of rows is stored once, on the window, and again in every row.  The two
agree in every reachable window: the width cannot be declared anew while there are
rows, and a row of another width does not survive the fill that brought it.
-/

namespace PagedRows.Window

/-- All rows have the declared width, and a disposed window has none. -/
structure Rectangular (window : Window) : Prop where
  width : ∀ cells ∈ window.rows, cells.size = window.columns
  dropped : window.isDisposed = true → window.rows = #[]

namespace Rectangular

theorem empty (name? : Option String) (sizeBytes : Nat) :
    Rectangular (.empty name? sizeBytes) where
  width := by simp [Window.empty]
  dropped := by simp [Window.empty]

theorem release {window : Window} (rectangular : Rectangular window) :
    Rectangular window.release := by
  unfold Window.release
  split
  · exact rectangular
  · exact ⟨by simp, by simp⟩
  · exact ⟨rectangular.width, by simp [isDisposed]⟩

theorem effect {window : Window} {change : Change}
    (rectangular : Rectangular window) (allowed : change.Allowed window) :
    Rectangular (change.effect window) := by
  cases change with
  | renew name? sizeBytes => exact empty name? sizeBytes
  | rebase start => exact ⟨rectangular.width, rectangular.dropped⟩
  | declare columns =>
      obtain ⟨opened, unchanged⟩ := allowed
      refine ⟨?_, rectangular.dropped⟩
      intro cells member
      have filled : window.rows.size ≠ 0 := by
        intro none
        simp [Change.effect, Array.eq_empty_of_size_eq_zero none] at member
      exact (rectangular.width cells member).trans (unchanged filled).symm
  | allocate =>
      have opened : window.isDisposed = false := allowed
      refine ⟨?_, fun disposed => ?_⟩
      · intro cells member
        rcases Array.mem_push.mp member with earlier | new
        · exact rectangular.width cells earlier
        · rw [new]
          exact Array.size_replicate
      · have same : window.isDisposed = true := disposed
        rw [opened] at same
        cases same
  | free =>
      obtain ⟨opened, -⟩ := allowed
      refine ⟨?_, fun disposed => ?_⟩
      · intro cells member
        obtain ⟨index, inside, held⟩ := Array.mem_iff_getElem.mp member
        rw [← held]
        simp only [Change.effect, Array.getElem_pop]
        exact rectangular.width _ (Array.getElem_mem _)
      · simp [Change.effect, rectangular.dropped disposed]
  | clear => exact ⟨by simp [Change.effect], by simp [Change.effect]⟩
  | put value row column =>
      refine ⟨?_, fun disposed => ?_⟩
      · intro cells member
        obtain ⟨index, inside, held⟩ := Array.mem_iff_getElem.mp member
        simp only [Change.effect, Array.size_modify] at inside
        have old := rectangular.width window.rows[index] (Array.getElem_mem inside)
        rw [← held]
        simp only [Change.effect, Array.getElem_modify]
        split
        · rw [Array.size_setIfInBounds]
          exact old
        · exact old
      · simp [Change.effect, rectangular.dropped disposed]
  | acquire => exact ⟨rectangular.width, by simp [Change.effect, isDisposed]⟩
  | release => exact rectangular.release

end Rectangular

theorem Reachable.rectangular {window : Window} (reachable : window.Reachable) :
    Rectangular window :=
  reachable.invariant Rectangular.empty Rectangular.effect

/-- In every reachable window all rows have the declared width and a disposed window
has none, so that a yielded row has the width that it is said to have. -/
theorem rows_have_declared_width {window : Window} (reachable : window.Reachable) :
    (∀ cells ∈ window.rows, cells.size = window.columns) ∧
      (window.isDisposed = true → window.rows = #[]) ∧
      ∀ (cursor after : Cursor) (position : Position),
        cursor.next window = .ok (.row position, after) →
          ∀ readings? rendered, ∃ index cells,
            window.rowAt? position = some (index, cells) ∧
              cells.size =
                (Session.yieldedRow window position readings? rendered).columns := by
  have rectangular := reachable.rectangular
  refine ⟨rectangular.width, rectangular.dropped, ?_⟩
  intro cursor after position yielded readings? rendered
  obtain ⟨-, -, index, inside, placed⟩ := Cursor.held_of_next yielded
  exact ⟨index, window.rows[index],
    rowAt?_eq_some_iff.mpr ⟨placed, Array.getElem?_eq_getElem inside⟩,
    rectangular.width _ (Array.getElem_mem inside)⟩

/-- A fill under a guard that fails in its second row and ends the guard early leaves
the first row, and a row allocated after it has the same width. -/
theorem rows_have_declared_width_after_failed_fill :
    let session := (Session.run (.guarded
      [.fill 5 2 [[.null, .integer 7], [.null]], .clear] true) Session.initial).2
    let window := (Session.run .allocateRow session).2.window
    window.rows.size = 2 ∧ window.Reachable ∧
      ∀ cells ∈ window.rows, cells.size = window.columns := by
  have initial : Session.initial.window.Reachable := @Reachable.constructed none none _ rfl
  have reachable := Reachable.stepped .allocateRow (.stepped (.guarded
    [.fill 5 2 [[.null, .integer 7], [.null]], .clear] true) initial)
  exact ⟨by decide, reachable, (rows_have_declared_width reachable).1⟩

end PagedRows.Window
