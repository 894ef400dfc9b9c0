import PagedRows.Cursor.Drain
import PagedRows.Proofs.Rectangular
import PagedRows.Proofs.RowText
import PagedRows.Proofs.Walk

/-!
# Draining a window

A cursor that is asked about one window again and again yields the rows from its position
on, up to the end of the window or up to the last position, whichever comes first.  The
request after these finds a gap, and the cursor stands behind the last row, where there is
a position.
-/

namespace PagedRows.Cursor

/-- Requests about one window yield rows at some positions, until one of them finds a gap
and leaves the cursor as it is then. -/
inductive Drains (window : Window) : Cursor → List Position → Gap → Cursor → Prop where
  | gap {cursor after : Cursor} {gap : Gap} :
      cursor.next window = .ok (.gap gap, after) → Drains window cursor [] gap after
  | row {cursor after last : Cursor} {position : Position} {positions : List Position}
      {gap : Gap} :
      cursor.next window = .ok (.row position, after) →
      Drains window after positions gap last →
      Drains window cursor (position :: positions) gap last

namespace Drains

variable {window : Window} {cursor last : Cursor} {positions : List Position} {gap : Gap}

theorem drain_eq_ok (drains : Drains window cursor positions gap last) :
    cursor.drain window = .ok (positions, gap, last) := by
  induction drains with
  | gap missing => rw [drain_eq, missing]
  | row yielded _ induction =>
      rw [drain_eq, yielded]
      simp only [induction]

theorem map_answer_calls (drains : Drains window cursor positions gap last) :
    (cursor.calls (List.replicate (positions.length + 1) window)).map Call.answer =
      positions.map (fun position => .ok (.row position)) ++ [.ok (.gap gap)] := by
  induction drains with
  | gap missing =>
      simp only [List.length_nil, List.replicate_succ, List.replicate_zero, calls,
        List.map_cons, List.map_nil, List.nil_append, call, missing, Except.map]
  | @row cursor after last position positions gap yielded rest induction =>
      have answer : (cursor.call window).answer = .ok (.row position) := by
        simp only [call, yielded, Except.map]
      have moved : (cursor.call window).after = after := by
        simp only [call, yielded]
      rw [List.length_cons, List.replicate_succ, calls, moved, List.map_cons, answer,
        induction, List.map_cons, List.cons_append]

end Drains

/-- The position behind the rows of a window for a cursor that is not before them, or the
last position where there is none behind. -/
def stopAfter (window : Window) (cursor : Cursor) : Nat :=
  if window.start.val + window.rows.size < 2 ^ 64 then
    max cursor.position.val (window.start.val + window.rows.size)
  else 2 ^ 64 - 1

/-- How many rows with a position a window has from a cursor on. -/
def remaining (window : Window) (cursor : Cursor) : Nat :=
  min (window.start.val + window.rows.size) (2 ^ 64) - cursor.position.val

private theorem exists_drains_of_within {window : Window} (opened : window.isDisposed = false)
    {cursor : Cursor} (fresh : cursor.exhausted = false)
    (within : window.start.val ≤ cursor.position.val) {count : Nat}
    (left : cursor.remaining window = count) :
    ∃ positions last, Drains window cursor positions .pastWindow last ∧
      positions.map Fin.val = List.range' cursor.position.val count ∧
      last.position.val = cursor.stopAfter window := by
  have bounded := cursor.position.isLt
  unfold remaining at left
  induction count generalizing cursor with
  | zero =>
      have past : window.start.val + window.rows.size ≤ cursor.position.val := by omega
      refine ⟨[], cursor, .gap (next_of_past opened fresh past), rfl, ?_⟩
      rw [stopAfter, if_pos (by omega), Nat.max_eq_left past]
  | succ count induction =>
      obtain ⟨index, placed⟩ := Nat.exists_eq_add_of_le within
      have yielded := next_of_held opened fresh placed.symm (by omega)
      by_cases inside : cursor.position.val + 1 < 2 ^ 64
      · rw [advance_of_lt inside] at yielded
        obtain ⟨positions, last, drains, consecutive, stop⟩ :=
          @induction { cursor with position := ⟨cursor.position.val + 1, inside⟩ } fresh
            (Nat.le_succ_of_le within) (by simp only; omega) inside
        refine ⟨cursor.position :: positions, last, .row yielded drains, ?_, ?_⟩
        · rw [List.map_cons, consecutive, List.range'_succ]
        · rw [stop]
          simp only [stopAfter]
          split <;> omega
      · have last : cursor.position = .last := by
          apply Fin.ext
          simp only [Position.last]
          omega
        have single : count = 0 := by omega
        rw [advance_of_last last] at yielded
        refine ⟨[cursor.position], { cursor with exhausted := true },
          .row yielded (.gap (next_of_exhausted opened rfl)), ?_, ?_⟩
        · rw [single]
          rfl
        · rw [stopAfter, if_neg (by omega), last]
          rfl

/-- Draining a reachable open window ends.  A cursor before the window gets no row and
stays.  Any other gets, in order and once each, the rows from its position on that the
window has and that have a position, one request for each, and the request after these
finds it past the window.  It then stands behind the window, or at the last position if
there is none behind.  Every row that it gets is rendered with its position and as many
cells as the window has columns. -/
theorem drain_yields_remaining_rows {window : Window} (reachable : window.Reachable)
    (opened : window.isDisposed = false) {cursor : Cursor}
    (fresh : cursor.exhausted = false) :
    let start := window.start.val
    let stop := start + window.rows.size
    ∃ positions gap last, cursor.drain window = .ok (positions, gap, last) ∧
      (cursor.calls (List.replicate (positions.length + 1) window)).map Call.answer =
        positions.map (fun position => .ok (.row position)) ++ [.ok (.gap gap)] ∧
      (cursor.position.val < start →
        positions = [] ∧ gap = .beforeWindow ∧ last = cursor) ∧
      (start ≤ cursor.position.val →
        positions.map Fin.val =
            List.range' cursor.position.val (min stop (2 ^ 64) - cursor.position.val) ∧
          gap = .pastWindow ∧
          last.position.val =
            if stop < 2 ^ 64 then max cursor.position.val stop else 2 ^ 64 - 1) ∧
      ∀ position ∈ positions, ∃ cells : Array Cell,
        window.rows[position.val - start]? = some cells ∧ cells.size = window.columns ∧
          window.rowJson position = .ok (rowValue position.val cells.toList) := by
  intro start stop
  by_cases before : cursor.position.val < start
  · have drains : Drains window cursor [] .beforeWindow cursor :=
      .gap (next_of_before opened fresh before)
    exact ⟨[], _, cursor, drains.drain_eq_ok, drains.map_answer_calls,
      fun _ => ⟨rfl, rfl, rfl⟩, fun within => (Nat.not_le_of_lt before within).elim, nofun⟩
  have within : start ≤ cursor.position.val := Nat.le_of_not_lt before
  obtain ⟨positions, last, drains, consecutive, stands⟩ :=
    exists_drains_of_within opened fresh within rfl
  refine ⟨positions, _, last, drains.drain_eq_ok, drains.map_answer_calls,
    fun early => (before early).elim, fun _ => ⟨consecutive, rfl, stands⟩, ?_⟩
  intro position member
  have among : position.val ∈ List.range' cursor.position.val (cursor.remaining window) := by
    rw [← consecutive]
    exact List.mem_map_of_mem member
  have placed := List.mem_range'_1.mp among
  have inside : position.val - start < window.rows.size := by
    simp only [remaining] at placed
    omega
  have lookup := Array.getElem?_eq_getElem inside
  have width := reachable.rectangular.width _ (Array.getElem_mem inside)
  have address : start + (position.val - start) = position.val := by omega
  exact ⟨_, lookup, width, Window.rowJson_of_held opened address lookup width⟩

/-- Three rows from the last position but one on, so that the third has no position. -/
def acrossTheEnd : Session :=
  (Session.run (.guarded [.setColumns 1, .allocateRow, .allocateRow, .write (.long 7) 1 0,
    .allocateRow, .setStart 18446744073709551614] true) Session.initial).2

theorem drain_yields_remaining_rows_across_the_end :
    (∃ last, (startingAt 18446744073709551614).drain acrossTheEnd.window =
        .ok ([18446744073709551614, .last], .pastWindow, last) ∧ last.position = .last) ∧
      acrossTheEnd.window.rowJson .last = .ok (rowValue (2 ^ 64 - 1) [.integer 7]) ∧
      (startingAt 3).drain acrossTheEnd.window = .ok ([], .beforeWindow, startingAt 3) := by
  have initial : Session.initial.window.Reachable :=
    @Window.Reachable.constructed none none _ rfl
  have reachable : acrossTheEnd.window.Reachable := .stepped _ initial
  have opened : acrossTheEnd.window.isDisposed = false := by decide
  obtain ⟨positions, gap, last, drained, -, -, within, rendered⟩ :=
    drain_yields_remaining_rows reachable opened
      (rfl : (startingAt 18446744073709551614).exhausted = false)
  obtain ⟨consecutive, rfl, stands⟩ := within (by decide)
  have both : positions = [18446744073709551614, .last] := by
    apply (List.map_inj_right fun _ _ => Fin.ext).mp
    exact consecutive.trans (by decide +kernel)
  subst both
  obtain ⟨cells, stored, -, row⟩ := rendered .last (by decide)
  have held : some #[.integer 7] = some cells := Eq.trans (by decide +kernel) stored
  cases held
  obtain ⟨others, otherGap, other, before, -, early, -, -⟩ :=
    drain_yields_remaining_rows reachable opened (rfl : (startingAt 3).exhausted = false)
  obtain ⟨rfl, rfl, rfl⟩ := early (by decide)
  exact ⟨⟨last, drained, Fin.ext (stands.trans (by decide +kernel))⟩, row, before⟩

end PagedRows.Cursor
