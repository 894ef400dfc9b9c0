import PagedRows.Cursor

/-!
# Steps of a cursor

A cursor asks an open window for the row at its position.  It yields that row
exactly when the window holds it, and else reports a gap and stays.
-/

namespace PagedRows.Cursor

theorem next_of_held {cursor : Cursor} {window : Window} {index : Nat}
    (opened : window.isDisposed = false) (fresh : cursor.exhausted = false)
    (placed : window.start.val + index = cursor.position.val)
    (held : index < window.rows.size) :
    cursor.next window = .ok (.row cursor.position, cursor.advance) := by
  have offset := Position.offsetFrom?_eq_some_iff.mpr placed
  simp [next, opened, fresh, offset, held]

theorem next_of_exhausted {cursor : Cursor} {window : Window}
    (opened : window.isDisposed = false) (exhausted : cursor.exhausted = true) :
    cursor.next window = .ok (.gap .pastWindow, cursor) := by
  simp [next, opened, exhausted]

theorem next_of_before {cursor : Cursor} {window : Window}
    (opened : window.isDisposed = false) (fresh : cursor.exhausted = false)
    (before : cursor.position.val < window.start.val) :
    cursor.next window = .ok (.gap .beforeWindow, cursor) := by
  have unplaced : cursor.position.offsetFrom? window.start = none := by
    apply Option.eq_none_iff_forall_ne_some.mpr
    intro offset distance
    have placed := Position.offsetFrom?_eq_some_iff.mp distance
    omega
  simp [next, opened, fresh, unplaced]

theorem next_of_past {cursor : Cursor} {window : Window}
    (opened : window.isDisposed = false) (fresh : cursor.exhausted = false)
    (past : window.start.val + window.rows.size ≤ cursor.position.val) :
    cursor.next window = .ok (.gap .pastWindow, cursor) := by
  obtain ⟨offset, placed⟩ : ∃ offset, window.start.val + offset = cursor.position.val :=
    ⟨cursor.position.val - window.start.val, by omega⟩
  have distance := Position.offsetFrom?_eq_some_iff.mpr placed
  have outside : ¬ offset < window.rows.size := by omega
  simp [next, opened, fresh, distance, outside]

theorem next_of_missing {cursor : Cursor} {window : Window}
    (opened : window.isDisposed = false)
    (missing : cursor.position.val < window.start.val ∨
      window.start.val + window.rows.size ≤ cursor.position.val) :
    ∃ gap, cursor.next window = .ok (.gap gap, cursor) := by
  cases fresh : cursor.exhausted with
  | true => exact ⟨_, next_of_exhausted opened fresh⟩
  | false =>
      rcases missing with before | past
      · exact ⟨_, next_of_before opened fresh before⟩
      · exact ⟨_, next_of_past opened fresh past⟩

theorem advance_of_lt {cursor : Cursor} (inside : cursor.position.val + 1 < 2 ^ 64) :
    cursor.advance = { cursor with position := ⟨cursor.position.val + 1, inside⟩ } := by
  have following : cursor.position.next? = _ := Position.advance?_of_lt inside
  rw [advance, following]

theorem held_of_next {cursor after : Cursor} {window : Window} {position : Position}
    (yielded : cursor.next window = .ok (.row position, after)) :
    position = cursor.position ∧ after = cursor.advance ∧
      ∃ index < window.rows.size, window.start.val + index = position.val := by
  unfold next at yielded
  split at yielded
  · cases yielded
  split at yielded
  · cases yielded
  split at yielded
  · cases yielded
  next offset distance =>
    split at yielded
    next inside =>
      cases yielded
      exact ⟨rfl, rfl, offset, inside, Position.offsetFrom?_eq_some_iff.mp distance⟩
    · cases yielded

end PagedRows.Cursor
