import PagedRows.Cursor

/-!
# Draining a window

A window is drained by asking for rows until none comes.  Every row that comes
leaves fewer rows ahead of the cursor, so this ends.
-/

namespace PagedRows.Cursor

/-- How many rows of a window lie ahead of a cursor, at most. -/
def ahead (cursor : Cursor) (window : Window) : Nat :=
  if cursor.exhausted then 0
  else window.start.val + window.rows.size - cursor.position.val

theorem ahead_lt_of_next {cursor after : Cursor} {window : Window}
    {position : Position}
    (yielded : cursor.next window = .ok (.row position, after)) :
    after.ahead window < cursor.ahead window := by
  unfold next at yielded
  split at yielded
  · simp at yielded
  split at yielded
  · simp at yielded
  next unexhausted =>
    split at yielded
    · simp at yielded
    next offset distance =>
      split at yielded
      next inside =>
        simp only [Except.ok.injEq, Prod.mk.injEq, Found.row.injEq] at yielded
        obtain ⟨-, rfl⟩ := yielded
        have held : cursor.ahead window =
            window.start.val + window.rows.size - cursor.position.val := by
          simp [ahead, unexhausted]
        have placed : window.start.val ≤ cursor.position.val ∧
            cursor.position.val - window.start.val = offset := by
          simp only [Position.offsetFrom?] at distance
          split at distance
          next before => exact ⟨before, by simpa using distance⟩
          · simp at distance
        rw [held]
        unfold advance
        split
        next following stepped =>
          have moved : following.val = cursor.position.val + 1 := by
            simp only [Position.next?, Position.advance?] at stepped
            split at stepped
            · simp only [Option.some.injEq] at stepped
              rw [← stepped]
            · simp at stepped
          simp only [ahead, unexhausted]
          simp only [Bool.false_eq_true, ↓reduceIte]
          omega
        · simp only [ahead, ↓reduceIte]
          omega
      · simp at yielded

/-- The positions of the rows that a window still yields, why no further row
comes, and the cursor after them. -/
def drain (cursor : Cursor) (window : Window) :
    Except Fault (List Position × Gap × Cursor) :=
  match yielded : cursor.next window with
  | .error fault => .error fault
  | .ok (.gap gap, after) => .ok ([], gap, after)
  | .ok (.row position, after) =>
      have := ahead_lt_of_next yielded
      match drain after window with
      | .error fault => .error fault
      | .ok (positions, gap, last) => .ok (position :: positions, gap, last)
termination_by cursor.ahead window

theorem drain_eq (cursor : Cursor) (window : Window) :
    cursor.drain window =
      match cursor.next window with
      | .error fault => .error fault
      | .ok (.gap gap, after) => .ok ([], gap, after)
      | .ok (.row position, after) =>
          match after.drain window with
          | .error fault => .error fault
          | .ok (positions, gap, last) => .ok (position :: positions, gap, last) := by
  rw [drain.eq_def]
  split
  next fault failed => rw [failed]
  next gap after missing => rw [missing]
  next position after yielded =>
    cases rest : after.drain window with
    | error fault => simp only [yielded, rest]
    | ok found => simp only [yielded, rest]

end PagedRows.Cursor
