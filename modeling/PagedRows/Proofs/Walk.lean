import PagedRows.Proofs.Advance
import PagedRows.Proofs.Filling
import PagedRows.Session

/-!
# The walk of a cursor

A cursor is asked again and again, and whatever it is asked about may have become
another window in between.  Its positions are nevertheless yielded one after the
other: a request that yields no row leaves the cursor where it is, so that the row
that was missing is the next one to come.
-/

namespace PagedRows.Cursor

/-- One request to a cursor, about a window as it was at that time. -/
structure Call where
  window : Window
  before : Cursor
  answer : Except Fault Found
  /-- A fault comes without a cursor, so that the one before remains. -/
  after : Cursor

def call (cursor : Cursor) (window : Window) : Call where
  window := window
  before := cursor
  answer := (cursor.next window).map Prod.fst
  after :=
    match cursor.next window with
    | .ok (_, after) => after
    | .error _ => cursor

/-- The requests about windows, one after the other. -/
def calls (cursor : Cursor) : List Window → List Call
  | [] => []
  | window :: windows => cursor.call window :: (cursor.call window).after.calls windows

/-- The position of the row that a request yields. -/
def Call.position? (call : Call) : Option Position :=
  match call.answer with
  | .ok (.row position) => some position
  | .ok (.gap _) | .error _ => none

/-- The positions of the rows that requests yield, in order. -/
def yielded (calls : List Call) : List Position :=
  calls.filterMap Call.position?

/-- A window has the row at the position of a cursor. -/
def HeldBy (cursor : Cursor) (window : Window) : Prop :=
  window.start.val ≤ cursor.position.val ∧
    cursor.position.val < window.start.val + window.rows.size

theorem call_of_held {cursor : Cursor} {window : Window}
    (opened : window.isDisposed = false) (fresh : cursor.exhausted = false)
    (held : cursor.HeldBy window) :
    (cursor.call window).position? = some cursor.position ∧
      (cursor.call window).after = cursor.advance := by
  obtain ⟨before, inside⟩ := held
  obtain ⟨index, placed⟩ := Nat.exists_eq_add_of_le before
  have row := next_of_held opened fresh placed.symm (by omega)
  constructor
  · simp only [Call.position?, call, row, Except.map]
  · simp only [call, row]

theorem call_of_exhausted {cursor : Cursor} {window : Window}
    (opened : window.isDisposed = false) (exhausted : cursor.exhausted = true) :
    cursor.call window =
      { window := window
        before := cursor
        answer := .ok (.gap .pastWindow)
        after := cursor } := by
  have past := next_of_exhausted opened exhausted
  simp only [call, past, Except.map]

theorem call_of_disposed {cursor : Cursor} {window : Window}
    (disposed : window.isDisposed = true) :
    cursor.call window =
      { window := window, before := cursor, answer := .error window.disposedFault,
        after := cursor } := by
  have refused : cursor.next window = .error window.disposedFault := by
    simp [next, disposed]
  simp only [call, refused, Except.map]

/-- What a request comes to when it yields no row. -/
structure Call.Stays (call : Call) : Prop where
  after : call.after = call.before
  answer : (∃ gap, call.answer = .ok (.gap gap)) ∨
    ∃ fault, call.answer = .error fault ∧ fault.kind = .disposed

theorem call_cases (cursor : Cursor) (window : Window) :
    ((cursor.call window).position? = some cursor.position ∧
        cursor.exhausted = false ∧ (cursor.call window).after = cursor.advance) ∨
      ((cursor.call window).position? = none ∧ (cursor.call window).Stays) := by
  by_cases disposed : window.isDisposed = true
  · right
    rw [call_of_disposed disposed]
    exact ⟨rfl, rfl, .inr ⟨_, rfl, rfl⟩⟩
  have opened : window.isDisposed = false := by simpa using disposed
  by_cases exhausted : cursor.exhausted = true
  · right
    rw [call_of_exhausted opened exhausted]
    exact ⟨rfl, rfl, .inl ⟨_, rfl⟩⟩
  have fresh : cursor.exhausted = false := by simpa using exhausted
  by_cases held : cursor.HeldBy window
  · obtain ⟨row, moved⟩ := call_of_held opened fresh held
    exact .inl ⟨row, fresh, moved⟩
  · right
    have outside : cursor.position.val < window.start.val ∨
        window.start.val + window.rows.size ≤ cursor.position.val := by
      simp only [HeldBy] at held
      omega
    obtain ⟨gap, stays⟩ := next_of_missing opened outside
    refine ⟨?_, ?_, ?_⟩
    · simp only [Call.position?, call, stays, Except.map]
    · simp only [call, stays]
    · exact .inl ⟨gap, by simp only [call, stays, Except.map]⟩

theorem call_of_position? {cursor : Cursor} {window : Window} {position : Position}
    (row : (cursor.call window).position? = some position) :
    position = cursor.position ∧ (cursor.call window).after = cursor.advance := by
  rcases call_cases cursor window with ⟨here, -, moved⟩ | ⟨none, -⟩
  · rw [here] at row
    cases row
    exact ⟨rfl, moved⟩
  · rw [none] at row
    cases row

theorem stays_of_position?_eq_none {cursor : Cursor} {window : Window}
    (none : (cursor.call window).position? = none) : (cursor.call window).Stays := by
  rcases call_cases cursor window with ⟨here, -⟩ | ⟨-, stays⟩
  · rw [here] at none
    cases none
  · exact stays

theorem advance_of_last {cursor : Cursor} (last : cursor.position = .last) :
    cursor.advance = { cursor with exhausted := true } := by
  have following : cursor.position.next? = none := by
    rw [last]
    rfl
  rw [advance, following]

theorem calls_of_exhausted {cursor : Cursor} (exhausted : cursor.exhausted = true)
    (windows : List Window) :
    ∀ call ∈ cursor.calls windows, call.after = cursor ∧ call.position? = none ∧
      (call.window.isDisposed = false → call.answer = .ok (.gap .pastWindow)) := by
  induction windows with
  | nil =>
      intro call member
      cases member
  | cons window windows induction =>
      have first : (cursor.call window).after = cursor ∧
          (cursor.call window).position? = none ∧
          ((cursor.call window).window.isDisposed = false →
            (cursor.call window).answer = .ok (.gap .pastWindow)) := by
        by_cases disposed : window.isDisposed = true
        · rw [call_of_disposed disposed]
          refine ⟨rfl, rfl, ?_⟩
          intro opened
          rw [disposed] at opened
          cases opened
        · rw [call_of_exhausted (by simpa using disposed) exhausted]
          exact ⟨rfl, rfl, fun _ => rfl⟩
      intro call member
      rw [calls, first.1] at member
      rcases List.mem_cons.mp member with here | later
      · rw [here]
        exact first
      · exact induction call later

theorem yielded_calls_of_exhausted {cursor : Cursor} (exhausted : cursor.exhausted = true)
    (windows : List Window) : yielded (cursor.calls windows) = [] := by
  apply List.filterMap_eq_nil_iff.mpr
  intro call member
  exact (calls_of_exhausted exhausted windows call member).2.1

theorem yielded_calls {cursor : Cursor} (fresh : cursor.exhausted = false)
    (windows : List Window) :
    (yielded (cursor.calls windows)).map Fin.val =
      List.range' cursor.position.val (yielded (cursor.calls windows)).length := by
  induction windows generalizing cursor with
  | nil => rfl
  | cons window windows induction =>
      rcases call_cases cursor window with ⟨row, -, moved⟩ | ⟨none, stays⟩
      · have first : yielded (cursor.calls (window :: windows)) =
            cursor.position :: yielded (cursor.advance.calls windows) := by
          rw [calls, moved, yielded, List.filterMap_cons_some row]
          rfl
        have rest : (yielded (cursor.advance.calls windows)).map Fin.val =
            List.range' (cursor.position.val + 1)
              (yielded (cursor.advance.calls windows)).length := by
          by_cases inside : cursor.position.val + 1 < 2 ^ 64
          · rw [advance_of_lt inside]
            exact induction fresh
          · have last : cursor.position = .last := by
              have bounded := cursor.position.isLt
              apply Fin.ext
              simp only [Position.last]
              omega
            rw [yielded_calls_of_exhausted (by rw [advance_of_last last])]
            rfl
        rw [first, List.map_cons, List.length_cons, List.range'_succ, rest]
      · have same : yielded (cursor.calls (window :: windows)) =
            yielded (cursor.calls windows) := by
          have unchanged : (cursor.call window).after = cursor := stays.after
          rw [calls, unchanged, yielded, List.filterMap_cons_none none]
          rfl
        rw [same]
        exact induction fresh

theorem exists_of_calls_eq_append {cursor : Cursor} {windows : List Window}
    {earlier later : List Call} {call : Call}
    (split : cursor.calls windows = earlier ++ call :: later) :
    call = call.before.call call.window ∧ ∃ rest, later = call.after.calls rest := by
  induction windows generalizing cursor earlier with
  | nil => simp [calls] at split
  | cons window windows induction =>
      cases earlier with
      | nil =>
          simp only [calls, List.nil_append, List.cons.injEq] at split
          obtain ⟨rfl, rfl⟩ := split
          exact ⟨rfl, windows, rfl⟩
      | cons first earlier =>
          simp only [calls, List.cons_append, List.cons.injEq] at split
          exact induction split.2

private theorem eq_call_of_mem {cursor : Cursor} {windows : List Window} {call : Call}
    (member : call ∈ cursor.calls windows) : call = call.before.call call.window := by
  obtain ⟨earlier, later, split⟩ := List.append_of_mem member
  exact (exists_of_calls_eq_append split).1

/-- After a request that yields no row, the next row to come is the one it missed. -/
theorem head?_yielded_of_stays {cursor : Cursor} {windows : List Window}
    {earlier later : List Call} {call : Call}
    (split : cursor.calls windows = earlier ++ call :: later)
    (none : call.position? = none) :
    ∀ position ∈ (yielded later).head?, position = call.before.position := by
  obtain ⟨here, rest, rfl⟩ := exists_of_calls_eq_append split
  have stays : call.Stays := by
    rw [here] at none ⊢
    exact stays_of_position?_eq_none none
  rw [stays.after]
  intro position head
  by_cases exhausted : call.before.exhausted = true
  · rw [yielded_calls_of_exhausted exhausted] at head
    cases head
  · have consecutive := yielded_calls (by simpa using exhausted) rest
    cases rows : yielded (call.before.calls rest) with
    | nil =>
        rw [rows] at head
        cases head
    | cons first others =>
        rw [rows] at head consecutive
        cases head
        simp only [List.map_cons, List.length_cons, List.range'_succ,
          List.cons.injEq] at consecutive
        exact Fin.ext consecutive.1

private theorem cursor_setCursor (session : Session) (id : Nat) (cursor : Cursor) :
    (session.setCursor id cursor).cursor id = cursor := by
  simp [Session.setCursor, Session.cursor]

theorem cursor_next (session : Session) (id : Nat)
    (readings? : Option (List (Getter × Nat))) (rendered : Bool) :
    (session.next id readings? rendered).2.cursor id =
      ((session.cursor id).call session.window).after := by
  cases answer : (session.cursor id).next session.window with
  | error fault => simp only [Session.next, call, answer]
  | ok found =>
      obtain ⟨found, after⟩ := found
      cases found with
      | row position => simp only [Session.next, call, answer, cursor_setCursor]
      | gap gap => simp only [Session.next, call, answer, cursor_setCursor]

/-- Whatever windows a cursor is asked about, it yields the rows from its position on in
order and none of them twice.  It yields the row at its position as soon as an open
window has it.  A request that yields none leaves the cursor as it was, and the row it
missed is the next one to come.  After the row at the last position no other comes and
the cursor stays there. -/
theorem yields_rows_in_order {cursor : Cursor} (fresh : cursor.exhausted = false)
    (windows : List Window) :
    (yielded (cursor.calls windows)).map Fin.val =
        List.range' cursor.position.val (yielded (cursor.calls windows)).length ∧
      (∀ call ∈ cursor.calls windows,
        (call.window.isDisposed = false → call.before.exhausted = false →
          call.before.HeldBy call.window →
            call.position? = some call.before.position) ∧
        (call.position? = none → call.Stays) ∧
        ∀ (session : Session) (id : Nat), session.window = call.window →
          session.cursor id = call.before → ∀ readings? rendered,
            (session.next id readings? rendered).2.cursor id = call.after) ∧
      ∀ earlier call later, cursor.calls windows = earlier ++ call :: later →
        (call.position? = none →
          ∀ position ∈ (yielded later).head?, position = call.before.position) ∧
        (call.position? = some .last → ∀ other ∈ later,
          other.position? = none ∧ other.after.position = .last ∧
            (other.window.isDisposed = false → other.answer = .ok (.gap .pastWindow))) := by
  refine ⟨yielded_calls fresh windows, ?_, ?_⟩
  · intro call member
    have here := eq_call_of_mem member
    refine ⟨?_, ?_, ?_⟩
    · intro opened fresh held
      rw [here]
      exact (call_of_held opened fresh held).1
    · intro none
      rw [here] at none ⊢
      exact stays_of_position?_eq_none none
    · intro session id sameWindow sameCursor readings? rendered
      rw [cursor_next, sameWindow, sameCursor, ← here]
  · intro earlier call later split
    refine ⟨head?_yielded_of_stays split, ?_⟩
    intro lastRow other member
    obtain ⟨here, rest, rfl⟩ := exists_of_calls_eq_append split
    rw [here] at lastRow
    obtain ⟨last, moved⟩ := call_of_position? lastRow
    rw [← here, advance_of_last last.symm] at moved
    rw [moved] at member
    obtain ⟨stays, none, past⟩ := calls_of_exhausted rfl rest other member
    refine ⟨none, ?_, past⟩
    rw [stays]
    exact last.symm

/-- Windows that begin too late, hold the last two rows, are disposed and hold no
row. -/
def nearTheEnd : List Window :=
  let rows := (Window.named none).filled 18446744073709551614 1 [[.null], [.integer 7]]
  [(Window.named none).filled .last 1 [[.null]], rows, (Window.named none).release,
    .named none, rows, rows]

theorem yields_rows_in_order_up_to_the_last :
    (yielded ((startingAt 18446744073709551614).calls nearTheEnd)).map Fin.val =
        [18446744073709551614, 18446744073709551615] ∧
      ∃ earlier call other,
        (startingAt 18446744073709551614).calls nearTheEnd = earlier ++ [call, other] ∧
          call.position? = some .last ∧ other.answer = .ok (.gap .pastWindow) := by
  have fresh : (startingAt 18446744073709551614).exhausted = false := rfl
  obtain ⟨inOrder, -, around⟩ := yields_rows_in_order fresh nearTheEnd
  refine ⟨inOrder.trans (by decide +kernel), _, _, _,
    (rfl : _ = [_, _, _, _] ++ [_, _]), rfl, ?_⟩
  obtain ⟨-, -, past⟩ := (around [_, _, _, _] _ [_] rfl).2 rfl _ List.mem_cons_self
  exact past rfl

end PagedRows.Cursor
