import PagedRows.Proofs.Filling
import PagedRows.Session

/-!
# The history of a session

The steps of a session come down to changes of its window.  Its history lists
the changes that were made, oldest first: those of failed steps are missing, a
fill appears with everything it did on the way, and a guard as the reference that
it takes, what is done under it, and the release.
-/

namespace PagedRows

namespace Window

/-- The window as an action leaves it, whether it succeeds or fails. -/
def Action.after {α : Type} (action : Action α) (window : Window) : Window :=
  match action.run window with
  | .ok _ after => after
  | .error _ after => after

theorem Action.after_of_error {α : Type} {action : Action α} {window after : Window}
    {fault : Fault} (failed : action.run window = .error fault after) :
    action.after window = after := by
  rw [Action.after, failed]

/-- The change, if it is made. -/
def made (window : Window) (change : Change) : List Change :=
  match change.action.run window with
  | .ok _ _ => [change]
  | .error _ _ => []

theorem undergoes_made (window : Window) (change : Change) :
    window.Undergoes (window.made change) (change.action.after window) := by
  by_cases allowed : change.Allowed window
  · have succeeded := Change.run_action_of_allowed allowed
    rw [made, Action.after, succeeded]
    exact .one succeeded
  · obtain ⟨fault, failed⟩ := Change.run_action_of_not_allowed allowed
    rw [made, Action.after, failed]
    exact .nothing window

/-- The cells put into a row, as long as they have a column. -/
def cellChanges (row : Position) (columns column : Nat) : List Cell → List Change
  | [] => []
  | cell :: cells =>
      if column < columns then
        .put cell row column :: cellChanges row columns (column + 1) cells
      else []

/-- A row is allocated, its cells are put, and a misfit is freed again. -/
def rowChanges (row : Position) (columns : Nat) (cells : List Cell) : List Change :=
  .allocate :: (cellChanges row columns 0 cells ++
    if cells.length = columns then [] else [.free])

/-- Row follows row up to the first that does not fit. -/
def rowsChanges (start : Position) (columns written : Nat) :
    List (List Cell) → List Change
  | [] => []
  | cells :: rows =>
      match start.advance? written with
      | none => []
      | some row =>
          rowChanges row columns cells ++
            if cells.length = columns then rowsChanges start columns (written + 1) rows
            else []

def fillChanges (window : Window) (start : Position) (columns : Nat)
    (rows : List (List Cell)) : List Change :=
  if window.isDisposed then []
  else .clear :: .rebase start :: .declare columns :: rowsChanges start columns 0 rows

theorem undergoes_cellChanges {base : Window} {done : Array (Array Cell)}
    (columns : Nat) {row : Position} (opened : base.isDisposed = false)
    (placed : base.start.val + done.size = row.val) (cells written : List Cell)
    (room : written.length ≤ columns) :
    Undergoes { base with rows := done.push (partialRow columns written) }
      (cellChanges row columns written.length cells)
      { base with
        rows := done.push (partialRow columns ((written ++ cells).take columns)) } := by
  induction cells generalizing written with
  | nil =>
      rw [List.append_nil, List.take_of_length_le room]
      exact .nothing _
  | cons cell cells induction =>
      by_cases inside : written.length < columns
      · have rest := induction (written ++ [cell]) (by simp; omega)
        simp only [List.length_append, List.length_cons, List.length_nil,
          Nat.zero_add, List.append_assoc, List.cons_append, List.nil_append] at rest
        rw [cellChanges, if_pos inside]
        exact .change (Action.run_putCell_last opened placed inside cell) rest
      · have width : written.length = columns := by omega
        rw [cellChanges, if_neg inside, ← width, List.take_left]
        exact .nothing _

theorem undergoes_rowChanges {window : Window} {row : Position}
    (cells : List Cell) (opened : window.isDisposed = false)
    (placed : window.start.val + window.rows.size = row.val) :
    window.Undergoes (rowChanges row window.columns cells)
      (if cells.length = window.columns then
        { window with rows := window.rows.push cells.toArray }
      else window) := by
  have allocated : (Change.action .allocate).run window = _ :=
    Change.run_action_of_allowed opened
  have wrote := undergoes_cellChanges window.columns opened placed cells []
    (Nat.zero_le _)
  simp only [partialRow_nil, List.length_nil, List.nil_append] at wrote
  refine .change allocated (.append wrote ?_)
  by_cases width : cells.length = window.columns
  · simp only [width, ↓reduceIte, List.take_of_length_le (Nat.le_of_eq width),
      partialRow_of_length width]
    exact .nothing _
  · simp only [width, ↓reduceIte]
    have freed : (Change.action .free).run { window with
        rows := window.rows.push
          (partialRow window.columns (cells.take window.columns)) } = _ :=
      Change.run_action_of_allowed ⟨opened, by simp⟩
    simp only [Change.effect, Array.pop_push] at freed
    exact .one freed

theorem undergoes_rowsChanges (window : Window) {start : Position} {written : Nat}
    (rows : List (List Cell)) (opened : window.isDisposed = false)
    (placed : window.start = start) (count : window.rows.size = written) :
    window.Undergoes (rowsChanges start window.columns written rows)
      ((Action.writeRows start window.columns written rows).after window) := by
  induction rows generalizing window written with
  | nil => exact .nothing window
  | cons cells rows induction =>
      by_cases inside : start.val + written < 2 ^ 64
      · have position := Position.advance?_of_lt inside
        have row : window.Undergoes
            (rowChanges ⟨start.val + written, inside⟩ window.columns cells) _ :=
          undergoes_rowChanges cells opened (by rw [placed, count])
        by_cases width : cells.length = window.columns
        · rw [if_pos width] at row
          have wrote : (Action.writeRow ⟨start.val + written, inside⟩
              window.columns cells).run window = _ :=
            Action.run_writeRow_of_width cells opened (by rw [placed, count]) width
          have rest := @induction
            { window with rows := window.rows.push cells.toArray } (written + 1)
            opened placed (by simp [count])
          have continued :
              (Action.writeRows start window.columns written (cells :: rows)).after window =
                (Action.writeRows start window.columns (written + 1) rows).after
                  { window with rows := window.rows.push cells.toArray } := by
            simp only [Action.after, Action.writeRows, position, EStateM.run_bind, wrote]
          rw [continued]
          simp only [rowsChanges, position, width, ↓reduceIte]
          exact row.append rest
        · rw [if_neg width] at row
          have refused := Action.run_writeRows_of_misfit window rows opened placed count
            fun fits : Fits start window.columns written cells => width fits.1
          rw [Action.after_of_error refused]
          simp only [rowsChanges, position, width, ↓reduceIte, List.append_nil]
          exact row
      · have position := Position.advance?_of_not_lt inside
        have refused := Action.run_writeRows_of_misfit window rows opened placed count
          fun fits : Fits start window.columns written cells => inside fits.2
        rw [Action.after_of_error refused]
        simp only [rowsChanges, position]
        exact .nothing window

theorem undergoes_fillChanges (window : Window) (start : Position) (columns : Nat)
    (rows : List (List Cell)) :
    window.Undergoes (window.fillChanges start columns rows)
      ((Action.fill start columns rows).after window) := by
  by_cases disposed : window.isDisposed = true
  · rw [fillChanges, if_pos disposed,
      Action.after_of_error (Action.run_fill_of_disposed disposed start columns rows)]
    exact .nothing window
  · have opened : window.isDisposed = false := by simpa using disposed
    have rest : (window.filled start columns []).Undergoes
        (rowsChanges start columns 0 rows) _ :=
      undergoes_rowsChanges (window.filled start columns []) rows opened rfl
        (by simp [filled])
    have continued : (Action.fill start columns rows).after window =
        (Action.writeRows start columns 0 rows).after
          (window.filled start columns []) := by
      rw [Action.after, Action.run_fill_of_open opened, Action.after]
    rw [fillChanges, if_neg disposed, continued]
    refine .change (Change.run_action_of_allowed opened)
      (.change (Change.run_action_of_allowed opened)
        (.change (Change.run_action_of_allowed ⟨opened, ?_⟩) rest))
    intro filled
    simp [Change.effect] at filled

end Window

namespace Session

open Window (Change)

/-- The change of a window that takes the place of the one before. -/
def renewal (name? : Option String) : Option Int → List Change
  | none => [.renew name? Window.defaultSizeBytes]
  | some (.ofNat sizeBytes) => [.renew name? sizeBytes]
  | some (.negSucc _) => []

/-- The cell that a value becomes, if it is there. -/
def Written.cell? : Written → Option Cell
  | null => some .null
  | long value => some (.integer value)
  | double value => some (.float value)
  | string text? => text?.map .string
  | blob bytes? => bytes?.map .blob

def held (session : Session) : Session :=
  { session with
    window := { session.window with references := session.window.references + 1 } }

mutual

def changes : Step → Session → List Change
  | .renew name? sizeBytes?, _ => renewal name? sizeBytes?
  | .setStart start, session => session.window.made (.rebase start)
  | .setColumns columns, session => session.window.made (.declare columns)
  | .allocateRow, session => session.window.made .allocate
  | .freeLastRow, session => session.window.made .free
  | .clear, session => session.window.made .clear
  | .acquire, session => session.window.made .acquire
  | .release, _ | .close, _ => [.release]
  | .guarded steps stopAtFailure, session =>
      if session.window.isDisposed then []
      else
        .acquire :: (history steps stopAtFailure session.held ++ [.release])
  | .write value row column, session =>
      match value.cell? with
      | none => []
      | some cell => session.window.made (.put cell row column)
  | .fill start columns rows, session => session.window.fillChanges start columns rows
  | .fillLines start columns text, session =>
      match RowLines.read text.toList with
      | .error _ => []
      | .ok rows => session.window.fillChanges start columns rows
  | .describe, _ | .info, _ | .read _ _ _, _ | .readAll _ _, _ | .copyText _ _, _
  | .placeCursor _ _, _ | .next _ _ _, _ | .drain _, _ => []

/-- The changes that steps make, up to the first failure if that ends them. -/
def history : List Step → Bool → Session → List Change
  | [], _, _ => []
  | step :: steps, stopAtFailure, session =>
      changes step session ++
        if stopAtFailure && !(run step session).1.toBool then []
        else history steps stopAtFailure (run step session).2

end

theorem perform_window {α : Type} (session : Session) (action : Window.Action α)
    (reply : α → Reply) :
    (session.perform action reply).2.window = action.after session.window := by
  unfold perform Window.Action.after EStateM.run
  cases action session.window <;> rfl

theorem undergoes_perform (session : Session) (change : Change) (reply : Unit → Reply) :
    session.window.Undergoes (session.window.made change)
      (session.perform change.action reply).2.window := by
  rw [perform_window]
  exact Window.undergoes_made session.window change

theorem undergoes_renew (session : Session) (name? : Option String)
    (sizeBytes? : Option Int) :
    session.window.Undergoes (renewal name? sizeBytes?)
      (session.renew name? sizeBytes?).2.window := by
  match sizeBytes? with
  | none => exact .one rfl
  | some (.ofNat sizeBytes) => exact .one rfl
  | some (.negSucc _) => exact .nothing session.window

theorem undergoes_write (session : Session) (value : Written) (row : Position)
    (column : Nat) :
    session.window.Undergoes
      (match value.cell? with
        | none => []
        | some cell => session.window.made (.put cell row column))
      (session.perform (value.action row column) fun _ => .done).2.window := by
  cases value with
  | null => exact undergoes_perform session (.put .null row column) _
  | long value => exact undergoes_perform session (.put (.integer value) row column) _
  | double value => exact undergoes_perform session (.put (.float value) row column) _
  | string text? =>
      cases text? with
      | none => exact .nothing session.window
      | some text => exact undergoes_perform session (.put (.string text) row column) _
  | blob bytes? =>
      cases bytes? with
      | none => exact .nothing session.window
      | some bytes => exact undergoes_perform session (.put (.blob bytes) row column) _

theorem undergoes_fillLines (session : Session) (start : Position) (columns : Nat)
    (text : String) :
    session.window.Undergoes
      (match RowLines.read text.toList with
        | .error _ => []
        | .ok rows => session.window.fillChanges start columns rows)
      (session.perform (fillLines start columns text) .count).2.window := by
  rw [perform_window, fillLines]
  cases RowLines.read text.toList with
  | error fault => exact .nothing session.window
  | ok rows => exact Window.undergoes_fillChanges session.window start columns rows

theorem next_window (session : Session) (id : Nat)
    (readings? : Option (List (Getter × Nat))) (rendered : Bool) :
    (session.next id readings? rendered).2.window = session.window := by
  unfold next
  split <;> rfl

theorem drain_window (session : Session) (id : Nat) :
    (session.drain id).2.window = session.window := by
  unfold drain
  split <;> rfl

theorem copyText_window (session : Session) (row : Position) (column : Nat) :
    (session.copyText row column).2.window = session.window := by
  unfold copyText
  split <;> rfl

theorem run_guarded_of_open {session : Session} (steps : List Step)
    (stopAtFailure : Bool) (opened : session.window.isDisposed = false) :
    run (.guarded steps stopAtFailure) session =
      (.ok (.guarded (runAll steps stopAtFailure session.held).1),
        { (runAll steps stopAtFailure session.held).2 with
          window := (runAll steps stopAtFailure session.held).2.window.release }) := by
  have acquired : Window.Action.acquire.run session.window = _ :=
    Window.Action.run_bind_ensureOpen_of_open opened _
  have entered : session.perform .acquire (fun _ => .done) = (.ok .done, session.held) := by
    rw [perform, show Window.Action.acquire session.window = _ from acquired]
    rfl
  rw [run, entered]

theorem run_guarded_of_disposed {session : Session} (steps : List Step)
    (stopAtFailure : Bool) (disposed : session.window.isDisposed = true) :
    run (.guarded steps stopAtFailure) session =
      (.error session.window.disposedFault, session) := by
  have refused : Window.Action.acquire.run session.window = _ :=
    Window.Action.run_bind_ensureOpen_of_disposed disposed _
  have entered : session.perform .acquire (fun _ => .done) =
      (.error session.window.disposedFault, session) := by
    rw [perform, show Window.Action.acquire session.window = _ from refused]
  rw [run, entered]

mutual

/-- A step leads to the window that its changes lead to. -/
theorem undergoes_run (step : Step) (session : Session) :
    session.window.Undergoes (changes step session) (run step session).2.window := by
  cases step with
  | renew name? sizeBytes? => exact undergoes_renew session name? sizeBytes?
  | setStart start => exact undergoes_perform session (.rebase start) _
  | setColumns columns => exact undergoes_perform session (.declare columns) _
  | allocateRow => exact undergoes_perform session .allocate _
  | freeLastRow => exact undergoes_perform session .free _
  | clear => exact undergoes_perform session .clear _
  | acquire => exact undergoes_perform session .acquire _
  | release => exact .one rfl
  | close => exact .one rfl
  | guarded steps stopAtFailure =>
      by_cases disposed : session.window.isDisposed = true
      · have refused := run_guarded_of_disposed steps stopAtFailure disposed
        rw [changes, if_pos disposed, refused]
        exact .nothing session.window
      · have opened : session.window.isDisposed = false := by simpa using disposed
        have inside := undergoes_runAll steps stopAtFailure session.held
        rw [changes, if_neg disposed, run_guarded_of_open steps stopAtFailure opened]
        exact .change (Window.Change.run_action_of_allowed opened)
          (inside.append (.one rfl))
  | write value row column => exact undergoes_write session value row column
  | fill start columns rows =>
      have filled := Window.undergoes_fillChanges session.window start columns rows
      rw [run, perform_window]
      exact filled
  | fillLines start columns text => exact undergoes_fillLines session start columns text
  | next id readings? rendered =>
      rw [run, next_window]
      exact .nothing session.window
  | drain id =>
      rw [run, drain_window]
      exact .nothing session.window
  | copyText row column =>
      rw [run, copyText_window]
      exact .nothing session.window
  | describe => exact .nothing session.window
  | info => exact .nothing session.window
  | read getter row column => exact .nothing session.window
  | readAll row column => exact .nothing session.window
  | placeCursor id position => exact .nothing session.window

theorem undergoes_runAll (steps : List Step) (stopAtFailure : Bool)
    (session : Session) :
    session.window.Undergoes (history steps stopAtFailure session)
      (runAll steps stopAtFailure session).2.window := by
  cases steps with
  | nil => exact .nothing session.window
  | cons step steps =>
      have first := undergoes_run step session
      rw [history, runAll]
      by_cases stopped : (stopAtFailure && !(run step session).1.toBool) = true
      · simp only [stopped, ↓reduceIte, List.append_nil]
        exact first
      · have rest := undergoes_runAll steps stopAtFailure (run step session).2
        simp only [stopped]
        exact first.append rest

end

end Session

namespace Window

/-- The windows that any steps lead to from a new window.  Those inside a guard are
among them, since a guard begins and ends like the steps `acquire` and `release`. -/
inductive Reachable : Window → Prop where
  | constructed {name? : Option String} {sizeBytes? : Option Int} {window : Window} :
      Session.newWindow name? sizeBytes? = .ok window → Reachable window
  | stepped (step : Session.Step) {session : Session} :
      Reachable session.window → Reachable (Session.run step session).2.window

theorem eq_empty_of_newWindow {name? : Option String} {sizeBytes? : Option Int}
    {window : Window} (constructed : Session.newWindow name? sizeBytes? = .ok window) :
    ∃ sizeBytes, window = .empty name? sizeBytes := by
  match sizeBytes? with
  | none =>
      cases constructed
      exact ⟨_, rfl⟩
  | some (.ofNat sizeBytes) =>
      cases constructed
      exact ⟨_, rfl⟩
  | some (.negSucc _) => cases constructed

theorem Reachable.undergone {window : Window} (reachable : window.Reachable) :
    ∃ name? sizeBytes changes,
      (Window.empty name? sizeBytes).Undergoes changes window := by
  induction reachable with
  | constructed constructed =>
      obtain ⟨sizeBytes, rfl⟩ := eq_empty_of_newWindow constructed
      exact ⟨_, sizeBytes, [], .nothing _⟩
  | stepped step _ induction =>
      obtain ⟨name?, sizeBytes, changes, undergone⟩ := induction
      exact ⟨name?, sizeBytes, _, undergone.append (Session.undergoes_run step _)⟩

/-- What holds of a new window and is kept by every change holds of every
reachable window. -/
theorem Reachable.invariant {window : Window} (reachable : window.Reachable)
    {holds : Window → Prop}
    (new : ∀ name? sizeBytes, holds (.empty name? sizeBytes))
    (kept : ∀ {window : Window} {change : Change}, holds window →
      change.Allowed window → holds (change.effect window)) :
    holds window := by
  obtain ⟨name?, sizeBytes, changes, undergone⟩ := reachable.undergone
  exact undergone.invariant kept (new name? sizeBytes)

end Window

end PagedRows
