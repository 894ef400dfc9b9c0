import PagedRows.Proofs.Description
import PagedRows.Proofs.Getters
import PagedRows.Proofs.Lifetime

/-!
# Guards without effect

How many references an open window has is seen by nothing but the release of the last
one.  So a window that is open after some steps would have taken the same way under one
reference more, and a guard, which takes a reference and gives it up, has no effect on
steps that leave the window open.
-/

namespace PagedRows

namespace Window

theorem isDisposed_retained_eq {window : Window} (opened : window.isDisposed = false) :
    window.retained.isDisposed = window.isDisposed := by
  rw [isDisposed_retained, opened]

theorem release_retained {window : Window} (opened : window.isDisposed = false) :
    window.retained.release = window := by
  have positive : window.references ≠ 0 := by simpa [isDisposed] using opened
  rw [release_of_references_ne_one (by simpa [retained] using positive)]
  rfl

theorem references_of_release_open {window : Window}
    (opened : window.release.isDisposed = false) : 1 < window.references := by
  rw [isDisposed, decide_eq_false_iff_not, references_release] at opened
  omega

theorem release_retained_of_release_open {window : Window}
    (opened : window.release.isDisposed = false) :
    window.retained.release = window.release.retained := by
  have several := references_of_release_open opened
  have unreleased : window.isDisposed = false := by
    simp only [isDisposed, decide_eq_false_iff_not]
    omega
  rw [release_retained unreleased, release_of_references_ne_one (by omega)]
  have restored : window.references - 1 + 1 = window.references := by omega
  simp only [retained, restored]

theorem read_congr {left right : Window} {row : Position} {column : Nat}
    (same : left.cell row column = right.cell row column) (getter : Getter) :
    left.read row column getter = right.read row column getter := by
  rw [read_eq_view, read_eq_view, view, view, same]

section Reading

variable {window : Window} (opened : window.isDisposed = false)

include opened

theorem find_retained (row : Position) (column : Nat) :
    window.retained.find row column = window.find row column := by
  rw [find, isDisposed_retained_eq opened]
  rfl

theorem cell_retained (row : Position) (column : Nat) :
    window.retained.cell row column = window.cell row column := by
  rw [cell, find_retained opened]
  rfl

theorem read_retained (row : Position) (column : Nat) (getter : Getter) :
    window.retained.read row column getter = window.read row column getter :=
  read_congr (cell_retained opened row column) getter

theorem copyText_retained (row : Position) (column : Nat) :
    window.retained.copyText row column = window.copyText row column := by
  simp only [copyText, textAt, view, cell_retained opened]

theorem rowJson_retained (row : Position) :
    window.retained.rowJson row = window.rowJson row := by
  have cells : window.retained.cellJson row = window.cellJson row := by
    funext column
    rw [cellJson_eq_map, cellJson_eq_map, cell_retained opened]
  rw [rowJson, cells]
  rfl

theorem infoJson_retained : window.retained.infoJson = window.infoJson := by
  have kinds : window.retained.kindAt = window.kindAt := by
    funext row column
    rw [kindAt, kindAt, cell_retained opened]
  have same : window.retained.census = window.census := by
    rw [census, Window.kinds, kinds]
    rfl
  rw [infoJson, same]
  rfl

theorem next_retained (cursor : Cursor) :
    cursor.next window.retained = cursor.next window := by
  rw [Cursor.next, isDisposed_retained_eq opened]
  rfl

theorem drain_retained (cursor : Cursor) :
    cursor.drain window.retained = cursor.drain window := by
  induction cursor using Cursor.drain.induct window with
  | case1 cursor fault failed =>
      rw [Cursor.drain_eq, Cursor.drain_eq cursor window, next_retained opened, failed]
  | case2 cursor gap after missing =>
      rw [Cursor.drain_eq, Cursor.drain_eq cursor window, next_retained opened, missing]
  | case3 cursor position after yielded _ fault failed induction =>
      rw [Cursor.drain_eq, Cursor.drain_eq cursor window, next_retained opened, yielded]
      simp only [induction]
  | case4 cursor position after yielded _ positions gap last rest induction =>
      rw [Cursor.drain_eq, Cursor.drain_eq cursor window, next_retained opened, yielded]
      simp only [induction]

end Reading

namespace Action

/-- An action keeps an open window open and does under one reference more what it does
without. -/
def Blind {α : Type} (action : Action α) : Prop :=
  ∀ window : Window, window.isDisposed = false → ∃ after, after.isDisposed = false ∧
    ((∃ result, action.run window = .ok result after ∧
        action.run window.retained = .ok result after.retained) ∨
      ∃ fault, action.run window = .error fault after ∧
        action.run window.retained = .error fault after.retained)

theorem blind_pure {α : Type} (result : α) : Blind (pure result) := by
  intro window opened
  exact ⟨window, opened, .inl ⟨result, rfl, rfl⟩⟩

theorem blind_throw {α : Type} (fault : Fault) : Blind (throw fault : Action α) := by
  intro window opened
  exact ⟨window, opened, .inr ⟨fault, rfl, rfl⟩⟩

theorem Blind.bind {α β : Type} {first : Action α} {next : α → Action β}
    (blind : Blind first) (each : ∀ result, Blind (next result)) :
    Blind (first >>= next) := by
  intro window opened
  obtain ⟨between, stillOpen, ⟨result, plain, held⟩ | ⟨fault, plain, held⟩⟩ :=
    blind window opened
  · obtain ⟨after, openAfter, outcome⟩ := each result between stillOpen
    refine ⟨after, openAfter, ?_⟩
    simp only [EStateM.run_bind, plain, held]
    exact outcome
  · refine ⟨between, stillOpen, .inr ⟨fault, ?_, ?_⟩⟩
    · simp only [EStateM.run_bind, plain]
    · simp only [EStateM.run_bind, held]

theorem Blind.tryCatch {α : Type} {body : Action α} {handler : Fault → Action α}
    (blind : Blind body) (each : ∀ fault, Blind (handler fault)) :
    Blind (tryCatch body handler) := by
  intro window opened
  obtain ⟨between, stillOpen, ⟨result, plain, held⟩ | ⟨fault, plain, held⟩⟩ :=
    blind window opened
  · refine ⟨between, stillOpen, .inl ⟨result, ?_, ?_⟩⟩
    · simp only [run_tryCatch, plain]
    · simp only [run_tryCatch, held]
  · obtain ⟨after, openAfter, outcome⟩ := each fault between stillOpen
    refine ⟨after, openAfter, ?_⟩
    simp only [run_tryCatch, plain, held]
    exact outcome

theorem Blind.afterOpen {α : Type} {next : Unit → Action α} (blind : Blind (next ())) :
    Blind (ensureOpen >>= next) := by
  intro window opened
  rw [run_bind_ensureOpen_of_open opened,
    run_bind_ensureOpen_of_open (isDisposed_retained window)]
  exact blind window opened

theorem blind_acquire : Blind acquire :=
  .afterOpen fun window _ => ⟨window.retained, isDisposed_retained window, .inl ⟨(), rfl, rfl⟩⟩

theorem blind_setStart (start : Position) : Blind (setStart start) :=
  .afterOpen fun window opened =>
    ⟨{ window with start := start }, opened, .inl ⟨(), rfl, rfl⟩⟩

theorem blind_allocateRow : Blind allocateRow :=
  .afterOpen fun window opened =>
    ⟨{ window with rows := window.rows.push (Array.replicate window.columns .null) }, opened,
      .inl ⟨(), rfl, rfl⟩⟩

theorem blind_clear : Blind clear :=
  .afterOpen fun window opened =>
    ⟨{ window with rows := #[], start := 0, columns := 0 }, opened, .inl ⟨(), rfl, rfl⟩⟩

theorem blind_setColumns (columns : Nat) : Blind (setColumns columns) := by
  apply Blind.afterOpen
  intro window opened
  by_cases rejected : window.rows.size ≠ 0 ∧ columns ≠ window.columns
  · have retained : window.retained.rows.size ≠ 0 ∧ columns ≠ window.retained.columns := rejected
    refine ⟨window, opened, .inr ⟨?fault, ?plain, ?held⟩⟩
    case plain =>
      simp only [EStateM.run_bind, EStateM.run_get, if_pos rejected, EStateM.run_throw]
      rfl
    case held =>
      simp only [EStateM.run_bind, EStateM.run_get, if_pos retained, EStateM.run_throw]
      rfl
  · have retained : ¬(window.retained.rows.size ≠ 0 ∧ columns ≠ window.retained.columns) :=
      rejected
    refine ⟨{ window with columns := columns }, opened, .inl ⟨(), ?_, ?_⟩⟩
    · simp only [EStateM.run_bind, EStateM.run_get, if_neg rejected, EStateM.run_set]
    · simp only [EStateM.run_bind, EStateM.run_get, if_neg retained, EStateM.run_set]
      rfl

theorem blind_freeLastRow : Blind freeLastRow := by
  apply Blind.afterOpen
  intro window opened
  by_cases rejected : window.rows.isEmpty = true
  · have retained : window.retained.rows.isEmpty = true := rejected
    refine ⟨window, opened, .inr ⟨?fault, ?plain, ?held⟩⟩
    case plain =>
      simp only [EStateM.run_bind, EStateM.run_get, if_pos rejected, EStateM.run_throw]
      rfl
    case held =>
      simp only [EStateM.run_bind, EStateM.run_get, if_pos retained, EStateM.run_throw]
  · have retained : ¬window.retained.rows.isEmpty = true := rejected
    refine ⟨{ window with rows := window.rows.pop }, opened, .inl ⟨(), ?_, ?_⟩⟩
    · simp only [EStateM.run_bind, EStateM.run_get, if_neg rejected, EStateM.run_set]
    · simp only [EStateM.run_bind, EStateM.run_get, if_neg retained, EStateM.run_set]
      rfl

theorem blind_putCell (value : Cell) (row : Position) (column : Nat) :
    Blind (putCell value row column) := by
  intro window opened
  cases found : window.find row column with
  | error fault =>
      refine ⟨window, opened, .inr ⟨fault, run_putCell_of_fault value found, ?_⟩⟩
      exact run_putCell_of_fault value ((find_retained opened row column).trans found)
  | ok held =>
      refine ⟨_, ?_, .inl ⟨(), run_putCell_of_find value found, ?_⟩⟩
      · exact opened
      · exact run_putCell_of_find value ((find_retained opened row column).trans found)

theorem blind_writeCells (row : Position) (columns column : Nat) (cells : List Cell) :
    Blind (writeCells row columns column cells) := by
  induction cells generalizing column with
  | nil =>
      rw [writeCells]
      split
      · exact blind_throw _
      · exact blind_pure ()
  | cons cell cells induction =>
      have rest := (blind_putCell cell row column).bind fun _ => induction (column + 1)
      rw [writeCells, put_eq_putCell]
      split
      · exact (blind_throw _).bind fun _ => rest
      · exact rest

theorem blind_writeRow (row : Position) (columns : Nat) (cells : List Cell) :
    Blind (writeRow row columns cells) :=
  blind_allocateRow.bind fun _ =>
    (blind_writeCells row columns 0 cells).tryCatch fun fault =>
      blind_freeLastRow.bind fun _ => blind_throw fault

theorem blind_writeRows (start : Position) (columns written : Nat)
    (rows : List (List Cell)) : Blind (writeRows start columns written rows) := by
  induction rows generalizing written with
  | nil => exact blind_pure written
  | cons cells rows induction =>
      rw [writeRows]
      split
      · exact blind_throw _
      next row _ =>
        exact (blind_writeRow row columns cells).bind fun _ => induction (written + 1)

theorem blind_fill (start : Position) (columns : Nat) (rows : List (List Cell)) :
    Blind (fill start columns rows) :=
  blind_clear.bind fun _ => (blind_setStart start).bind fun _ =>
    (blind_setColumns columns).bind fun _ => blind_writeRows start columns 0 rows

end Action

theorem Undergoes.open_of_open {window after : Window} {changes : List Change}
    (undergone : window.Undergoes changes after)
    (same : ∀ name? sizeBytes, .renew name? sizeBytes ∉ changes)
    (survives : after.isDisposed = false) : window.isDisposed = false := by
  cases disposed : window.isDisposed with
  | false => rfl
  | true =>
      rw [undergone.eq_of_disposed disposed same, disposed] at survives
      cases survives

end Window

namespace Session

open Window (Change)

theorem summary_held {session : Session} (opened : session.window.isDisposed = false) :
    session.held.summary = session.summary := by
  rw [summary, summary, show session.held.window.isDisposed = _ from
    Window.isDisposed_retained_eq opened]
  rfl

theorem perform_held {α : Type} {action : Window.Action α} (blind : action.Blind)
    {session : Session} (opened : session.window.isDisposed = false) (reply : α → Reply) :
    session.held.perform action reply =
      ((session.perform action reply).1, (session.perform action reply).2.held) := by
  obtain ⟨after, -, ⟨result, plain, held⟩ | ⟨fault, plain, held⟩⟩ :=
    blind session.window opened
  · rw [perform, perform, show action session.window = _ from plain,
      show action session.held.window = _ from held]
    rfl
  · rw [perform, perform, show action session.window = _ from plain,
      show action session.held.window = _ from held]
    rfl

theorem blind_write (value : Written) (row : Position) (column : Nat) :
    (value.action row column).Blind := by
  cases value with
  | null => exact Window.Action.blind_putCell _ row column
  | long value => exact Window.Action.blind_putCell _ row column
  | double value => exact Window.Action.blind_putCell _ row column
  | string text? =>
      cases text? with
      | none => exact Window.Action.blind_throw _
      | some text => exact Window.Action.blind_putCell _ row column
  | blob bytes? =>
      cases bytes? with
      | none => exact Window.Action.blind_throw _
      | some bytes => exact Window.Action.blind_putCell _ row column

theorem blind_fillLines (start : Position) (columns : Nat) (text : String) :
    (fillLines start columns text).Blind := by
  rw [fillLines]
  split
  · exact Window.Action.blind_throw _
  next rows _ => exact Window.Action.blind_fill start columns rows

theorem copyText_held {session : Session} (opened : session.window.isDisposed = false)
    (row : Position) (column : Nat) :
    session.held.copyText row column =
      ((session.copyText row column).1, (session.copyText row column).2.held) := by
  rw [copyText, copyText, show session.held.window.copyText row column = _ from
    Window.copyText_retained opened row column]
  cases session.window.copyText row column <;> rfl

theorem next_held {session : Session} (opened : session.window.isDisposed = false) (id : Nat)
    (readings? : Option (List (Getter × Nat))) (rendered : Bool) :
    session.held.next id readings? rendered =
      ((session.next id readings? rendered).1, (session.next id readings? rendered).2.held) := by
  have cursor : (session.held.cursor id).next session.held.window =
      (session.cursor id).next session.window := Window.next_retained opened _
  have row (position : Position) :
      yieldedRow session.held.window position readings? rendered =
        yieldedRow session.window position readings? rendered := by
    have rendering : session.held.window.rowJson position = _ :=
      Window.rowJson_retained opened position
    have reading : session.held.window.read position = session.window.read position := by
      funext column getter
      exact Window.read_retained opened position column getter
    rw [yieldedRow, yieldedRow, rendering, reading]
    rfl
  rw [next, next, cursor]
  cases (session.cursor id).next session.window with
  | error fault => rfl
  | ok found =>
      obtain ⟨found, after⟩ := found
      cases found with
      | gap gap => rfl
      | row position =>
          simp only [row]
          rfl

theorem drain_held {session : Session} (opened : session.window.isDisposed = false) (id : Nat) :
    session.held.drain id = ((session.drain id).1, (session.drain id).2.held) := by
  have cursor : (session.held.cursor id).drain session.held.window =
      (session.cursor id).drain session.window := Window.drain_retained opened _
  have rows : session.held.window.rowJson = session.window.rowJson := by
    funext position
    exact Window.rowJson_retained opened position
  rw [drain, drain, cursor, rows]
  cases (session.cursor id).drain session.window <;> rfl

mutual

/-- A step that leaves the window open, and is not given a new one, does the same under
one reference more. -/
theorem run_held (step : Step) {session : Session}
    (kept : ∀ name? sizeBytes, .renew name? sizeBytes ∉ changes step session)
    (survives : (run step session).2.window.isDisposed = false) :
    run step session.held = ((run step session).1, (run step session).2.held) := by
  have opened : session.window.isDisposed = false :=
    (undergoes_run step session).open_of_open kept survives
  cases step with
  | renew name? sizeBytes? =>
      match sizeBytes? with
      | none => exact (kept name? _ List.mem_cons_self).elim
      | some (.ofNat sizeBytes) => exact (kept name? _ List.mem_cons_self).elim
      | some (.negSucc _) => rfl
  | describe => rfl
  | info =>
      rw [run, run, inspect, inspect, show session.held.window.infoJson = _ from
        Window.infoJson_retained opened]
  | setStart start =>
      rw [run, run]
      exact perform_held (Window.Action.blind_setStart start) opened _
  | setColumns columns =>
      rw [run, run]
      exact perform_held (Window.Action.blind_setColumns columns) opened _
  | allocateRow =>
      rw [run, run]
      exact perform_held Window.Action.blind_allocateRow opened _
  | freeLastRow =>
      rw [run, run]
      exact perform_held Window.Action.blind_freeLastRow opened _
  | clear =>
      rw [run, run]
      exact perform_held Window.Action.blind_clear opened _
  | acquire =>
      rw [run, run]
      exact perform_held Window.Action.blind_acquire opened _
  | release =>
      rw [run, run, show session.held.window.release = _ from
        Window.release_retained_of_release_open survives]
      rfl
  | close =>
      rw [run, run, show session.held.window.close = _ from
        Window.release_retained_of_release_open survives]
      rfl
  | guarded steps stopAtFailure =>
      rw [run_guarded_of_open steps stopAtFailure opened] at survives
      have several := Window.references_of_release_open survives
      have inside : (runAll steps stopAtFailure session.held).2.window.isDisposed = false := by
        simp only [Window.isDisposed, decide_eq_false_iff_not]
        omega
      have same : ∀ name? sizeBytes,
          .renew name? sizeBytes ∉ history steps stopAtFailure session.held := by
        intro name? sizeBytes member
        apply kept name? sizeBytes
        rw [changes, opened]
        exact List.mem_cons_of_mem _ (List.mem_append_left _ member)
      have induction := runAll_held steps stopAtFailure same inside
      rw [run_guarded_of_open steps stopAtFailure opened,
        run_guarded_of_open steps stopAtFailure (Window.isDisposed_retained session.window),
        induction]
      have released : (runAll steps stopAtFailure session.held).2.held.window.release = _ :=
        Window.release_retained_of_release_open survives
      rw [released]
      rfl
  | read getter row column =>
      rw [run, run, inspect, inspect, show session.held.window.read row column getter = _ from
        Window.read_retained opened row column getter]
  | readAll row column =>
      have reading : session.held.window.read row column = session.window.read row column := by
        funext getter
        exact Window.read_retained opened row column getter
      rw [run, run, reading]
  | copyText row column => exact copyText_held opened row column
  | write value row column => exact perform_held (blind_write value row column) opened _
  | fill start columns rows =>
      exact perform_held (Window.Action.blind_fill start columns rows) opened _
  | fillLines start columns text =>
      exact perform_held (blind_fillLines start columns text) opened _
  | placeCursor id position => rfl
  | next id readings? rendered => exact next_held opened id readings? rendered
  | drain id => exact drain_held opened id

theorem runAll_held (steps : List Step) (stopAtFailure : Bool) {session : Session}
    (kept : ∀ name? sizeBytes, .renew name? sizeBytes ∉ history steps stopAtFailure session)
    (survives : (runAll steps stopAtFailure session).2.window.isDisposed = false) :
    runAll steps stopAtFailure session.held =
      ((runAll steps stopAtFailure session).1, (runAll steps stopAtFailure session).2.held) := by
  cases steps with
  | nil => rfl
  | cons step steps =>
      rw [history] at kept
      have first : ∀ name? sizeBytes, .renew name? sizeBytes ∉ changes step session := by
        intro name? sizeBytes member
        exact kept name? sizeBytes (List.mem_append_left _ member)
      by_cases stopped : (stopAtFailure && !(run step session).1.toBool) = true
      · have after : (runAll (step :: steps) stopAtFailure session) =
            ([((run step session).1, (run step session).2.summary)], (run step session).2) := by
          simp only [runAll, stopped, ↓reduceIte]
        rw [after] at survives ⊢
        have held := run_held step first survives
        simp only [runAll, held, stopped, ↓reduceIte, summary_held survives]
      · have later : ∀ name? sizeBytes,
            .renew name? sizeBytes ∉ history steps stopAtFailure (run step session).2 := by
          intro name? sizeBytes member
          apply kept name? sizeBytes
          simp only [stopped]
          exact List.mem_append_right _ member
        have after : (runAll (step :: steps) stopAtFailure session) =
            (((run step session).1, (run step session).2.summary) ::
                (runAll steps stopAtFailure (run step session).2).1,
              (runAll steps stopAtFailure (run step session).2).2) := by
          simp only [runAll, stopped]
          rfl
        rw [after] at survives ⊢
        have between : (run step session).2.window.isDisposed = false :=
          (undergoes_runAll steps stopAtFailure (run step session).2).open_of_open later survives
        have held := run_held step first between
        have rest := runAll_held steps stopAtFailure later survives
        simp only [runAll, held, stopped, summary_held between, rest]
        rfl

end

/-- Steps that leave the window open give the same results under a guard, and lead to
the same session, with as many references, whether or not a failed step ends them. -/
theorem guard_is_transparent {session : Session} {steps : List Step} {stopAtFailure : Bool}
    (kept : ∀ name? sizeBytes, .renew name? sizeBytes ∉ history steps stopAtFailure session)
    (survives : (runAll steps stopAtFailure session).2.window.isDisposed = false) :
    run (.guarded steps stopAtFailure) session =
      (.ok (.guarded (runAll steps stopAtFailure session).1),
        (runAll steps stopAtFailure session).2) := by
  have opened : session.window.isDisposed = false :=
    (undergoes_runAll steps stopAtFailure session).open_of_open kept survives
  have released : (runAll steps stopAtFailure session).2.held.window.release = _ :=
    Window.release_retained survives
  rw [run_guarded_of_open steps stopAtFailure opened,
    runAll_held steps stopAtFailure kept survives, released]
  rfl

/-- A reference is given up under a guard, and another guard stands inside.  The last row
is freed once too often, which ends the steps. -/
def freedTwice : List Step :=
  [.acquire, .guarded [.release, .setColumns 1, .guarded [.allocateRow] true] false,
    .write (.long 3) 0 0, .freeLastRow, .freeLastRow, .close]

theorem guard_is_transparent_when_freed_twice :
    (runAll freedTwice true initial).2.window.isDisposed = false ∧
      (runAll freedTwice true initial).1.length = 5 ∧
      run (.guarded freedTwice true) initial =
        (.ok (.guarded (runAll freedTwice true initial).1), (runAll freedTwice true initial).2) ∧
      (run (.guarded freedTwice true) initial).2.window.references = 1 := by
  have kept : ∀ name? sizeBytes, .renew name? sizeBytes ∉ history freedTwice true initial := by
    intro name? sizeBytes
    have changes : history freedTwice true initial =
        [.acquire, .acquire, .release, .declare 1, .acquire, .allocate, .release, .release,
          .put (.integer 3) 0 0, .free] := rfl
    simp [changes]
  have survives : (runAll freedTwice true initial).2.window.isDisposed = false := by
    decide +kernel
  have same := guard_is_transparent kept survives
  refine ⟨survives, by decide +kernel, same, ?_⟩
  rw [same]
  decide +kernel

end Session

end PagedRows
