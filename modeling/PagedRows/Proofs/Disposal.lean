import PagedRows.Proofs.Refusal

/-!
# Use after disposal

A disposed window refuses every use with one and the same fault, whatever it is asked
for.  The one thing looked at earlier is whether there is a value to put: where text or
bytes are absent, that is reported, and the disposal is not.
-/

namespace PagedRows

namespace Window

section Disposed

variable {window : Window} (disposed : window.isDisposed = true)

include disposed

theorem find_of_disposed (row : Position) (column : Nat) :
    window.find row column = .error window.disposedFault :=
  if_pos disposed

private theorem cell_of_disposed (row : Position) (column : Nat) :
    window.cell row column = .error window.disposedFault := by
  rw [cell, find_of_disposed disposed]
  rfl

theorem view_of_disposed {α : Type} (row : Position) (column : Nat)
    (look : Cell → Except Fault α) :
    window.view row column look = .error window.disposedFault :=
  view_of_fault (cell_of_disposed disposed row column)

private theorem read_of_disposed (row : Position) (column : Nat) (getter : Getter) :
    window.read row column getter = .error window.disposedFault := by
  rw [read_eq_view, view_of_disposed disposed]

/-- Of all changes only a new window and a release are not refused. -/
theorem Change.run_action_of_disposed {change : Change}
    (renewed : ∀ name? sizeBytes, change ≠ .renew name? sizeBytes)
    (released : change ≠ .release) :
    change.action.run window = .error window.disposedFault window := by
  cases change with
  | renew name? sizeBytes => exact (renewed name? sizeBytes rfl).elim
  | release => exact (released rfl).elim
  | rebase start => exact Action.run_bind_ensureOpen_of_disposed disposed _
  | declare columns => exact Action.run_bind_ensureOpen_of_disposed disposed _
  | allocate => exact Action.run_bind_ensureOpen_of_disposed disposed _
  | free => exact Action.run_bind_ensureOpen_of_disposed disposed _
  | clear => exact Action.run_bind_ensureOpen_of_disposed disposed _
  | acquire => exact Action.run_bind_ensureOpen_of_disposed disposed _
  | put value row column =>
      exact Action.run_putCell_of_fault value (find_of_disposed disposed row column)

end Disposed

end Window

theorem Cursor.next_of_disposed {window : Window} (disposed : window.isDisposed = true)
    (cursor : Cursor) : cursor.next window = .error window.disposedFault :=
  if_pos disposed

theorem Cursor.drain_of_disposed {window : Window} (disposed : window.isDisposed = true)
    (cursor : Cursor) : cursor.drain window = .error window.disposedFault := by
  rw [drain_eq, next_of_disposed disposed]

namespace Session

open Window (Change)

/-- The steps that use the rows and cells of a window, walk them with a cursor, or take
a reference. -/
def Step.usesWindow : Step → Bool
  | setStart _ | setColumns _ | allocateRow | freeLastRow | clear | write _ _ _
  | read _ _ _ | copyText _ _ | acquire | guarded _ _ | fill _ _ _ | next _ _ _
  | drain _ => true
  | renew _ _ | describe | info | release | close | readAll _ _ | fillLines _ _ _
  | placeCursor _ _ => false

/-- Text or bytes are to be put and are absent. -/
def Step.lacksValue : Step → Bool
  | write value _ _ => value.cell?.isNone
  | _ => false

/-- The fault that an outcome reports; that of copying text is beside the buffer. -/
def fault? : Except Fault Reply → Option Fault
  | .error fault => some fault
  | .ok (.buffer _ fault?) => fault?
  | .ok _ => none

theorem run_change?_of_disposed {session : Session} {step : Step} {change : Change}
    (disposed : session.window.isDisposed = true) (asked : step.change? = some change) :
    (run step session).1 = .error session.window.disposedFault := by
  have kept : (∀ name? sizeBytes, change ≠ .renew name? sizeBytes) ∧ change ≠ .release := by
    cases step with
    | write value row column =>
        obtain ⟨cell, -, rfl⟩ := Option.map_eq_some_iff.mp asked
        exact ⟨nofun, nofun⟩
    | _ => cases asked <;> exact ⟨nofun, nofun⟩
  have refused := Window.Change.run_action_of_disposed disposed kept.1 kept.2
  rw [run_of_change? asked, perform, show change.action session.window = _ from refused]

theorem fault?_of_disposed {session : Session} {step : Step}
    (disposed : session.window.isDisposed = true) (uses : step.usesWindow = true)
    (given : step.lacksValue = false) :
    fault? (run step session).1 = some session.window.disposedFault := by
  cases asked : step.change? with
  | some change =>
      rw [run_change?_of_disposed disposed asked]
      rfl
  | none =>
      cases step with
      | write value row column =>
          have absent : value.cell? = none := Option.map_eq_none_iff.mp asked
          simp [Step.lacksValue, absent] at given
      | read getter row column =>
          rw [run, inspect, Window.read_of_disposed disposed]
          rfl
      | copyText row column =>
          rw [run, copyText, Window.copyText, Window.textAt, Window.view_of_disposed disposed]
          rfl
      | guarded steps stopAtFailure =>
          rw [run_guarded_of_disposed steps stopAtFailure disposed]
          rfl
      | fill start columns rows =>
          have refused := Window.Action.run_fill_of_disposed disposed start columns rows
          rw [run, perform,
            show Window.Action.fill start columns rows session.window = _ from refused]
          rfl
      | next id readings? rendered =>
          rw [run, next, Cursor.next_of_disposed disposed]
          rfl
      | drain id =>
          rw [run, drain, Cursor.drain_of_disposed disposed]
          rfl
      | _ => simp [Step.change?, Step.usesWindow] at asked uses

/-- Every use of a disposed window fails, however it came to be disposed, and the fault
is that of disposal.  Only where a value to be put is absent, that is the fault instead. -/
theorem use_after_disposal_fails {session : Session}
    (disposed : session.window.isDisposed = true) {step : Step}
    (uses : step.usesWindow = true) :
    ∃ fault, fault? (run step session).1 = some fault ∧
      (step.lacksValue = false →
        fault.kind = .disposed ∧ fault = session.window.disposedFault) ∧
      (step.lacksValue = true → fault.kind = .preconditionViolation) := by
  by_cases absent : step.lacksValue = true
  · cases step with
    | write value row column =>
        obtain ⟨fault, failed, kind⟩ :=
          run_write_of_absent (Option.isNone_iff_eq_none.mp absent) row column session
        refine ⟨fault, by rw [failed]; rfl, ?_, fun _ => kind⟩
        intro given
        rw [absent] at given
        cases given
    | _ => cases absent
  · have given : step.lacksValue = false := by simpa using absent
    refine ⟨_, fault?_of_disposed disposed uses given, fun _ => ⟨rfl, rfl⟩, ?_⟩
    intro impossible
    exact (absent impossible).elim

/-- A window that has been closed by its only holder. -/
def closed : Session :=
  (run .close initial).2

theorem use_after_disposal_fails_of_closed :
    (fault? (run (.write (.blob (some [1])) 0 0) closed).1).map Fault.kind = some .disposed ∧
      (fault? (run (.copyText 3 7) closed).1).map Fault.kind = some .disposed ∧
      (fault? (run (.next 4 none true) closed).1).map Fault.kind = some .disposed ∧
      (fault? (run (.guarded [.clear] false) closed).1).map Fault.kind = some .disposed ∧
      (fault? (run (.write (.blob none) 0 0) closed).1).map Fault.kind =
        some .preconditionViolation := by
  have disposed : closed.window.isDisposed = true := rfl
  have refused (step : Step) (uses : step.usesWindow = true)
      (given : step.lacksValue = false) :
      (fault? (run step closed).1).map Fault.kind = some .disposed := by
    obtain ⟨fault, failed, kind, -⟩ := use_after_disposal_fails disposed uses
    rw [failed]
    exact congrArg some (kind given).1
  obtain ⟨fault, failed, -, kind⟩ :=
    @use_after_disposal_fails closed disposed (.write (.blob none) 0 0) rfl
  refine ⟨refused _ rfl rfl, refused _ rfl rfl, refused _ rfl rfl, refused _ rfl rfl, ?_⟩
  rw [failed]
  exact congrArg some (kind rfl)

/-- Absent text is refused for being absent by a window that is disposed. -/
theorem absent_text_after_disposal :
    closed.window.isDisposed = true ∧
      ∃ fault, (run (.write (.string none) 0 0) closed).1 = .error fault ∧
        fault.kind = .preconditionViolation ∧ fault.kind ≠ .disposed :=
  ⟨rfl, _, rfl, rfl, by decide⟩

end Session

end PagedRows
