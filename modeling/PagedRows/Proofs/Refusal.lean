import PagedRows.Proofs.Getters
import PagedRows.Proofs.Rectangular

/-!
# Refused operations

An operation on a window is refused for one of a few causes, which can be told from
the window before it.  What is refused leaves no trace, neither in the window nor in
the buffer that text is copied into.
-/

namespace PagedRows

namespace Window

/-- There is no cell at an address. -/
def Outside (window : Window) (row : Position) (column : Nat) : Prop :=
  row.val < window.start.val ∨ window.start.val + window.rows.size ≤ row.val ∨
    window.columns ≤ column

instance (window : Window) (row : Position) (column : Nat) :
    Decidable (window.Outside row column) :=
  inferInstanceAs (Decidable (_ ∨ _ ∨ _))

theorem Rectangular.holds_iff {window : Window} (rectangular : Rectangular window)
    {row : Position} {column : Nat} :
    window.Holds row column ↔ ¬ window.Outside row column := by
  constructor
  · rintro ⟨index, cells, placed, lookup, inside⟩ outside
    obtain ⟨held, rfl⟩ := Array.getElem?_eq_some_iff.mp lookup
    have width := rectangular.width window.rows[index] (Array.getElem_mem held)
    simp only [Outside] at outside
    omega
  · intro within
    have bounds : window.start.val ≤ row.val ∧
        row.val < window.start.val + window.rows.size ∧ column < window.columns := by
      simp only [Outside] at within
      omega
    obtain ⟨before, inside, narrow⟩ := bounds
    obtain ⟨index, placed⟩ := Nat.exists_eq_add_of_le before
    have held : index < window.rows.size := by omega
    have width := rectangular.width window.rows[index] (Array.getElem_mem held)
    exact ⟨index, window.rows[index], placed.symm, Array.getElem?_eq_getElem held, by omega⟩

theorem Rectangular.exists_cell {window : Window} (rectangular : Rectangular window)
    (opened : window.isDisposed = false) {row : Position} {column : Nat}
    (inside : ¬window.Outside row column) : ∃ cell, window.cell row column = .ok cell := by
  obtain ⟨index, cells, placed, lookup, within⟩ := rectangular.holds_iff.mpr inside
  refine ⟨cells[column], cell_eq_ok_iff.mpr ⟨opened, index, cells, placed, lookup, ?_⟩⟩
  exact Array.getElem?_eq_getElem within

end Window

namespace Session

open Window (Change)

/-- The steps that are one operation on the window, or open a guard on it. -/
def Step.isOperation : Step → Bool
  | setStart _ | setColumns _ | allocateRow | freeLastRow | clear | write _ _ _
  | acquire | guarded _ _ => true
  | renew _ _ | describe | info | release | close | read _ _ _ | readAll _ _
  | copyText _ _ | fill _ _ _ | fillLines _ _ _ | placeCursor _ _ | next _ _ _
  | drain _ => false

/-- Why a window refuses an operation: it has been disposed, it has rows of another
width, it has none to free, or there is no value or no cell for it. -/
def Step.RefusedBy (window : Window) : Step → Prop
  | setColumns columns =>
      window.isDisposed = true ∨ (window.rows.size ≠ 0 ∧ columns ≠ window.columns)
  | freeLastRow => window.isDisposed = true ∨ window.rows.size = 0
  | write value row column =>
      window.isDisposed = true ∨ value.cell? = none ∨ window.Outside row column
  | _ => window.isDisposed = true

/-- The change that an operation asks for, if it is one and has a value for it. -/
def Step.change? : Step → Option Change
  | setStart start => some (.rebase start)
  | setColumns columns => some (.declare columns)
  | allocateRow => some .allocate
  | freeLastRow => some .free
  | clear => some .clear
  | acquire => some .acquire
  | write value row column => value.cell?.map (.put · row column)
  | _ => none

theorem perform_of_allowed {session : Session} {change : Change}
    (allowed : change.Allowed session.window) (reply : Unit → Reply) :
    session.perform change.action reply =
      (.ok (reply ()), { session with window := change.effect session.window }) := by
  have made := Change.run_action_of_allowed allowed
  rw [perform, show change.action session.window = _ from made]

theorem perform_of_not_allowed {session : Session} {change : Change}
    (refused : ¬ change.Allowed session.window) (reply : Unit → Reply) :
    ∃ fault, session.perform change.action reply = (.error fault, session) := by
  obtain ⟨fault, failed⟩ := Change.run_action_of_not_allowed refused
  refine ⟨fault, ?_⟩
  rw [perform, show change.action session.window = _ from failed]

theorem run_of_change? {step : Step} {change : Change} (asked : step.change? = some change)
    (session : Session) : run step session = session.perform change.action fun _ => .done := by
  cases step with
  | setStart start => cases asked; rfl
  | setColumns columns => cases asked; rfl
  | allocateRow => cases asked; rfl
  | freeLastRow => cases asked; rfl
  | clear => cases asked; rfl
  | acquire => cases asked; rfl
  | write value row column =>
      obtain ⟨cell, present, rfl⟩ := Option.map_eq_some_iff.mp asked
      cases value with
      | null => cases present; rfl
      | long value => cases present; rfl
      | double value => cases present; rfl
      | string text? =>
          obtain ⟨text, rfl, rfl⟩ := Option.map_eq_some_iff.mp present
          rfl
      | blob bytes? =>
          obtain ⟨bytes, rfl, rfl⟩ := Option.map_eq_some_iff.mp present
          rfl
  | _ => cases asked

theorem run_write_of_absent {value : Written} (absent : value.cell? = none)
    (row : Position) (column : Nat) (session : Session) :
    ∃ fault, run (.write value row column) session = (.error fault, session) ∧
      fault.kind = .preconditionViolation := by
  cases value with
  | null => cases absent
  | long value => cases absent
  | double value => cases absent
  | string text? =>
      cases Option.map_eq_none_iff.mp absent
      exact ⟨_, rfl, rfl⟩
  | blob bytes? =>
      cases Option.map_eq_none_iff.mp absent
      exact ⟨_, rfl, rfl⟩

/-- A change is allowed exactly where the operation that asks for it is not refused. -/
theorem allowed_iff_of_change? {window : Window} (rectangular : window.Rectangular)
    {step : Step} {change : Change} (asked : step.change? = some change) :
    change.Allowed window ↔ ¬ step.RefusedBy window := by
  cases step with
  | setStart start => cases asked; simp [Change.Allowed, Step.RefusedBy]
  | allocateRow => cases asked; simp [Change.Allowed, Step.RefusedBy]
  | clear => cases asked; simp [Change.Allowed, Step.RefusedBy]
  | acquire => cases asked; simp [Change.Allowed, Step.RefusedBy]
  | setColumns columns =>
      cases asked
      simp only [Change.Allowed, Step.RefusedBy, not_or, Bool.not_eq_true, not_and,
        Decidable.not_not]
  | freeLastRow =>
      cases asked
      simp only [Change.Allowed, Step.RefusedBy, not_or, Bool.not_eq_true]
  | write value row column =>
      obtain ⟨cell, present, rfl⟩ := Option.map_eq_some_iff.mp asked
      simp only [Change.Allowed, Step.RefusedBy, not_or, Bool.not_eq_true, present,
        rectangular.holds_iff]
      simp
  | _ => cases asked

/-- What an operation comes to: a fault and nothing else where it is refused, and a
reply where it is not. -/
def Settles (step : Step) (session : Session) : Prop :=
  (step.RefusedBy session.window → ∃ fault, run step session = (.error fault, session)) ∧
    (¬ step.RefusedBy session.window → ∃ reply after, run step session = (.ok reply, after))

theorem settles_of_change? {session : Session} (rectangular : session.window.Rectangular)
    {step : Step} {change : Change} (asked : step.change? = some change) :
    Settles step session := by
  rw [Settles, run_of_change? asked, ← allowed_iff_of_change? rectangular asked]
  constructor
  · intro refused
    apply perform_of_not_allowed
    rw [allowed_iff_of_change? rectangular asked]
    exact not_not_intro refused
  · intro allowed
    exact ⟨_, _, perform_of_allowed allowed _⟩

theorem settles_of_isOperation {session : Session}
    (rectangular : session.window.Rectangular) {step : Step}
    (operation : step.isOperation = true) : Settles step session := by
  cases asked : step.change? with
  | some change => exact settles_of_change? rectangular asked
  | none =>
      cases step with
      | guarded steps stopAtFailure =>
          constructor
          · intro disposed
            exact ⟨_, run_guarded_of_disposed steps stopAtFailure disposed⟩
          · intro opened
            have held : session.window.isDisposed = false := by
              simpa [Step.RefusedBy] using opened
            exact ⟨_, _, run_guarded_of_open steps stopAtFailure held⟩
      | write value row column =>
          have absent : value.cell? = none := Option.map_eq_none_iff.mp asked
          constructor
          · intro _
            obtain ⟨fault, failed, -⟩ := run_write_of_absent absent row column session
            exact ⟨fault, failed⟩
          · intro accepted
            exact (accepted (.inr (.inl absent))).elim
      | _ => simp [Step.change?, Step.isOperation] at asked operation

/-- Copying text either reports a fault beside the buffer as it was, or leaves the text
of the cell in it and nothing of what was there. -/
theorem run_copyText_cases (session : Session) (row : Position) (column : Nat) :
    (∃ fault, session.window.textAt row column = .error fault ∧
        run (.copyText row column) session =
          (.ok (.buffer session.buffer (some fault)), session)) ∨
      ∃ cell text?, session.window.cell row column = .ok cell ∧ cell.text? = .ok text? ∧
        run (.copyText row column) session =
          (.ok (.buffer (text?.getD "") none), { session with buffer := text?.getD "" }) := by
  cases found : session.window.cell row column with
  | error fault =>
      have missing : session.window.textAt row column = .error fault :=
        Window.view_of_fault found
      left
      refine ⟨fault, missing, ?_⟩
      simp only [run, copyText, Window.copyText, missing, Except.map]
  | ok cell =>
      cases shown : cell.text? with
      | error fault =>
          have refused : session.window.textAt row column =
              .error (fault.atCell row.val column) :=
            Window.view_of_refused found shown
          left
          refine ⟨_, refused, ?_⟩
          simp only [run, copyText, Window.copyText, refused, Except.map]
      | ok text? =>
          have read : session.window.textAt row column = .ok text? :=
            Window.view_of_cell found shown
          right
          refine ⟨cell, text?, rfl, shown, ?_⟩
          simp only [run, copyText, Window.copyText, read, Except.map]

/-- An operation that fails leaves everything as it was, and it fails exactly for the
causes listed.  Copying text that fails leaves the buffer as it was, and otherwise the
buffer holds the text of the cell alone. -/
theorem failed_operation_changes_nothing {session : Session}
    (reachable : session.window.Reachable) :
    (∀ step : Step, step.isOperation = true →
      (∀ fault after, run step session = (.error fault, after) → after = session) ∧
      ((∃ fault, (run step session).1 = .error fault) ↔ step.RefusedBy session.window)) ∧
    ∀ (row : Position) (column : Nat),
      (∃ fault, session.window.textAt row column = .error fault ∧
        run (.copyText row column) session =
          (.ok (.buffer session.buffer (some fault)), session)) ∨
      ∃ cell text?, session.window.cell row column = .ok cell ∧ cell.text? = .ok text? ∧
        run (.copyText row column) session =
          (.ok (.buffer (text?.getD "") none), { session with buffer := text?.getD "" }) := by
  refine ⟨?_, run_copyText_cases session⟩
  intro step operation
  obtain ⟨refused, accepted⟩ := settles_of_isOperation reachable.rectangular operation
  by_cases refusal : step.RefusedBy session.window
  · obtain ⟨fault, failed⟩ := refused refusal
    refine ⟨?_, fun _ => refusal, fun _ => ⟨fault, by rw [failed]⟩⟩
    intro other after result
    rw [failed] at result
    exact (Prod.mk.inj result).2.symm
  · obtain ⟨reply, next, done⟩ := accepted refusal
    constructor
    · intro fault after result
      rw [done] at result
      cases (Prod.mk.inj result).1
    · constructor
      · rintro ⟨fault, result⟩
        rw [done] at result
        cases result
      · intro impossible
        exact (refusal impossible).elim

/-- One row in a window that begins at position 5, beside a buffer in use. -/
def oneRow : Session :=
  { (run (.fill 5 2 [[.blob [0], .null]]) initial).2 with buffer := "old" }

theorem failed_operation_changes_nothing_of_oneRow :
    oneRow.window.Reachable ∧
      (∀ step ∈ [Step.write (.string none) 5 0, .write (.long 1) 4 0, .write .null 5 2,
          .setColumns 3],
        (∃ fault, (run step oneRow).1 = .error fault) ∧ (run step oneRow).2 = oneRow) ∧
      (run (.copyText 5 0) oneRow).2.buffer = "old" ∧
      (run (.copyText 5 1) oneRow).2.buffer = "" := by
  have initial : Session.initial.window.Reachable := @Window.Reachable.constructed none none _ rfl
  have reachable : oneRow.window.Reachable :=
    @Window.Reachable.stepped (.fill 5 2 [[.blob [0], .null]]) Session.initial initial
  obtain ⟨operations, copies⟩ := failed_operation_changes_nothing reachable
  refine ⟨reachable, ?_, ?_, ?_⟩
  · intro step member
    have operation : step.isOperation = true := by
      simp only [List.mem_cons, List.not_mem_nil, or_false] at member
      rcases member with rfl | rfl | rfl | rfl <;> rfl
    have refused : step.RefusedBy oneRow.window := by
      simp only [List.mem_cons, List.not_mem_nil, or_false] at member
      rcases member with rfl | rfl | rfl | rfl
      · exact .inr (.inl rfl)
      · exact .inr (.inr (.inl (by decide)))
      · exact .inr (.inr (.inr (.inr (by decide))))
      · exact .inr ⟨by decide, by decide⟩
    obtain ⟨unchanged, cause⟩ := operations step operation
    obtain ⟨fault, failed⟩ := cause.mpr refused
    exact ⟨⟨fault, failed⟩, unchanged fault _ (Prod.ext failed rfl)⟩
  · rcases copies 5 0 with ⟨fault, -, result⟩ | ⟨cell, text?, held, shown, -⟩
    · rw [result]
      rfl
    · cases (rfl : oneRow.window.cell 5 0 = .ok (.blob [0])).symm.trans held
      cases shown
  · rcases copies 5 1 with ⟨fault, refused, -⟩ | ⟨cell, text?, held, shown, result⟩
    · cases (rfl : oneRow.window.textAt 5 1 = .ok none).symm.trans refused
    · cases (rfl : oneRow.window.cell 5 1 = .ok .null).symm.trans held
      cases shown
      rw [result]
      rfl

end Session

end PagedRows
