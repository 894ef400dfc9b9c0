import PagedRows.Proofs.LastPut

/-!
# The lifetime of a window

A window is kept open by references, which are taken and given up in any order and
at any depth of guards.  How many there are is told by the history alone: the one a
window is opened with and those taken since, less those given up.  When none is left
the rows go, and the window never changes again.
-/

namespace PagedRows.Window

/-- The references taken and given up since the window was new. -/
structure Tally where
  acquired : Nat
  released : Nat
deriving DecidableEq

def Tally.new : Tally where
  acquired := 0
  released := 0

/-- The tally after one more change. -/
def Change.tallyAfter (tally : Tally) : Change → Tally
  | renew _ _ => .new
  | acquire => { tally with acquired := tally.acquired + 1 }
  | release => { tally with released := tally.released + 1 }
  | rebase _ | declare _ | allocate | free | clear | put _ _ _ => tally

/-- The tally of all changes made, from that of a new window on. -/
def tally (changes : List Change) : Tally :=
  changes.foldl Change.tallyAfter .new

/-- A window has the references that a tally leaves.  What is given up in excess does
not count, which is why the difference ends at zero. -/
def Counts (tally : Tally) (window : Window) : Prop :=
  window.references = 1 + tally.acquired - tally.released

theorem references_release (window : Window) :
    window.release.references = window.references - 1 := by
  by_cases single : window.references = 1
  · simp [release, single]
  · rw [release_of_references_ne_one single]

namespace Counts

variable {tally : Tally} {window after : Window}

theorem isDisposed_eq_false_iff (counts : Counts tally window) :
    window.isDisposed = false ↔ tally.released < 1 + tally.acquired := by
  rw [isDisposed, decide_eq_false_iff_not, counts]
  omega

theorem effect {change : Change} (counts : Counts tally window)
    (allowed : change.Allowed window) :
    Counts (change.tallyAfter tally) (change.effect window) := by
  cases change with
  | renew name? sizeBytes => rfl
  | rebase start => exact counts
  | declare columns => exact counts
  | allocate => exact counts
  | free => exact counts
  | clear => exact counts
  | put value row column => exact counts
  | acquire =>
      have opened := counts.isDisposed_eq_false_iff.mp allowed
      simp only [Counts, Change.tallyAfter, Change.effect] at counts ⊢
      omega
  | release =>
      simp only [Counts, Change.tallyAfter, Change.effect, references_release] at counts ⊢
      omega

theorem of_undergoes {changes : List Change} (undergone : window.Undergoes changes after)
    (counts : Counts tally window) :
    Counts (changes.foldl Change.tallyAfter tally) after := by
  induction undergone generalizing tally with
  | nothing => exact counts
  | change made rest induction =>
      obtain ⟨allowed, rfl⟩ := Change.run_action_eq_ok_iff.mp made
      exact induction (counts.effect allowed)

end Counts

theorem Undergoes.split {window after : Window} {first second : List Change}
    (undergone : window.Undergoes (first ++ second) after) :
    ∃ between, window.Undergoes first between ∧ between.Undergoes second after := by
  induction first generalizing window with
  | nil => exact ⟨window, .nothing window, undergone⟩
  | cons change first induction =>
      cases undergone with
      | change made rest =>
          obtain ⟨between, earlier, later⟩ := induction rest
          exact ⟨between, .change made earlier, later⟩

theorem Undergoes.eq_of_disposed {window after : Window} {changes : List Change}
    (undergone : window.Undergoes changes after) (disposed : window.isDisposed = true)
    (same : ∀ name? sizeBytes, .renew name? sizeBytes ∉ changes) : after = window := by
  induction undergone with
  | nothing => rfl
  | change made rest induction =>
      obtain ⟨allowed, rfl⟩ := Change.run_action_eq_ok_iff.mp made
      rcases Change.eq_of_allowed_of_disposed disposed allowed with
        unchanged | ⟨name?, sizeBytes, rfl⟩
      · rw [unchanged] at induction
        apply induction disposed
        intro name? sizeBytes member
        exact same name? sizeBytes (List.mem_cons_of_mem _ member)
      · exact (same name? sizeBytes List.mem_cons_self).elim

theorem made_of_disposed {window : Window} {change : Change}
    (disposed : window.isDisposed = true)
    (needsOpen : change.Allowed window → window.isDisposed = false) :
    window.made change = [] := by
  have refused : ¬ change.Allowed window := by
    intro allowed
    rw [needsOpen allowed] at disposed
    cases disposed
  obtain ⟨fault, failed⟩ := Change.run_action_of_not_allowed refused
  rw [made, failed]

end Window

namespace Session

open Window (Change Tally)

/-- A disposed window can be released in vain and replaced, and nothing else. -/
theorem changes_of_disposed {session : Session}
    (disposed : session.window.isDisposed = true) (step : Step) :
    changes step session = [] ∨ changes step session = [.release] ∨
      ∃ name? sizeBytes?, step = .renew name? sizeBytes? := by
  cases step with
  | renew name? sizeBytes? => exact .inr (.inr ⟨name?, sizeBytes?, rfl⟩)
  | release => exact .inr (.inl rfl)
  | close => exact .inr (.inl rfl)
  | setStart start => exact .inl (Window.made_of_disposed disposed id)
  | setColumns columns => exact .inl (Window.made_of_disposed disposed And.left)
  | allocateRow => exact .inl (Window.made_of_disposed disposed id)
  | freeLastRow => exact .inl (Window.made_of_disposed disposed And.left)
  | clear => exact .inl (Window.made_of_disposed disposed id)
  | acquire => exact .inl (Window.made_of_disposed disposed id)
  | guarded steps stopAtFailure => exact .inl (by rw [changes, if_pos disposed])
  | write value row column =>
      left
      rw [changes]
      cases value.cell? with
      | none => rfl
      | some cell => exact Window.made_of_disposed disposed And.left
  | fill start columns rows =>
      left
      rw [changes, Window.fillChanges, if_pos disposed]
  | fillLines start columns text =>
      left
      rw [changes]
      cases RowLines.read text.toList with
      | error fault => rfl
      | ok rows => simp only [Window.fillChanges, if_pos disposed]
  | describe => exact .inl rfl
  | info => exact .inl rfl
  | read getter row column => exact .inl rfl
  | readAll row column => exact .inl rfl
  | copyText row column => exact .inl rfl
  | placeCursor id position => exact .inl rfl
  | next id readings? rendered => exact .inl rfl
  | drain id => exact .inl rfl

theorem run_window_of_disposed {session : Session}
    (disposed : session.window.isDisposed = true) {step : Step}
    (same : ∀ name? sizeBytes?, step ≠ .renew name? sizeBytes?) :
    (run step session).2.window = session.window := by
  apply (undergoes_run step session).eq_of_disposed disposed
  intro name? sizeBytes member
  rcases changes_of_disposed disposed step with none | released | ⟨name?, sizeBytes?, renewed⟩
  · rw [none] at member
    cases member
  · rw [released] at member
    cases List.mem_singleton.mp member
  · exact same name? sizeBytes? renewed

theorem runAll_window_of_disposed {session : Session}
    (disposed : session.window.isDisposed = true) {steps : List Step}
    (same : ∀ name? sizeBytes?, .renew name? sizeBytes? ∉ steps) (stopAtFailure : Bool) :
    (runAll steps stopAtFailure session).2.window = session.window := by
  induction steps generalizing session with
  | nil => rfl
  | cons step steps induction =>
      have first : (run step session).2.window = session.window := by
        apply run_window_of_disposed disposed
        rintro name? sizeBytes? rfl
        exact same name? sizeBytes? List.mem_cons_self
      by_cases stopped : (stopAtFailure && !(run step session).1.toBool) = true
      · simp only [runAll, stopped, ↓reduceIte]
        exact first
      · have rest := @induction (run step session).2 (by rw [first]; exact disposed) (by
          intro name? sizeBytes? member
          exact same name? sizeBytes? (List.mem_cons_of_mem _ member))
        simp only [runAll, stopped]
        exact rest.trans first

end Session

namespace Window

/-- At every moment of a session, inside its guards too, the window is open exactly as
long as fewer references have been given up than it was opened with and were taken
since.  The release that brings them level drops the rows and changes nothing else.
From then on every step leaves the window as it is, until a new one takes its place. -/
theorem open_iff_references_remain {name? : Option String} {sizeBytes? : Option Int}
    {session : Session}
    (constructed : Session.newWindow name? sizeBytes? = .ok session.window)
    (steps : List Session.Step) (stopAtFailure : Bool) {earlier later : List Change}
    (moment : Session.history steps stopAtFailure session = earlier ++ later) :
    ∃ window, session.window.Undergoes earlier window ∧
      window.Undergoes later (Session.runAll steps stopAtFailure session).2.window ∧
      (window.isDisposed = false ↔
        (tally earlier).released < 1 + (tally earlier).acquired) ∧
      ((tally earlier).released + 1 = 1 + (tally earlier).acquired →
        (Change.action .release).run window =
            .ok () { window with rows := #[], references := 0 }) ∧
      (window.isDisposed = true →
        window.rows = #[] ∧ window.references = 0 ∧
        ((∀ name? sizeBytes, .renew name? sizeBytes ∉ later) →
          (Session.runAll steps stopAtFailure session).2.window = window) ∧
        ∀ others : Session, others.window = window →
          ∀ (further : List Session.Step),
            (∀ name? sizeBytes?, .renew name? sizeBytes? ∉ further) →
              ∀ stop, (Session.runAll further stop others).2.window = window) := by
  obtain ⟨sizeBytes, fresh⟩ := eq_empty_of_newWindow constructed
  have undergone := Session.undergoes_runAll steps stopAtFailure session
  rw [moment] at undergone
  obtain ⟨window, before, after⟩ := undergone.split
  have new : Counts .new session.window := by
    rw [fresh]
    rfl
  have counts : Counts (tally earlier) window := new.of_undergoes before
  have rectangular : Rectangular window :=
    before.invariant Rectangular.effect (by
      rw [fresh]
      exact .empty name? sizeBytes)
  refine ⟨window, before, after, counts.isDisposed_eq_false_iff, ?_, ?_⟩
  · intro level
    have single : window.references = 1 := by
      rw [counts]
      omega
    have released : (Change.action .release).run window = .ok () window.release := rfl
    simp only [released, release, single]
  · intro disposed
    refine ⟨rectangular.dropped disposed, by simpa [isDisposed] using disposed,
      after.eq_of_disposed disposed, ?_⟩
    intro others same further kept stop
    rw [← same] at disposed ⊢
    exact Session.runAll_window_of_disposed disposed kept stop

/-- A guard inside a guard, closed often enough to dispose the window within them. -/
def closedWithin : List Session.Step :=
  [.setColumns 1, .allocateRow, .acquire,
    .guarded [.release, .guarded [.close, .write (.long 3) 0 0, .close] false, .close,
      .acquire] false,
    .allocateRow, .release]

theorem open_iff_references_remain_within_guards :
    let history := Session.history closedWithin false Session.initial
    ∃ window after,
      Session.initial.window.Undergoes (history.take 9) window ∧
      window.isDisposed = false ∧
      (Change.action .release).run window =
        .ok () { window with rows := #[], references := 0 } ∧
      Session.initial.window.Undergoes (history.take 10) after ∧
      after.isDisposed = true ∧
      (Session.runAll closedWithin false Session.initial).2.window = after := by
  intro history
  have constructed : Session.newWindow none none = .ok Session.initial.window := rfl
  obtain ⟨window, before, -, opened, last, -⟩ :=
    open_iff_references_remain constructed closedWithin false
      (List.take_append_drop 9 history).symm
  obtain ⟨after, released, -, remain, -, stays⟩ :=
    open_iff_references_remain constructed closedWithin false
      (List.take_append_drop 10 history).symm
  have disposed : after.isDisposed = true := by
    rw [← Bool.not_eq_false, remain]
    decide +kernel
  obtain ⟨-, -, same, -⟩ := stays disposed
  refine ⟨window, after, before, opened.mpr (by decide +kernel), last (by decide +kernel),
    released, disposed, same ?_⟩
  intro name? sizeBytes
  have rest : history.drop 10 = [.release, .release, .release] := rfl
  simp [rest]

end Window

end PagedRows
