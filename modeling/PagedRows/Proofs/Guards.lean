import PagedRows.Proofs.Lifetime

/-!
# Windows under a guard

A guard takes a reference and gives one up in the end.  What is done under it may take and
give up references as well, and all references are alike: whoever closes a window gives up
one of them, whether or not it is the one that the window was opened with.  So a guard
keeps its window open until as many references more have been given up than taken as there
were before the guard.
-/

namespace PagedRows

namespace Window

/-- The tally with references that were there before it. -/
def Tally.besides (others : Nat) (tally : Tally) : Tally :=
  { tally with acquired := others + tally.acquired }

theorem foldl_tallyAfter_besides {changes : List Change}
    (same : ∀ name? sizeBytes, .renew name? sizeBytes ∉ changes) (others : Nat)
    (tally : Tally) :
    changes.foldl Change.tallyAfter (tally.besides others) =
      (changes.foldl Change.tallyAfter tally).besides others := by
  induction changes generalizing tally with
  | nil => rfl
  | cons change changes induction =>
      have rest := @induction fun name? sizeBytes member =>
        same name? sizeBytes (List.mem_cons_of_mem _ member)
      cases change with
      | renew name? sizeBytes => exact (same name? sizeBytes List.mem_cons_self).elim
      | acquire => exact rest { tally with acquired := tally.acquired + 1 }
      | release => exact rest { tally with released := tally.released + 1 }
      | rebase start => exact rest tally
      | declare columns => exact rest tally
      | allocate => exact rest tally
      | free => exact rest tally
      | clear => exact rest tally
      | put value row column => exact rest tally

/-- A window is open after changes exactly if not all references that it had and that were
taken have been given up. -/
theorem Undergoes.isDisposed_eq_false_iff {window after : Window} {changes : List Change}
    (undergone : window.Undergoes changes after)
    (same : ∀ name? sizeBytes, .renew name? sizeBytes ∉ changes)
    (opened : window.isDisposed = false) :
    after.isDisposed = false ↔
      (tally changes).released < window.references + (tally changes).acquired := by
  obtain ⟨others, several⟩ : ∃ others, window.references = others + 1 := by
    have positive : window.references ≠ 0 := by simpa [isDisposed] using opened
    exact ⟨window.references - 1, by omega⟩
  have before : Counts (Tally.new.besides others) window := by
    rw [Counts, several, Nat.add_comm]
    rfl
  have counts := before.of_undergoes undergone
  rw [foldl_tallyAfter_besides same] at counts
  have remain := counts.isDisposed_eq_false_iff
  simp only [Tally.besides] at remain
  rw [remain, several, tally]
  omega

end Window

namespace Session

open Window (Change tally)

/-- At every moment under a guard the window is open exactly as long as no more references
have been given up than were taken since and were there before the guard.  As long as it
is open, every cell in its rows can be read. -/
theorem open_under_guard_iff {session : Session} (reachable : session.window.Reachable)
    (opened : session.window.isDisposed = false) {steps : List Step} {stopAtFailure : Bool}
    (kept : ∀ name? sizeBytes,
      .renew name? sizeBytes ∉ history steps stopAtFailure session.held)
    {earlier later : List Change}
    (moment : history steps stopAtFailure session.held = earlier ++ later) :
    (run (.guarded steps stopAtFailure) session).2.window =
        (runAll steps stopAtFailure session.held).2.window.release ∧
      ∃ window, session.held.window.Undergoes earlier window ∧
        window.Undergoes later (runAll steps stopAtFailure session.held).2.window ∧
        (window.isDisposed = false ↔
          (tally earlier).released ≤ session.window.references + (tally earlier).acquired) ∧
        (window.isDisposed = false → ∀ (row : Position) (index column : Nat),
          window.start.val + index = row.val → index < window.rows.size →
            column < window.columns → ∃ cell, window.cell row column = .ok cell) := by
  have acquired : (Change.effect session.window .acquire) = session.held.window := rfl
  have guarded : session.held.window.isDisposed = false := by
    simp [held, Window.isDisposed]
  have undergone := undergoes_runAll steps stopAtFailure session.held
  rw [moment] at undergone
  obtain ⟨window, before, after⟩ := undergone.split
  have same : ∀ name? sizeBytes, .renew name? sizeBytes ∉ earlier := by
    intro name? sizeBytes member
    apply kept name? sizeBytes
    rw [moment]
    exact List.mem_append_left _ member
  have rectangular : window.Rectangular :=
    before.invariant Window.Rectangular.effect
      (@Window.Rectangular.effect _ .acquire reachable.rectangular opened)
  refine ⟨?_, window, before, after, ?_, ?_⟩
  · rw [run_guarded_of_open steps stopAtFailure opened]
  · rw [before.isDisposed_eq_false_iff same guarded]
    have one : session.held.window.references = session.window.references + 1 := rfl
    rw [one]
    omega
  · intro stillOpen row index column placed held inside
    obtain ⟨cell, slot⟩ := rectangular.slot?_isSome held inside
    exact ⟨cell, Window.cell_of_slot? stillOpen placed slot⟩

/-- A window with a row and one holder besides the one that opened it. -/
def heldTwice : Session :=
  (run (.guarded [.setColumns 1, .allocateRow, .write (.long 7) 0 0, .acquire] true) initial).2

/-- Under a guard, closing takes both references that were there before, and then that of
the guard.  Another guard stands inside. -/
def closings : List Step :=
  [.close, .acquire, .guarded [.close] false, .release, .close, .read .long 0 0]

theorem open_under_guard_iff_until_third_close :
    ∃ still gone, heldTwice.held.window.Undergoes
        [.release, .acquire, .acquire, .release, .release, .release] still ∧
      still.isDisposed = false ∧
      heldTwice.held.window.Undergoes
        [.release, .acquire, .acquire, .release, .release, .release, .release] gone ∧
      gone.isDisposed = true ∧
      (run (.guarded closings false) heldTwice).2.window =
        (runAll closings false heldTwice.held).2.window.release := by
  have initial : Session.initial.window.Reachable :=
    @Window.Reachable.constructed none none _ rfl
  have reachable : heldTwice.window.Reachable := .stepped _ initial
  have opened : heldTwice.window.isDisposed = false := by decide
  have changes : history closings false heldTwice.held =
      [.release, .acquire, .acquire, .release, .release, .release] ++ [.release] := rfl
  have kept : ∀ name? sizeBytes,
      .renew name? sizeBytes ∉ history closings false heldTwice.held := by
    intro name? sizeBytes
    simp [changes]
  obtain ⟨-, still, before, -, stillOpen, -⟩ :=
    open_under_guard_iff reachable opened kept changes
  obtain ⟨dropped, gone, whole, -, goneOpen, -⟩ :=
    open_under_guard_iff reachable opened kept (List.append_nil _).symm
  refine ⟨still, gone, before, stillOpen.mpr (by decide), whole, ?_, dropped⟩
  rw [← Bool.not_eq_false, goneOpen]
  decide +kernel

/-- The second close under a guard gives up the reference of the guard, and the row is
gone before the guard is. -/
theorem row_lost_by_second_close :
    let session := (run (.fill 0 1 [[.integer 7]]) initial).2
    session.window.isDisposed = false ∧
      (runAll [.close] false session.held).2.window.cell 0 0 = .ok (.integer 7) ∧
      (runAll [.close, .close] false session.held).2.window.isDisposed = true ∧
      ∃ fault, (runAll [.close, .close] false session.held).2.window.cell 0 0 = .error fault ∧
        fault.kind = .disposed :=
  ⟨rfl, rfl, rfl, _, rfl, rfl⟩

end Session

end PagedRows
