import PagedRows.Proofs.Getters
import PagedRows.Proofs.Rectangular

/-!
# The last put counts

Inside a window a cell has a slot, which is the index of its row and its column.
Moving the window gives the slots other addresses, and rows that are freed and
allocated again begin with null cells.  What a slot holds is therefore read off the
history: it is the value put there last since its row was allocated.
-/

namespace PagedRows.Window

def slot? (window : Window) (index column : Nat) : Option Cell :=
  window.rows[index]?.bind (·[column]?)

theorem lt_size_of_slot? {window : Window} {index column : Nat} {cell : Cell}
    (held : window.slot? index column = some cell) : index < window.rows.size := by
  obtain ⟨cells, row, -⟩ := Option.bind_eq_some_iff.mp held
  obtain ⟨inside, -⟩ := Array.getElem?_eq_some_iff.mp row
  exact inside

theorem cell_of_slot? {window : Window} {row : Position} {index column : Nat}
    {cell : Cell} (opened : window.isDisposed = false)
    (placed : window.start.val + index = row.val)
    (held : window.slot? index column = some cell) :
    window.cell row column = .ok cell := by
  obtain ⟨cells, lookup, inside⟩ := Option.bind_eq_some_iff.mp held
  exact cell_eq_ok_iff.mpr ⟨opened, index, cells, placed, lookup, inside⟩

theorem Rectangular.slot?_isSome {window : Window} {index column : Nat}
    (rectangular : Rectangular window) (held : index < window.rows.size)
    (inside : column < window.columns) :
    ∃ cell, window.slot? index column = some cell := by
  have width := rectangular.width window.rows[index] (Array.getElem_mem held)
  have within : column < window.rows[index].size := by omega
  exact ⟨window.rows[index][column], by simp [slot?, held, within]⟩

namespace Change

/-- A change that neither puts into a slot nor removes its row. -/
def Spares (window : Window) (index column : Nat) : Change → Prop
  | rebase _ | declare _ | allocate | acquire => True
  | free => index + 1 < window.rows.size
  | put _ row other => ¬ (window.start.val + index = row.val ∧ column = other)
  | release => window.references ≠ 1
  | clear | renew _ _ => False

theorem slot?_put {window : Window} {row : Position} {index column other : Nat}
    {value : Cell} (placed : window.start.val ≤ row.val) :
    ((put value row other).effect window).slot? index column =
      if window.start.val + index = row.val ∧ column = other then
        (window.slot? index column).map fun _ => value
      else window.slot? index column := by
  simp only [effect, slot?, Array.getElem?_modify]
  by_cases same : window.start.val + index = row.val
  · have offset : row.val - window.start.val = index := by omega
    cases lookup : window.rows[index]? with
    | none => simp [offset]
    | some cells =>
        by_cases hit : column = other
        · subst hit
          simp only [offset, same, ↓reduceIte, Option.map_some, Option.bind_some,
            true_and, Array.getElem?_setIfInBounds]
          by_cases inside : column < cells.size
          · simp [inside]
          · simp [inside]
        · simp [offset, hit, Ne.symm hit]
  · have offset : row.val - window.start.val ≠ index := by omega
    simp [offset, same]

theorem slot?_effect_of_spares {window : Window} {change : Change} {index column : Nat}
    (allowed : change.Allowed window) (held : index < window.rows.size)
    (spared : change.Spares window index column) :
    (change.effect window).slot? index column = window.slot? index column := by
  cases change with
  | renew name? sizeBytes => exact spared.elim
  | clear => exact spared.elim
  | rebase start => rfl
  | declare columns => rfl
  | acquire => rfl
  | allocate =>
      have earlier : index ≠ window.rows.size := by omega
      simp [effect, slot?, Array.getElem?_push, earlier]
  | free =>
      have kept : index < window.rows.size - 1 := by
        have later : index + 1 < window.rows.size := spared
        omega
      simp [effect, slot?, kept, Array.getElem?_eq_getElem held]
  | put value row other =>
      obtain ⟨-, found, cells, placed, -⟩ := allowed
      rw [slot?_put (by omega), if_neg spared]
  | release =>
      rw [effect, release_of_references_ne_one spared]
      rfl

theorem isDisposed_effect_of_spares {window : Window} {change : Change}
    {index column : Nat} (opened : window.isDisposed = false)
    (spared : change.Spares window index column) :
    (change.effect window).isDisposed = false := by
  cases change with
  | renew name? sizeBytes => exact spared.elim
  | clear => exact spared.elim
  | acquire => simp [effect, isDisposed]
  | release =>
      have several : window.references ≠ 1 := spared
      have some : window.references ≠ 0 := by simpa [isDisposed] using opened
      rw [effect, release_of_references_ne_one several]
      simp [isDisposed]
      omega
  | rebase start => exact opened
  | declare columns => exact opened
  | allocate => exact opened
  | free => exact opened
  | put value row other => exact opened

theorem references_ne_one_of_open {window : Window}
    (stillOpen : (effect window .release).isDisposed = false) :
    window.references ≠ 1 := by
  intro single
  simp [effect, Window.release, single, isDisposed] at stillOpen

/-- A disposed window can only be released once more, which does nothing, or give
way to a new one. -/
theorem eq_of_allowed_of_disposed {window : Window} {change : Change}
    (disposed : window.isDisposed = true) (allowed : change.Allowed window) :
    change.effect window = window ∨
      ∃ name? sizeBytes, change = .renew name? sizeBytes := by
  cases change with
  | renew name? sizeBytes => exact .inr ⟨name?, sizeBytes, rfl⟩
  | release =>
      have none : window.references = 0 := by simpa [isDisposed] using disposed
      refine .inl ?_
      rw [effect, release_of_references_ne_one (by omega), none]
      cases window
      subst none
      rfl
  | rebase start => simp [Allowed, disposed] at allowed
  | declare columns => simp [Allowed, disposed] at allowed
  | allocate => simp [Allowed, disposed] at allowed
  | free => simp [Allowed, disposed] at allowed
  | clear => simp [Allowed, disposed] at allowed
  | put value row column => simp [Allowed, disposed] at allowed
  | acquire => simp [Allowed, disposed] at allowed

def startAfter (start : Position) : Change → Position
  | rebase other => other
  | clear | renew _ _ => 0
  | declare _ | allocate | free | put _ _ _ | acquire | release => start

def countAfter (count : Nat) : Change → Nat
  | allocate => count + 1
  | free => count - 1
  | clear | renew _ _ => 0
  | rebase _ | declare _ | put _ _ _ | acquire | release => count

/-- The value that a change puts into a slot of a window with this start
position. -/
def putInto? (start : Position) (index column : Nat) : Change → Option Cell
  | put value row other =>
      if start.val + index = row.val ∧ column = other then some value else none
  | renew _ _ | rebase _ | declare _ | allocate | free | clear | acquire | release =>
      none

end Change

/-- The start position in force after changes. -/
def startAfter (start : Position) (changes : List Change) : Position :=
  changes.foldl Change.startAfter start

/-- How many rows changes leave in a window that was new. -/
def rowCount (changes : List Change) : Nat :=
  changes.foldl Change.countAfter 0

/-- The values that changes put into a slot, oldest first.  Which address the slot
has is a matter of the start position at the time. -/
def putsInto (index column : Nat) : Position → List Change → List Cell
  | _, [] => []
  | start, change :: changes =>
      (change.putInto? start index column).toList ++
        putsInto index column (change.startAfter start) changes

/-- The value that changes put last into a slot, or null. -/
def lastPut (index column : Nat) (start : Position) (changes : List Change) : Cell :=
  (putsInto index column start changes).getLast?.getD .null

/-- The row with an index was allocated between earlier and later changes, and it
has been there ever since. -/
structure RowSince (history earlier later : List Change) (index : Nat) : Prop where
  split : history = earlier ++ .allocate :: later
  allocated : rowCount earlier = index
  stays : ∀ first, first <+: later → index < rowCount (earlier ++ .allocate :: first)

@[simp] theorem startAfter_append_one (start : Position) (changes : List Change)
    (change : Change) :
    startAfter start (changes ++ [change]) =
      change.startAfter (startAfter start changes) := by
  simp [startAfter]

@[simp] theorem rowCount_append_one (changes : List Change) (change : Change) :
    rowCount (changes ++ [change]) = change.countAfter (rowCount changes) := by
  simp [rowCount]

theorem putsInto_append_one (index column : Nat) (start : Position)
    (changes : List Change) (change : Change) :
    putsInto index column start (changes ++ [change]) =
      putsInto index column start changes ++
        (change.putInto? (startAfter start changes) index column).toList := by
  induction changes generalizing start with
  | nil => simp [putsInto, startAfter]
  | cons first changes induction =>
      simp only [List.cons_append, putsInto, induction, List.append_assoc]
      rfl

theorem lastPut_append_one (index column : Nat) (start : Position)
    (changes : List Change) (change : Change) :
    lastPut index column start (changes ++ [change]) =
      (change.putInto? (startAfter start changes) index column).getD
        (lastPut index column start changes) := by
  rw [lastPut, putsInto_append_one]
  cases change.putInto? (startAfter start changes) index column with
  | none => simp [lastPut]
  | some value => simp

namespace RowSince

theorem new (history : List Change) :
    RowSince (history ++ [.allocate]) history [] (rowCount history) where
  split := rfl
  allocated := rfl
  stays := by
    intro first before
    rw [List.prefix_nil.mp before, rowCount_append_one]
    exact Nat.lt_succ_self _

theorem append_one {history earlier later : List Change} {index : Nat}
    (since : RowSince history earlier later index) {change : Change}
    (held : index < rowCount (history ++ [change])) :
    RowSince (history ++ [change]) earlier (later ++ [change]) index where
  split := by
    rw [since.split]
    simp
  allocated := since.allocated
  stays := by
    intro first before
    rcases List.prefix_concat_iff.mp before with whole | sooner
    · rw [whole]
      rw [since.split] at held
      simpa using held
    · exact since.stays first sooner

theorem startAfter_later {history earlier later : List Change} {index : Nat}
    (since : RowSince history earlier later index) (start : Position) :
    startAfter (startAfter start earlier) later = startAfter start history := by
  rw [since.split]
  simp [startAfter, Change.startAfter]

end RowSince

theorem Change.putInto?_of_spares {window : Window} {change : Change}
    {index column : Nat} (spared : change.Spares window index column) :
    change.putInto? window.start index column = none := by
  cases change with
  | put value row other => exact if_neg spared
  | renew name? sizeBytes => rfl
  | rebase start => rfl
  | declare columns => rfl
  | allocate => rfl
  | free => rfl
  | clear => rfl
  | acquire => rfl
  | release => rfl

/-- A history tells what an open window holds. -/
structure Tells (history : List Change) (window : Window) : Prop where
  start : window.start = startAfter 0 history
  count : window.rows.size = rowCount history
  slots : ∀ {index column : Nat} {cell : Cell},
    window.slot? index column = some cell →
      ∃ earlier later, RowSince history earlier later index ∧
        cell = lastPut index column (startAfter 0 earlier) later

namespace Tells

theorem new (history : List Change) (name? : Option String) (sizeBytes : Nat) :
    Tells (history ++ [.renew name? sizeBytes]) (.empty name? sizeBytes) where
  start := by simp [Window.empty, Change.startAfter]
  count := by simp [Window.empty, Change.countAfter]
  slots := by
    intro index column cell held
    simp [Window.empty, slot?] at held

variable {history : List Change} {window : Window} {change : Change}
  {index column : Nat} {cell : Cell}

theorem since_of_spares (tells : Tells history window)
    (held : window.slot? index column = some cell)
    (spared : change.Spares window index column)
    (stays : index < rowCount (history ++ [change])) :
    ∃ earlier later, RowSince (history ++ [change]) earlier later index ∧
      cell = lastPut index column (startAfter 0 earlier) later := by
  obtain ⟨earlier, later, since, value⟩ := tells.slots held
  refine ⟨earlier, later ++ [change], since.append_one stays, ?_⟩
  rw [lastPut_append_one, since.startAfter_later, ← tells.start,
    Change.putInto?_of_spares spared]
  exact value

theorem start_effect (tells : Tells history window) :
    (change.effect window).start = startAfter 0 (history ++ [change]) := by
  rw [startAfter_append_one, ← tells.start]
  cases change with
  | release =>
      simp only [Change.effect, release, Change.startAfter]
      split <;> rfl
  | renew name? sizeBytes => rfl
  | rebase start => rfl
  | declare columns => rfl
  | allocate => rfl
  | free => rfl
  | clear => rfl
  | put value row column => rfl
  | acquire => rfl

theorem count_effect (tells : Tells history window)
    (stillOpen : (change.effect window).isDisposed = false) :
    (change.effect window).rows.size = rowCount (history ++ [change]) := by
  rw [rowCount_append_one, ← tells.count]
  cases change with
  | release =>
      have several := Change.references_ne_one_of_open stillOpen
      rw [Change.effect, release_of_references_ne_one several]
      rfl
  | allocate => exact Array.size_push _
  | free => exact Array.size_pop
  | put value row column => exact Array.size_modify
  | renew name? sizeBytes => rfl
  | rebase start => rfl
  | declare columns => rfl
  | clear => rfl
  | acquire => rfl

theorem effect (tells : Tells history window) (allowed : change.Allowed window)
    (stillOpen : (change.effect window).isDisposed = false) :
    Tells (history ++ [change]) (change.effect window) := by
  refine ⟨tells.start_effect, tells.count_effect stillOpen, ?_⟩
  intro index column cell held
  have stays : index < rowCount (history ++ [change]) := by
    rw [← tells.count_effect stillOpen]
    exact lt_size_of_slot? held
  have kept : index < window.rows.size → change.Spares window index column →
      ∃ earlier later, RowSince (history ++ [change]) earlier later index ∧
        cell = lastPut index column (startAfter 0 earlier) later := by
    intro old spared
    rw [Change.slot?_effect_of_spares allowed old spared] at held
    exact tells.since_of_spares held spared stays
  have inside := lt_size_of_slot? held
  cases change with
  | renew name? sizeBytes => simp [Change.effect, Window.empty] at inside
  | clear => simp [Change.effect] at inside
  | rebase start => exact kept inside trivial
  | declare columns => exact kept inside trivial
  | acquire => exact kept inside trivial
  | free =>
      simp only [Change.effect, Array.size_pop] at inside
      have later : index + 1 < window.rows.size := by omega
      exact kept (by omega) later
  | release =>
      have several := Change.references_ne_one_of_open stillOpen
      rw [Change.effect, release_of_references_ne_one several] at inside
      exact kept inside several
  | allocate =>
      by_cases old : index < window.rows.size
      · exact kept old trivial
      · simp only [Change.effect, Array.size_push] at inside
        have last : index = window.rows.size := by omega
        refine ⟨history, [], ?_, ?_⟩
        · rw [last, tells.count]
          exact .new history
        · simp only [Change.effect, slot?, last, Array.getElem?_push_size,
            Option.bind_some, Array.getElem?_replicate] at held
          split at held
          · cases held
            rfl
          · cases held
  | put value row other =>
      simp only [Change.effect, Array.size_modify] at inside
      by_cases hit : window.start.val + index = row.val ∧ column = other
      · obtain ⟨-, found, cells, placed, -⟩ := allowed
        rw [Change.slot?_put (by omega), if_pos hit] at held
        obtain ⟨old, before, rfl⟩ := Option.map_eq_some_iff.mp held
        obtain ⟨earlier, later, since, -⟩ := tells.slots before
        refine ⟨earlier, later ++ [.put value row other], since.append_one stays, ?_⟩
        rw [lastPut_append_one, since.startAfter_later, ← tells.start]
        simp [Change.putInto?, hit]
      · exact kept inside hit

/-- Changes are told by a history, as long as the window is open. -/
theorem of_undergoes {after : Window} {changes : List Change}
    (undergone : window.Undergoes changes after)
    (tells : window.isDisposed = false → Tells history window)
    (stillOpen : after.isDisposed = false) : Tells (history ++ changes) after := by
  induction undergone generalizing history with
  | nothing => simpa using tells stillOpen
  | @change window between after change changes made rest induction =>
      obtain ⟨allowed, rfl⟩ := Change.run_action_eq_ok_iff.mp made
      rw [List.append_cons]
      refine induction (fun nextOpen => ?_) stillOpen
      -- Disposal drops rows that the history still counts, so that nothing is told of a
      -- disposed window until another takes its place.
      by_cases disposed : window.isDisposed = true
      · rcases Change.eq_of_allowed_of_disposed disposed allowed with
          same | ⟨name?, sizeBytes, rfl⟩
        · rw [same, disposed] at nextOpen
          cases nextOpen
        · exact new history name? sizeBytes
      · exact (tells (by simpa using disposed)).effect allowed nextOpen

end Tells

/-- An address shows a cell: its kind is that of the cell, and the typed way of reading
that belongs to the kind gives the value of the cell. -/
def Shows (window : Window) (row : Position) (column : Nat) (cell : Cell) : Prop :=
  window.kindAt row column = .ok cell.kind ∧
    match cell with
    | .null => window.bytesAt row column = .ok none ∧ window.textAt row column = .ok none
    | .integer value => window.longAt row column = .ok value
    | .float value => window.doubleAt row column = .ok value
    | .string text => window.textAt row column = .ok (some text)
    | .blob bytes => window.bytesAt row column = .ok (some bytes)

theorem shows_of_cell {window : Window} {row : Position} {column : Nat} {cell : Cell}
    (held : window.cell row column = .ok cell) : window.Shows row column cell := by
  refine ⟨by rw [kindAt, held]; rfl, ?_⟩
  cases cell with
  | null => exact ⟨view_of_cell held rfl, view_of_cell held rfl⟩
  | integer value =>
      have whole : window.quantityAt row column = .ok (.integer value) := view_of_cell held rfl
      exact congrArg (Except.map Quantity.toInt64) whole
  | float value =>
      have number : window.quantityAt row column = .ok (.float value) := view_of_cell held rfl
      exact congrArg (Except.map Quantity.toDouble) number
  | string text => exact view_of_cell held rfl
  | blob bytes => exact view_of_cell held rfl

/-- Whatever steps have been run on a new window, its history leads to the window
that it is in the end, and an address that it has then shows the value that the history
put last into the slot of the address since its row was allocated, or null.  It stays so
through every change that spares the slot. -/
theorem cell_eq_last_put {name? : Option String} {sizeBytes? : Option Int}
    {session : Session}
    (constructed : Session.newWindow name? sizeBytes? = .ok session.window)
    (steps : List Session.Step) (stopAtFailure : Bool) {window : Window}
    (final : (Session.runAll steps stopAtFailure session).2.window = window)
    (opened : window.isDisposed = false) {row : Position} {index column : Nat}
    (placed : window.start.val + index = row.val) (held : index < window.rows.size)
    (inside : column < window.columns) :
    session.window.Undergoes (Session.history steps stopAtFailure session) window ∧
    ∃ earlier later,
      RowSince (Session.history steps stopAtFailure session) earlier later index ∧
      window.cell row column =
        .ok (lastPut index column (startAfter 0 earlier) later) ∧
      window.Shows row column (lastPut index column (startAfter 0 earlier) later) ∧
      ∀ (change : Change) (after : Window), change.action.run window = .ok () after →
        change.Spares window index column → ∀ moved : Position,
          after.start.val + index = moved.val →
            after.cell moved column = window.cell row column := by
  obtain ⟨sizeBytes, fresh⟩ := eq_empty_of_newWindow constructed
  have undergone := Session.undergoes_runAll steps stopAtFailure session
  rw [final] at undergone
  have new : Tells [] session.window := by
    rw [fresh]
    exact ⟨rfl, rfl, by simp [Window.empty, slot?]⟩
  have tells : Tells (Session.history steps stopAtFailure session) window :=
    .of_undergoes undergone (fun _ => new) opened
  have rectangular : Rectangular window :=
    undergone.invariant Rectangular.effect (by
      rw [fresh]
      exact .empty name? sizeBytes)
  obtain ⟨cell, slot⟩ := rectangular.slot?_isSome held inside
  obtain ⟨earlier, later, since, rfl⟩ := tells.slots slot
  have shown := cell_of_slot? opened placed slot
  refine ⟨undergone, earlier, later, since, shown, shows_of_cell shown, ?_⟩
  intro change after made spared moved movedPlaced
  obtain ⟨allowed, rfl⟩ := Change.run_action_eq_ok_iff.mp made
  rw [shown]
  refine cell_of_slot? (Change.isDisposed_effect_of_spares opened spared) movedPlaced ?_
  rw [Change.slot?_effect_of_spares allowed held spared]
  exact slot

/-- Two rows, of which the second is freed under a guard and allocated again before
the window moves. -/
def reallocation : List Session.Step :=
  [.setColumns 2, .allocateRow, .allocateRow, .write (.long 1) 1 1, .setStart 10,
    .guarded [.write (.long 2) 11 1, .freeLastRow, .write (.long 3) 11 1, .clear] true,
    .allocateRow, .write (.long 4) 10 1, .setStart 7]

theorem cell_eq_last_put_of_reallocated :
    (Session.runAll reallocation false Session.initial).2.window.cell 8 1 = .ok .null ∧
      ∃ earlier later,
        RowSince (Session.history reallocation false Session.initial) earlier later 1 ∧
        (Session.runAll reallocation false Session.initial).2.window.cell 8 1 =
          .ok (lastPut 1 1 (startAfter 0 earlier) later) := by
  have constructed : Session.newWindow none none = .ok Session.initial.window := rfl
  have opened :
      (Session.runAll reallocation false Session.initial).2.window.isDisposed = false := by
    decide +kernel
  have placed : (Session.runAll reallocation false Session.initial).2.window.start.val + 1 =
      (8 : Position).val := by
    decide +kernel
  have null : (Session.runAll reallocation false Session.initial).2.window.slot? 1 1 =
      some .null := by
    decide +kernel
  obtain ⟨-, earlier, later, since, shown, -⟩ :=
    cell_eq_last_put constructed reallocation false rfl opened placed
      (lt_size_of_slot? null) (by decide +kernel : 1 < _)
  exact ⟨cell_of_slot? opened placed null, earlier, later, since, shown⟩

end PagedRows.Window
