import PagedRows.Window.Access

/-!
# Changes of a window

Whatever alters a window does so by changes: it is given another start or width,
rows come and go, cells are put, references are taken and given up.  A change is
made when the window allows it and otherwise leaves the window as it was, so that
what a window has become is told by the changes that were made.
-/

namespace PagedRows.Window

/-- There is a cell at an address. -/
def Holds (window : Window) (row : Position) (column : Nat) : Prop :=
  ∃ index cells, window.start.val + index = row.val ∧
    window.rows[index]? = some cells ∧ column < cells.size

theorem rowAt?_eq_some_iff {window : Window} {row : Position} {index : Nat}
    {cells : Array Cell} :
    window.rowAt? row = some (index, cells) ↔
      window.start.val + index = row.val ∧ window.rows[index]? = some cells := by
  simp only [rowAt?, Option.bind_eq_bind, Option.bind_eq_some_iff, Option.pure_def,
    Option.some.injEq, Prod.mk.injEq]
  constructor
  · rintro ⟨offset, distance, held, lookup, rfl, rfl⟩
    exact ⟨Position.offsetFrom?_eq_some_iff.mp distance, lookup⟩
  · rintro ⟨placed, lookup⟩
    exact ⟨index, Position.offsetFrom?_eq_some_iff.mpr placed, cells, lookup, rfl, rfl⟩

theorem find_of_placed {window : Window} {row : Position} {column index : Nat}
    {cells : Array Cell} {cell : Cell} (opened : window.isDisposed = false)
    (placed : window.start.val + index = row.val)
    (lookup : window.rows[index]? = some cells)
    (inside : cells[column]? = some cell) :
    window.find row column = .ok (index, cell) := by
  have found : window.rowAt? row = some (index, cells) :=
    rowAt?_eq_some_iff.mpr ⟨placed, lookup⟩
  simp [find, opened, found, inside]

theorem find_eq_ok_iff {window : Window} {row : Position} {column index : Nat}
    {cell : Cell} :
    window.find row column = .ok (index, cell) ↔
      window.isDisposed = false ∧ ∃ cells, window.start.val + index = row.val ∧
        window.rows[index]? = some cells ∧ cells[column]? = some cell := by
  constructor
  · intro found
    unfold find at found
    split at found
    · cases found
    next opened =>
      split at found
      · cases found
      next heldIndex cells present =>
        split at found
        · cases found
        next held inside =>
          cases found
          obtain ⟨placed, lookup⟩ := rowAt?_eq_some_iff.mp present
          exact ⟨by simpa using opened, cells, placed, lookup, inside⟩
  · rintro ⟨opened, cells, placed, lookup, inside⟩
    exact find_of_placed opened placed lookup inside

theorem cell_eq_ok_iff {window : Window} {row : Position} {column : Nat} {cell : Cell} :
    window.cell row column = .ok cell ↔
      window.isDisposed = false ∧ ∃ index cells, window.start.val + index = row.val ∧
        window.rows[index]? = some cells ∧ cells[column]? = some cell := by
  unfold Window.cell
  constructor
  · intro shown
    cases found : window.find row column with
    | error fault =>
        rw [found] at shown
        cases shown
    | ok held =>
        obtain ⟨index, other⟩ := held
        rw [found] at shown
        cases shown
        obtain ⟨opened, cells, held⟩ := find_eq_ok_iff.mp found
        exact ⟨opened, index, cells, held⟩
  · rintro ⟨opened, index, cells, placed, lookup, inside⟩
    rw [find_of_placed opened placed lookup inside]
    rfl

namespace Action

theorem run_ensureOpen (window : Window) :
    ensureOpen.run window =
      if window.isDisposed then .error window.disposedFault window
      else .ok () window := by
  simp only [ensureOpen, EStateM.run_bind, EStateM.run_get]
  split <;> rfl

theorem run_bind_ensureOpen_of_open {α : Type} {window : Window}
    (opened : window.isDisposed = false) (next : Unit → Action α) :
    (ensureOpen >>= next).run window = (next ()).run window := by
  simp [run_ensureOpen, opened]

theorem run_bind_ensureOpen_of_disposed {α : Type} {window : Window}
    (disposed : window.isDisposed = true) (next : Unit → Action α) :
    (ensureOpen >>= next).run window = .error window.disposedFault window := by
  simp [run_ensureOpen, disposed]

theorem run_putCell_of_find {window : Window} {row : Position} {column index : Nat}
    {cell : Cell} (value : Cell) (found : window.find row column = .ok (index, cell)) :
    (putCell value row column).run window =
      .ok () { window with
        rows := window.rows.modify index (·.setIfInBounds column value) } := by
  simp only [putCell, EStateM.run_bind, EStateM.run_get, found, EStateM.run_set]

theorem run_putCell_of_fault {window : Window} {row : Position} {column : Nat}
    {fault : Fault} (value : Cell) (missing : window.find row column = .error fault) :
    (putCell value row column).run window = .error fault window := by
  simp only [putCell, EStateM.run_bind, EStateM.run_get, missing, EStateM.run_throw]

end Action

theorem release_of_references_ne_one {window : Window}
    (several : window.references ≠ 1) :
    window.release = { window with references := window.references - 1 } := by
  unfold release
  split
  next none =>
    cases window
    subst none
    rfl
  next single => exact (several single).elim
  next references more =>
    have fewer : window.references - 1 = references + 1 := by omega
    rw [fewer]

/-- One change of a window. -/
inductive Change where
  /-- A new window takes its place. -/
  | renew (name? : Option String) (sizeBytes : Nat)
  | rebase (start : Position)
  | declare (columns : Nat)
  | allocate
  | free
  | clear
  | put (value : Cell) (row : Position) (column : Nat)
  | acquire
  | release

namespace Change

def action : Change → Action Unit
  | renew name? sizeBytes => set (Window.empty name? sizeBytes)
  | rebase start => .setStart start
  | declare columns => .setColumns columns
  | allocate => .allocateRow
  | free => .freeLastRow
  | clear => .clear
  | put value row column => .putCell value row column
  | acquire => .acquire
  | release => modify Window.release

/-- When a window allows a change. -/
def Allowed (window : Window) : Change → Prop
  | renew _ _ | release => True
  | rebase _ | allocate | clear | acquire => window.isDisposed = false
  | declare columns =>
      window.isDisposed = false ∧ (window.rows.size ≠ 0 → columns = window.columns)
  | free => window.isDisposed = false ∧ window.rows.size ≠ 0
  | put _ row column => window.isDisposed = false ∧ window.Holds row column

/-- What a window becomes by a change that it allows. -/
def effect (window : Window) : Change → Window
  | renew name? sizeBytes => .empty name? sizeBytes
  | rebase start => { window with start := start }
  | declare columns => { window with columns := columns }
  | allocate =>
      { window with rows := window.rows.push (Array.replicate window.columns .null) }
  | free => { window with rows := window.rows.pop }
  | clear => { window with rows := #[], start := 0, columns := 0 }
  | put value row column =>
      { window with
        rows := window.rows.modify (row.val - window.start.val)
          (·.setIfInBounds column value) }
  | acquire => { window with references := window.references + 1 }
  | release => window.release

theorem run_action_of_allowed {window : Window} {change : Change}
    (allowed : change.Allowed window) :
    change.action.run window = .ok () (change.effect window) := by
  cases change with
  | renew name? sizeBytes => rfl
  | release => rfl
  | rebase start => exact Action.run_bind_ensureOpen_of_open allowed _
  | allocate => exact Action.run_bind_ensureOpen_of_open allowed _
  | clear => exact Action.run_bind_ensureOpen_of_open allowed _
  | acquire => exact Action.run_bind_ensureOpen_of_open allowed _
  | declare columns =>
      obtain ⟨opened, unchanged⟩ := allowed
      have accepted : ¬ (window.rows.size ≠ 0 ∧ columns ≠ window.columns) := by
        rintro ⟨filled, different⟩
        exact different (unchanged filled)
      simp only [action, Action.setColumns,
        Action.run_bind_ensureOpen_of_open opened, EStateM.run_bind,
        EStateM.run_get, if_neg accepted, EStateM.run_set, effect]
  | free =>
      obtain ⟨opened, filled⟩ := allowed
      have accepted : ¬ window.rows.isEmpty = true := by simpa using filled
      simp only [action, Action.freeLastRow,
        Action.run_bind_ensureOpen_of_open opened, EStateM.run_bind,
        EStateM.run_get, if_neg accepted, EStateM.run_set, effect]
  | put value row column =>
      obtain ⟨opened, index, cells, placed, lookup, inside⟩ := allowed
      have found := find_of_placed opened placed lookup
        (Array.getElem?_eq_getElem inside)
      have offset : row.val - window.start.val = index := by omega
      simp only [action, effect, offset]
      exact Action.run_putCell_of_find value found

theorem run_action_of_not_allowed {window : Window} {change : Change}
    (refused : ¬ change.Allowed window) :
    ∃ fault, change.action.run window = .error fault window := by
  cases change with
  | renew name? sizeBytes => exact (refused trivial).elim
  | release => exact (refused trivial).elim
  | rebase start =>
      have disposed : window.isDisposed = true := by simpa [Allowed] using refused
      exact ⟨_, Action.run_bind_ensureOpen_of_disposed disposed _⟩
  | allocate =>
      have disposed : window.isDisposed = true := by simpa [Allowed] using refused
      exact ⟨_, Action.run_bind_ensureOpen_of_disposed disposed _⟩
  | clear =>
      have disposed : window.isDisposed = true := by simpa [Allowed] using refused
      exact ⟨_, Action.run_bind_ensureOpen_of_disposed disposed _⟩
  | acquire =>
      have disposed : window.isDisposed = true := by simpa [Allowed] using refused
      exact ⟨_, Action.run_bind_ensureOpen_of_disposed disposed _⟩
  | declare columns =>
      by_cases disposed : window.isDisposed = true
      · exact ⟨_, Action.run_bind_ensureOpen_of_disposed disposed _⟩
      · have opened : window.isDisposed = false := by simpa using disposed
        have rejected : window.rows.size ≠ 0 ∧ columns ≠ window.columns := by
          simpa [Allowed, opened] using refused
        simp only [action, Action.setColumns,
          Action.run_bind_ensureOpen_of_open opened, EStateM.run_bind,
          EStateM.run_get, if_pos rejected, EStateM.run_throw]
        exact ⟨_, rfl⟩
  | free =>
      by_cases disposed : window.isDisposed = true
      · exact ⟨_, Action.run_bind_ensureOpen_of_disposed disposed _⟩
      · have opened : window.isDisposed = false := by simpa using disposed
        have rejected : window.rows.isEmpty = true := by
          simpa [Allowed, opened] using refused
        simp only [action, Action.freeLastRow,
          Action.run_bind_ensureOpen_of_open opened, EStateM.run_bind,
          EStateM.run_get, if_pos rejected, EStateM.run_throw]
        exact ⟨_, rfl⟩
  | put value row column =>
      cases found : window.find row column with
      | error fault => exact ⟨fault, Action.run_putCell_of_fault value found⟩
      | ok held =>
          obtain ⟨opened, cells, placed, lookup, inside⟩ := find_eq_ok_iff.mp found
          obtain ⟨within, -⟩ := Array.getElem?_eq_some_iff.mp inside
          exact (refused ⟨opened, held.1, cells, placed, lookup, within⟩).elim

/-- A change that is made was allowed, and the window becomes what its effect
says. -/
theorem run_action_eq_ok_iff {window after : Window} {change : Change} :
    change.action.run window = .ok () after ↔
      change.Allowed window ∧ after = change.effect window := by
  constructor
  · intro made
    by_cases allowed : change.Allowed window
    · rw [run_action_of_allowed allowed] at made
      cases made
      exact ⟨allowed, rfl⟩
    · obtain ⟨fault, failed⟩ := run_action_of_not_allowed allowed
      rw [failed] at made
      cases made
  · rintro ⟨allowed, rfl⟩
    exact run_action_of_allowed allowed

end Change

/-- Changes made one after the other lead from a window to another. -/
inductive Undergoes : Window → List Change → Window → Prop where
  | nothing (window : Window) : Undergoes window [] window
  | change {window between after : Window} {change : Change}
      {changes : List Change} :
      change.action.run window = .ok () between →
      Undergoes between changes after →
      Undergoes window (change :: changes) after

namespace Undergoes

theorem one {window after : Window} {change : Change}
    (made : change.action.run window = .ok () after) :
    Undergoes window [change] after :=
  .change made (.nothing after)

theorem append {window between after : Window} {first second : List Change}
    (earlier : Undergoes window first between)
    (later : Undergoes between second after) :
    Undergoes window (first ++ second) after := by
  induction earlier with
  | nothing => exact later
  | change made rest induction => exact .change made (induction later)

/-- What every change keeps is kept by all of them. -/
theorem invariant {window after : Window} {changes : List Change}
    (undergone : Undergoes window changes after) {holds : Window → Prop}
    (kept : ∀ {window : Window} {change : Change}, holds window →
      change.Allowed window → holds (change.effect window))
    (before : holds window) : holds after := by
  induction undergone with
  | nothing => exact before
  | change made rest induction =>
      obtain ⟨allowed, rfl⟩ := Change.run_action_eq_ok_iff.mp made
      exact induction (kept before allowed)

end Undergoes

end PagedRows.Window
