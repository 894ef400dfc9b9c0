import PagedRows.Proofs.Changes
import PagedRows.Window.Fill

/-!
# Filling a window

Filling goes row by row and cell by cell.  While a row is being written, the
window holds the rows before it and the cells written so far, with null cells to
their right; a row that turns out too long or too short is taken back.  So what a
window holds after filling is the rows before the first that does not fit.
-/

namespace PagedRows.Window

/-- A row of which only the first cells have been written. -/
def partialRow (columns : Nat) (written : List Cell) : Array Cell :=
  (written ++ List.replicate (columns - written.length) Cell.null).toArray

theorem partialRow_nil (columns : Nat) :
    partialRow columns [] = Array.replicate columns .null := by
  simp [partialRow]

theorem partialRow_of_length {columns : Nat} {written : List Cell}
    (complete : written.length = columns) :
    partialRow columns written = written.toArray := by
  simp [partialRow, complete]

private theorem size_partialRow {columns : Nat} {written : List Cell}
    (room : written.length ≤ columns) : (partialRow columns written).size = columns := by
  simp [partialRow]
  omega

private theorem setIfInBounds_partialRow {columns : Nat} {written : List Cell}
    (room : written.length < columns) (cell : Cell) :
    (partialRow columns written).setIfInBounds written.length cell =
      partialRow columns (written ++ [cell]) := by
  obtain ⟨rest, more⟩ : ∃ rest, columns - written.length = rest + 1 :=
    ⟨columns - written.length - 1, by omega⟩
  have fewer : columns - (written.length + 1) = rest := by omega
  simp [partialRow, more, fewer, List.replicate_succ]

namespace Action

theorem run_tryCatch {α : Type} (body : Action α) (handler : Fault → Action α)
    (window : Window) :
    (tryCatch body handler).run window =
      match body.run window with
      | .ok result after => .ok result after
      | .error fault after => (handler fault).run after := by
  change EStateM.tryCatch body handler window = _
  delta EStateM.tryCatch EStateM.run
  cases body window with
  | ok result after => rfl
  | error fault after => rfl

theorem run_putCell_last {base : Window} {done : Array (Array Cell)}
    {columns : Nat} {written : List Cell} {row : Position}
    (opened : base.isDisposed = false)
    (placed : base.start.val + done.size = row.val)
    (room : written.length < columns) (cell : Cell) :
    (putCell cell row written.length).run
        { base with rows := done.push (partialRow columns written) } =
      .ok () { base with rows := done.push (partialRow columns (written ++ [cell])) } := by
  have inside : written.length < (partialRow columns written).size := by
    rw [size_partialRow (Nat.le_of_lt room)]
    exact room
  have found :
      find { base with rows := done.push (partialRow columns written) } row
        written.length = .ok (done.size, _) :=
    find_of_placed opened placed (by simp) (Array.getElem?_eq_getElem inside)
  rw [run_putCell_of_find cell found]
  have replaced : (done.push (partialRow columns written)).modify done.size
      (·.setIfInBounds written.length cell) =
        done.push (partialRow columns (written ++ [cell])) := by
    apply Array.ext_getElem?
    intro index
    rw [Array.getElem?_modify, Array.getElem?_push, Array.getElem?_push]
    by_cases last : index = done.size
    · subst last
      simp [setIfInBounds_partialRow room]
    · simp [last, Ne.symm last]
  simp only [replaced]

def relation (columns width : Nat) : String :=
  if columns < width then "more" else "fewer"

/-- Writing a row fills it cell by cell, and stops at the first cell too many. -/
theorem run_writeCells {base : Window} {done : Array (Array Cell)}
    (columns : Nat) {row : Position} (opened : base.isDisposed = false)
    (placed : base.start.val + done.size = row.val) (cells written : List Cell)
    (room : written.length ≤ columns) :
    (writeCells row columns written.length cells).run
        { base with rows := done.push (partialRow columns written) } =
      if written.length + cells.length = columns then
        .ok () { base with rows := done.push (partialRow columns (written ++ cells)) }
      else
        .error (widthFault row columns
            (relation columns (written.length + cells.length)))
          { base with
            rows := done.push (partialRow columns ((written ++ cells).take columns)) } := by
  induction cells generalizing written with
  | nil =>
      by_cases complete : written.length = columns
      · simp [writeCells, complete]
      · have short : written.length < columns := by omega
        have within : ¬ columns < written.length := by omega
        simp only [writeCells, short, ↓reduceIte, EStateM.run_throw, List.length_nil,
          Nat.add_zero, complete, relation, within, List.append_nil,
          List.take_of_length_le room]
  | cons cell cells induction =>
      by_cases full : columns ≤ written.length
      · have width : written.length = columns := by omega
        have long : columns < written.length + (cell :: cells).length := by
          simp only [List.length_cons]
          omega
        have different : written.length + (cell :: cells).length ≠ columns := by
          omega
        have stored : (written ++ cell :: cells).take columns = written := by
          rw [← width, List.take_left]
        simp only [writeCells, full, ↓reduceIte, EStateM.run_bind, EStateM.run_throw,
          different, relation, long, stored]
      · have room : written.length < columns := by omega
        have next := induction (written ++ [cell]) (by simp; omega)
        simp only [List.length_append, List.length_cons, List.length_nil,
          Nat.zero_add, List.append_assoc, List.cons_append, List.nil_append] at next
        simp only [writeCells, put_eq_putCell, full, ↓reduceIte, EStateM.run_bind,
          run_putCell_last opened placed room cell, next, List.length_cons,
          Nat.add_assoc, Nat.add_comm 1]

theorem run_writeRow_of_width {window : Window} {row : Position}
    (cells : List Cell) (opened : window.isDisposed = false)
    (placed : window.start.val + window.rows.size = row.val)
    (width : cells.length = window.columns) :
    (writeRow row window.columns cells).run window =
      .ok () { window with rows := window.rows.push cells.toArray } := by
  have allocated : (Change.action .allocate).run window = _ :=
    Change.run_action_of_allowed opened
  have wrote := run_writeCells window.columns opened placed cells [] (Nat.zero_le _)
  simp only [partialRow_nil, List.length_nil, Nat.zero_add, width, ↓reduceIte,
    List.nil_append, partialRow_of_length width] at wrote
  simp only [Change.action, Change.effect] at allocated
  simp only [writeRow, EStateM.run_bind, allocated, run_tryCatch, wrote]

private theorem run_writeRow_of_other_width {window : Window} {row : Position}
    (cells : List Cell) (opened : window.isDisposed = false)
    (placed : window.start.val + window.rows.size = row.val)
    (width : cells.length ≠ window.columns) :
    (writeRow row window.columns cells).run window =
      .error (widthFault row window.columns
        (relation window.columns cells.length)) window := by
  have allocated : (Change.action .allocate).run window = _ :=
    Change.run_action_of_allowed opened
  have wrote := run_writeCells window.columns opened placed cells [] (Nat.zero_le _)
  simp only [partialRow_nil, List.length_nil, Nat.zero_add, width, ↓reduceIte,
    List.nil_append] at wrote
  have freed : (Change.action .free).run { window with
      rows := window.rows.push
        (partialRow window.columns (cells.take window.columns)) } = _ :=
    Change.run_action_of_allowed ⟨opened, by simp⟩
  simp only [Change.action, Change.effect, Array.pop_push] at allocated freed
  simp only [writeRow, EStateM.run_bind, allocated, run_tryCatch, wrote, freed,
    EStateM.run_throw]

/-- Rows that have the declared width and a position each are appended, and
writing goes on after them. -/
theorem run_writeRows_append (window : Window) {start : Position} {written : Nat}
    {rows rest : List (List Cell)} (opened : window.isDisposed = false)
    (placed : window.start = start) (count : window.rows.size = written)
    (widths : ∀ cells ∈ rows, cells.length = window.columns)
    (addressable : start.val + (written + rows.length) ≤ 2 ^ 64) :
    (writeRows start window.columns written (rows ++ rest)).run window =
      (writeRows start window.columns (written + rows.length) rest).run
        { window with rows := window.rows ++ (rows.map List.toArray).toArray } := by
  induction rows generalizing window written with
  | nil => simp
  | cons cells rows induction =>
      simp only [List.length_cons] at addressable
      have inside : start.val + written < 2 ^ 64 := by omega
      have position := Position.advance?_of_lt inside
      have wrote :
          (writeRow ⟨start.val + written, inside⟩ window.columns cells).run window = _ :=
        run_writeRow_of_width cells opened (by rw [placed, count])
          (widths cells (by simp))
      have next := @induction
        { window with rows := window.rows.push cells.toArray } (written + 1)
        opened placed (by simp [count])
        (fun other member => widths other (by simp [member])) (by omega)
      simp only [List.cons_append, writeRows, position, EStateM.run_bind, wrote, next]
      simp only [List.length_cons, List.map_cons, List.push_append_toArray,
        Nat.add_assoc, Nat.add_comm 1]

end Action

/-- A row fits when it has the declared width and a position. -/
def Fits (start : Position) (columns index : Nat) (cells : List Cell) : Prop :=
  cells.length = columns ∧ start.val + index < 2 ^ 64

instance (start : Position) (columns index : Nat) (cells : List Cell) :
    Decidable (Fits start columns index cells) :=
  inferInstanceAs (Decidable (_ ∧ _))

namespace Action

/-- The fault of a row that does not fit, which has no position or another
width. -/
def misfitFault (start : Position) (columns index : Nat) (cells : List Cell) : Fault :=
  match start.advance? index with
  | none => unaddressableFault index
  | some row => widthFault row columns (relation columns cells.length)

theorem run_writeRows_of_misfit (window : Window) {start : Position}
    {written : Nat} {cells : List Cell} (rest : List (List Cell))
    (opened : window.isDisposed = false)
    (placed : window.start = start) (count : window.rows.size = written)
    (misfit : ¬ Fits start window.columns written cells) :
    (writeRows start window.columns written (cells :: rest)).run window =
      .error (misfitFault start window.columns written cells) window := by
  by_cases inside : start.val + written < 2 ^ 64
  · have position := Position.advance?_of_lt inside
    have width : cells.length ≠ window.columns := fun same => misfit ⟨same, inside⟩
    have refused :
        (writeRow ⟨start.val + written, inside⟩ window.columns cells).run window = _ :=
      run_writeRow_of_other_width cells opened (by rw [placed, count]) width
    simp only [writeRows, position, EStateM.run_bind, refused, misfitFault]
  · have position := Position.advance?_of_not_lt inside
    simp only [writeRows, position, misfitFault]
    rfl

end Action

/-- A window whose contents are rows from a start position on. -/
def filled (window : Window) (start : Position) (columns : Nat)
    (rows : List (List Cell)) : Window :=
  { window with
    start := start
    columns := columns
    rows := (rows.map List.toArray).toArray }

namespace Action

theorem run_fill_of_open {window : Window} (opened : window.isDisposed = false)
    (start : Position) (columns : Nat) (rows : List (List Cell)) :
    (fill start columns rows).run window =
      (writeRows start columns 0 rows).run (window.filled start columns []) := by
  have cleared : (Change.action .clear).run window = _ :=
    Change.run_action_of_allowed opened
  have rebased : (Change.action (.rebase start)).run
      { window with rows := #[], start := 0, columns := 0 } = _ :=
    Change.run_action_of_allowed opened
  have declared : (Change.action (.declare columns)).run
      { window with rows := #[], start := start, columns := 0 } = _ :=
    Change.run_action_of_allowed ⟨opened, by simp⟩
  simp only [Change.action, Change.effect] at cleared rebased declared
  simp only [fill, EStateM.run_bind, cleared, rebased, declared, filled]
  rfl

theorem run_fill_of_disposed {window : Window} (disposed : window.isDisposed = true)
    (start : Position) (columns : Nat) (rows : List (List Cell)) :
    (fill start columns rows).run window = .error window.disposedFault window := by
  have refused := run_bind_ensureOpen_of_disposed disposed fun _ =>
    modify fun window : Window => { window with rows := #[], start := 0, columns := 0 }
  rw [fill, EStateM.run_bind, show clear.run window = _ from refused]

theorem run_fill_of_fits {window : Window} {start : Position} {columns : Nat}
    {rows : List (List Cell)} (opened : window.isDisposed = false)
    (widths : ∀ cells ∈ rows, cells.length = columns)
    (addressable : start.val + rows.length ≤ 2 ^ 64) :
    (fill start columns rows).run window =
      .ok rows.length (window.filled start columns rows) := by
  have wrote : (writeRows start columns 0 (rows ++ [])).run
      (window.filled start columns []) = _ :=
    run_writeRows_append (window.filled start columns []) opened rfl
      (by simp [filled]) widths (by omega)
  rw [List.append_nil] at wrote
  rw [run_fill_of_open opened]
  refine wrote.trans ?_
  simp [writeRows, filled]

theorem run_fill_of_misfit {window : Window} {start : Position} {columns : Nat}
    {rows : List (List Cell)} {cells : List Cell} (rest : List (List Cell))
    (opened : window.isDisposed = false)
    (widths : ∀ cells ∈ rows, cells.length = columns)
    (addressable : start.val + rows.length ≤ 2 ^ 64)
    (misfit : ¬ Fits start columns rows.length cells) :
    (fill start columns (rows ++ cells :: rest)).run window =
      .error (misfitFault start columns rows.length cells)
        (window.filled start columns rows) := by
  have wrote : (writeRows start columns 0 (rows ++ cells :: rest)).run
      (window.filled start columns []) = _ :=
    run_writeRows_append (window.filled start columns []) opened rfl
      (by simp [filled]) widths (by omega)
  have refused : (writeRows start columns rows.length (cells :: rest)).run
      (window.filled start columns rows) = _ :=
    run_writeRows_of_misfit (window.filled start columns rows) rest opened rfl
      (by simp [filled]) misfit
  rw [run_fill_of_open opened]
  refine wrote.trans ?_
  simpa [filled] using refused

end Action

/-- Rows are those that fit and then, if any are left, one that does not. -/
theorem exists_fitting_prefix (start : Position) (columns : Nat)
    (rows : List (List Cell)) (index : Nat) (addressable : start.val + index ≤ 2 ^ 64) :
    ∃ fitting rest, rows = fitting ++ rest ∧
      (∀ cells ∈ fitting, cells.length = columns) ∧
      start.val + (index + fitting.length) ≤ 2 ^ 64 ∧
      ∀ cells ∈ rest.head?, ¬ Fits start columns (index + fitting.length) cells := by
  induction rows generalizing index with
  | nil => exact ⟨[], [], rfl, by simp, addressable, by simp⟩
  | cons cells rows induction =>
      by_cases fits : Fits start columns index cells
      · obtain ⟨fitting, rest, split, widths, room, misfit⟩ :=
          induction (index + 1) (by have := fits.2; omega)
        refine ⟨cells :: fitting, rest, by rw [split, List.cons_append], ?_, ?_, ?_⟩
        · intro other member
          rcases List.mem_cons.mp member with first | later
          · rw [first]
            exact fits.1
          · exact widths other later
        · simp only [List.length_cons]
          omega
        · intro other head
          have shifted : index + (cells :: fitting).length =
              index + 1 + fitting.length := by
            simp only [List.length_cons]
            omega
          rw [shifted]
          exact misfit other head
      · refine ⟨[], cells :: rows, rfl, by simp, addressable, ?_⟩
        intro other head
        cases head
        exact fits

/-- A fill of an open window with rows that all have a position succeeds if they have
one width, and otherwise fails at the first that has another. -/
theorem Action.run_fill_cases {window : Window} (opened : window.isDisposed = false)
    (start : Position) (columns : Nat) (rows : List (List Cell))
    (addressable : start.val + rows.length ≤ 2 ^ 64) :
    ((∀ cells ∈ rows, cells.length = columns) ∧
      (fill start columns rows).run window =
        .ok rows.length (window.filled start columns rows)) ∨
      ∃ index cells, ∃ inside : start.val + index < 2 ^ 64,
        rows[index]? = some cells ∧ cells.length ≠ columns ∧
        (∀ other ∈ rows.take index, other.length = columns) ∧
        (fill start columns rows).run window =
          .error (widthFault ⟨start.val + index, inside⟩ columns
              (relation columns cells.length))
            (window.filled start columns (rows.take index)) := by
  obtain ⟨fitting, rest, rfl, widths, room, misfit⟩ :=
    exists_fitting_prefix start columns rows 0 (Nat.le_of_lt start.isLt)
  simp only [Nat.zero_add] at room misfit
  cases rest with
  | nil =>
      rw [List.append_nil]
      exact .inl ⟨widths, run_fill_of_fits opened widths room⟩
  | cons cells rest =>
      have inside : start.val + fitting.length < 2 ^ 64 := by
        simp only [List.length_append, List.length_cons] at addressable
        omega
      have width : cells.length ≠ columns := fun same => misfit cells rfl ⟨same, inside⟩
      have refused := run_fill_of_misfit rest opened widths room (misfit cells rfl)
      rw [misfitFault, Position.advance?_of_lt inside] at refused
      refine .inr ⟨fitting.length, cells, inside, ?_, width, ?_, ?_⟩
      · rw [List.getElem?_append_right (Nat.le_refl _), Nat.sub_self]
        rfl
      · rw [List.take_left]
        exact widths
      · rw [List.take_left]
        exact refused

/-- The first row that does not fit has a given index, or there is none and the
index is their number. -/
structure FirstMisfit (start : Position) (columns : Nat) (rows : List (List Cell))
    (index : Nat) : Prop where
  fits : ∀ earlier < index, ∃ cells, rows[earlier]? = some cells ∧
    Fits start columns earlier cells
  misfit : ∀ cells, rows[index]? = some cells → ¬ Fits start columns index cells

/-- A window has been filled: it holds these rows at their positions, nothing
of what it held before, and is otherwise the same. -/
structure FilledWith (start : Position) (columns : Nat) (rows : List (List Cell))
    (before after : Window) : Prop where
  placed : after.start = start
  width : after.columns = columns
  contents : after.rows = (rows.map List.toArray).toArray
  addressable : start.val + after.rows.size ≤ 2 ^ 64
  reads : ∀ (index column : Nat) (row : Position) (cells : List Cell) (cell : Cell),
    rows[index]? = some cells → cells[column]? = some cell →
      row.val = start.val + index → after.cell row column = .ok cell
  sameName : after.name = before.name
  sameSize : after.sizeBytes = before.sizeBytes
  sameReferences : after.references = before.references

theorem filledWith_filled {window : Window} {start : Position}
    (opened : window.isDisposed = false) (columns : Nat) {rows : List (List Cell)}
    (addressable : start.val + rows.length ≤ 2 ^ 64) :
    FilledWith start columns rows window (window.filled start columns rows) where
  placed := rfl
  width := rfl
  contents := rfl
  addressable := by simpa [filled] using addressable
  reads := by
    intro index column row cells cell stored inside placed
    refine cell_eq_ok_iff.mpr ⟨opened, index, cells.toArray, placed.symm, ?_, ?_⟩
    · simp [filled, stored]
    · simpa using inside
  sameName := rfl
  sameSize := rfl
  sameReferences := rfl

/-- Filling an open window leaves in it exactly the rows before the first that does
not fit.  It succeeds with their number when there is none such, and otherwise
fails with the fault of that row.  A disposed window refuses and stays as it is. -/
theorem fill_exact (window : Window) (start : Position) (columns : Nat)
    (rows : List (List Cell)) :
    if window.isDisposed then
      ∃ fault, (Action.fill start columns rows).run window = .error fault window ∧
        fault.kind = .disposed
    else
      ∃ index after, FirstMisfit start columns rows index ∧
        FilledWith start columns (rows.take index) window after ∧
        match rows[index]? with
        | none => (Action.fill start columns rows).run window = .ok rows.length after
        | some _ =>
            ∃ fault, (Action.fill start columns rows).run window = .error fault after ∧
              fault.column? = none ∧
              if start.val + index < 2 ^ 64 then
                fault.kind = .preconditionViolation ∧
                  fault.row? = some (start.val + index)
              else fault.kind = .outOfRange ∧ fault.row? = none := by
  split
  next disposed => exact ⟨_, Action.run_fill_of_disposed disposed start columns rows, rfl⟩
  next notDisposed =>
    have opened : window.isDisposed = false := by simpa using notDisposed
    obtain ⟨fitting, rest, rfl, widths, addressable, misfit⟩ :=
      exists_fitting_prefix start columns rows 0 (Nat.le_of_lt start.isLt)
    simp only [Nat.zero_add] at addressable misfit
    refine ⟨fitting.length, window.filled start columns fitting, ⟨?_, ?_⟩, ?_, ?_⟩
    · intro earlier before
      refine ⟨fitting[earlier], ?_, widths _ (List.getElem_mem before), by omega⟩
      rw [List.getElem?_append_left before, List.getElem?_eq_getElem before]
    · intro cells held
      rw [List.getElem?_append_right (Nat.le_refl _), Nat.sub_self] at held
      exact misfit cells (by rw [List.head?_eq_getElem?, held]; rfl)
    · rw [List.take_left]
      exact filledWith_filled opened columns addressable
    · cases rest with
      | nil =>
          simp only [List.append_nil, List.getElem?_eq_none (Nat.le_refl _)]
          exact Action.run_fill_of_fits opened widths addressable
      | cons cells rest =>
          have refused := Action.run_fill_of_misfit rest opened widths addressable
            (misfit cells rfl)
          simp only [List.getElem?_append_right (Nat.le_refl _), Nat.sub_self,
            List.getElem?_cons_zero]
          refine ⟨_, refused, ?_⟩
          by_cases inside : start.val + fitting.length < 2 ^ 64
          · rw [if_pos inside, Action.misfitFault, Position.advance?_of_lt inside]
            exact ⟨rfl, rfl, rfl⟩
          · rw [if_neg inside, Action.misfitFault, Position.advance?_of_not_lt inside]
            exact ⟨rfl, rfl, rfl⟩

end PagedRows.Window
