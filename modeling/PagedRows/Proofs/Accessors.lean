import PagedRows.Proofs.Disposal
import PagedRows.Proofs.Getters

/-!
# Faults of access

Access to a cell fails for one of two reasons: there is no cell at the address, or the cell
is of a kind that the accessor refuses.  Both can be told beforehand, the one from the bounds
of the window and the other from the kind of the cell, and both faults name the address that
was given.
-/

namespace PagedRows

/-- A view shows something of every cell, except of those whose kinds it refuses. -/
def Refuses {α : Type} (look : Cell → Except Fault α) (kinds : Cell.Kind → Bool) : Prop :=
  ∀ cell : Cell, (kinds cell.kind = false → ∃ shown, look cell = .ok shown) ∧
    (kinds cell.kind = true → ∃ fault, look cell = .error fault ∧ fault.kind = .typeMismatch)

namespace Refuses

variable {α β : Type} {look : Cell → Except Fault α} {kinds : Cell.Kind → Bool}

theorem nothing (shown : Cell → α) : Refuses (fun cell => .ok (shown cell)) fun _ => false :=
  fun cell => ⟨fun _ => ⟨shown cell, rfl⟩, nofun⟩

theorem map (refuses : Refuses look kinds) (change : α → β) :
    Refuses (fun cell => (look cell).map change) kinds := by
  intro cell
  obtain ⟨accepted, refused⟩ := refuses cell
  constructor
  · intro spared
    obtain ⟨shown, looks⟩ := accepted spared
    exact ⟨change shown, congrArg (Except.map change) looks⟩
  · intro hit
    obtain ⟨fault, looks, kind⟩ := refused hit
    exact ⟨fault, congrArg (Except.map change) looks, kind⟩

theorem bytes? : Refuses Cell.bytes? fun kind => kind = .integer || kind = .float := by
  intro cell
  cases cell with
  | null => exact ⟨fun _ => ⟨_, rfl⟩, nofun⟩
  | integer value => exact ⟨nofun, fun _ => ⟨_, rfl, rfl⟩⟩
  | float value => exact ⟨nofun, fun _ => ⟨_, rfl, rfl⟩⟩
  | string text => exact ⟨fun _ => ⟨_, rfl⟩, nofun⟩
  | blob bytes => exact ⟨fun _ => ⟨_, rfl⟩, nofun⟩

theorem text? : Refuses Cell.text? fun kind => kind = .blob := by
  intro cell
  cases cell with
  | blob bytes => exact ⟨nofun, fun _ => ⟨_, rfl, rfl⟩⟩
  | _ => exact ⟨fun _ => ⟨_, rfl⟩, nofun⟩

theorem quantity : Refuses Cell.quantity fun kind => kind = .blob := by
  intro cell
  cases cell with
  | blob bytes => exact ⟨nofun, fun _ => ⟨_, rfl, rfl⟩⟩
  | _ => exact ⟨fun _ => ⟨_, rfl⟩, nofun⟩

end Refuses

/-- The kinds of cells that a getter refuses. -/
def Getter.refuses : Getter → Cell.Kind → Bool
  | blob => fun kind => kind = .integer || kind = .float
  | string | long | short | int | double | float => fun kind => kind = .blob
  | kind | isNull | isBlob | isLong | isFloat | isString | json => fun _ => false

theorem Getter.refuses_look (getter : Getter) : Refuses getter.look getter.refuses := by
  cases getter with
  | kind => exact .nothing _
  | isNull => exact .nothing _
  | isBlob => exact .nothing _
  | isLong => exact .nothing _
  | isFloat => exact .nothing _
  | isString => exact .nothing _
  | blob => exact Refuses.bytes?.map _
  | string => exact Refuses.text?.map _
  | long => exact Refuses.quantity.map _
  | short => exact Refuses.quantity.map _
  | int => exact Refuses.quantity.map _
  | double => exact Refuses.quantity.map _
  | float => exact Refuses.quantity.map _
  | json => exact .nothing _

/-- The fault of a computation that failed. -/
def faultOf {α : Type} : Except Fault α → Option Fault
  | .error fault => some fault
  | .ok _ => none

namespace Window

section Views

variable {window : Window} {row : Position} {column : Nat}

private theorem find_of_outside (rectangular : window.Rectangular)
    (opened : window.isDisposed = false) (outside : window.Outside row column) :
    ∃ fault, window.find row column = .error fault ∧ fault.kind = .outOfRange ∧
      fault.row? = some row.val ∧ fault.column? = some column := by
  have missing : ¬window.Holds row column :=
    fun holds => rectangular.holds_iff.mp holds outside
  have used : ¬window.isDisposed = true := by
    rw [opened]
    exact Bool.false_ne_true
  rw [find, if_neg used]
  split
  next => exact ⟨_, rfl, rfl, rfl, rfl⟩
  next index cells present =>
    split
    next => exact ⟨_, rfl, rfl, rfl, rfl⟩
    next cell inside =>
      obtain ⟨placed, lookup⟩ := rowAt?_eq_some_iff.mp present
      obtain ⟨within, -⟩ := Array.getElem?_eq_some_iff.mp inside
      exact (missing ⟨index, cells, placed, lookup, within⟩).elim

private theorem cell_of_outside (rectangular : window.Rectangular)
    (opened : window.isDisposed = false) (outside : window.Outside row column) :
    ∃ fault, window.cell row column = .error fault ∧ fault.kind = .outOfRange ∧
      fault.row? = some row.val ∧ fault.column? = some column := by
  obtain ⟨fault, missing, described⟩ := find_of_outside rectangular opened outside
  exact ⟨fault, by rw [cell, missing]; rfl, described⟩

end Views

/-- What can be told beforehand of an access to an address and of its fault, if it has one:
whether there is a cell at the address, and whether the kind of the cell is refused. -/
structure Foretells (window : Window) (row : Position) (column : Nat)
    (refuses : Cell.Kind → Bool) (fault? : Option Fault) : Prop where
  outside_iff :
    (∃ fault, fault? = some fault ∧ fault.kind = .outOfRange) ↔ window.Outside row column
  inside : ¬window.Outside row column → ∃ cell, window.cell row column = .ok cell ∧
    (refuses cell.kind = false → fault? = none) ∧
    (refuses cell.kind = true → ∃ fault, fault? = some fault ∧ fault.kind = .typeMismatch)
  address : ∀ fault, fault? = some fault →
    fault.row? = some row.val ∧ fault.column? = some column

private theorem foretells_view {α : Type} {look : Cell → Except Fault α} {kinds : Cell.Kind → Bool}
    {window : Window} (refuses : Refuses look kinds) (rectangular : window.Rectangular)
    (opened : window.isDisposed = false) (row : Position) (column : Nat) :
    window.Foretells row column kinds (faultOf (window.view row column look)) := by
  by_cases outside : window.Outside row column
  · obtain ⟨fault, missing, kind, address⟩ := cell_of_outside rectangular opened outside
    have failed : window.view row column look = .error fault := view_of_fault missing
    rw [failed]
    refine ⟨iff_of_true ⟨fault, rfl, kind⟩ outside, fun inside => (inside outside).elim, ?_⟩
    intro other same
    cases same
    exact address
  · obtain ⟨cell, held⟩ := rectangular.exists_cell opened outside
    obtain ⟨accepted, refused⟩ := refuses cell
    cases hit : kinds cell.kind with
    | false =>
        obtain ⟨shown, looks⟩ := accepted hit
        have done : window.view row column look = .ok shown := view_of_cell held looks
        rw [done]
        refine ⟨iff_of_false (by rintro ⟨_, ⟨⟩, _⟩) outside, fun _ => ⟨cell, held, ?_⟩, nofun⟩
        rw [hit]
        exact ⟨fun _ => rfl, nofun⟩
    | true =>
        obtain ⟨fault, looks, kind⟩ := refused hit
        have failed : window.view row column look = .error (fault.atCell row.val column) :=
          view_of_refused held looks
        rw [failed]
        have otherKind : ¬∃ other, some (fault.atCell row.val column) = some other ∧
            other.kind = .outOfRange := by
          rintro ⟨_, ⟨⟩, outOfRange⟩
          have same : Fault.Kind.typeMismatch = .outOfRange := kind.symm.trans outOfRange
          cases same
        refine ⟨iff_of_false otherKind outside, fun _ => ⟨cell, held, ?_⟩, ?_⟩
        · rw [hit]
          exact ⟨nofun, fun _ => ⟨_, rfl, kind⟩⟩
        · rintro _ ⟨⟩
          exact ⟨rfl, rfl⟩

end Window

namespace Session

open Window (Change)

/-- A step reads the cell at an address, or has a value to put there. -/
inductive Step.Accesses : Step → Position → Nat → Prop where
  | read (getter : Getter) {row : Position} {column : Nat} :
      Accesses (.read getter row column) row column
  | copyText {row : Position} {column : Nat} : Accesses (.copyText row column) row column
  | write {value : Written} {cell : Cell} {row : Position} {column : Nat}
      (present : value.cell? = some cell) : Accesses (.write value row column) row column

/-- The kinds of cells that a step refuses.  What is put replaces a cell of any kind. -/
def Step.refuses : Step → Cell.Kind → Bool
  | read getter _ _ => getter.refuses
  | copyText _ _ => Getter.string.refuses
  | _ => fun _ => false

/-- Every access looks at the cell in some way, and reports a fault where that fails. -/
theorem exists_view {step : Step} {row : Position} {column : Nat}
    (accesses : step.Accesses row column) (session : Session) :
    ∃ (α : Type) (look : Cell → Except Fault α), Refuses look step.refuses ∧
      fault? (run step session).1 = faultOf (session.window.view row column look) := by
  cases accesses with
  | read getter =>
      refine ⟨Reading, getter.look, getter.refuses_look, ?_⟩
      rw [run, inspect, Window.read_eq_view]
      cases session.window.view row column getter.look with
      | error fault => rfl
      | ok reading => rfl
  | copyText =>
      refine ⟨_, Cell.text?, Refuses.text?, ?_⟩
      rw [run, copyText, Window.copyText, Window.textAt]
      cases session.window.view row column Cell.text? with
      | error fault => rfl
      | ok text? => rfl
  | @write value cell _ _ present =>
      refine ⟨Cell, .ok, .nothing id, ?_⟩
      have asked : (Step.write value row column).change? = some (.put cell row column) := by
        rw [Step.change?, present]
        rfl
      rw [run_of_change? asked, perform, Window.view, Window.cell]
      cases found : session.window.find row column with
      | error fault =>
          have refused := Window.Action.run_putCell_of_fault cell found
          rw [show (Change.put cell row column).action session.window = _ from refused]
          rfl
      | ok held =>
          have done := Window.Action.run_putCell_of_find cell found
          rw [show (Change.put cell row column).action session.window = _ from done]
          rfl

/-- Every access to a reachable open window succeeds or fails as is told beforehand: for the
address exactly where that is outside of the window, for the cell exactly where its kind is
refused, and with the address that was given in either case. -/
theorem accesses_end_as_foretold {session : Session} (reachable : session.window.Reachable)
    (opened : session.window.isDisposed = false) {step : Step} {row : Position} {column : Nat}
    (accesses : step.Accesses row column) :
    session.window.Foretells row column step.refuses (fault? (run step session).1) := by
  obtain ⟨α, look, refuses, same⟩ := exists_view accesses session
  rw [same]
  exact Window.foretells_view refuses reachable.rectangular opened row column

/-- Two rows from the last position on, so that the second is beyond all positions. -/
def lastRows : Session :=
  (run (.guarded [.setColumns 2, .allocateRow, .write (.blob (some [1])) 0 1, .allocateRow,
    .setStart .last] true) initial).2

theorem accesses_end_as_foretold_at_last :
    (∃ fault, fault? (run (.read .long .last 1) lastRows).1 = some fault ∧
      fault.kind = .typeMismatch ∧ fault.row? = some (2 ^ 64 - 1)) ∧
    fault? (run (.write (.string (some "")) .last 1) lastRows).1 = none ∧
    ∃ fault, fault? (run (.copyText 0 1) lastRows).1 = some fault ∧
      fault.kind = .outOfRange ∧ fault.row? = some 0 ∧ fault.column? = some 1 := by
  have initial : Session.initial.window.Reachable :=
    @Window.Reachable.constructed none none _ rfl
  have reachable : lastRows.window.Reachable := .stepped _ initial
  have opened : lastRows.window.isDisposed = false := by decide
  have inside : ¬lastRows.window.Outside .last 1 := by decide
  have outside : lastRows.window.Outside 0 1 := by decide
  have held : lastRows.window.cell .last 1 = .ok (.blob [1]) := rfl
  have read := accesses_end_as_foretold reachable opened (@Step.Accesses.read .long .last 1)
  have write := accesses_end_as_foretold reachable opened
    (@Step.Accesses.write (.string (some "")) (.string "") .last 1 rfl)
  have copy := accesses_end_as_foretold reachable opened (@Step.Accesses.copyText 0 1)
  refine ⟨?_, ?_, ?_⟩
  · obtain ⟨cell, found, -, refused⟩ := read.inside inside
    cases held.symm.trans found
    obtain ⟨fault, failed, kind⟩ := refused rfl
    exact ⟨fault, failed, kind, (read.address fault failed).1⟩
  · obtain ⟨cell, -, accepted, -⟩ := write.inside inside
    exact accepted rfl
  · obtain ⟨fault, failed, kind⟩ := copy.outside_iff.mpr outside
    exact ⟨fault, failed, kind, copy.address fault failed⟩

end Session

end PagedRows
