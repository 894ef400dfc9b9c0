import PagedRows.Proofs.CellText
import PagedRows.Proofs.NumberText
import PagedRows.Proofs.Refusal

/-!
# Cells through JSON

A cell that is rendered and decoded again is the same cell, and a value that is decoded
and rendered again is the same value.  Two things come back in another form: a float that
JSON lacks as its text, which is read like the float, and an integer beyond 64 bits with
sign as the float nearest to it.
-/

namespace PagedRows

/-- Two readings say the same; whatever is not a number counts as one. -/
inductive Reading.Same : Reading → Reading → Prop where
  | refl (reading : Reading) : Same reading reading
  | double {left right : Double} (same : left.SameNumber right) :
      Same (.double left) (.double right)
  | float {left right : Single} (same : left.SameNumber right) :
      Same (.float left) (.float right)

/-- Two outcomes agree: they are readings that say the same, or faults that differ in
nothing but the address. -/
inductive Agree : Except Fault Reading → Except Fault Reading → Prop where
  | reading {left right : Reading} (same : left.Same right) : Agree (.ok left) (.ok right)
  | fault {left right : Fault} (same : left.atCell 0 0 = right.atCell 0 0) :
      Agree (.error left) (.error right)

theorem Agree.of_eq {left right : Except Fault Reading} (same : left = right) :
    Agree left right := by
  subst same
  cases left with
  | error fault => exact .fault rfl
  | ok reading => exact .reading (.refl reading)

theorem Agree.mapError {left right : Except Fault Reading} (agree : Agree left right)
    (row column otherRow otherColumn : Nat) :
    Agree (left.mapError (·.atCell row column))
      (right.mapError (·.atCell otherRow otherColumn)) := by
  cases agree with
  | reading same => exact .reading same
  | fault same => exact .fault same

/-- The getters that make text or a number of a cell, whatever its kind. -/
def Getter.converts : Getter → Bool
  | string | long | short | int | double | float => true
  | kind | isNull | isBlob | isLong | isFloat | isString | blob | json => false

/-- The text and the numbers of two cells agree. -/
def Cell.ReadsLike (left right : Cell) : Prop :=
  ∀ getter : Getter, getter.converts = true → Agree (getter.look left) (getter.look right)

theorem Cell.ReadsLike.refl (cell : Cell) : cell.ReadsLike cell :=
  fun _ _ => .of_eq rfl

theorem Cell.readsLike_text (number : Double) :
    (Cell.string (String.ofList number.text)).ReadsLike (.float number) := by
  have read := Cell.quantity_text number
  have same := Binary.sameNumber_nan number
  have whole : (Quantity.float (if number.isNaN then .nan else number)).toInt64 =
      (Quantity.float number).toInt64 := same.toInt64_eq
  intro getter converts
  cases getter with
  | string => exact .of_eq rfl
  | long =>
      rw [Getter.look, read]
      exact .of_eq (congrArg (fun value : Int64 => Except.ok (Reading.long value)) whole)
  | short =>
      rw [Getter.look, read]
      exact .of_eq (congrArg (fun value : Int64 => Except.ok (Reading.short value.toInt16)) whole)
  | int =>
      rw [Getter.look, read]
      exact .of_eq (congrArg (fun value : Int64 => Except.ok (Reading.int value.toInt32)) whole)
  | double =>
      rw [Getter.look, read]
      exact .reading (.double same)
  | float =>
      rw [Getter.look, read]
      exact .reading (.float (.inl (same.convert_eq _)))
  | _ => cases converts

theorem Window.agree_of_readsLike {left right : Window} {row other : Position}
    {column otherColumn : Nat} {cell otherCell : Cell} (like : cell.ReadsLike otherCell)
    (held : left.cell row column = .ok cell)
    (otherHeld : right.cell other otherColumn = .ok otherCell) {getter : Getter}
    (converts : getter.converts = true) :
    Agree (left.read row column getter) (right.read other otherColumn getter) := by
  rw [read_eq_view, read_eq_view, view_eq_of_cell held, view_eq_of_cell otherHeld]
  exact (like getter converts).mapError row.val column other.val otherColumn

/-- What a cell that is rendered is decoded as. -/
def Cell.kept : Cell → Cell
  | .float number =>
      if number.isFinite then .float number else .string (String.ofList number.text)
  | cell => cell

theorem Cell.kept_of_finite {cell : Cell} (finite : cell.Finite) : cell.kept = cell := by
  cases cell with
  | float number => exact if_pos finite
  | _ => rfl

private theorem Cell.denotes_kept (cell : Cell) : cell.toJson.Denotes cell.kept := by
  by_cases finite : cell.Finite
  · rw [kept_of_finite finite]
    exact denotes_toJson finite
  · cases cell with
    | float number =>
        have written : (Cell.float number).toJson = .string (String.ofList number.text) :=
          dif_neg finite
        have kept : (Cell.float number).kept = .string (String.ofList number.text) :=
          if_neg finite
        rw [written, kept]
        exact .string
    | _ => exact (finite trivial).elim

private theorem Cell.kept_readsLike (cell : Cell) : cell.kept.ReadsLike cell := by
  by_cases finite : cell.Finite
  · rw [kept_of_finite finite]
    exact .refl cell
  · cases cell with
    | float number =>
        have kept : (Cell.float number).kept = .string (String.ofList number.text) :=
          if_neg finite
        rw [kept]
        exact readsLike_text number
    | _ => exact (finite trivial).elim

namespace Window

variable {window : Window} {row : Position} {column : Nat}

theorem cellJson_of_cell {cell : Cell} (held : window.cell row column = .ok cell) :
    window.cellJson row column = .ok cell.toJson := by
  rw [cellJson_eq_map, held]
  rfl

/-- Whatever cell stands at an address, it is rendered as a value that is decoded as the
same cell; only a float that JSON lacks is decoded as its text.  Put anywhere, the decoded
cell gives the same text and the same numbers as the first, or is refused alike. -/
theorem rendering_is_undone (reachable : window.Reachable)
    (opened : window.isDisposed = false) (inside : ¬window.Outside row column) :
    ∃ cell value decoded, window.cell row column = .ok cell ∧
      window.cellJson row column = .ok value ∧ Cell.ofJson value = .ok decoded ∧
      (cell.Finite → decoded = cell) ∧
      (∀ number, cell = .float number → number.isFinite = false →
        decoded = .string (String.ofList number.text)) ∧
      ∀ (first second : Window) (place other : Position) (placeColumn otherColumn : Nat)
        (replaced displaced : Cell),
        first.cell place placeColumn = .ok replaced →
        second.cell other otherColumn = .ok displaced →
        ∃ left right, (Action.putCell decoded place placeColumn).run first = .ok () left ∧
          (Action.putCell cell other otherColumn).run second = .ok () right ∧
          ∀ getter : Getter, getter.converts = true →
            Agree (left.read place placeColumn getter) (right.read other otherColumn getter) := by
  obtain ⟨cell, held⟩ := reachable.rectangular.exists_cell opened inside
  refine ⟨cell, cell.toJson, cell.kept, held, cellJson_of_cell held,
    Cell.ofJson_eq_ok_iff.mpr cell.denotes_kept, Cell.kept_of_finite, ?_, ?_⟩
  · rintro number rfl infinite
    exact if_neg (by rw [infinite]; exact Bool.false_ne_true)
  · intro first second place other placeColumn otherColumn replaced displaced there here
    obtain ⟨left, putLeft, heldLeft⟩ := exists_putCell cell.kept there
    obtain ⟨right, putRight, heldRight⟩ := exists_putCell cell here
    refine ⟨left, right, putLeft, putRight, ?_⟩
    intro getter converts
    exact agree_of_readsLike cell.kept_readsLike heldLeft heldRight converts

/-- A row whose first float JSON lacks. -/
def infiniteRow : Window :=
  (Session.run (.fill 5 2 [[.float (.infinite true), .integer 7]]) Session.initial).2.window

theorem rendering_is_undone_of_infinite :
    ∃ value left right, infiniteRow.cellJson 5 0 = .ok value ∧
      Cell.ofJson value = .ok (.string "-Infinity") ∧
      (Action.putCell (.string "-Infinity") 5 1).run infiniteRow = .ok () left ∧
      (Action.putCell (.float (.infinite true)) 5 0).run infiniteRow = .ok () right ∧
      Agree (left.read 5 1 .double) (right.read 5 0 .double) ∧
      Agree (left.read 5 1 .string) (right.read 5 0 .string) := by
  have initial : Session.initial.window.Reachable := @Reachable.constructed none none _ rfl
  have reachable : infiniteRow.Reachable :=
    @Reachable.stepped (.fill 5 2 [[.float (.infinite true), .integer 7]]) Session.initial initial
  have inside : ¬infiniteRow.Outside 5 0 := by decide
  obtain ⟨cell, value, decoded, held, rendered, read, -, lacking, puts⟩ :=
    rendering_is_undone reachable rfl inside
  cases (rfl : infiniteRow.cell 5 0 = .ok (.float (.infinite true))).symm.trans held
  cases lacking _ rfl rfl
  obtain ⟨left, right, putLeft, putRight, agree⟩ :=
    puts infiniteRow infiniteRow 5 5 1 0 (.integer 7) (.float (.infinite true)) rfl rfl
  exact ⟨value, left, right, rendered, read, putLeft, putRight, agree .double rfl,
    agree .string rfl⟩

end Window

namespace Cell

private theorem toJson_of_denotes {value : Json} {cell : Cell} (denotes : value.Denotes cell)
    (narrow : ∀ number, value = .integer number → -2 ^ 63 ≤ number ∧ number < 2 ^ 63) :
    cell.toJson = value := by
  cases denotes with
  | null => rfl
  | integer fits => exact congrArg Json.integer (Int64.toInt_ofInt_of_le fits.1 fits.2)
  | wide wide => exact (wide (narrow _ rfl)).elim
  | float => exact dif_pos _
  | string => rfl
  | blob => rfl

theorem exists_toJson_of_wide {number : Int} (wide : 2 ^ 63 ≤ number)
    (below : number < 2 ^ 64) {cell : Cell} (denotes : (Json.integer number).Denotes cell) :
    ∃ float finite, cell.toJson = .float float finite ∧ float.negative = false ∧
      Binary.Format.double.IsNearest
        (number.natAbs * 2 ^ Binary.Format.double.unitScale) 1 float.magnitude := by
  have small : number.natAbs < 2 ^ 64 := by omega
  have finite : (Binary.ofInt number : Double).isFinite = true :=
    Binary.isFinite_ofInt small (by decide) (by decide)
  cases denotes with
  | integer fits => exact absurd fits.2 (by omega)
  | wide =>
      refine ⟨.ofInt number, finite, dif_pos finite, ?_, Binary.isNearest_ofInt (by decide) _⟩
      exact decide_eq_false (by omega)

/-- Decoding accepts the values that stand for cells and no others, which are wrong use.
A cell that has been decoded is rendered, wherever it was put, as the value it comes from;
only an integer beyond 64 bits with sign is rendered as the nearest float.  Rows are decoded
item by item, and the first item that is refused is the one that is reported.

No value that is read holds an integer below `-2 ^ 63` or from `2 ^ 64` on
(`Json.Readable.integer`), so the two bounds on integers leave nothing out. -/
theorem decoding_is_exact :
    (∀ value, (∃ cell, ofJson value = .ok cell) ↔ value.IsCell) ∧
    (∀ value, ¬value.IsCell → ∃ fault, ofJson value = .error fault ∧ fault.kind = .usage) ∧
    (∀ value cell, ofJson value = .ok cell →
      ∀ (window : Window) (row : Position) (column : Nat) (replaced : Cell),
        window.cell row column = .ok replaced →
        ∃ changed shown, (Window.Action.putCell cell row column).run window = .ok () changed ∧
          changed.cellJson row column = .ok shown ∧
          ((∀ number, value = .integer number → -2 ^ 63 ≤ number ∧ number < 2 ^ 63) →
            shown = value) ∧
          ∀ number, value = .integer number → 2 ^ 63 ≤ number → number < 2 ^ 64 →
            ∃ float finite, shown = .float float finite ∧ float.negative = false ∧
              Binary.Format.double.IsNearest
                (number.natAbs * 2 ^ Binary.Format.double.unitScale) 1 float.magnitude) ∧
    (∀ value, (∃ cells, rowOfJson value = .ok cells) ↔
      ∃ items, value = .array items ∧ ∀ item ∈ items, item.IsCell) ∧
    (∀ items cells, rowOfJson (.array items) = .ok cells →
      items.map ofJson = cells.map .ok) ∧
    (∀ items fault, rowOfJson (.array items) = .error fault ↔
      ∃ front item back, items = front ++ item :: back ∧
        (∀ earlier ∈ front, earlier.IsCell) ∧ ofJson item = .error fault) ∧
    ∀ value, (∀ items, value ≠ .array items) →
      ∃ fault, rowOfJson value = .error fault ∧ fault.kind = .usage := by
  refine ⟨fun value => exists_ofJson_iff, ?_, ?_, fun value => exists_rowOfJson_iff, ?_, ?_, ?_⟩
  · intro value none
    cases result : ofJson value with
    | ok cell => exact (none (exists_ofJson_iff.mp ⟨cell, result⟩)).elim
    | error fault => exact ⟨fault, rfl, kind_of_ofJson_eq_error result⟩
  · intro value cell done window row column replaced held
    have denotes := ofJson_eq_ok_iff.mp done
    obtain ⟨changed, put, moved⟩ := Window.exists_putCell cell held
    refine ⟨changed, cell.toJson, put, Window.cellJson_of_cell moved,
      toJson_of_denotes denotes, ?_⟩
    rintro number rfl wide below
    exact exists_toJson_of_wide wide below denotes
  · intro items cells done
    exact mapM_eq_ok_iff.mp done
  · intro items fault
    have accepted (item : Json) := @exists_ofJson_iff item
    simp only [← accepted]
    exact mapM_eq_error_iff
  · intro value other
    cases result : rowOfJson value with
    | ok cells =>
        obtain ⟨items, same, -⟩ := rowOfJson_eq_ok_iff.mp result
        exact (other items same).elim
    | error fault => exact ⟨fault, rfl, kind_of_rowOfJson_eq_error result⟩

/-- The greatest integer without sign, a byte that is too great, and the row with it. -/
theorem decoding_is_exact_of_greatest :
    (∃ changed float finite,
      (Window.Action.putCell (.float (.ofInt (2 ^ 64 - 1))) 5 1).run Window.infiniteRow =
        .ok () changed ∧
      changed.cellJson 5 1 = .ok (.float float finite) ∧ float.negative = false) ∧
    rowOfJson (.array [.null, .object [("blob", .array [.ofNat 256])], .bool true]) =
      .error (unsupportedFault (.object [("blob", .array [.ofNat 256])])) := by
  obtain ⟨-, -, stored, -, -, rows, -⟩ := decoding_is_exact
  have decoded : ofJson (.integer (2 ^ 64 - 1)) = .ok (.float (.ofInt (2 ^ 64 - 1))) :=
    ofJson_eq_ok_iff.mpr (.wide (by decide))
  obtain ⟨changed, shown, put, rendered, -, wide⟩ :=
    stored _ _ decoded Window.infiniteRow 5 1 (.integer 7) rfl
  obtain ⟨float, finite, rfl, positive, -⟩ := wide _ rfl (by decide) (by decide)
  refine ⟨⟨changed, float, finite, put, rendered, positive⟩, (rows _ _).mpr ?_⟩
  exact ⟨[.null], _, [.bool true], rfl, List.forall_mem_singleton.mpr .null, rfl⟩

end Cell

end PagedRows
