import PagedRows.Proofs.ReadValues
import PagedRows.Proofs.Rectangular
import PagedRows.Proofs.RowText

/-!
# The census of a rectangular window

A window counts the cells of the rows that have a position.  In a rectangular window
these rows can be read through, so that the census is taken of all cells in them, and a
disposed window, which has no rows, counts none.
-/

namespace PagedRows

private theorem Cell.Kind.mem_all (kind : Cell.Kind) : kind ∈ Cell.Kind.all := by
  cases kind <;> decide

private theorem Cell.Kind.find?_name (kind : Cell.Kind) :
    Cell.Kind.all.find? (fun other => other.name = kind.name) = some kind := by
  cases kind <;> decide

private theorem Cell.Kind.eq_of_name_eq (kind other : Cell.Kind) (same : kind.name = other.name) :
    kind = other := by
  have mine := kind.find?_name
  rw [same, other.find?_name] at mine
  exact (Option.some.inj mine).symm

namespace Window

theorem map_offset_advance? (start : Position) (count : Nat) :
    ((List.range count).filterMap start.advance?).map (fun row => row.val - start.val) =
      List.range (min count (2 ^ 64 - start.val)) := by
  induction count with
  | zero => simp
  | succ count induction =>
      rw [List.range_succ, List.filterMap_append, List.map_append, induction]
      by_cases inside : start.val + count < 2 ^ 64
      · have before : min count (2 ^ 64 - start.val) = count := by omega
        have after : min (count + 1) (2 ^ 64 - start.val) = count + 1 := by omega
        rw [before, after, List.range_succ]
        simp [Position.advance?_of_lt inside]
      · have same : min (count + 1) (2 ^ 64 - start.val) = min count (2 ^ 64 - start.val) := by
          omega
        rw [same]
        simp [Position.advance?_of_not_lt inside]

/-- The rows of a window that have a position. -/
def addressable (window : Window) : List (List Cell) :=
  (window.rows.toList.take (2 ^ 64 - window.start.val)).map Array.toList

private theorem map_positions (window : Window) :
    window.positions.map (fun row =>
        ((window.rows[row.val - window.start.val]?).getD #[]).toList) =
      window.addressable := by
  have offsets := map_offset_advance? window.start window.rows.size
  calc window.positions.map (fun row =>
        ((window.rows[row.val - window.start.val]?).getD #[]).toList)
    _ = (window.positions.map fun row => row.val - window.start.val).map fun index =>
          ((window.rows[index]?).getD #[]).toList := by
        rw [List.map_map]
        rfl
    _ = (List.range (min window.rows.size (2 ^ 64 - window.start.val))).map fun index =>
          ((window.rows[index]?).getD #[]).toList := by
        rw [positions, offsets]
    _ = window.addressable := by
        rw [addressable]
        apply List.ext_getElem
        · simp [Nat.min_comm]
        · intro index left right
          have inside : index < window.rows.size := by
            simp only [List.length_map, List.length_range] at left
            omega
          simp [inside]

private theorem mem_positions {window : Window} {row : Position} (member : row ∈ window.positions) :
    ∃ index < window.rows.size, window.start.val + index = row.val := by
  obtain ⟨index, among, advanced⟩ := List.mem_filterMap.mp member
  refine ⟨index, List.mem_range.mp among, ?_⟩
  by_cases inside : window.start.val + index < 2 ^ 64
  · rw [Position.advance?_of_lt inside] at advanced
    cases advanced
    rfl
  · rw [Position.advance?_of_not_lt inside] at advanced
    cases advanced

/-- A rectangular window, open or disposed, has a census, which is that of all cells in
the rows that have a position. -/
theorem kinds_of_rectangular {window : Window} (rectangular : window.Rectangular) :
    window.kinds = .ok (window.addressable.flatten.map Cell.kind) := by
  have each : ∀ row ∈ window.positions,
      (List.range window.columns).mapM (window.kindAt row) =
        .ok (((window.rows[row.val - window.start.val]?).getD #[]).toList.map Cell.kind) := by
    intro row member
    obtain ⟨index, inside, placed⟩ := mem_positions member
    have opened : window.isDisposed = false := by
      rw [← Bool.not_eq_true]
      intro disposed
      simp [rectangular.dropped disposed] at inside
    have lookup : window.rows[index]? = some window.rows[index] :=
      Array.getElem?_eq_getElem inside
    have offset : row.val - window.start.val = index := by omega
    rw [offset, lookup]
    exact mapM_cell_of_held opened placed lookup
      (rectangular.width _ (Array.getElem_mem inside)) Cell.kind
  rw [kinds, mapM_eq_ok _ each]
  change Except.ok (List.flatten _) = _
  rw [← map_positions, List.map_flatten, List.map_map]
  rfl

/-- How many cells of a kind there are in the rows that have a position. -/
def population (window : Window) (kind : Cell.Kind) : Nat :=
  (window.addressable.flatten.map Cell.kind).count kind

theorem population_le (window : Window) (kind : Cell.Kind) :
    window.population kind ≤ window.addressable.flatten.length := by
  have most : (window.addressable.flatten.map Cell.kind).count kind ≤
      (window.addressable.flatten.map Cell.kind).length := List.count_le_length
  rw [List.length_map] at most
  exact most

/-- The numbers of cells, by the names of their kinds. -/
def types (window : Window) : List (String × Json) :=
  Cell.Kind.all.map fun kind => (kind.name, .ofNat (window.population kind))

/-- What a window that can be read through says of itself. -/
def summary (window : Window) : List (String × Json) :=
  [("name", .string window.name), ("size_bytes", .ofNat window.sizeBytes),
    ("start_position", .ofNat window.start.val), ("num_rows", .ofNat window.rows.size),
    ("num_columns", .ofNat window.columns),
    ("describe_contents", .ofNat window.contentFlags), ("types", .ofMembers window.types)]

/-- A rectangular window always has something to say of itself. -/
theorem infoJson_of_rectangular {window : Window} (rectangular : window.Rectangular) :
    window.infoJson = .ok (.ofMembers window.summary) := by
  have counted : window.census =
      .ok (Cell.Kind.all.map fun kind => (kind, window.population kind)) := by
    rw [census, kinds_of_rectangular rectangular]
    rfl
  rw [infoJson, counted]
  rfl

theorem lookup_summary (window : Window) :
    (Json.sortedMembers window.summary).lookup "num_rows" =
        some (.ofNat window.rows.size) ∧
      (Json.sortedMembers window.summary).lookup "num_columns" =
        some (.ofNat window.columns) ∧
      (Json.sortedMembers window.summary).lookup "types" =
        some (.ofMembers window.types) := by
  simp [Json.lookup_sortedMembers, summary, Json.lookup_cons]

theorem lookup_types {window : Window} {key : String} {count : Json} :
    (Json.sortedMembers window.types).lookup key = some count ↔
      ∃ kind : Cell.Kind, key = kind.name ∧ count = .ofNat (window.population kind) := by
  rw [Json.lookup_sortedMembers, types, ← List.map_reverse,
    Json.lookup_map_eq_some_iff Cell.Kind.eq_of_name_eq]
  constructor
  · rintro ⟨kind, -, named, counted⟩
    exact ⟨kind, named, counted⟩
  · rintro ⟨kind, named, counted⟩
    exact ⟨kind, List.mem_reverse.mpr kind.mem_all, named, counted⟩

end Window

end PagedRows
