import PagedRows.Proofs.Census

/-!
# What a census adds up to

A census counts every cell in a row that has a position, under the one kind that the cell
has.  So the counts add up to the number of these rows times the number of columns.
-/

namespace PagedRows

/-- The counts of all kinds together. -/
def Cell.Kind.total (count : Cell.Kind → Nat) : Nat :=
  all.foldr (fun kind others => count kind + others) 0

theorem Cell.Kind.total_count (kinds : List Cell.Kind) :
    total (fun kind => kinds.count kind) = kinds.length := by
  induction kinds with
  | nil => rfl
  | cons kind kinds induction =>
      simp only [total, all, List.foldr_cons, List.foldr_nil] at induction ⊢
      rw [List.length_cons, ← induction]
      cases kind <;> simp <;> omega

namespace Window

/-- The cells in the rows at whose place in the window there is a position. -/
def addressedCells (window : Window) : List Cell :=
  (window.rows.toList.zipIdx.filter fun (_, index) =>
    window.start.val + index < 2 ^ 64).flatMap fun (cells, _) => cells.toList

/-- How many of these cells are of a kind. -/
def addressedCount (window : Window) (kind : Cell.Kind) : Nat :=
  window.addressedCells.countP fun cell => cell.kind = kind

private theorem filter_zipIdx_lt {α : Type} (items : List α) (first bound : Nat) :
    ((items.zipIdx first).filter fun (_, index) => index < bound) =
      (items.take (bound - first)).zipIdx first := by
  induction items generalizing first with
  | nil => simp
  | cons item items induction =>
      rw [List.zipIdx_cons, List.filter_cons, induction]
      by_cases inside : first < bound
      · obtain ⟨rest, more⟩ : ∃ rest, bound - first = rest + 1 :=
          ⟨bound - first - 1, by omega⟩
        have fewer : bound - (first + 1) = rest := by omega
        simp [inside, more, fewer]
      · have none : bound - first = 0 := by omega
        have fewer : bound - (first + 1) = 0 := by omega
        simp [inside, none, fewer]

private theorem flatten_addressable (window : Window) :
    window.addressable.flatten = window.addressedCells := by
  have same : (window.rows.toList.zipIdx.filter fun (_, index) =>
      window.start.val + index < 2 ^ 64) =
        (window.rows.toList.take (2 ^ 64 - window.start.val)).zipIdx := by
    rw [← Nat.sub_zero (2 ^ 64 - window.start.val), ← filter_zipIdx_lt]
    apply List.filter_congr
    intro row _
    apply decide_eq_decide.mpr
    omega
  have rows : (fun entry : Array Cell × Nat => entry.1.toList) = Array.toList ∘ Prod.fst := rfl
  rw [addressedCells, same, addressable, List.flatMap_def, rows, ← List.map_map,
    List.zipIdx_map_fst]

private theorem length_flatten_addressable {window : Window} (rectangular : window.Rectangular) :
    window.addressable.flatten.length =
      min window.rows.size (2 ^ 64 - window.start.val) * window.columns := by
  have widths : ∀ width ∈ window.addressable.map List.length, width = window.columns := by
    intro width member
    obtain ⟨cells, among, rfl⟩ := List.mem_map.mp member
    obtain ⟨row, stored, rfl⟩ := List.mem_map.mp among
    rw [Array.length_toList]
    exact rectangular.width row (Array.mem_toList_iff.mp (List.mem_of_mem_take stored))
  rw [List.length_flatten, List.eq_replicate_of_mem widths, List.sum_replicate_nat,
    List.length_map, addressable, List.length_map, List.length_take, Array.length_toList,
    Nat.min_comm]

theorem population_eq_addressedCount (window : Window) (kind : Cell.Kind) :
    window.population kind = window.addressedCount kind := by
  rw [population, addressedCount, flatten_addressable, List.count, List.countP_map]
  exact List.countP_congr fun cell _ => by simp

private theorem total_addressedCount {window : Window} (rectangular : window.Rectangular) :
    Cell.Kind.total window.addressedCount =
      min window.rows.size (2 ^ 64 - window.start.val) * window.columns := by
  calc Cell.Kind.total window.addressedCount
    _ = Cell.Kind.total window.population := by
        rw [funext window.population_eq_addressedCount]
    _ = (window.addressable.flatten.map Cell.kind).length := Cell.Kind.total_count _
    _ = min window.rows.size (2 ^ 64 - window.start.val) * window.columns := by
        rw [List.length_map, length_flatten_addressable rectangular]

/-- Every reachable window, open or disposed, describes itself.  Its census has the names
of the five kinds, and counts under each the cells of that kind in the rows that have a
position.  So the counts add up to the cells of these rows, and to those of all rows
exactly if every row has a position or no row has a cell. -/
theorem census_counts_addressed_cells {window : Window} (reachable : window.Reachable) :
    let total := Cell.Kind.total window.addressedCount
    ∃ members types, window.infoJson = .ok (.object members) ∧
      members.lookup "types" = some (.object types) ∧
      types.map Prod.fst = ["blob", "float", "integer", "null", "string"] ∧
      (∀ kind : Cell.Kind,
        types.lookup kind.name = some (.ofNat (window.addressedCount kind))) ∧
      total = min window.rows.size (2 ^ 64 - window.start.val) * window.columns ∧
      (total = window.rows.size * window.columns ↔
        window.start.val + window.rows.size ≤ 2 ^ 64 ∨ window.columns = 0) := by
  intro total
  have rectangular := reachable.rectangular
  have all := total_addressedCount rectangular
  obtain ⟨-, -, types⟩ := window.lookup_summary
  refine ⟨_, _, infoJson_of_rectangular rectangular, types, rfl, ?_, all, ?_⟩
  · intro kind
    exact lookup_types.mpr ⟨kind, rfl, by rw [population_eq_addressedCount]⟩
  · have placed := window.start.isLt
    rw [show total = _ from all]
    by_cases bare : window.columns = 0
    · simp only [bare, Nat.mul_zero, or_true]
    · rw [Nat.mul_left_inj bare]
      omega

/-- Three rows of two cells from the last position but one on, so that the third row has no
position. -/
def placeThreeRows : Session.Step :=
  .guarded [.fill 0 2 [[.integer 1, .string "a"], [.null, .blob [7]], [.null, .null]],
    .setStart 18446744073709551614] true

theorem census_counts_addressed_cells_of_three_rows :
    let window := (Session.run placeThreeRows Session.initial).2.window
    ∃ members types, window.infoJson = .ok (.object members) ∧
      members.lookup "types" = some (.object types) ∧
      types.lookup "null" = some (.ofNat 1) ∧ types.lookup "blob" = some (.ofNat 1) ∧
      types.lookup "float" = some (.ofNat 0) ∧
      Cell.Kind.total window.addressedCount = 4 ∧
      window.rows.size * window.columns = 6 := by
  intro window
  have initial : Session.initial.window.Reachable := @Reachable.constructed none none _ rfl
  have reachable : window.Reachable := @Reachable.stepped placeThreeRows Session.initial initial
  obtain ⟨members, types, described, named, -, counts, total, -⟩ :=
    census_counts_addressed_cells reachable
  have counted (kind : Cell.Kind) {number : Nat} (same : window.addressedCount kind = number) :
      types.lookup kind.name = some (.ofNat number) := by
    rw [counts, same]
  refine ⟨members, types, described, named, counted .null ?_, counted .blob ?_,
    counted .float ?_, total.trans ?_, ?_⟩
  all_goals decide +kernel

end Window

end PagedRows
