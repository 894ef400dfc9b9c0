import PagedRows.Proofs.CellCount
import PagedRows.Proofs.Description
import PagedRows.Proofs.RoundTrip

/-!
# Descriptions and pages agree

A description loads all rows at once, and pages are loaded one after another.  Both find
the same ragged row first, and where there is none the numbers in the description are
those of the lines and cells that are printed.
-/

namespace PagedRows

namespace Json

private theorem readable_ofNat {depth value : Nat} (bounded : value < 2 ^ 64) :
    Readable depth (.ofNat value) :=
  .integer (by omega) (by omega)

/-- The kind of the cell that a value stands for. -/
def cellKind? : Json → Option Cell.Kind
  | null => some .null
  | integer _ => some .integer
  | float _ _ => some .float
  | string _ => some .string
  | object [(key, array _)] => if key = Cell.blobKey then some .blob else none
  | _ => none

end Json

private theorem Cell.cellKind?_toJson {cell : Cell} (finite : cell.Finite) :
    cell.toJson.cellKind? = some cell.kind := by
  cases cell with
  | null => rfl
  | integer value => rfl
  | float value =>
      have written : toJson (.float value) = .float value finite := dif_pos finite
      rw [written]
      rfl
  | string text => rfl
  | blob bytes => simp [toJson, Json.cellKind?, kind]

namespace Window

/-- A summary whose numbers fit 64 bits is read from its text. -/
theorem read_summary {window : Window} (sized : window.sizeBytes < 2 ^ 64)
    (counted : window.rows.size < 2 ^ 64) (wide : window.columns < 2 ^ 64)
    (cells : window.addressable.flatten.length < 2 ^ 64) :
    Json.read (Json.ofMembers window.summary).text = .ok (.ofMembers window.summary) := by
  have types : Json.Readable 126 (.ofMembers window.types) := by
    apply Json.readable_ofMembers
    intro member among
    obtain ⟨kind, -, rfl⟩ := List.mem_map.mp among
    exact Json.readable_ofNat (Nat.lt_of_le_of_lt (window.population_le kind) cells)
  have flags : window.contentFlags < 2 ^ 64 := (by decide : 0 < 2 ^ 64)
  apply Json.read_text_of_readable
  apply Json.readable_ofMembers
  simp only [summary, List.forall_mem_cons]
  exact ⟨.string, Json.readable_ofNat sized, Json.readable_ofNat window.start.isLt,
    Json.readable_ofNat counted, Json.readable_ofNat wide, Json.readable_ofNat flags,
    types, List.forall_mem_nil _⟩

end Window

namespace Program

/-- The value under a key of the object in a printed line. -/
def printedMember? (line key : String) : Option Json :=
  match Json.read line.toList with
  | .ok (.object members) => members.lookup key
  | _ => none

/-- The cells in a printed line. -/
def printedCells? (line : String) : Option (List Json) :=
  match printedMember? line "cells" with
  | some (.array cells) => some cells
  | _ => none

private theorem printedCells?_rowLine {position : Nat} (bounded : position < 2 ^ 64)
    (cells : List Cell) :
    printedCells? (rowLine position cells) = some (cells.map Cell.toJson) := by
  have member : printedMember? (rowLine position cells) "cells" =
      some (.array (cells.map Cell.toJson)) := by
    rw [printedMember?, toList_rowLine, read_rowValue bounded]
    rfl
  rw [printedCells?, member]

private theorem map_printedCells?_listing {rows : List (List Cell)}
    (bounded : rows.length < 2 ^ 64) :
    (listing rows 0 rows.length).map printedCells? =
      (rows.map fun cells => cells.map Cell.toJson).map some := by
  calc (listing rows 0 rows.length).map printedCells?
    _ = rows.zipIdx.map fun entry => some (entry.1.map Cell.toJson) := by
        rw [listing_whole, List.map_map]
        apply List.map_congr_left
        rintro ⟨cells, position⟩ member
        rw [Function.comp_apply]
        exact printedCells?_rowLine (lt_of_mem_zipIdx bounded member) cells
    _ = (rows.zipIdx.map Prod.fst).map fun cells => some (cells.map Cell.toJson) := by
        rw [List.map_map]
        rfl
    _ = (rows.map fun cells => cells.map Cell.toJson).map some := by
        rw [List.zipIdx_map_fst, List.map_map]
        rfl

/-- A line describes printed rows, of which every one has so many cells: it says how
many rows there are, how many cells every one has, and how many of all these cells are
of each kind. -/
structure Describes (line : String) (output : List String) (printed : List (List Json))
    (width : Nat) : Prop where
  cells : output.map printedCells? = printed.map some
  rowCount : printedMember? line "num_rows" = some (.ofNat output.length)
  widths : ∀ cells ∈ printed, cells.length = width
  noRows : printed = [] → width = 0
  columnCount : printedMember? line "num_columns" = some (.ofNat width)
  types : ∃ types, printedMember? line "types" = some (.object types) ∧
    ∀ key count, types.lookup key = some count ↔
      ∃ kind : Cell.Kind, key = kind.name ∧
        count = .ofNat ((printed.flatten.map Json.cellKind?).count (some kind))

theorem count_cellKind? {rows : List (List Cell)}
    (finite : ∀ cells ∈ rows, ∀ cell ∈ cells, cell.Finite) (kind : Cell.Kind) :
    ((rows.map fun cells => cells.map Cell.toJson).flatten.map Json.cellKind?).count
        (some kind) =
      (rows.flatten.map Cell.kind).count kind := by
  have kinds : (rows.map fun cells => cells.map Cell.toJson).flatten.map Json.cellKind? =
      (rows.flatten.map Cell.kind).map some := by
    rw [← List.map_flatten, List.map_map, List.map_map]
    apply List.map_congr_left
    intro cell member
    obtain ⟨cells, among, inside⟩ := List.mem_flatten.mp member
    exact Cell.cellKind?_toJson (finite cells among cell inside)
  have same : (fun other => other == some kind) ∘ some = fun other => other == kind := by
    funext other
    exact Option.some_beq_some
  rw [kinds, List.count_eq_countP, List.countP_map, same, ← List.count_eq_countP]

theorem visits_whole {pageSize rowCount index : Nat} (inside : index < rowCount) :
    Visits pageSize 0 rowCount index := by
  refine ⟨by omega, ?_, Nat.div_le_div_right (by omega)⟩
  rw [Nat.zero_div]
  exact Nat.zero_le _

/-- From the first row on and without an end, all rows are printed, or the first ragged
row is the fault. -/
theorem AsksForPages.ends_of_whole {arguments : List String}
    {settings : CommandLine.Settings} {input : String} {contents : Source → Contents}
    {found : List (List Cell)} (asked : AsksForPages arguments settings input)
    (fromFirst : (settings.start?.getD CommandLine.defaultStart).val = 0)
    (uncounted : settings.count? = none)
    (holds : HoldsRows (.ofInput input) (contents (.ofInput input)) found) :
    (Program.run ("page" :: arguments) contents =
        { output := listing found 0 found.length, ending := .success } ∧
      ∀ index, ¬ Ragged (columns found) found index) ∨
    ∃ row : Position, FirstRagged (columns found) found (fun _ => True) row.val ∧
      (Program.run ("page" :: arguments) contents).ending =
        .failure (raggedFault (columns found) found row) := by
  have ends := page_ends asked.pageSize_pos asked.windowSize holds.rows holds.length_lt
  have start : (settings.pageRequest input).start.val = 0 := fromFirst
  have stop : min found.length ((settings.pageRequest input).start.val +
      (settings.pageRequest input).limit) = found.length := by
    rw [listingEnd_eq holds.length_lt, uncounted]
    rfl
  rw [start] at stop
  simp only [start, stop] at ends
  rw [asked.run]
  rcases ends with ⟨done, even⟩ | ⟨row, first, failed⟩
  · refine .inl ⟨done, ?_⟩
    intro index ragged
    exact even index (visits_whole ragged.lt_length) ragged
  · refine .inr ⟨row, ⟨first.ragged, trivial, ?_⟩, by rw [failed]⟩
    intro earlier sooner _ ragged
    exact first.least earlier sooner (visits_whole ragged.lt_length) ragged

private theorem columns_le (found : List (List Cell)) : columns found ≤ found.flatten.length := by
  cases found with
  | nil => exact Nat.zero_le _
  | cons first rest =>
      rw [List.flatten_cons, List.length_append]
      exact Nat.le_add_right _ _

private theorem HoldsRows.cells_lt {source : Source} {contents : Contents}
    {found : List (List Cell)} (holds : HoldsRows source contents found) :
    found.flatten.length < 2 ^ 64 := by
  obtain ⟨content, -, sized, accepted⟩ := holds.read
  have cells := RowLines.length_flatten_read_le accepted
  have bytes := length_le_utf8ByteSize content
  omega

private theorem HoldsRows.finite {source : Source} {contents : Contents}
    {found : List (List Cell)} (holds : HoldsRows source contents found) :
    ∀ cells ∈ found, ∀ cell ∈ cells, cell.Finite := by
  obtain ⟨content, -, -, accepted⟩ := holds.read
  exact RowLines.finite_of_read accepted

theorem AsksForInfo.read_description {arguments : List String}
    {settings : CommandLine.Settings} {input : String} {contents : Contents}
    {found : List (List Cell)} (asked : AsksForInfo arguments settings input)
    (holds : HoldsRows (.ofInput input) contents found) :
    Json.read (Json.ofMembers (description settings.windowRequest found)).text =
      .ok (.ofMembers (description settings.windowRequest found)) := by
  have cells := holds.cells_lt
  apply Window.read_summary
  · have size := asked.sizeBytes_lt
    change settings.windowRequest.sizeBytes.toNat < 2 ^ 64
    omega
  · change (found.map List.toArray).toArray.size < 2 ^ 64
    rw [List.size_toArray, List.length_map]
    exact holds.length_lt
  · exact Nat.lt_of_le_of_lt (columns_le found) cells
  · rw [Window.addressable_filled _ _ holds.length_lt]
    exact cells

/-- What is said of rows of one width is true of the lines in which they are listed. -/
theorem AsksForInfo.describes {arguments : List String} {settings : CommandLine.Settings}
    {input : String} {contents : Contents} {found : List (List Cell)}
    (asked : AsksForInfo arguments settings input)
    (holds : HoldsRows (.ofInput input) contents found)
    (even : ∀ index, ¬ Ragged (columns found) found index) :
    Describes (Json.ofMembers (description settings.windowRequest found)).print
      (listing found 0 found.length) (found.map fun cells => cells.map Cell.toJson)
      (columns found) := by
  have told (key : String) :
      printedMember? (Json.ofMembers (description settings.windowRequest found)).print key =
        (Json.sortedMembers (description settings.windowRequest found)).lookup key := by
    rw [printedMember?, Json.print, String.toList_ofList, asked.read_description holds]
    rfl
  obtain ⟨rowCount, columnCount, types⟩ := Window.lookup_summary
    ((Window.empty settings.windowRequest.name?
      settings.windowRequest.sizeBytes.toNat).filled 0 (columns found) found)
  constructor
  case cells => exact map_printedCells?_listing holds.length_lt
  case rowCount =>
    have lines : (listing found 0 found.length).length = found.length := by
      rw [listing_whole, List.length_map, List.length_zipIdx]
    rw [told, lines]
    refine rowCount.trans ?_
    rw [Window.filled, List.size_toArray, List.length_map]
  case columnCount =>
    rw [told]
    exact columnCount
  case widths =>
    intro printed member
    obtain ⟨cells, among, rfl⟩ := List.mem_map.mp member
    rw [List.length_map]
    exact forall_not_ragged_iff.mp even cells among
  case noRows =>
    intro none
    rw [List.map_eq_nil_iff.mp none]
    rfl
  case types =>
    refine ⟨_, (told _).trans types, ?_⟩
    intro key count
    refine Window.lookup_types.trans ?_
    simp only [Window.population, Window.addressable_filled _ _ holds.length_lt,
      count_cellKind? holds.finite]

/-- A description and the pages of all rows agree, whatever the page size, the names of
the windows and their sizes.  Both fail at the first ragged row with one fault, or both
succeed.  Then the description tells the number of lines that are printed, the number of
cells in each of them, and the numbers of printed cells of every kind. -/
theorem run_info_agrees_with_run_page {arguments others : List String}
    {settings other : CommandLine.Settings} {input : String} {contents : Source → Contents}
    {found : List (List Cell)} (asked : AsksForInfo arguments settings input)
    (askedForPages : AsksForPages others other input)
    (fromFirst : (other.start?.getD CommandLine.defaultStart).val = 0)
    (uncounted : other.count? = none)
    (holds : HoldsRows (.ofInput input) (contents (.ofInput input)) found) :
    let described := run ("info" :: arguments) contents
    let listed := run ("page" :: others) contents
    described.ending = listed.ending ∧
    ((∃ index, Ragged (columns found) found index) →
      ∃ first fault, FirstRagged (columns found) found (fun _ => True) first ∧
        described.ending = .failure fault ∧ described.ending.status = 7 ∧
        fault.kind = .preconditionViolation ∧ fault.row? = some first) ∧
    ((∀ index, ¬ Ragged (columns found) found index) →
      described.ending = .success ∧
      ∃ line printed width, described.output = [line] ∧
        Describes line listed.output printed width) := by
  intro described listed
  have nonneg : 0 ≤ settings.windowRequest.sizeBytes := asked.windowSize
  have same : described = info input settings.windowRequest (contents (.ofInput input)) :=
    asked.run contents
  have ends := askedForPages.ends_of_whole fromFirst uncounted holds
  change (listed = _ ∧ _) ∨ ∃ row, _ ∧ listed.ending = _ at ends
  rcases info_ends nonneg holds.rows holds.length_lt with ⟨said, even⟩ | ⟨row, first, failed⟩
  · rcases ends with ⟨all, -⟩ | ⟨row, first, -⟩
    · rw [same, said, all]
      refine ⟨rfl, ?_, fun _ => ⟨rfl, ?_⟩⟩
      · rintro ⟨index, ragged⟩
        exact (even index ragged).elim
      · exact ⟨_, _, _, rfl, asked.describes holds even⟩
    · exact (even row.val first.ragged).elim
  · rcases ends with ⟨-, even⟩ | ⟨other, theirs, failedToo⟩
    · exact (even row.val first.ragged).elim
    · have agree : row = other :=
        Fin.ext (first.eq_of_same theirs fun _ _ => Iff.rfl)
      subst agree
      rw [same, failed, failedToo]
      refine ⟨rfl, fun _ => ⟨row.val, _, first, rfl, rfl, rfl, rfl⟩, ?_⟩
      intro even
      exact (even row.val first.ragged).elim

/-- Two rows of which the second is too short. -/
def shortSecond (_source : Source) : Contents :=
  .ok "[1,2]\n[null]\n".toUTF8

theorem run_info_agrees_with_run_page_of_threeRows :
    (∃ line printed width, (run ["info", "-", "--name", "all"] threeRows).output = [line] ∧
        Describes line (run ["page", "--page-size=2", "-"] threeRows).output printed width) ∧
      (run ["info", "-", "--name", "all"] shortSecond).ending =
        (run ["page", "--page-size=2", "-"] shortSecond).ending ∧
      ∃ fault, (run ["info", "-", "--name", "all"] shortSecond).ending = .failure fault ∧
        fault.row? = some 1 := by
  have asked : AsksForInfo ["-", "--name", "all"]
      { input? := some "-", name? := some "all" } "-" :=
    ⟨by rfl, rfl, by decide⟩
  have askedForPages : AsksForPages ["--page-size=2", "-"]
      { input? := some "-", pageSize? := some 2 } "-" :=
    ⟨by rfl, rfl, by decide, by decide⟩
  have holds : HoldsRows (.ofInput "-") (threeRows (.ofInput "-"))
      [[.integer 1, .string "a"], [.null, .blob [7]], [.integer (-3), .string ""]] :=
    ⟨_, by rfl, by decide, by rfl⟩
  have holdsShort : HoldsRows (.ofInput "-") (shortSecond (.ofInput "-"))
      [[.integer 1, .integer 2], [.null]] :=
    ⟨_, by rfl, by decide, by rfl⟩
  obtain ⟨-, -, describes⟩ := run_info_agrees_with_run_page asked askedForPages rfl rfl holds
  obtain ⟨same, fails, -⟩ :=
    run_info_agrees_with_run_page asked askedForPages rfl rfl holdsShort
  have second : FirstRagged 2 [[.integer 1, .integer 2], [.null]] (fun _ => True) 1 := by
    refine ⟨⟨_, rfl, by decide⟩, trivial, ?_⟩
    rintro earlier sooner - ⟨cells, held, other⟩
    match earlier with
    | 0 => cases held; exact other rfl
    | earlier + 1 => omega
  obtain ⟨first, fault, ragged, failed, -, -, row⟩ := fails ⟨1, second.ragged⟩
  cases ragged.eq_of_same second fun _ _ => Iff.rfl
  have even := describes (forall_not_ragged_iff.mpr (by decide))
  exact ⟨even.2, same, fault, failed, row⟩

end Program

end PagedRows
