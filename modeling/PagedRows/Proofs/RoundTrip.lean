import PagedRows.Proofs.CellText
import PagedRows.Proofs.Listing

/-!
# Printed rows are read back

The cells of the rows that are printed, taken from their lines and written on lines of
their own, are the rows that were read; so printing loses nothing, and printing once more
changes nothing.
-/

namespace PagedRows

theorem readable_rowValue {position : Nat} (bounded : position < 2 ^ 64)
    (cells : List Cell) (depth : Nat) :
    Json.Readable (depth + 4) (rowValue position cells) := by
  apply Json.Readable.object
  · simp only [List.pairwise_cons, List.mem_singleton, forall_eq]
    exact ⟨by decide, nofun, .nil⟩
  · intro member among
    rcases List.mem_cons.mp among with rfl | among
    · exact Cell.readable_rowArray cells depth
    · rw [List.mem_singleton.mp among]
      exact .integer (by omega) (by omega)

theorem read_rowValue {position : Nat} (bounded : position < 2 ^ 64) (cells : List Cell) :
    Json.read (rowValue position cells).text = .ok (rowValue position cells) :=
  Json.read_text_of_readable (readable_rowValue bounded cells 123)

theorem toList_rowLine (position : Nat) (cells : List Cell) :
    (rowLine position cells).toList = (rowValue position cells).text := by
  rw [← print_rowValue, Json.print, String.toList_ofList]

/-- The printed form of all rows, line by line. -/
def printedRows (rows : List (List Cell)) : List (List Char) :=
  rows.zipIdx.map fun (cells, position) => (rowValue position cells).text

/-- The cells of all rows, each row as an array in a text of its own. -/
def rowArrays (rows : List (List Cell)) : List (List Char) :=
  rows.map fun cells => (Cell.rowArray cells).text

private theorem map_toList_listing (rows : List (List Cell)) :
    (listing rows 0 rows.length).map String.toList = printedRows rows := by
  rw [listing_whole, List.map_map, printedRows]
  apply List.map_congr_left
  intro entry _
  exact toList_rowLine entry.2 entry.1

theorem lt_of_mem_zipIdx {rows : List (List Cell)} (bounded : rows.length < 2 ^ 64)
    {entry : List Cell × Nat} (member : entry ∈ rows.zipIdx) : entry.2 < 2 ^ 64 := by
  have below := List.snd_lt_of_mem_zipIdx member
  omega

private theorem lines_printedRows {rows : List (List Cell)} (bounded : rows.length < 2 ^ 64) :
    Text.lines (Text.unlines (printedRows rows)) = printedRows rows ++ [[]] := by
  apply Text.lines_unlines
  intro line member
  obtain ⟨entry, among, rfl⟩ := List.mem_map.mp member
  have readable := readable_rowValue (lt_of_mem_zipIdx bounded among) entry.1 0
  exact Json.newline_not_mem_of_plain readable.plain_text

private theorem map_read_printedRows {rows : List (List Cell)} (bounded : rows.length < 2 ^ 64) :
    (printedRows rows).map Json.read =
      rows.zipIdx.map fun (cells, position) => .ok (rowValue position cells) := by
  rw [printedRows, List.map_map]
  apply List.map_congr_left
  intro entry member
  exact read_rowValue (lt_of_mem_zipIdx bounded member) entry.1

namespace Program

/-- Everything that is printed: every line has a newline at its end. -/
def Outcome.text (outcome : Outcome) : List Char :=
  Text.unlines (outcome.output.map String.toList)

/-- The cells in a printed line, as a text of their own. -/
def cellsText? (line : List Char) : Option (List Char) :=
  match Json.read line with
  | .ok (.object members) => (members.lookup "cells").map Json.text
  | _ => none

private theorem map_cellsText?_printedRows {rows : List (List Cell)}
    (bounded : rows.length < 2 ^ 64) :
    (printedRows rows).map cellsText? = (rowArrays rows).map some := by
  have each : ∀ entry ∈ rows.zipIdx, cellsText? (rowValue entry.2 entry.1).text =
      some (Cell.rowArray entry.1).text := by
    intro entry member
    rw [cellsText?, read_rowValue (lt_of_mem_zipIdx bounded member)]
    rfl
  calc (printedRows rows).map cellsText?
    _ = rows.zipIdx.map fun entry => some (Cell.rowArray entry.1).text := by
        rw [printedRows, List.map_map]
        exact List.map_congr_left each
    _ = (rows.zipIdx.map Prod.fst).map fun cells => some (Cell.rowArray cells).text := by
        rw [List.map_map]
        rfl
    _ = (rowArrays rows).map some := by
        rw [List.zipIdx_map_fst, rowArrays, List.map_map]
        rfl

theorem text_toUTF8 (source : Source) (content : String) :
    text source (.ok content.toUTF8) = .ok content := by
  have decoded : String.fromUTF8? content.toUTF8 = some content := dif_pos content.isValidUTF8
  rw [text, decoded]

/-- From the first row on and without an end, all rows are printed. -/
theorem AsksForPages.run_of_whole {arguments : List String}
    {settings : CommandLine.Settings} {input : String} {contents : Source → Contents}
    {found : List (List Cell)} (asked : AsksForPages arguments settings input)
    (fromFirst : (settings.start?.getD CommandLine.defaultStart).val = 0)
    (uncounted : settings.count? = none)
    (held : rows (.ofInput input) (contents (.ofInput input)) = .ok found)
    (bounded : found.length < 2 ^ 64)
    (widths : ∀ cells ∈ found, cells.length = columns found) :
    Program.run ("page" :: arguments) contents =
      { output := listing found 0 found.length, ending := .success } := by
  have start : (settings.pageRequest input).start.val = 0 := fromFirst
  rw [asked.run, page_of_widths asked.pageSize_pos asked.windowSize held bounded widths,
    listingEnd_eq bounded, uncounted, start]
  rfl

/-- Printing rows and reading them again loses nothing.  Every row is printed as one object
on a line of its own; the cells taken from the lines, each array on its own line, are read
as the very rows that were printed; and from them the same is printed again. -/
theorem run_page_round_trip {arguments : List String} {settings : CommandLine.Settings}
    {input : String} {contents : Source → Contents} {found : List (List Cell)}
    (asked : AsksForPages arguments settings input)
    (fromFirst : (settings.start?.getD CommandLine.defaultStart).val = 0)
    (uncounted : settings.count? = none)
    (holds : HoldsEvenRows (.ofInput input) (contents (.ofInput input)) found) :
    let outcome := run ("page" :: arguments) contents
    outcome.ending = .success ∧
    ∃ printed arrays : List (List Char),
      Text.lines outcome.text = printed ++ [[]] ∧
      printed.map Json.read =
        found.zipIdx.map (fun (cells, position) => .ok (rowValue position cells)) ∧
      printed.map cellsText? = arrays.map some ∧
      RowLines.read (Text.unlines arrays) = .ok found ∧
      ∀ (others : List String) (other : CommandLine.Settings) (again : String)
        (rewritten : Source → Contents),
        AsksForPages others other again →
        (other.start?.getD CommandLine.defaultStart).val = 0 →
        other.count? = none →
        rewritten (.ofInput again) = .ok (String.ofList (Text.unlines arrays)).toUTF8 →
        run ("page" :: others) rewritten = outcome := by
  intro outcome
  have mine : outcome = { output := listing found 0 found.length, ending := .success } :=
    asked.run_of_whole fromFirst uncounted holds.rows holds.length_lt holds.widths
  have printed : outcome.text = Text.unlines (printedRows found) := by
    rw [mine, Outcome.text, map_toList_listing]
  have accepted : RowLines.read (Text.unlines (rowArrays found)) = .ok found := by
    obtain ⟨content, -, -, read⟩ := holds.read
    exact RowLines.read_unlines (RowLines.finite_of_read read)
  refine ⟨by rw [mine], printedRows found, rowArrays found, ?_, ?_, ?_, accepted, ?_⟩
  · rw [printed]
    exact lines_printedRows holds.length_lt
  · exact map_read_printedRows holds.length_lt
  · exact map_cellsText?_printedRows holds.length_lt
  · intro others other again rewritten otherAsked otherFirst otherUncounted written
    have held : rows (.ofInput again) (rewritten (.ofInput again)) = .ok found := by
      rw [rows, written, text_toUTF8]
      change RowLines.read (String.ofList _).toList = _
      rw [String.toList_ofList, accepted]
    rw [mine]
    exact otherAsked.run_of_whole otherFirst otherUncounted held holds.length_lt holds.widths

/-- Rows with a negative zero, with an integer beyond 64 bits with sign, and with texts that
hold a newline and a quotation mark or look like a blob. -/
def oddContent : String :=
  "[-0,18446744073709551615,\"a\\nb\\\"\u0085\u2028\"]\n" ++
    " [1e2,\x7b\"blob\":[0,255]\x7d,\"\x7b\\\"blob\\\":[7]\x7d\"]\r\n"

def oddRows (_source : Source) : Contents :=
  .ok oddContent.toUTF8

def oddCells : List (List Cell) :=
  [[.float ⟨true, 0, by decide⟩, .float ⟨false, 0x43F0000000000000, by decide⟩,
      .string "a\nb\"\u0085\u2028"],
    [.float ⟨false, 0x4059000000000000, by decide⟩, .blob [0, 255],
      .string "\x7b\"blob\":[7]\x7d"]]

theorem run_page_round_trip_of_oddRows :
    ∃ arrays : List (List Char),
      RowLines.read (Text.unlines arrays) = .ok oddCells ∧
      run ["page", "-"] (fun _ => .ok (String.ofList (Text.unlines arrays)).toUTF8) =
        run ["page", "-", "--page-size", "1"] oddRows := by
  have asked : AsksForPages ["-", "--page-size", "1"]
      { input? := some "-", pageSize? := some 1 } "-" :=
    ⟨by rfl, rfl, by decide, by decide⟩
  have askedAgain : AsksForPages ["-"] { input? := some "-" } "-" :=
    ⟨by rfl, rfl, by decide, by decide⟩
  have evaluated : (RowLines.read oddContent.toList).toOption = some oddCells := by
    decide +kernel
  have accepted : RowLines.read oddContent.toList = .ok oddCells := by
    cases read : RowLines.read oddContent.toList with
    | error fault =>
        rw [read] at evaluated
        cases evaluated
    | ok rows =>
        rw [read] at evaluated
        exact congrArg Except.ok (Option.some.inj evaluated)
  have holds : HoldsEvenRows (.ofInput "-") (oddRows (.ofInput "-")) oddCells :=
    ⟨⟨oddContent, text_toUTF8 _ _, by decide, accepted⟩, by decide⟩
  obtain ⟨-, printed, arrays, -, -, -, read, same⟩ :=
    run_page_round_trip asked rfl rfl holds
  exact ⟨arrays, read, same _ _ _ _ askedAgain rfl rfl rfl⟩

end Program

end PagedRows
