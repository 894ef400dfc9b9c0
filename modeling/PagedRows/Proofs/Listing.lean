import PagedRows.Program
import PagedRows.Proofs.RaggedRows
import PagedRows.Proofs.ReadLines

/-!
# Pages and the listing of rows

Rows that are paged through a window come out as they would be listed without
one.  What is printed depends on the rows, on where printing begins and on how
many rows are asked for, and on nothing else.
-/

namespace PagedRows

/-- The lines of all rows from one position up to another. -/
def listing (rows : List (List Cell)) (start stop : Nat) : List String :=
  ((rows.zipIdx.take stop).drop start).map fun (cells, position) =>
    rowLine position cells

theorem length_le_utf8ByteSize (text : String) : text.toList.length ≤ text.utf8ByteSize := by
  have counted (characters : List Char) :
      characters.length ≤ (String.ofList characters).utf8ByteSize := by
    induction characters with
    | nil => exact Nat.zero_le _
    | cons character rest induction =>
        have first : String.ofList (character :: rest) =
            String.singleton character ++ String.ofList rest := by
          apply String.toList_injective
          simp
        have positive := character.utf8Size_pos
        rw [first, String.utf8ByteSize_append, String.utf8ByteSize_singleton,
          List.length_cons]
        omega
  have bytes := counted text.toList
  rwa [String.ofList_toList] at bytes

theorem RowLines.length_read_le {text : List Char} {rows : List (List Cell)}
    (accepted : RowLines.read text = .ok rows) : rows.length ≤ text.length + 1 := by
  rw [RowLines.read_eq_readLines] at accepted
  have lines := RowLines.length_readLines_le accepted
  have newlines := List.count_le_length (a := '\n') (l := text)
  rw [Text.length_lines] at lines
  omega

private theorem Paging.map_print_values {paging : Paging} {rows : List (List Cell)}
    (whole : paging.rows = rows.toArray) (start count : Nat)
    (within : start + count ≤ rows.length) :
    (paging.values start count).map Json.print = listing rows start (start + count) := by
  induction count with
  | zero => simp [Paging.values, listing]
  | succ count induction =>
      have inside : start + count < rows.length := within
      have held : paging.rows[start + count]? = some rows[start + count] := by
        simp [whole, inside]
      have shorter : start ≤ (rows.zipIdx.take (start + count)).length := by
        simp only [List.length_take, List.length_zipIdx]
        omega
      rw [Paging.values_succ held, List.map_append, induction (Nat.le_of_lt inside)]
      simp only [listing, ← Nat.add_assoc, List.take_add_one,
        List.drop_append_of_le_length shorter, List.map_append, List.getElem?_zipIdx,
        List.getElem?_eq_getElem inside]
      simp [print_rowValue]

private theorem listing_of_le {rows : List (List Cell)} {start stop : Nat} (passed : stop ≤ start) :
    listing rows start stop = [] := by
  rw [listing, List.drop_eq_nil_of_le, List.map_nil]
  rw [List.length_take]
  omega

theorem listing_whole (rows : List (List Cell)) :
    listing rows 0 rows.length =
      rows.zipIdx.map fun (cells, position) => rowLine position cells := by
  have all : rows.zipIdx.take rows.length = rows.zipIdx :=
    List.take_of_length_le (Nat.le_of_eq List.length_zipIdx)
  rw [listing, all, List.drop_zero]

namespace Program

theorem openWindow_of_nonneg {request : CommandLine.WindowRequest}
    (nonneg : 0 ≤ request.sizeBytes) :
    openWindow request = .ok (Window.empty request.name? request.sizeBytes.toNat) := by
  obtain ⟨size, given⟩ := Int.eq_ofNat_of_zero_le nonneg
  rw [openWindow, given]
  rfl

theorem page_of_opened {request : CommandLine.PageRequest} {contents : Contents}
    {found : List (List Cell)} {window : Window} (positive : 0 < request.pageSize)
    (held : rows (.ofInput request.input) contents = .ok found)
    (opened : openWindow request.window = .ok window) :
    page request contents =
      ofPaging ((pagingOf request found).run window request.start) := by
  rw [page, if_neg (Nat.pos_iff_ne_zero.mp positive), held, opened]
  rfl

theorem map_print_values_of_le {request : CommandLine.PageRequest}
    {found : List (List Cell)} {start stop : Nat} (within : stop ≤ found.length) :
    ((pagingOf request found).values start (stop - start)).map Json.print =
      listing found start stop := by
  by_cases before : start ≤ stop
  · obtain ⟨count, rfl⟩ := Nat.exists_eq_add_of_le before
    rw [Nat.add_sub_cancel_left]
    exact Paging.map_print_values rfl start count within
  · rw [Nat.sub_eq_zero_of_le (by omega), listing_of_le (by omega)]
    rfl

/-- The program prints the rows that are asked for, unless a row that it visits is
ragged: then it prints those before the page of the first of these. -/
theorem page_ends {request : CommandLine.PageRequest} {contents : Contents}
    {found : List (List Cell)} (positive : 0 < request.pageSize)
    (nonneg : 0 ≤ request.window.sizeBytes)
    (held : rows (.ofInput request.input) contents = .ok found)
    (bounded : found.length < 2 ^ 64) :
    let stop := min found.length (request.start.val + request.limit)
    let visits := Visits request.pageSize request.start.val stop
    (page request contents =
        { output := listing found request.start.val stop, ending := .success } ∧
      ∀ index, visits index → ¬ Ragged (columns found) found index) ∨
    ∃ row : Position, FirstRagged (columns found) found visits row.val ∧
      page request contents =
        { output := listing found request.start.val
            (request.pageSize * (row.val / request.pageSize))
          ending := .failure (raggedFault (columns found) found row) } := by
  intro stop visits
  have opened := openWindow_of_nonneg nonneg
  obtain ⟨last, ending, ended, outcome⟩ :=
    Paging.run_ends (pagingOf request found) bounded positive
      (rfl : (Window.empty request.window.name? request.window.sizeBytes.toNat).isDisposed =
        false) rfl request.start
  rw [page_of_opened positive held opened, ended]
  rcases outcome with ⟨rfl, emitted, even⟩ | ⟨row, first, rfl, emitted⟩
  · left
    refine ⟨?_, even⟩
    rw [ofPaging, emitted]
    exact congrArg (Outcome.mk · .success) (map_print_values_of_le (Nat.min_le_left _ _))
  · right
    refine ⟨row, first, ?_⟩
    have inside : row.val < found.length := first.ragged.lt_length
    have pageBegin := Nat.mul_div_le row.val request.pageSize
    have within : request.pageSize * (row.val / request.pageSize) ≤ found.length := by
      omega
    rw [ofPaging, emitted]
    exact congrArg (Outcome.mk · _) (map_print_values_of_le within)

theorem page_of_widths {request : CommandLine.PageRequest} {contents : Contents}
    {found : List (List Cell)} (positive : 0 < request.pageSize)
    (nonneg : 0 ≤ request.window.sizeBytes)
    (held : rows (.ofInput request.input) contents = .ok found)
    (bounded : found.length < 2 ^ 64)
    (widths : ∀ cells ∈ found, cells.length = columns found) :
    page request contents =
      { output := listing found request.start.val
          (min found.length (request.start.val + request.limit))
        ending := .success } := by
  rcases page_ends positive nonneg held bounded with ⟨done, -⟩ | ⟨row, first, -⟩
  · exact done
  · exact (forall_not_ragged_iff.mpr widths row.val first.ragged).elim

/-- Arguments that give settings for paging, with an input, with pages that have rows
and with a window that can be opened. -/
structure AsksForPages (arguments : List String) (settings : CommandLine.Settings)
    (input : String) : Prop where
  read : CommandLine.readSettings CommandLine.Subcommand.page.options
    CommandLine.Subcommand.page.takesInput false {} (arguments.map String.toList) =
      .ok (some settings)
  named : settings.input? = some input
  pageSize : settings.pageSize? ≠ some 0
  windowSize : 0 ≤ settings.windowSize?.getD (Window.defaultSizeBytes : Int)

/-- A source from which rows can be read.  Its text has less than `2 ^ 63` bytes, as any
text in memory has. -/
structure HoldsRows (source : Source) (contents : Contents)
    (found : List (List Cell)) : Prop where
  read : ∃ content, text source contents = .ok content ∧
    content.utf8ByteSize < 2 ^ 63 ∧ RowLines.read content.toList = .ok found

/-- A source from which rows can be read that all have the width of the first one. -/
structure HoldsEvenRows (source : Source) (contents : Contents)
    (found : List (List Cell)) : Prop extends HoldsRows source contents found where
  widths : ∀ cells ∈ found, cells.length = columns found

/-- The position before which printing stops. -/
def listingEnd (rowCount start : Nat) (count? : Option Position) : Nat :=
  match count? with
  | none => rowCount
  | some count => min rowCount (start + count.val)

theorem listingEnd_eq {rowCount : Nat} (bounded : rowCount < 2 ^ 64)
    (settings : CommandLine.Settings) (input : String) :
    min rowCount ((settings.pageRequest input).start.val +
      (settings.pageRequest input).limit) =
        listingEnd rowCount (settings.start?.getD CommandLine.defaultStart).val
          settings.count? := by
  cases counted : settings.count? with
  | none =>
      simp only [listingEnd, CommandLine.Settings.pageRequest, counted, Option.getD_none,
        Position.last]
      omega
  | some count =>
      simp only [listingEnd, CommandLine.Settings.pageRequest, counted, Option.getD_some]

/-- What a subcommand makes of its settings is what is requested. -/
theorem request_of_settings {subcommand : CommandLine.Subcommand} (own : subcommand ≠ .help)
    {arguments : List String} {settings : CommandLine.Settings}
    {asked : CommandLine.Request}
    (read : CommandLine.readSettings subcommand.options subcommand.takesInput false {}
      (arguments.map String.toList) = .ok (some settings))
    (accepted : CommandLine.request subcommand settings = .ok asked) :
    request (subcommand.name :: arguments) = .ok asked := by
  have settled : CommandLine.readSubcommand subcommand (arguments.map String.toList) =
      .ok asked := by
    rw [CommandLine.readSubcommand, read]
    · exact accepted
    · exact own
  have named : CommandLine.read ((subcommand.name :: arguments).map String.toList) =
      CommandLine.readSubcommand subcommand (arguments.map String.toList) := by
    cases subcommand <;> rfl
  rw [request, named, settled]
  rfl

namespace AsksForPages

variable {arguments : List String} {settings : CommandLine.Settings} {input : String}

theorem request (asked : AsksForPages arguments settings input) :
    Program.request ("page" :: arguments) = .ok (.page (settings.pageRequest input)) := by
  apply @request_of_settings .page nofun arguments settings _ asked.read
  simp only [CommandLine.request, asked.named, CommandLine.Settings.pageRequest]

theorem pageSize_pos (asked : AsksForPages arguments settings input) :
    0 < (settings.pageRequest input).pageSize := by
  have nonzero := asked.pageSize
  cases given : settings.pageSize? with
  | none => simp [CommandLine.Settings.pageRequest, given, CommandLine.defaultPageSize]
  | some size =>
      rw [given] at nonzero
      simp only [CommandLine.Settings.pageRequest, given, Option.map_some, Option.getD_some]
      refine Nat.pos_of_ne_zero ?_
      intro zero
      exact nonzero (congrArg some (Fin.ext zero))

theorem run (asked : AsksForPages arguments settings input)
    (contents : Source → Contents) :
    Program.run ("page" :: arguments) contents =
      page (settings.pageRequest input) (contents (.ofInput input)) := by
  have source : source? (.page (settings.pageRequest input)) = some (.ofInput input) := by
    rw [source?, if_neg (Nat.pos_iff_ne_zero.mp asked.pageSize_pos)]
    rfl
  simp only [Program.run, asked.request, source, Option.map_some, Option.getD_some, answer]

end AsksForPages

namespace HoldsRows

variable {source : Source} {contents : Contents} {found : List (List Cell)}

theorem rows (holds : HoldsRows source contents found) :
    Program.rows source contents = .ok found := by
  obtain ⟨content, read, -, accepted⟩ := holds.read
  rw [Program.rows, read]
  exact accepted

theorem length_lt (holds : HoldsRows source contents found) :
    found.length < 2 ^ 64 := by
  obtain ⟨content, -, sized, accepted⟩ := holds.read
  have rows := RowLines.length_read_le accepted
  have bytes := length_le_utf8ByteSize content
  omega

end HoldsRows

/-- The program pages through rows as if it listed them: whatever the page size, the
name of the window and its size, it prints the rows from the start up to the end of
what is asked for, and succeeds. -/
theorem run_page_prints_listing {arguments : List String}
    {settings : CommandLine.Settings} {input : String} {contents : Source → Contents}
    {found : List (List Cell)} (asked : AsksForPages arguments settings input)
    (holds : HoldsEvenRows (.ofInput input) (contents (.ofInput input)) found) :
    let start := (settings.start?.getD CommandLine.defaultStart).val
    let outcome := run ("page" :: arguments) contents
    outcome.output = listing found start (listingEnd found.length start settings.count?) ∧
      outcome.ending = .success ∧
      outcome.ending.status = 0 ∧
      ∀ (others : List String) (other : CommandLine.Settings),
        AsksForPages others other input →
        other.start? = settings.start? →
        other.count? = settings.count? →
        run ("page" :: others) contents = outcome := by
  have printed : ∀ (others : List String) (other : CommandLine.Settings),
      AsksForPages others other input →
      run ("page" :: others) contents =
        { output := listing found (other.start?.getD CommandLine.defaultStart).val
            (listingEnd found.length (other.start?.getD CommandLine.defaultStart).val
              other.count?)
          ending := .success } := by
    intro others other otherAsked
    have nonneg : 0 ≤ (other.pageRequest input).window.sizeBytes := otherAsked.windowSize
    rw [otherAsked.run, page_of_widths otherAsked.pageSize_pos nonneg holds.rows
      holds.length_lt holds.widths, listingEnd_eq holds.length_lt]
    rfl
  intro start outcome
  have mine : outcome = _ := printed arguments settings asked
  refine ⟨?_, ?_, ?_, ?_⟩
  · rw [mine]
  · rw [mine]
  · rw [mine]
    rfl
  · intro others other otherAsked sameStart sameCount
    rw [mine, printed others other otherAsked, sameStart, sameCount]

/-- Three rows between an empty line and a line of blanks. -/
def threeRows (_source : Source) : Contents :=
  .ok "[1,\"a\"]\n\n[null,\x7b\"blob\":[7]\x7d]\r\n[-3,\"\"]\n  ".toUTF8

theorem run_page_prints_listing_of_two_pages :
    (run ["page", "-", "--page-size", "2", "--start", "1"] threeRows).output =
        ["\x7b\"cells\":[null,\x7b\"blob\":[7]\x7d],\"pos\":1\x7d",
          "\x7b\"cells\":[-3,\"\"],\"pos\":2\x7d"] ∧
      run ["page", "--start=1", "--page-size", "18446744073709551615", "--name", "all",
          "--window-size", "0", "-"] threeRows =
        run ["page", "-", "--page-size", "2", "--start", "1"] threeRows := by
  have asked : AsksForPages ["-", "--page-size", "2", "--start", "1"]
      { input? := some "-", pageSize? := some 2, start? := some 1 } "-" :=
    ⟨by rfl, rfl, by decide, by decide⟩
  have askedOtherwise : AsksForPages ["--start=1", "--page-size", "18446744073709551615",
        "--name", "all", "--window-size", "0", "-"]
      { input? := some "-", name? := some "all", windowSize? := some 0,
        pageSize? := some Position.last, start? := some 1 } "-" :=
    ⟨by rfl, rfl, by decide, by decide⟩
  have holds : HoldsEvenRows (.ofInput "-") (threeRows (.ofInput "-"))
      [[.integer 1, .string "a"], [.null, .blob [7]], [.integer (-3), .string ""]] :=
    ⟨⟨_, by rfl, by decide, by rfl⟩, by decide⟩
  obtain ⟨printed, -, -, same⟩ := run_page_prints_listing asked holds
  refine ⟨printed.trans ?_, same _ _ askedOtherwise rfl rfl⟩
  decide

end Program

end PagedRows
