import PagedRows.Proofs.Listing

/-!
# What is printed before a ragged row

Rows are printed page by page, and a page is loaded whole before any row of it is
printed.  So a ragged row keeps all rows of its page from being printed, and only those;
what is asked for decides which pages are loaded, and so which ragged rows matter.
-/

namespace PagedRows.Program

/-- Paging through rows of which some are ragged, whatever the page size, the name of
the window and its size.  If the pages from that of the first row asked for up to that
of the last one have a ragged row, the run fails at the first such row and has printed
the rows before its page.  Otherwise all rows that are asked for are printed. -/
theorem run_page_stops_before_ragged_page {arguments : List String}
    {settings : CommandLine.Settings} {input : String} {contents : Source → Contents}
    {found : List (List Cell)} (asked : AsksForPages arguments settings input)
    (holds : HoldsRows (.ofInput input) (contents (.ofInput input)) found) :
    let pageSize := (settings.pageRequest input).pageSize
    let start := (settings.start?.getD CommandLine.defaultStart).val
    let stop := listingEnd found.length start settings.count?
    let outcome := run ("page" :: arguments) contents
    ((∃ index, Visits pageSize start stop index ∧ Ragged (columns found) found index) →
      ∃ first, FirstRagged (columns found) found (Visits pageSize start stop) first ∧
        outcome.output = listing found start (pageSize * (first / pageSize)) ∧
        outcome.ending.status = 7 ∧
        ∃ fault, outcome.ending = .failure fault ∧
          fault.kind = .preconditionViolation ∧
          fault.row? = some first ∧ fault.column? = none) ∧
    ((∀ index, Visits pageSize start stop index → ¬ Ragged (columns found) found index) →
      outcome.output = listing found start stop ∧
        outcome.ending = .success ∧ outcome.ending.status = 0) := by
  intro pageSize start stop outcome
  have ended : stop = min found.length
      ((settings.pageRequest input).start.val + (settings.pageRequest input).limit) :=
    (listingEnd_eq holds.length_lt settings input).symm
  have same : outcome = page (settings.pageRequest input) (contents (.ofInput input)) :=
    asked.run contents
  have nonneg : 0 ≤ (settings.pageRequest input).window.sizeBytes := asked.windowSize
  have ends := page_ends asked.pageSize_pos nonneg holds.rows holds.length_lt
  simp only [← ended] at ends
  rw [same]
  rcases ends with ⟨done, even⟩ | ⟨row, first, failed⟩
  · rw [done]
    refine ⟨?_, fun _ => ⟨rfl, rfl, rfl⟩⟩
    rintro ⟨index, visited, ragged⟩
    exact (even index visited ragged).elim
  · rw [failed]
    refine ⟨fun _ => ⟨row.val, first, rfl, rfl, _, rfl, rfl, rfl, rfl⟩, ?_⟩
    intro even
    exact (even row.val first.visited first.ragged).elim

/-- Five rows of which the fourth is too short. -/
def shortFourth (_source : Source) : Contents :=
  .ok "[1,2]\n[3,4]\n[5,6]\n[7]\n[8,9]\n".toUTF8

def shortFourthCells : List (List Cell) :=
  [[.integer 1, .integer 2], [.integer 3, .integer 4], [.integer 5, .integer 6],
    [.integer 7], [.integer 8, .integer 9]]

theorem run_page_stops_before_ragged_page_of_shortFourth :
    (run ["page", "-", "--page-size", "2", "--start", "1"] shortFourth).output =
        ["\x7b\"cells\":[3,4],\"pos\":1\x7d"] ∧
      (run ["page", "-", "--page-size", "2", "--start", "1"] shortFourth).ending.status = 7 ∧
      (run ["page", "-", "--page-size", "2", "--start", "1", "--count", "1"]
          shortFourth).output = ["\x7b\"cells\":[3,4],\"pos\":1\x7d"] ∧
      (run ["page", "-", "--page-size", "2", "--start", "1", "--count", "1"]
          shortFourth).ending = .success := by
  have asked : AsksForPages ["-", "--page-size", "2", "--start", "1"]
      { input? := some "-", pageSize? := some 2, start? := some 1 } "-" :=
    ⟨by rfl, rfl, by decide, by decide⟩
  have askedForOne : AsksForPages ["-", "--page-size", "2", "--start", "1", "--count", "1"]
      { input? := some "-", pageSize? := some 2, start? := some 1, count? := some 1 } "-" :=
    ⟨by rfl, rfl, by decide, by decide⟩
  have holds : HoldsRows (.ofInput "-") (shortFourth (.ofInput "-"))
      shortFourthCells :=
    ⟨_, by rfl, by decide, by rfl⟩
  obtain ⟨stops, -⟩ := run_page_stops_before_ragged_page asked holds
  obtain ⟨-, prints⟩ := run_page_stops_before_ragged_page askedForOne holds
  have fourth : FirstRagged 2 shortFourthCells (Visits 2 1 5) 3 := by
    refine ⟨⟨_, rfl, by decide⟩, ⟨by decide, by decide, by decide⟩, ?_⟩
    rintro earlier sooner - ⟨cells, held, other⟩
    match earlier with
    | 0 | 1 | 2 => cases held; exact other rfl
    | earlier + 3 => omega
  obtain ⟨first, ragged, output, status, -⟩ := stops ⟨3, fourth.visited, fourth.ragged⟩
  cases ragged.eq_of_same fourth fun _ _ => Iff.rfl
  obtain ⟨outputOfOne, success, -⟩ := prints (by
    rintro index ⟨-, -, last⟩ ⟨cells, held, other⟩
    match index with
    | 0 | 1 => cases held; exact other rfl
    | index + 2 =>
        have last : (index + 2) / 2 ≤ (2 - 1) / 2 := last
        omega)
  refine ⟨output.trans ?_, status, outputOfOne.trans ?_, success⟩
  · decide
  · decide

end PagedRows.Program
