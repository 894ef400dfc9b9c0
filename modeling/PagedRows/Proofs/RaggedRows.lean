import PagedRows.Proofs.PageLoop

/-!
# Ragged rows

A row of another width than the declared one stops the paging, once its page is to be
loaded.  Pages before it have been emitted by then, and its own page has not, not even
the good rows of it.  A ragged row in a page that is never visited goes unnoticed.
-/

namespace PagedRows

/-- There is a row at an index, and it has another width than the declared one. -/
def Ragged (columns : Nat) (rows : List (List Cell)) (index : Nat) : Prop :=
  ∃ cells, rows[index]? = some cells ∧ cells.length ≠ columns

theorem Ragged.lt_length {columns index : Nat} {rows : List (List Cell)}
    (ragged : Ragged columns rows index) : index < rows.length := by
  obtain ⟨cells, held, -⟩ := ragged
  exact (List.getElem?_eq_some_iff.mp held).1

theorem forall_not_ragged_iff {columns : Nat} {rows : List (List Cell)} :
    (∀ index, ¬ Ragged columns rows index) ↔ ∀ cells ∈ rows, cells.length = columns := by
  constructor
  · intro even cells member
    obtain ⟨index, held⟩ := List.getElem?_of_mem member
    exact Decidable.byContradiction fun other => even index ⟨cells, held, other⟩
  · rintro widths index ⟨cells, held, other⟩
    exact other (widths cells (List.mem_of_getElem? held))

/-- The rows whose pages are loaded when those from `start` on and before `stop` are
printed: a page that is loaded is loaded whole. -/
def Visits (pageSize start stop index : Nat) : Prop :=
  start < stop ∧ start / pageSize ≤ index / pageSize ∧
    index / pageSize ≤ (stop - 1) / pageSize

/-- The first ragged row among those that are visited. -/
structure FirstRagged (columns : Nat) (rows : List (List Cell)) (visits : Nat → Prop)
    (first : Nat) : Prop where
  ragged : Ragged columns rows first
  visited : visits first
  least : ∀ earlier < first, visits earlier → ¬ Ragged columns rows earlier

theorem FirstRagged.eq_of_same {columns : Nat} {rows : List (List Cell)}
    {visits others : Nat → Prop} {first other : Nat}
    (mine : FirstRagged columns rows visits first)
    (theirs : FirstRagged columns rows others other)
    (same : ∀ index, Ragged columns rows index → (visits index ↔ others index)) :
    first = other := by
  rcases Nat.lt_trichotomy first other with before | equal | behind
  · exact (theirs.least first before ((same first mine.ragged).mp mine.visited)
      mine.ragged).elim
  · exact equal
  · exact (mine.least other behind ((same other theirs.ragged).mpr theirs.visited)
      theirs.ragged).elim

/-- The fault of a ragged row. -/
def raggedFault (columns : Nat) (rows : List (List Cell)) (row : Position) : Fault :=
  Window.Action.widthFault row columns
    (Window.Action.relation columns ((rows[row.val]?.map List.length).getD 0))

theorem raggedFault_of_held {columns : Nat} {rows : List (List Cell)} {row : Position}
    {cells : List Cell} (held : rows[row.val]? = some cells) :
    raggedFault columns rows row =
      Window.Action.widthFault row columns
        (Window.Action.relation columns cells.length) := by
  rw [raggedFault, held]
  rfl

namespace Paging

variable {paging : Paging} {start : Position} {progress : Progress}

/-- The position before which the rows end that are asked for. -/
def stop (paging : Paging) (start : Position) : Nat :=
  min paging.rows.size (start.val + paging.limit)

/-- The rows whose pages are loaded if nothing goes wrong. -/
def Visited (paging : Paging) (start : Position) (index : Nat) : Prop :=
  Visits paging.pageSize start.val (paging.stop start) index

/-- The rows of the pages loaded so far have the declared width. -/
theorem Reached.not_ragged_of_loaded (reached : paging.Reached start progress)
    (positive : 0 < paging.pageSize) {index : Nat}
    (first : start.val / paging.pageSize ≤ index / paging.pageSize)
    (last : index / paging.pageSize < start.val / paging.pageSize + progress.loaded.size) :
    ¬ Ragged paging.columns paging.rows.toList index := by
  rintro ⟨cells, held, other⟩
  have among : paging.pageBegin (index / paging.pageSize) ∈
      progress.loaded.toList.map Fin.val := by
    rw [reached.loaded]
    exact List.mem_map_of_mem (List.mem_range'_1.mpr ⟨first, last⟩)
  obtain ⟨begin, member, placed⟩ := List.mem_map.mp among
  have division := Nat.div_add_mod index paging.pageSize
  have remainder := Nat.mod_lt index positive
  have lookup : (paging.page begin)[index % paging.pageSize]? = some cells := by
    have sum : begin.val + index % paging.pageSize = index := by
      rw [placed, pageBegin]
      exact division
    rw [getElem?_page, if_pos remainder, sum, ← Array.getElem?_toList]
    exact held
  exact other (reached.fitted begin (Array.mem_toList_iff.mp member) cells
    (List.mem_of_getElem? lookup))

theorem Reached.lt_stop (reached : paging.Reached start progress)
    (more : ¬ paging.Exhausted progress) :
    progress.cursor.position.val < paging.stop start := by
  obtain ⟨within, inside⟩ := not_exhausted_iff.mp more
  have position := reached.position
  rw [stop]
  omega

theorem Reached.size_emitted_of_exhausted (reached : paging.Reached start progress)
    (exhausted : paging.Exhausted progress) :
    progress.emitted.size = paging.stop start - start.val := by
  have position := reached.position
  have limited := reached.limited
  simp only [Exhausted] at exhausted
  rw [stop]
  rcases reached.place with ⟨-, none, -⟩ | ⟨pages, -, stands⟩
  · omega
  · have within := stands.within
    omega

/-- The pages up to that of the last row emitted have all been loaded. -/
theorem Reached.div_lt_of_emitted (reached : paging.Reached start progress)
    (some : 0 < progress.emitted.size) :
    (start.val + progress.emitted.size - 1) / paging.pageSize <
      start.val / paging.pageSize + progress.loaded.size := by
  rcases reached.place with ⟨-, none, -⟩ | ⟨pages, count, stands⟩
  · omega
  · have ended := stands.ended
    rw [reached.position] at ended
    simp only [pageBegin] at ended
    apply Nat.div_lt_of_lt_mul
    rw [count, ← Nat.add_assoc]
    omega

/-- Where the window lacks the row of the cursor, everything before its page has been
emitted, and nothing of it. -/
theorem Reached.size_emitted_of_missing (reached : paging.Reached start progress)
    (positive : 0 < paging.pageSize)
    (inside : progress.cursor.position.val < paging.rows.size)
    (missing : ¬ Held progress) :
    progress.emitted.size =
      paging.pageBegin (progress.cursor.position.val / paging.pageSize) - start.val := by
  have page := reached.page_of_missing positive inside missing
  have position := reached.position
  rcases reached.missing_cases inside missing with ⟨none, -⟩ | behind
  · have before : paging.pageBegin (progress.cursor.position.val / paging.pageSize) ≤
        progress.cursor.position.val := Nat.mul_div_le _ _
    omega
  · rw [page, ← behind]
    omega

/-- A page that does not fit is refused at its first ragged row, which is the first of
all rows that are visited. -/
theorem Reached.step_of_blocked (bounded : paging.rows.size < 2 ^ 64)
    (positive : 0 < paging.pageSize) (reached : paging.Reached start progress)
    (blocked : paging.Blocked progress) {first : Position}
    (page : first = paging.pageStart progress.cursor.position) :
    ∃ (row : Position) (window : Window),
      FirstRagged paging.columns paging.rows.toList (paging.Visited start) row.val ∧
      row.val / paging.pageSize = progress.cursor.position.val / paging.pageSize ∧
      paging.step progress = .done { progress with window := window }
        (.failed (raggedFault paging.columns paging.rows.toList row)) := by
  obtain ⟨more, missing, misfit⟩ := blocked
  obtain ⟨within, inside⟩ := not_exhausted_iff.mp more
  have position := reached.position
  have wanted := reached.lt_stop more
  have number := reached.page_of_missing positive inside missing
  have begin : first.val = paging.pageBegin
      (progress.cursor.position.val / paging.pageSize) := by rw [page, pageStart_val]
  have size := length_page paging first
  rcases Window.Action.run_fill_cases reached.opened first paging.columns
      (paging.page first) (by omega) with
    ⟨fits, -⟩ | ⟨index, cells, addressed, held, width, before, refused⟩
  · exact (misfit (page ▸ fits)).elim
  rw [getElem?_page] at held
  obtain ⟨near, held⟩ := Option.ite_none_right_eq_some.mp held
  rw [← Array.getElem?_toList] at held
  have samePage : (first.val + index) / paging.pageSize =
      progress.cursor.position.val / paging.pageSize := by
    rw [begin, pageBegin, Nat.mul_add_div positive, Nat.div_eq_of_lt near, Nat.add_zero]
  refine ⟨⟨_, addressed⟩,
    progress.window.filled first paging.columns ((paging.page first).take index),
    ⟨⟨cells, held, width⟩, ⟨by omega, ?_, ?_⟩, ?_⟩, samePage, ?_⟩
  · rw [samePage]
    exact Nat.div_le_div_right (by omega)
  · rw [samePage]
    exact Nat.div_le_div_right (by omega)
  · intro earlier sooner visited
    by_cases loaded : earlier < first.val
    · apply reached.not_ragged_of_loaded positive visited.2.1
      rw [← number]
      apply Nat.div_lt_of_lt_mul
      rw [begin, pageBegin] at loaded
      exact loaded
    · rintro ⟨other, stored, ragged⟩
      obtain ⟨offset, rfl⟩ := Nat.exists_eq_add_of_le (Nat.le_of_not_lt loaded)
      have sooner : offset < index := Nat.lt_of_add_lt_add_left sooner
      apply ragged
      apply before other
      apply List.mem_of_getElem? (i := offset)
      rw [List.getElem?_take_of_lt sooner, getElem?_page, if_pos (by omega),
        ← Array.getElem?_toList]
      exact stored
  · rw [step_of_missing reached within missing, load, if_neg (Nat.not_le_of_lt inside),
      raggedFault_of_held held]
    simp only [← page]
    rw [show Window.Action.fill first paging.columns (paging.page first)
      progress.window = _ from refused]

/-- Paging emits the rows from its start on, as many as the limit allows, unless one
that is visited is ragged: then it fails, and what it has emitted ends before the page
of the first of these. -/
theorem run_ends (paging : Paging) (bounded : paging.rows.size < 2 ^ 64)
    (positive : 0 < paging.pageSize) {window : Window}
    (opened : window.isDisposed = false) (empty : window.rows = #[]) (start : Position) :
    ∃ last ending, paging.run window start = (last, ending) ∧
      ((ending = .complete ∧
          last.emitted.toList = paging.values start.val (paging.stop start - start.val) ∧
          ∀ index, paging.Visited start index →
            ¬ Ragged paging.columns paging.rows.toList index) ∨
        ∃ row : Position,
          FirstRagged paging.columns paging.rows.toList (paging.Visited start) row.val ∧
          ending = .failed (raggedFault paging.columns paging.rows.toList row) ∧
          last.emitted.toList = paging.values start.val
            (paging.pageSize * (row.val / paging.pageSize) - start.val)) := by
  have initial := Reached.initial paging start opened empty
  obtain ⟨states, last, leads, -, reached, few, ends⟩ := initial.exists_leads bounded positive
  have most := paging.todo_le (opening window start)
  have enough : states.length < 2 * paging.rows.size + 2 := by omega
  rcases ends with exhausted | blocked
  · have count := reached.size_emitted_of_exhausted exhausted
    refine ⟨last, _, leads.runSteps_eq (step_of_exhausted reached exhausted) enough,
      .inl ⟨rfl, by rw [← count]; exact reached.emitted, ?_⟩⟩
    rintro index ⟨some, first, most⟩
    apply reached.not_ragged_of_loaded positive first
    apply Nat.lt_of_le_of_lt most
    have whole : paging.stop start = start.val + last.emitted.size := by omega
    rw [whole]
    exact reached.div_lt_of_emitted (by omega)
  · obtain ⟨row, broken, first, samePage, failed⟩ :=
      reached.step_of_blocked bounded positive blocked rfl
    obtain ⟨-, inside⟩ := not_exhausted_iff.mp blocked.more
    refine ⟨_, _, leads.runSteps_eq failed enough, .inr ⟨row, first, rfl, ?_⟩⟩
    rw [samePage]
    change last.emitted.toList = paging.values start.val
      (paging.pageBegin (last.cursor.position.val / paging.pageSize) - start.val)
    rw [← reached.size_emitted_of_missing positive inside blocked.missing]
    exact reached.emitted

end Paging

end PagedRows
