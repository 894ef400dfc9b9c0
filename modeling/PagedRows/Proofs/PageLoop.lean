import PagedRows.Paging
import PagedRows.Proofs.Advance
import PagedRows.Proofs.Filling
import PagedRows.Proofs.RowText

/-!
# The page loop

Pages are loaded one after the other from that of the first row on.  The cursor
always stands in the page loaded last or right behind it, so that every step emits
the next row or loads the next page, and one of the two runs out.
-/

namespace PagedRows.Paging

theorem getElem?_page (paging : Paging) (start : Position) (index : Nat) :
    (paging.page start)[index]? =
      if index < paging.pageSize then paging.rows[start.val + index]? else none := by
  rw [page, Array.getElem?_toList, Array.getElem?_extract]
  by_cases inside : start.val + index < paging.rows.size
  · by_cases within : index < paging.pageSize
    · rw [if_pos (by omega), if_pos within]
    · rw [if_neg (by omega), if_neg within]
  · rw [if_neg (by omega), Array.getElem?_eq_none (by omega)]
    split <;> rfl

theorem length_page (paging : Paging) (start : Position) :
    (paging.page start).length =
      min paging.pageSize (paging.rows.size - start.val) := by
  simp only [page, Array.length_toList, Array.size_extract]
  omega

def PageFits (paging : Paging) (start : Position) : Prop :=
  ∀ cells ∈ paging.page start, cells.length = paging.columns

/-- The rows from a position on, each as the value that stands for it. -/
def values (paging : Paging) (start count : Nat) : List Json :=
  (List.range' start count).filterMap fun position =>
    paging.rows[position]?.map (rowValue position)

theorem values_succ {paging : Paging} {start count : Nat} {cells : List Cell}
    (held : paging.rows[start + count]? = some cells) :
    paging.values start (count + 1) =
      paging.values start count ++ [rowValue (start + count) cells] := by
  simp [values, List.range'_1_concat, held]

/-- The position at which a page begins, by its number. -/
def pageBegin (paging : Paging) (number : Nat) : Nat :=
  paging.pageSize * number

/-- The window holds the page with a number, all rows of which fit, and the cursor
stands in it or right behind it. -/
structure StandsIn (paging : Paging) (progress : Progress) (number : Nat) : Prop where
  start : progress.window.start.val = paging.pageBegin number
  columns : progress.window.columns = paging.columns
  rows : progress.window.rows =
    ((paging.page progress.window.start).map List.toArray).toArray
  fits : paging.PageFits progress.window.start
  begun : paging.pageBegin number ≤ progress.cursor.position.val
  ended : progress.cursor.position.val ≤ paging.pageBegin (number + 1)
  within : progress.cursor.position.val ≤ paging.rows.size

/-- How far paging from a position on has come: rows have been emitted from there
to the cursor, pages of which all rows fit have been loaded in order from that of the
first row on, and the cursor stands in the last of them. -/
structure Reached (paging : Paging) (start : Position) (progress : Progress) : Prop where
  opened : progress.window.isDisposed = false
  fresh : progress.cursor.exhausted = false
  position : progress.cursor.position.val = start.val + progress.emitted.size
  limited : progress.emitted.size ≤ paging.limit
  emitted : progress.emitted.toList = paging.values start.val progress.emitted.size
  loaded : progress.loaded.toList.map Fin.val =
    (List.range' (start.val / paging.pageSize) progress.loaded.size).map paging.pageBegin
  fitted : ∀ first ∈ progress.loaded, paging.PageFits first
  place : (progress.window.rows = #[] ∧ progress.emitted.size = 0 ∧
      progress.loaded.size = 0) ∨
    ∃ pages, progress.loaded.size = pages + 1 ∧
      paging.StandsIn progress (start.val / paging.pageSize + pages)

/-- The state in which paging from a position on begins. -/
def opening (window : Window) (start : Position) : Progress where
  window := window
  cursor := .startingAt start
  emitted := #[]
  loaded := #[]

theorem Reached.initial (paging : Paging) {window : Window} (start : Position)
    (opened : window.isDisposed = false) (empty : window.rows = #[]) :
    paging.Reached start (opening window start) where
  opened := opened
  fresh := rfl
  position := rfl
  limited := Nat.zero_le _
  emitted := rfl
  loaded := rfl
  fitted := by simp [opening]
  place := .inl ⟨empty, rfl, rfl⟩

theorem StandsIn.size_rows {paging : Paging} {progress : Progress} {number : Nat}
    (stands : paging.StandsIn progress number) :
    progress.window.rows.size =
      min paging.pageSize (paging.rows.size - paging.pageBegin number) := by
  rw [stands.rows, List.size_toArray, List.length_map, length_page, stands.start]

/-- The position of the cursor is in the window. -/
def Held (progress : Progress) : Prop :=
  progress.window.start.val ≤ progress.cursor.position.val ∧
    progress.cursor.position.val < progress.window.start.val + progress.window.rows.size

instance (progress : Progress) : Decidable (Held progress) :=
  inferInstanceAs (Decidable (_ ∧ _))

variable {paging : Paging} {start : Position} {progress : Progress}

theorem StandsIn.row_of_held {number : Nat} (stands : paging.StandsIn progress number)
    (held : Held progress) :
    ∃ index cells, progress.window.start.val + index = progress.cursor.position.val ∧
      progress.window.rows[index]? = some cells.toArray ∧
      paging.rows[progress.cursor.position.val]? = some cells ∧
      cells.length = progress.window.columns := by
  obtain ⟨before, inside⟩ := held
  rw [stands.size_rows, ← stands.start] at inside
  obtain ⟨index, placed⟩ := Nat.exists_eq_add_of_le before
  have stored : progress.cursor.position.val < paging.rows.size := by omega
  have lookup : (paging.page progress.window.start)[index]? =
      some paging.rows[progress.cursor.position.val] := by
    rw [getElem?_page, if_pos (by omega), ← placed, Array.getElem?_eq_getElem stored]
  refine ⟨index, _, placed.symm, ?_, Array.getElem?_eq_getElem stored, ?_⟩
  · rw [stands.rows, List.getElem?_toArray, List.getElem?_map, lookup]
    rfl
  · rw [stands.columns]
    exact stands.fits _ (List.mem_of_getElem? lookup)

theorem Reached.next_of_held (reached : paging.Reached start progress)
    (held : Held progress) :
    progress.cursor.next progress.window =
      .ok (.row progress.cursor.position, progress.cursor.advance) := by
  obtain ⟨before, inside⟩ := held
  obtain ⟨index, placed⟩ := Nat.exists_eq_add_of_le before
  exact Cursor.next_of_held reached.opened reached.fresh placed.symm (by omega)

/-- The progress after the row at the cursor has been emitted. -/
def withRow (progress : Progress) (cells : List Cell) : Progress :=
  { progress with
    cursor := progress.cursor.advance
    emitted := progress.emitted.push (rowValue progress.cursor.position.val cells) }

theorem Reached.withRow (bounded : paging.rows.size < 2 ^ 64)
    (reached : paging.Reached start progress)
    (more : progress.emitted.size < paging.limit) {pages : Nat}
    (count : progress.loaded.size = pages + 1)
    (stands : paging.StandsIn progress (start.val / paging.pageSize + pages))
    (held : Held progress) {cells : List Cell}
    (stored : paging.rows[progress.cursor.position.val]? = some cells) :
    paging.Reached start (withRow progress cells) := by
  obtain ⟨inside, -⟩ := Array.getElem?_eq_some_iff.mp stored
  have advanced : progress.cursor.advance = _ := Cursor.advance_of_lt (by omega)
  have pageEnd : progress.window.start.val + progress.window.rows.size ≤
      paging.pageBegin (start.val / paging.pageSize + pages + 1) := by
    rw [stands.size_rows, stands.start]
    simp only [pageBegin, Nat.mul_succ]
    omega
  rw [Paging.withRow, advanced]
  exact {
    opened := reached.opened
    fresh := reached.fresh
    position := by
      simp only [Array.size_push]
      have position := reached.position
      omega
    limited := by
      simp only [Array.size_push]
      omega
    emitted := by
      have row : paging.rows[start.val + progress.emitted.size]? = some cells := by
        rw [← reached.position]
        exact stored
      simp only [Array.toList_push, Array.size_push, values_succ row, reached.emitted,
        reached.position]
    loaded := reached.loaded
    fitted := reached.fitted
    place := by
      refine .inr ⟨pages, count, stands.start, stands.columns, stands.rows,
        stands.fits, ?_, ?_, inside⟩
      · exact Nat.le_succ_of_le stands.begun
      · exact Nat.le_trans held.2 pageEnd }

private theorem step_of_held (bounded : paging.rows.size < 2 ^ 64)
    (reached : paging.Reached start progress)
    (more : progress.emitted.size < paging.limit) (held : Held progress) :
    ∃ cells, paging.step progress = .next (withRow progress cells) ∧
      paging.Reached start (withRow progress cells) := by
  rcases reached.place with ⟨empty, -, -⟩ | ⟨pages, count, stands⟩
  · obtain ⟨before, inside⟩ := held
    rw [empty] at inside
    simp at inside
    omega
  · obtain ⟨index, cells, placed, lookup, stored, width⟩ := stands.row_of_held held
    have yielded := reached.next_of_held held
    have rendered := Window.rowJson_of_held reached.opened placed lookup width
    refine ⟨cells, ?_, reached.withRow bounded more count stands held stored⟩
    simp only [step, if_neg (Nat.not_le_of_lt more), yielded, rendered, withRow]

theorem pageStart_val (paging : Paging) (position : Position) :
    (paging.pageStart position).val = paging.pageBegin (position.val / paging.pageSize) := by
  have division := Nat.div_add_mod position.val paging.pageSize
  simp only [pageStart, pageBegin]
  omega

/-- A row that the window lacks begins the next page, or is the first of all. -/
theorem Reached.missing_cases (reached : paging.Reached start progress)
    (inside : progress.cursor.position.val < paging.rows.size)
    (missing : ¬ Held progress) :
    (progress.emitted.size = 0 ∧ progress.loaded.size = 0) ∨
      progress.cursor.position.val =
        paging.pageBegin (start.val / paging.pageSize + progress.loaded.size) := by
  rcases reached.place with ⟨-, none, unloaded⟩ | ⟨pages, count, stands⟩
  · exact .inl ⟨none, unloaded⟩
  · have size := stands.size_rows
    have begun := stands.begun
    have ended := stands.ended
    have next : paging.pageBegin (start.val / paging.pageSize + pages + 1) =
        paging.pageBegin (start.val / paging.pageSize + pages) + paging.pageSize := by
      simp only [pageBegin, Nat.mul_succ]
    simp only [Held, stands.start] at missing
    right
    rw [count, ← Nat.add_assoc]
    omega

theorem Reached.page_of_missing (reached : paging.Reached start progress)
    (positive : 0 < paging.pageSize)
    (inside : progress.cursor.position.val < paging.rows.size)
    (missing : ¬ Held progress) :
    progress.cursor.position.val / paging.pageSize =
      start.val / paging.pageSize + progress.loaded.size := by
  rcases reached.missing_cases inside missing with ⟨none, unloaded⟩ | behind
  · rw [reached.position, none, unloaded]
    rfl
  · rw [behind, pageBegin, Nat.mul_div_cancel_left _ positive]

theorem Reached.next_of_missing (reached : paging.Reached start progress)
    (missing : ¬ Held progress) :
    ∃ gap, progress.cursor.next progress.window = .ok (.gap gap, progress.cursor) := by
  apply Cursor.next_of_missing reached.opened
  simp only [Held] at missing
  omega

theorem step_of_missing (reached : paging.Reached start progress)
    (more : progress.emitted.size < paging.limit) (missing : ¬ Held progress) :
    paging.step progress = paging.load progress := by
  obtain ⟨gap, stays⟩ := reached.next_of_missing missing
  simp only [step, if_neg (Nat.not_le_of_lt more), stays]

/-- The progress after the page that begins at a position has been loaded. -/
def withPage (paging : Paging) (progress : Progress) (first : Position) : Progress :=
  { progress with
    window := progress.window.filled first paging.columns (paging.page first)
    loaded := progress.loaded.push first }

theorem Reached.withPage (reached : paging.Reached start progress)
    (inside : progress.cursor.position.val < paging.rows.size) {first : Position}
    (begin : first.val =
      paging.pageBegin (start.val / paging.pageSize + progress.loaded.size))
    (before : first.val ≤ progress.cursor.position.val)
    (next : progress.cursor.position.val < first.val + paging.pageSize)
    (fits : paging.PageFits first) :
    paging.Reached start (paging.withPage progress first) where
  opened := reached.opened
  fresh := reached.fresh
  position := reached.position
  limited := reached.limited
  emitted := reached.emitted
  loaded := by
    simp only [Paging.withPage, Array.toList_push, List.map_append, List.map_cons,
      List.map_nil, Array.size_push, List.range'_1_concat, reached.loaded, begin]
  fitted := by
    intro other member
    rcases Array.mem_push.mp member with earlier | rfl
    · exact reached.fitted other earlier
    · exact fits
  place := by
    refine .inr ⟨progress.loaded.size, Array.size_push _, begin, rfl, rfl, fits, ?_, ?_,
      Nat.le_of_lt inside⟩
    · rw [← begin]
      exact before
    · have following : paging.pageBegin
          (start.val / paging.pageSize + progress.loaded.size + 1) =
          first.val + paging.pageSize := by
        simp only [begin, pageBegin, Nat.mul_succ]
      rw [following]
      exact Nat.le_of_lt next

theorem load_of_fits (bounded : paging.rows.size < 2 ^ 64)
    (positive : 0 < paging.pageSize) (reached : paging.Reached start progress)
    (inside : progress.cursor.position.val < paging.rows.size)
    (missing : ¬ Held progress) {first : Position}
    (page : first = paging.pageStart progress.cursor.position)
    (fits : paging.PageFits first) :
    paging.load progress = .next (paging.withPage progress first) ∧
      paging.Reached start (paging.withPage progress first) ∧
      Held (paging.withPage progress first) := by
  have begin : first.val = paging.pageBegin
      (start.val / paging.pageSize + progress.loaded.size) := by
    rw [page, pageStart_val, reached.page_of_missing positive inside missing]
  have remainder := Nat.mod_lt progress.cursor.position.val positive
  have aligned : first.val = progress.cursor.position.val -
      progress.cursor.position.val % paging.pageSize := by rw [page]; rfl
  have size := length_page paging first
  have filled : (Window.Action.fill first paging.columns (paging.page first)).run
      progress.window = _ :=
    Window.Action.run_fill_of_fits reached.opened fits (by omega)
  refine ⟨?_, reached.withPage inside begin (by omega) (by omega) fits, ?_, ?_⟩
  · rw [load, if_neg (Nat.not_le_of_lt inside)]
    simp only [← page]
    rw [show Window.Action.fill first paging.columns (paging.page first)
      progress.window = _ from filled]
    rfl
  · change first.val ≤ progress.cursor.position.val
    omega
  · change progress.cursor.position.val < first.val +
      ((paging.page first).map List.toArray).toArray.size
    rw [List.size_toArray, List.length_map]
    omega

/-- How many more steps there are, at most, before the last one. -/
def todo (paging : Paging) (progress : Progress) : Nat :=
  2 * (paging.rows.size - progress.cursor.position.val) + if Held progress then 0 else 1

theorem todo_le (paging : Paging) (progress : Progress) :
    paging.todo progress ≤
      2 * (paging.rows.size - progress.cursor.position.val) + 1 := by
  unfold todo
  split <;> omega

/-- There is no further row to emit. -/
def Exhausted (paging : Paging) (progress : Progress) : Prop :=
  paging.limit ≤ progress.emitted.size ∨ paging.rows.size ≤ progress.cursor.position.val

theorem not_exhausted_iff : ¬ paging.Exhausted progress ↔
    progress.emitted.size < paging.limit ∧
      progress.cursor.position.val < paging.rows.size := by
  simp [Exhausted]

theorem step_of_exhausted (reached : paging.Reached start progress)
    (exhausted : paging.Exhausted progress) :
    paging.step progress = .done progress .complete := by
  by_cases more : progress.emitted.size < paging.limit
  · have past : paging.rows.size ≤ progress.cursor.position.val :=
      exhausted.resolve_left (Nat.not_le_of_lt more)
    have missing : ¬ Held progress := by
      rintro ⟨before, inside⟩
      rcases reached.place with ⟨empty, -, -⟩ | ⟨pages, count, stands⟩
      · rw [empty] at inside
        simp at inside
        omega
      · rw [stands.size_rows, ← stands.start] at inside
        omega
    rw [step_of_missing reached more missing, load, if_pos past]
  · rw [step, if_pos (Nat.le_of_not_lt more)]

/-- Steps lead from one state to another, through the states before it. -/
inductive Leads (paging : Paging) : Progress → List Progress → Progress → Prop where
  | arrived (progress : Progress) : Leads paging progress [] progress
  | step {progress next last : Progress} {states : List Progress} :
      paging.step progress = .next next → Leads paging next states last →
      Leads paging progress (progress :: states) last

theorem Leads.runSteps_eq {states : List Progress} {last final : Progress} {ending : Ending}
    (leads : paging.Leads progress states last)
    (ended : paging.step last = .done final ending) {bound : Nat}
    (enough : states.length < bound) :
    paging.runSteps bound progress = (final, ending) := by
  induction leads generalizing bound with
  | arrived progress =>
      obtain ⟨rest, rfl⟩ := Nat.exists_eq_add_one.mpr enough
      rw [runSteps, ended]
  | @step progress next last states taken _ induction =>
      obtain ⟨rest, rfl⟩ := Nat.exists_eq_add_one.mpr (Nat.zero_lt_of_lt enough)
      rw [runSteps, taken]
      exact induction ended (Nat.lt_of_succ_lt_succ enough)

/-- The page of the cursor is wanted, and not all of its rows fit. -/
structure Blocked (paging : Paging) (progress : Progress) : Prop where
  more : ¬ paging.Exhausted progress
  missing : ¬ Held progress
  misfit : ¬ paging.PageFits (paging.pageStart progress.cursor.position)

/-- A step of the paging finds the end, comes to a page that cannot be loaded, or leaves
less to do. -/
theorem Reached.step_cases (bounded : paging.rows.size < 2 ^ 64)
    (positive : 0 < paging.pageSize) (reached : paging.Reached start progress) :
    paging.Exhausted progress ∨ paging.Blocked progress ∨
      ∃ next, paging.step progress = .next next ∧ paging.Reached start next ∧
        paging.todo next < paging.todo progress := by
  by_cases exhausted : paging.Exhausted progress
  · exact .inl exhausted
  obtain ⟨more, inside⟩ := not_exhausted_iff.mp exhausted
  by_cases held : Held progress
  · obtain ⟨cells, emitted, next⟩ := step_of_held bounded reached more held
    have moved : (Paging.withRow progress cells).cursor.position.val =
        progress.cursor.position.val + 1 := by
      rw [next.position, reached.position, Paging.withRow, Array.size_push, Nat.add_assoc]
    refine .inr (.inr ⟨_, emitted, next, ?_⟩)
    have most := paging.todo_le (Paging.withRow progress cells)
    rw [moved] at most
    simp only [todo, if_pos held] at most ⊢
    omega
  · by_cases fits : paging.PageFits (paging.pageStart progress.cursor.position)
    · obtain ⟨loaded, next, heldAfter⟩ :=
        load_of_fits bounded positive reached inside held rfl fits
      rw [← step_of_missing reached more held] at loaded
      refine .inr (.inr ⟨_, loaded, next, ?_⟩)
      simp only [todo, if_neg held, if_pos heldAfter]
      exact Nat.lt_succ_self _
    · exact .inr (.inl ⟨exhausted, held, fits⟩)

/-- Steps lead to the end or to a page that cannot be loaded, and there are no more of
them than there was to do. -/
theorem Reached.exists_leads (bounded : paging.rows.size < 2 ^ 64)
    (positive : 0 < paging.pageSize) (reached : paging.Reached start progress) :
    ∃ states last, paging.Leads progress states last ∧
      (∀ state ∈ states, paging.Reached start state) ∧ paging.Reached start last ∧
      states.length ≤ paging.todo progress ∧
      (paging.Exhausted last ∨ paging.Blocked last) := by
  -- A step that emits a row leaves one row fewer, and a step that loads a page is
  -- followed by one that emits, so every step lowers what there is to do.
  induction left : paging.todo progress using Nat.strongRecOn generalizing progress with
  | ind count induction =>
      rcases reached.step_cases bounded positive with
        exhausted | blocked | ⟨next, taken, reachedNext, fewer⟩
      · exact ⟨[], progress, .arrived progress, nofun, reached, Nat.zero_le _,
          .inl exhausted⟩
      · exact ⟨[], progress, .arrived progress, nofun, reached, Nat.zero_le _,
          .inr blocked⟩
      · rw [left] at fewer
        obtain ⟨states, last, leads, along, reachedLast, few, ends⟩ :=
          induction _ fewer reachedNext rfl
        refine ⟨progress :: states, last, .step taken leads,
          List.forall_mem_cons.mpr ⟨reached, along⟩, reachedLast, ?_, ends⟩
        rw [List.length_cons]
        exact Nat.lt_of_le_of_lt few fewer

end PagedRows.Paging
