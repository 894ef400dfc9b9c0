import PagedRows.Proofs.Lifetime
import PagedRows.Proofs.Listing

/-!
# The pages that are loaded

Paging refills its window where the cursor finds no row in it.  The refills go from the page
of the first row to that of the last one, page by page and once each.  A refill that succeeds
covers the row at the cursor, so that the next step emits it.  No number computed for a refill
leaves the range of positions, and at no moment does the window hold more than a page.
-/

namespace PagedRows

namespace Window

def Change.isAllocate : Change → Bool
  | allocate => true
  | renew _ _ | rebase _ | declare _ | free | clear | put _ _ _ | acquire | release => false

private theorem Change.size_rows_effect_le (window : Window) (change : Change) :
    (change.effect window).rows.size ≤
      window.rows.size + if change.isAllocate then 1 else 0 := by
  cases change with
  | allocate => exact Nat.le_of_eq (Array.size_push _)
  | put value row column => exact Nat.le_of_eq Array.size_modify
  | free => exact Nat.le_trans (Nat.le_of_eq Array.size_pop) (Nat.sub_le _ _)
  | release =>
      simp only [effect, Window.release]
      split
      · exact Nat.le_refl _
      · exact Nat.zero_le _
      · exact Nat.le_refl _
  | renew name? sizeBytes => exact Nat.zero_le _
  | clear => exact Nat.zero_le _
  | rebase start => exact Nat.le_refl _
  | declare columns => exact Nat.le_refl _
  | acquire => exact Nat.le_refl _

theorem Undergoes.size_rows_le {window after : Window} {changes : List Change}
    (undergone : window.Undergoes changes after) :
    after.rows.size ≤ window.rows.size + changes.countP Change.isAllocate := by
  induction undergone with
  | nothing => exact Nat.le_refl _
  | @change window between after change changes made rest induction =>
      obtain ⟨-, rfl⟩ := Change.run_action_eq_ok_iff.mp made
      have gained := change.size_rows_effect_le window
      rw [List.countP_cons]
      omega

private theorem countP_cellChanges (row : Position) (columns column : Nat) (cells : List Cell) :
    (cellChanges row columns column cells).countP Change.isAllocate = 0 := by
  induction cells generalizing column with
  | nil => rfl
  | cons cell cells induction =>
      rw [cellChanges]
      split
      · exact induction (column + 1)
      · rfl

private theorem countP_rowChanges (row : Position) (columns : Nat) (cells : List Cell) :
    (rowChanges row columns cells).countP Change.isAllocate = 1 := by
  rw [rowChanges, List.countP_cons, List.countP_append, countP_cellChanges]
  split <;> rfl

private theorem countP_rowsChanges_le (start : Position) (columns written : Nat)
    (rows : List (List Cell)) :
    (rowsChanges start columns written rows).countP Change.isAllocate ≤ rows.length := by
  induction rows generalizing written with
  | nil => exact Nat.le_refl _
  | cons cells rows induction =>
      have rest := induction (written + 1)
      rw [rowsChanges, List.length_cons]
      split
      · exact Nat.zero_le _
      · rw [List.countP_append, countP_rowChanges]
        split
        · omega
        · exact Nat.le_add_left _ _

/-- At no moment of a fill does the window hold more rows than it held before or is to
hold. -/
theorem size_rows_le_of_fillChanges {window moment : Window} {start : Position}
    {columns : Nat} {rows : List (List Cell)} {earlier later : List Change}
    (split : window.fillChanges start columns rows = earlier ++ later)
    (undergone : window.Undergoes earlier moment) :
    moment.rows.size ≤ max window.rows.size rows.length := by
  cases undergone with
  | nothing => exact Nat.le_max_left _ _
  | @change window between moment change earlier made rest =>
      rw [fillChanges] at split
      split at split
      · cases split
      · obtain ⟨rfl, others⟩ := List.cons.inj split
        have others : _ = earlier ++ later := others
        obtain ⟨-, rfl⟩ := Change.run_action_eq_ok_iff.mp made
        have gained := rest.size_rows_le
        simp only [Change.effect, List.size_toArray, List.length_nil, Nat.zero_add] at gained
        have prior : earlier.countP Change.isAllocate ≤
            (rowsChanges start columns 0 rows).countP Change.isAllocate := by
          have whole := congrArg (List.countP Change.isAllocate) others
          rw [List.countP_append] at whole
          exact Nat.le_of_add_right_le (Nat.le_of_eq whole.symm)
        have allocated := countP_rowsChanges_le start columns 0 rows
        omega

end Window

namespace Paging

/-- The position from which on a step refills the window, if it does. -/
def refill? (paging : Paging) (progress : Progress) : Option Position :=
  if paging.limit ≤ progress.emitted.size then none
  else
    match progress.cursor.next progress.window with
    | .ok (.gap _, cursor) =>
        if paging.rows.size ≤ cursor.position.val then none
        else some (paging.pageStart cursor.position)
    | .ok (.row _, _) | .error _ => none

/-- The state that a step comes to. -/
def Step.progress : Step → Progress
  | next progress | done progress _ => progress

variable {paging : Paging} {progress : Progress}

theorem step_of_refill? {first : Position} (refilled : paging.refill? progress = some first) :
    ∃ cursor, paging.step progress =
      match (Window.Action.fill first paging.columns (paging.page first)).run
        progress.window with
      | .ok _ window =>
          .next { progress with
            window := window, cursor := cursor, loaded := progress.loaded.push first }
      | .error fault window =>
          .done { progress with window := window, cursor := cursor } (.failed fault) := by
  unfold refill? at refilled
  split at refilled
  · cases refilled
  next more =>
    split at refilled
    next gap cursor found =>
      split at refilled
      · cases refilled
      next inside =>
        cases refilled
        refine ⟨cursor, ?_⟩
        rw [step, if_neg more, found]
        simp only [load, if_neg inside]
        rfl
    · cases refilled
    · cases refilled

theorem step_of_refill?_eq_none (kept : paging.refill? progress = none) :
    (paging.step progress).progress.window = progress.window ∧
      (paging.step progress).progress.loaded = progress.loaded := by
  unfold refill? at kept
  split at kept
  next done =>
    rw [step, if_pos done]
    exact ⟨rfl, rfl⟩
  next more =>
    split at kept
    next gap cursor found =>
      split at kept
      next past =>
        rw [step, if_neg more, found]
        simp only [load, if_pos past]
        exact ⟨rfl, rfl⟩
      · cases kept
    next position cursor found =>
      rw [step, if_neg more, found]
      cases rendered : progress.window.rowJson position with
      | error fault => simp only [rendered]; exact ⟨rfl, rfl⟩
      | ok row => simp only [rendered]; exact ⟨rfl, rfl⟩
    next fault found =>
      rw [step, if_neg more, found]
      exact ⟨rfl, rfl⟩

theorem window_step_of_refill? {first : Position}
    (refilled : paging.refill? progress = some first) :
    (paging.step progress).progress.window =
      (Window.Action.fill first paging.columns (paging.page first)).after
        progress.window := by
  obtain ⟨cursor, filled⟩ := step_of_refill? refilled
  rw [filled, Window.Action.after]
  cases (Window.Action.fill first paging.columns (paging.page first)).run
    progress.window with
  | ok count window => rfl
  | error fault window => rfl

private theorem loaded_of_step {next : Progress} (taken : paging.step progress = .next next) :
    next.loaded.toList = progress.loaded.toList ++ (paging.refill? progress).toList := by
  cases refilled : paging.refill? progress with
  | none =>
      have kept := (step_of_refill?_eq_none refilled).2
      rw [taken] at kept
      rw [Option.toList_none, List.append_nil]
      exact congrArg Array.toList kept
  | some first =>
      obtain ⟨cursor, filled⟩ := step_of_refill? refilled
      rw [taken] at filled
      split at filled
      · cases filled
        exact Array.toList_push
      · cases filled

/-- The pages loaded on the way to a state are those of the refills before it. -/
theorem Leads.loaded {states : List Progress} {last : Progress}
    (leads : paging.Leads progress states last) :
    last.loaded.toList = progress.loaded.toList ++ states.filterMap paging.refill? := by
  induction leads with
  | arrived progress => exact (List.append_nil _).symm
  | @step progress next last states taken _ induction =>
      rw [induction, loaded_of_step taken, List.append_assoc]
      congr 1
      cases refilled : paging.refill? progress with
      | none => rw [List.filterMap_cons_none refilled]; rfl
      | some first => rw [List.filterMap_cons_some refilled]; rfl

theorem size_rows_step_le (small : progress.window.rows.size ≤ paging.pageSize) :
    (paging.step progress).progress.window.rows.size ≤ paging.pageSize := by
  cases refilled : paging.refill? progress with
  | none =>
      rw [(step_of_refill?_eq_none refilled).1]
      exact small
  | some first =>
      have most := Window.size_rows_le_of_fillChanges (List.append_nil _).symm
        (Window.undergoes_fillChanges progress.window first paging.columns
          (paging.page first))
      rw [length_page] at most
      rw [window_step_of_refill? refilled]
      omega

theorem Leads.size_rows_le {states : List Progress} {last : Progress}
    (leads : paging.Leads progress states last)
    (small : progress.window.rows.size ≤ paging.pageSize) :
    ∀ state ∈ states ++ [last], state.window.rows.size ≤ paging.pageSize := by
  induction leads with
  | arrived progress => simpa using small
  | step taken _ induction =>
      have next := size_rows_step_le small
      rw [taken] at next
      exact List.forall_mem_cons.mpr ⟨small, induction next⟩

variable {start : Position}

/-- The window is refilled exactly where a row is wanted that it lacks. -/
theorem Reached.refill?_eq_some_iff (reached : paging.Reached start progress)
    {first : Position} :
    paging.refill? progress = some first ↔
      (¬ paging.Exhausted progress ∧ ¬ Held progress) ∧
        first = paging.pageStart progress.cursor.position := by
  by_cases done : paging.limit ≤ progress.emitted.size
  · rw [refill?, if_pos done]
    refine iff_of_false nofun ?_
    rintro ⟨⟨more, -⟩, -⟩
    exact more (.inl done)
  by_cases held : Held progress
  · rw [refill?, if_neg done, reached.next_of_held held]
    exact iff_of_false nofun fun wanted => wanted.1.2 held
  · obtain ⟨gap, stays⟩ := reached.next_of_missing held
    rw [refill?, if_neg done, stays]
    by_cases past : paging.rows.size ≤ progress.cursor.position.val
    · simp only [if_pos past]
      refine iff_of_false nofun ?_
      rintro ⟨⟨more, -⟩, -⟩
      exact more (.inr past)
    · simp only [if_neg past, Option.some.injEq]
      have more := not_exhausted_iff.mpr ⟨Nat.lt_of_not_le done, Nat.lt_of_not_le past⟩
      constructor
      · rintro rfl
        exact ⟨⟨more, held⟩, rfl⟩
      · rintro ⟨-, rfl⟩
        rfl

/-- A page of rows begins far enough before the last position for a whole page, however
large it is. -/
theorem pageStart_add_pageSize_lt (few : paging.rows.size < 2 ^ 63)
    (sized : paging.pageSize < 2 ^ 64) {position : Position}
    (inside : position.val < paging.rows.size) :
    (paging.pageStart position).val + paging.pageSize < 2 ^ 64 := by
  have begin : (paging.pageStart position).val =
      position.val - position.val % paging.pageSize := rfl
  by_cases first : position.val < paging.pageSize
  · rw [Nat.mod_eq_of_lt first] at begin
    omega
  · omega

/-- A refill from a position on loads the page of the row at the cursor, in which a row is
wanted.  Nothing that is computed for it leaves its range, and at every moment of it the
window holds at most a page.  If it does not fail, which only a row of another width than the
declared one brings about, the window then holds the whole page and the cursor yields its
row. -/
structure Refills (paging : Paging) (start : Position) (progress : Progress)
    (first : Position) : Prop where
  visited : paging.Visited start first.val
  divisor : 0 < paging.pageSize
  remainder : progress.cursor.position.val % paging.pageSize ≤ progress.cursor.position.val
  aligned : first.val =
    progress.cursor.position.val - progress.cursor.position.val % paging.pageSize
  sum : first.val + paging.pageSize < 2 ^ 64
  slice : first.val < min paging.rows.size (first.val + paging.pageSize)
  moments : ∀ {earlier later : List Window.Change},
    progress.window.fillChanges first paging.columns (paging.page first) = earlier ++ later →
      ∃ moment, progress.window.Undergoes earlier moment ∧
        moment.Undergoes later (paging.step progress).progress.window ∧
        moment.rows.size ≤ paging.pageSize
  outcome :
    match paging.step progress with
    | .next next =>
        next.loaded = progress.loaded.push first ∧
          next.window.start = first ∧
          next.window.rows.size = min paging.pageSize (paging.rows.size - first.val) ∧
          next.cursor.next next.window =
            .ok (.row next.cursor.position, next.cursor.advance)
    | .done _ ending =>
        ∃ fault, ending = .failed fault ∧
          ∃ cells ∈ paging.page first, cells.length ≠ paging.columns

theorem Reached.refills (few : paging.rows.size < 2 ^ 63) (positive : 0 < paging.pageSize)
    (sized : paging.pageSize < 2 ^ 64) (reached : paging.Reached start progress)
    (small : progress.window.rows.size ≤ paging.pageSize) {first : Position}
    (refilled : paging.refill? progress = some first) :
    paging.Refills start progress first := by
  obtain ⟨⟨more, missing⟩, page⟩ := reached.refill?_eq_some_iff.mp refilled
  obtain ⟨within, inside⟩ := not_exhausted_iff.mp more
  have bounded : paging.rows.size < 2 ^ 64 := by omega
  have wanted := reached.lt_stop more
  have position := reached.position
  have aligned : first.val = progress.cursor.position.val -
      progress.cursor.position.val % paging.pageSize := by rw [page]; rfl
  have number : first.val / paging.pageSize =
      progress.cursor.position.val / paging.pageSize := by
    rw [page, pageStart_val, pageBegin, Nat.mul_div_cancel_left _ positive]
  exact {
    visited := by
      rw [Visited, Visits, number]
      exact ⟨by omega, Nat.div_le_div_right (by omega), Nat.div_le_div_right (by omega)⟩
    divisor := positive
    remainder := Nat.mod_le _ _
    aligned := aligned
    sum := by
      rw [page]
      exact pageStart_add_pageSize_lt few sized inside
    slice := by omega
    moments := by
      intro earlier later split
      have filled := Window.undergoes_fillChanges progress.window first paging.columns
        (paging.page first)
      rw [← window_step_of_refill? refilled, split] at filled
      obtain ⟨moment, before, after⟩ := filled.split
      have most := Window.size_rows_le_of_fillChanges split before
      rw [length_page] at most
      exact ⟨moment, before, after, by omega⟩
    outcome := by
      by_cases fits : paging.PageFits first
      · obtain ⟨loaded, next, held⟩ :=
          load_of_fits bounded positive reached inside missing page fits
        rw [step_of_missing reached within missing, loaded]
        refine ⟨rfl, rfl, ?_, next.next_of_held held⟩
        rw [← length_page]
        exact List.length_map _
      · obtain ⟨row, window, -, -, failed⟩ :=
          reached.step_of_blocked bounded positive ⟨more, missing, page ▸ fits⟩ page
        rw [failed]
        refine ⟨_, rfl, ?_⟩
        obtain ⟨cells, wide⟩ := Classical.not_forall.mp fits
        obtain ⟨member, width⟩ := Classical.not_imp.mp wide
        exact ⟨cells, member, width⟩ }

/-- The refills on the way to a state, and at it, go through the pages one after the other
from that of the first row on. -/
theorem exists_refills_eq (positive : 0 < paging.pageSize) {window : Window}
    {states : List Progress} {last : Progress}
    (leads : paging.Leads (opening window start) states last)
    (reached : paging.Reached start last) :
    ∃ count, last.loaded.size ≤ count ∧
      ((states ++ [last]).filterMap paging.refill?).map Fin.val =
        (List.range' (start.val / paging.pageSize) count).map (paging.pageSize * ·) := by
  have loaded : last.loaded.toList = states.filterMap paging.refill? := leads.loaded
  have before : (states.filterMap paging.refill?).map Fin.val = _ :=
    loaded ▸ reached.loaded
  rw [List.filterMap_append, List.map_append, before]
  cases refilled : paging.refill? last with
  | none =>
      rw [List.filterMap_cons_none refilled]
      exact ⟨_, Nat.le_refl _, List.append_nil _⟩
  | some first =>
      obtain ⟨⟨more, missing⟩, page⟩ := reached.refill?_eq_some_iff.mp refilled
      obtain ⟨-, inside⟩ := not_exhausted_iff.mp more
      have next : first.val = paging.pageBegin
          (start.val / paging.pageSize + last.loaded.size) := by
        rw [page, pageStart_val, reached.page_of_missing positive inside missing]
      refine ⟨last.loaded.size + 1, Nat.le_succ _, ?_⟩
      rw [List.filterMap_cons_some refilled, List.filterMap_nil, List.map_cons, List.map_nil,
        next, List.range'_1_concat, List.map_append]
      rfl

section Multiples

variable {size first count : Nat} {positions : List Position}

private theorem nodup_of_multiples (positive : 0 < size)
    (multiples : positions.map Fin.val = (List.range' first count).map (size * ·)) :
    positions.Nodup := by
  have increasing : (positions.map Fin.val).Pairwise (· < ·) := by
    rw [multiples, List.pairwise_map]
    exact (List.pairwise_lt_range' 1).imp fun before =>
      Nat.mul_lt_mul_of_pos_left before positive
  rw [List.pairwise_map] at increasing
  exact increasing.imp fun before same => Nat.ne_of_lt before (congrArg Fin.val same)

private theorem exists_position_of_multiples
    (multiples : positions.map Fin.val = (List.range' first count).map (size * ·))
    (some : 0 < count) :
    ∃ position ∈ positions, position.val = size * (first + count - 1) := by
  have last : first + count - 1 ∈ List.range' first count :=
    List.mem_range'_1.mpr ⟨by omega, by omega⟩
  have among := List.mem_map_of_mem (f := (size * ·)) last
  rw [← multiples] at among
  exact List.mem_map.mp among

end Multiples

/-- The states of a run, of which the last one finds the end or cannot load a page. -/
theorem exists_states (bounded : paging.rows.size < 2 ^ 64) (positive : 0 < paging.pageSize)
    {window : Window} (opened : window.isDisposed = false) (empty : window.rows = #[])
    (start : Position) :
    ∃ states last final ending,
      paging.Leads (opening window start) states last ∧
        paging.step last = .done final ending ∧
        (∀ state ∈ states ++ [last], paging.Reached start state) ∧
        states.length ≤ 2 * paging.rows.size + 1 ∧
        (ending = .complete ∧ paging.Exhausted last ∨ ∃ fault, ending = .failed fault) := by
  obtain ⟨states, last, leads, along, reached, count, ends⟩ :=
    (Reached.initial paging start opened empty).exists_leads bounded positive
  have everywhere : ∀ state ∈ states ++ [last], paging.Reached start state :=
    List.forall_mem_append.mpr ⟨along, List.forall_mem_singleton.mpr reached⟩
  have most := paging.todo_le (opening window start)
  have steps : states.length ≤ 2 * paging.rows.size + 1 := by omega
  rcases ends with exhausted | blocked
  · exact ⟨states, last, _, _, leads, step_of_exhausted reached exhausted, everywhere, steps,
      .inl ⟨rfl, exhausted⟩⟩
  · obtain ⟨row, window, -, -, failed⟩ :=
      reached.step_of_blocked bounded positive blocked rfl
    exact ⟨states, last, _, _, leads, failed, everywhere, steps, .inr ⟨_, rfl⟩⟩

/-- The pages of all rows emitted have been loaded, and no other page, so that their number
is known. -/
theorem Reached.count_refills (positive : 0 < paging.pageSize)
    (reached : paging.Reached start progress) (exhausted : paging.Exhausted progress)
    (some : start.val < paging.stop start) {positions : List Position} {count : Nat}
    (loaded : progress.loaded.size ≤ count)
    (multiples : positions.map Fin.val =
      (List.range' (start.val / paging.pageSize) count).map (paging.pageSize * ·))
    (visited : ∀ position ∈ positions, paging.Visited start position.val) :
    start.val / paging.pageSize + count =
      (paging.stop start - 1) / paging.pageSize + 1 := by
  have emitted := reached.size_emitted_of_exhausted exhausted
  have least := reached.div_lt_of_emitted (by omega)
  have whole : start.val + progress.emitted.size = paging.stop start := by omega
  rw [whole] at least
  have after : start.val / paging.pageSize ≤ (paging.stop start - 1) / paging.pageSize :=
    Nat.div_le_div_right (by omega)
  obtain ⟨position, member, placed⟩ :=
    exists_position_of_multiples multiples (by omega)
  have within := (visited position member).2.2
  rw [placed, Nat.mul_div_cancel_left _ positive] at within
  omega

end Paging

namespace Program

private theorem pageSize_lt (settings : CommandLine.Settings) (input : String) :
    (settings.pageRequest input).pageSize < 2 ^ 64 := by
  change (settings.pageSize?.map Fin.val).getD CommandLine.defaultPageSize < 2 ^ 64
  cases settings.pageSize? with
  | none => decide
  | some size => exact size.isLt

/-- Paging through rows, ragged or not, whatever the page size, the name of the window and its
size.  The run takes at most two steps for every row and two more, and refills the window
from the page of the first row on, page by page and none twice, up to that of the last row
unless it fails.  All that is said of a refill holds of each, other steps leave the window
alone, and it never holds more than a page. -/
theorem run_page_loads_each_page_once {arguments : List String}
    {settings : CommandLine.Settings} {input : String} {contents : Source → Contents}
    {found : List (List Cell)} (asked : AsksForPages arguments settings input)
    (held : rows (.ofInput input) (contents (.ofInput input)) = .ok found)
    (few : found.length < 2 ^ 63) :
    let request := settings.pageRequest input
    let pageSize := request.pageSize
    let start := request.start
    let paging := pagingOf request found
    let stop := paging.stop start
    ∃ states last final ending,
      paging.Leads (Paging.opening (.empty request.window.name?
          request.window.sizeBytes.toNat) start) states last ∧
        paging.step last = .done final ending ∧
        ending ≠ .outOfSteps ∧
        states.length ≤ 2 * found.length + 1 ∧
        run ("page" :: arguments) contents = ofPaging (final, ending) ∧
        (∃ count, ((states ++ [last]).filterMap paging.refill?).map Fin.val =
            (List.range' (start.val / pageSize) count).map (pageSize * ·) ∧
          (ending = .complete → start.val < stop →
            start.val / pageSize + count = (stop - 1) / pageSize + 1)) ∧
        ((states ++ [last]).filterMap paging.refill?).Nodup ∧
        ∀ state ∈ states ++ [last], state.window.rows.size ≤ pageSize ∧
          match paging.refill? state with
          | some first => paging.Refills start state first
          | none => (paging.step state).progress.window = state.window := by
  intro request pageSize start paging stop
  have positive : 0 < paging.pageSize := asked.pageSize_pos
  have sized : paging.pageSize < 2 ^ 64 := pageSize_lt settings input
  have bounded : paging.rows.size < 2 ^ 64 := Nat.lt_trans few (by decide)
  obtain ⟨states, last, final, ending, leads, ended, everywhere, steps, ends⟩ :=
    Paging.exists_states bounded positive (rfl : (Window.empty request.window.name?
      request.window.sizeBytes.toNat).isDisposed = false) rfl start
  have reached : paging.Reached start last := everywhere last (by simp)
  have small := leads.size_rows_le (Nat.zero_le _)
  have refills : ∀ state ∈ states ++ [last], ∀ {first : Position},
      paging.refill? state = some first → paging.Refills start state first :=
    fun state member _ refilled => (everywhere state member).refills few positive sized
      (small state member) refilled
  obtain ⟨count, loaded, multiples⟩ := Paging.exists_refills_eq positive leads reached
  refine ⟨states, last, final, ending, leads, ended, ?_, steps, ?_, ⟨count, multiples, ?_⟩,
    Paging.nodup_of_multiples positive multiples, ?_⟩
  · rcases ends with ⟨rfl, -⟩ | ⟨fault, rfl⟩
    · exact nofun
    · exact nofun
  · have whole : paging.run _ start = (final, ending) :=
      leads.runSteps_eq ended (Nat.lt_succ_of_le steps)
    rw [asked.run, page_of_opened positive held (openWindow_of_nonneg asked.windowSize),
      whole]
  · intro complete some
    rcases ends with ⟨-, exhausted⟩ | ⟨fault, rfl⟩
    · refine reached.count_refills positive exhausted some loaded multiples ?_
      intro position member
      obtain ⟨state, among, refilled⟩ := List.mem_filterMap.mp member
      exact (refills state among refilled).visited
    · cases complete
  · intro state member
    refine ⟨small state member, ?_⟩
    cases refilled : paging.refill? state with
    | none => exact (Paging.step_of_refill?_eq_none refilled).1
    | some first => exact refills state member refilled

def threeRowsCells : List (List Cell) :=
  [[.integer 1, .string "a"], [.null, .blob [7]], [.integer (-3), .string ""]]

/-- Pages of two rows from the second row on, in which the first row comes along. -/
def fromSecond : CommandLine.Settings :=
  { input? := some "-", pageSize? := some 2, start? := some 1 }

theorem run_page_loads_each_page_once_of_threeRows :
    let paging := pagingOf (fromSecond.pageRequest "-") threeRowsCells
    ∃ states last final,
      paging.Leads (Paging.opening (.empty none Window.defaultSizeBytes) 1) states last ∧
        paging.step last = .done final .complete ∧
        ((states ++ [last]).filterMap paging.refill?).map Fin.val = [0, 2] := by
  intro paging
  have asked : AsksForPages ["-", "--page-size", "2", "--start", "1"] fromSecond "-" :=
    ⟨by rfl, rfl, by decide, by decide⟩
  have held : rows (.ofInput "-") (threeRows (.ofInput "-")) = .ok threeRowsCells := by rfl
  obtain ⟨states, last, final, ending, leads, ended, -, -, outcome, ⟨count, loaded, whole⟩,
    -⟩ := run_page_loads_each_page_once asked held (by decide)
  have success : (run ["page", "-", "--page-size", "2", "--start", "1"] threeRows).ending =
      .success := by
    rw [asked.run, page_of_widths asked.pageSize_pos asked.windowSize held (by decide)
      (by decide)]
  rw [outcome] at success
  cases ending with
  | complete =>
      have two : count = 2 := Nat.add_left_cancel (whole rfl (by decide))
      subst two
      exact ⟨states, last, final, leads, ended, loaded⟩
  | failed fault => cases success
  | outOfSteps => cases success

end Program

end PagedRows
