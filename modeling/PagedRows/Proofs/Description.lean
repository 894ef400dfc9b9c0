import PagedRows.Proofs.Census
import PagedRows.Proofs.Listing
import PagedRows.Proofs.SettingsRange

/-!
# Describing all rows

All rows are loaded at once into a window that is held while it describes itself.  So
the description fails for one reason only, which is that not all rows have the width of
the first, and otherwise it is that of a window with exactly these rows.
-/

namespace PagedRows

namespace Window

/-- The window with one reference more. -/
def retained (window : Window) : Window :=
  { window with references := window.references + 1 }

theorem isDisposed_retained (window : Window) : window.retained.isDisposed = false := by
  simp [isDisposed, retained]

namespace Action

private theorem run_discard {α : Type} (action : Action α) (window : Window) :
    (discard action).run window =
      match action.run window with
      | .ok _ after => .ok () after
      | .error fault after => .error fault after := by
  have bound : discard action = action >>= fun _ => pure () := map_eq_pure_bind _ action
  rw [bound, EStateM.run_bind]
  cases action.run window with
  | ok result after => rfl
  | error fault after => rfl

/-- Gives up a reference, however the action ends. -/
def releasing {α : Type} (action : Action α) : Action α :=
  fun window =>
    match action window with
    | .ok result after => .ok result after.release
    | .error fault after => .error fault after.release

private theorem run_releasing {α : Type} (action : Action α) (window : Window) :
    (releasing action).run window =
      match action.run window with
      | .ok result after => .ok result after.release
      | .error fault after => .error fault after.release :=
  rfl

theorem run_withReference_of_open {α : Type} {window : Window}
    (opened : window.isDisposed = false) (action : Action α) :
    (withReference action).run window =
      (releasing action).run window.retained := by
  have acquired : acquire.run window = .ok () window.retained :=
    @Change.run_action_of_allowed window .acquire opened
  have split : withReference action = acquire >>= fun _ => releasing action := rfl
  rw [split, EStateM.run_bind, acquired]

end Action

theorem addressable_filled (window : Window) (columns : Nat) {rows : List (List Cell)}
    (bounded : rows.length < 2 ^ 64) :
    (window.filled 0 columns rows).addressable = rows := by
  have whole : rows.take (2 ^ 64 - (0 : Position).val) = rows :=
    List.take_of_length_le (Nat.le_of_lt bounded)
  have same : Array.toList ∘ List.toArray = (id : List Cell → List Cell) := rfl
  simp only [addressable, filled, ← List.map_take, List.map_map, same, List.map_id, whole]

private theorem rectangular_filled {window : Window} (opened : window.isDisposed = false)
    (start : Position) {columns : Nat} {rows : List (List Cell)}
    (widths : ∀ cells ∈ rows, cells.length = columns) :
    (window.filled start columns rows).Rectangular where
  width := by
    intro stored member
    obtain ⟨cells, among, rfl⟩ := List.mem_map.mp (Array.mem_toList_iff.mpr member)
    rw [List.size_toArray]
    exact widths cells among
  dropped := by
    intro disposed
    have same : (window.filled start columns rows).isDisposed = window.isDisposed := rfl
    rw [same, opened] at disposed
    cases disposed

end Window

namespace Program

/-- All rows are described if they have the width of the first, and otherwise the first
of another width is the fault. -/
theorem describe_ends {window : Window} (opened : window.isDisposed = false)
    {found : List (List Cell)} (bounded : found.length < 2 ^ 64) :
    ((∀ index, ¬ Ragged (columns found) found index) ∧
      (describe found).run window =
        .ok (.ofMembers (window.filled 0 (columns found) found).summary)
          (window.filled 0 (columns found) found)) ∨
    ∃ row : Position, FirstRagged (columns found) found (fun _ => True) row.val ∧
      ∃ after, (describe found).run window =
        .error (raggedFault (columns found) found row) after := by
  have first : (0 : Position).val = 0 := rfl
  have addressable : (0 : Position).val + found.length ≤ 2 ^ 64 := by
    rw [first]
    omega
  rcases Window.Action.run_fill_cases opened 0 (columns found) found addressable with
    ⟨widths, filled⟩ | ⟨index, cells, inside, held, width, before, refused⟩
  · left
    refine ⟨forall_not_ragged_iff.mpr widths, ?_⟩
    have told := Window.infoJson_of_rectangular (Window.rectangular_filled opened 0 widths)
    simp only [describe, EStateM.run_bind, Window.Action.run_discard, filled,
      EStateM.run_get, told]
    rfl
  · right
    have placed : (0 : Position).val + index = index := by rw [first, Nat.zero_add]
    rw [← placed] at held
    refine ⟨⟨_, inside⟩, ⟨⟨cells, held, width⟩, trivial, ?_⟩,
      window.filled 0 (columns found) (found.take index), ?_⟩
    · rintro earlier sooner - ⟨other, stored, ragged⟩
      have sooner : earlier < index := by
        rw [← placed]
        exact sooner
      apply ragged
      apply before other
      apply List.mem_of_getElem? (i := earlier)
      rw [List.getElem?_take_of_lt sooner]
      exact stored
    · rw [raggedFault_of_held held]
      simp only [describe, EStateM.run_bind, Window.Action.run_discard, refused]

/-- What is said of all rows, in a window that is opened for them. -/
def description (request : CommandLine.WindowRequest) (found : List (List Cell)) :
    List (String × Json) :=
  ((Window.empty request.name? request.sizeBytes.toNat).filled 0 (columns found)
    found).summary

private theorem info_of_opened {input : String} {request : CommandLine.WindowRequest}
    {contents : Contents} {found : List (List Cell)} {window : Window}
    (held : rows (.ofInput input) contents = .ok found)
    (opened : openWindow request = .ok window) :
    info input request contents =
      match (Window.Action.withReference (describe found)).run window with
      | .ok said _ => { output := [said.print], ending := .success }
      | .error fault _ => fail fault := by
  cases ran : (Window.Action.withReference (describe found)).run window with
  | ok said after =>
      have result : Window.Action.withReference (describe found) window = _ := ran
      rw [info, held, opened, ok_bind, ok_bind, result]
  | error fault after =>
      have result : Window.Action.withReference (describe found) window = _ := ran
      rw [info, held, opened, ok_bind, ok_bind, result]

/-- The program describes the rows on one line, unless a row is ragged: then it prints
nothing. -/
theorem info_ends {input : String} {request : CommandLine.WindowRequest}
    {contents : Contents} {found : List (List Cell)} (nonneg : 0 ≤ request.sizeBytes)
    (held : rows (.ofInput input) contents = .ok found)
    (bounded : found.length < 2 ^ 64) :
    (info input request contents =
        { output := [(Json.ofMembers (description request found)).print]
          ending := .success } ∧
      ∀ index, ¬ Ragged (columns found) found index) ∨
    ∃ row : Position, FirstRagged (columns found) found (fun _ => True) row.val ∧
      info input request contents = fail (raggedFault (columns found) found row) := by
  have fresh : (Window.empty request.name? request.sizeBytes.toNat).isDisposed = false := rfl
  rw [info_of_opened held (openWindow_of_nonneg nonneg),
    Window.Action.run_withReference_of_open fresh, Window.Action.run_releasing]
  rcases describe_ends (Window.isDisposed_retained _) bounded with
    ⟨even, described⟩ | ⟨row, first, after, refused⟩
  · rw [described]
    exact .inl ⟨rfl, even⟩
  · rw [refused]
    exact .inr ⟨row, first, rfl⟩

/-- Arguments that give settings for a description, with an input and with a window that
can be opened. -/
structure AsksForInfo (arguments : List String) (settings : CommandLine.Settings)
    (input : String) : Prop where
  read : CommandLine.readSettings CommandLine.Subcommand.info.options
    CommandLine.Subcommand.info.takesInput false {} (arguments.map String.toList) =
      .ok (some settings)
  named : settings.input? = some input
  windowSize : 0 ≤ settings.windowSize?.getD (Window.defaultSizeBytes : Int)

namespace AsksForInfo

variable {arguments : List String} {settings : CommandLine.Settings} {input : String}

theorem request (asked : AsksForInfo arguments settings input) :
    Program.request ("info" :: arguments) = .ok (.info input settings.windowRequest) := by
  apply @request_of_settings .info nofun arguments settings _ asked.read
  simp only [CommandLine.request, asked.named]

theorem run (asked : AsksForInfo arguments settings input) (contents : Source → Contents) :
    Program.run ("info" :: arguments) contents =
      info input settings.windowRequest (contents (.ofInput input)) := by
  have source : source? (.info input settings.windowRequest) = some (.ofInput input) := rfl
  simp only [Program.run, asked.request, source, Option.map_some, Option.getD_some, answer]

theorem sizeBytes_lt (asked : AsksForInfo arguments settings input) :
    settings.windowRequest.sizeBytes < 2 ^ 63 := by
  have range : settings.InRange := by
    apply CommandLine.readSettings_inRange _ asked.read
    intro size none
    cases none
  rw [CommandLine.Settings.windowRequest]
  cases given : settings.windowSize? with
  | none => exact (by decide : (Window.defaultSizeBytes : Int) < 2 ^ 63)
  | some size => exact (range size given).2

end AsksForInfo

end Program

end PagedRows
