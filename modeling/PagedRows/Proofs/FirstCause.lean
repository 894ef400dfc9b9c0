import PagedRows.Proofs.CellValues
import PagedRows.Proofs.Description

/-!
# The first cause of failure

A request to page through rows or to describe them can fail for five causes, which are
looked for one after another.  The first that applies decides how the program ends, and
where none applies it succeeds.
-/

namespace PagedRows

namespace RowLines

private theorem kind_of_row_eq_error {line : List Char} {number : Nat} {fault : Fault}
    (refused : row line number = .error fault) : fault.kind = .usage := by
  cases read : Json.read line with
  | error flaw =>
      rw [row_of_error read] at refused
      cases refused
      rfl
  | ok value =>
      rw [row_of_ok read] at refused
      obtain ⟨inner, held, rfl⟩ := exists_of_mapError_eq_error refused
      have kind := Cell.kind_of_rowOfJson_eq_error held
      exact kind

/-- A text that holds no rows has been used wrongly, whatever is wrong with it. -/
theorem kind_of_read_eq_error {text : List Char} {fault : Fault}
    (refused : read text = .error fault) : fault.kind = .usage := by
  obtain ⟨line, number, refused⟩ := exists_row_of_read_eq_error refused
  exact kind_of_row_eq_error refused

end RowLines

namespace Program

/-- What can keep rows from being printed or described, in the order in which it is
looked for. -/
inductive Cause where
  /-- Pages of no rows are asked for. -/
  | emptyPages
  /-- The source cannot be read, or it holds no text. -/
  | unreadable
  /-- The text holds something else than rows. -/
  | malformed
  /-- A window of a negative size is asked for. -/
  | negativeSize
  /-- A row that is loaded has another width than the first of all. -/
  | ragged
deriving DecidableEq

namespace Cause

def all : List Cause :=
  [emptyPages, unreadable, malformed, negativeSize, ragged]

/-- How many causes are looked for before. -/
def rank : Cause → Nat
  | emptyPages => 0
  | unreadable => 1
  | malformed => 2
  | negativeSize => 3
  | ragged => 4

def kind : Cause → Fault.Kind
  | emptyPages => .usage
  | unreadable => .io
  | malformed => .usage
  | negativeSize => .invalidConstruction
  | ragged => .preconditionViolation

def status : Cause → Nat
  | emptyPages => 2
  | unreadable => 3
  | malformed => 2
  | negativeSize => 4
  | ragged => 7

private theorem exitCode_kind (cause : Cause) : cause.kind.exitCode = cause.status := by
  cases cause <;> rfl

private theorem getElem?_rank (cause : Cause) : all[cause.rank]? = some cause := by
  cases cause <;> rfl

private theorem eq_of_rank_eq {cause other : Cause} (same : cause.rank = other.rank) :
    cause = other := by
  have mine := cause.getElem?_rank
  rw [same, other.getElem?_rank] at mine
  exact (Option.some.inj mine).symm

end Cause

/-- The input and the window of a request that loads rows. -/
def loads? : CommandLine.Request → Option (String × CommandLine.WindowRequest)
  | .page paging => some (paging.input, paging.window)
  | .info input window => some (input, window)
  | _ => none

/-- The rows that a request loads, if nothing goes wrong. -/
def Loads (request : CommandLine.Request) (rowCount index : Nat) : Prop :=
  match request with
  | .page paging =>
      Visits paging.pageSize paging.start.val
        (min rowCount (paging.start.val + paging.limit)) index
  | _ => True

/-- What a source holds is this text. -/
def Decodes (contents : Contents) (content : String) : Prop :=
  ∃ bytes, contents = .ok bytes ∧ String.fromUTF8? bytes = some content

theorem Decodes.eq {contents : Contents} {content other : String}
    (decoded : Decodes contents content) (too : Decodes contents other) : content = other := by
  obtain ⟨bytes, held, read⟩ := decoded
  obtain ⟨others, heldToo, readToo⟩ := too
  rw [held] at heldToo
  cases heldToo
  rw [read] at readToo
  exact Option.some.inj readToo

theorem Decodes.utf8ByteSize_lt {contents : Contents} {content : String}
    (decoded : Decodes contents content)
    (sized : ∀ bytes, contents = .ok bytes → bytes.size < 2 ^ 63) :
    content.utf8ByteSize < 2 ^ 63 := by
  obtain ⟨bytes, held, read⟩ := decoded
  have small := sized bytes held
  rw [String.fromUTF8?] at read
  split at read
  · cases read
    exact small
  · cases read

/-- Whether there is a cause, given what the source holds. -/
def Cause.Applies (request : CommandLine.Request) (window : CommandLine.WindowRequest)
    (contents : Contents) : Cause → Prop
  | emptyPages => ∃ paging, request = .page paging ∧ paging.pageSize = 0
  | unreadable => ∀ content, ¬ Decodes contents content
  | malformed => ∃ content fault, Decodes contents content ∧
      RowLines.read content.toList = .error fault
  | negativeSize => window.sizeBytes < 0
  | ragged => ∃ content found index, Decodes contents content ∧
      RowLines.read content.toList = .ok found ∧ Loads request found.length index ∧
      Ragged (columns found) found index

/-- The first cause that applies. -/
structure Cause.IsFirst (request : CommandLine.Request)
    (window : CommandLine.WindowRequest) (contents : Contents) (cause : Cause) : Prop where
  applies : cause.Applies request window contents
  least : ∀ earlier : Cause, earlier.rank < cause.rank →
    ¬ earlier.Applies request window contents

theorem Cause.IsFirst.eq {request : CommandLine.Request}
    {window : CommandLine.WindowRequest} {contents : Contents} {cause other : Cause}
    (first : cause.IsFirst request window contents)
    (too : other.IsFirst request window contents) : cause = other := by
  rcases Nat.lt_trichotomy cause.rank other.rank with before | equal | behind
  · exact (too.least cause before first.applies).elim
  · exact eq_of_rank_eq equal
  · exact (first.least other behind too.applies).elim

/-- What has been printed when a row is found to be ragged: the pages before its own, and
nothing of a description. -/
def printedBefore (request : CommandLine.Request) (found : List (List Cell)) (row : Nat) :
    List String :=
  match request with
  | .page paging =>
      listing found paging.start.val (paging.pageSize * (row / paging.pageSize))
  | _ => []

/-- An outcome that is due to a cause. -/
structure Cause.Decides (request : CommandLine.Request) (contents : Contents)
    (outcome : Outcome) (cause : Cause) : Prop where
  failed : ∃ fault, outcome.ending = .failure fault ∧ fault.kind = cause.kind
  status : outcome.ending.status = cause.status
  silent : cause ≠ .ragged → outcome.output = []
  printed : cause = .ragged → ∃ content found row, Decodes contents content ∧
    RowLines.read content.toList = .ok found ∧
    FirstRagged (columns found) found (Loads request found.length) row ∧
    outcome.output = printedBefore request found row

private theorem openWindow_of_negative {request : CommandLine.WindowRequest}
    (negative : request.sizeBytes < 0) :
    ∃ fault, openWindow request = .error fault ∧ fault.kind = .invalidConstruction := by
  rw [openWindow]
  cases given : request.sizeBytes with
  | ofNat size =>
      rw [given] at negative
      exact (Int.not_lt.mpr (Int.natCast_nonneg size) negative).elim
  | negSucc size => exact ⟨_, rfl, rfl⟩

/-- An outcome is decided by the first cause that applies; where none applies it is a
success, with one line if a description was asked for. -/
def Settled (request : CommandLine.Request) (window : CommandLine.WindowRequest)
    (contents : Contents) (outcome : Outcome) : Prop :=
  (∃ cause : Cause, cause.IsFirst request window contents ∧
    cause.Decides request contents outcome) ∨
  ((∀ cause : Cause, ¬ cause.Applies request window contents) ∧
    outcome.ending = .success ∧
    ∀ input, request = .info input window → ∃ line, outcome.output = [line])

theorem Cause.Decides.of_fail {request : CommandLine.Request} {contents : Contents}
    {cause : Cause} {fault : Fault} (other : cause ≠ .ragged) (kind : fault.kind = cause.kind) :
    cause.Decides request contents (fail fault) where
  failed := ⟨fault, rfl, kind⟩
  status := (congrArg Fault.Kind.exitCode kind).trans cause.exitCode_kind
  silent := fun _ => rfl
  printed := fun ragged => (other ragged).elim

private theorem text_cases (source : Source) (contents : Contents) :
    (∃ content, Decodes contents content ∧ text source contents = .ok content) ∨
      ((∀ content, ¬ Decodes contents content) ∧
        ∃ fault, text source contents = .error fault ∧ fault.kind = .io) := by
  have kind (cause : String) : (readFault source cause).kind = .io := by
    cases source <;> rfl
  cases contents with
  | error cause =>
      refine .inr ⟨?_, _, rfl, kind cause⟩
      rintro content ⟨bytes, impossible, -⟩
      cases impossible
  | ok bytes =>
      cases decoded : String.fromUTF8? bytes with
      | some content =>
          refine .inl ⟨content, ⟨bytes, rfl, decoded⟩, ?_⟩
          rw [text, decoded]
      | none =>
          refine .inr ⟨?_, readFault source "the contents are not valid UTF-8", ?_, kind _⟩
          · rintro content ⟨others, same, decodedToo⟩
            cases same
            rw [decoded] at decodedToo
            cases decodedToo
          · rw [text, decoded]

section Stages

variable {request : CommandLine.Request} {input : String}
  {window : CommandLine.WindowRequest} {contents : Contents}
  (loads : loads? request = some (input, window))
  (filledPages : ∀ paging, request = .page paging → paging.pageSize ≠ 0)

include loads filledPages

private theorem run_of_loads {arguments : List String} {sources : Source → Contents}
    (parsed : Program.request arguments = .ok request) :
    run arguments sources = answer request (sources (.ofInput input)) := by
  have source : source? request = some (.ofInput input) := by
    cases request with
    | page paging =>
        cases loads
        exact if_neg (filledPages paging rfl)
    | info other asked =>
        cases loads
        rfl
    | _ => cases loads
  rw [run, parsed]
  simp only [source, Option.map_some, Option.getD_some]

theorem answer_of_unread {fault : Fault}
    (failed : rows (.ofInput input) contents = .error fault) :
    answer request contents = fail fault := by
  cases request with
  | page paging =>
      cases loads
      rw [answer, page, if_neg (filledPages paging rfl), failed]
      rfl
  | info other asked =>
      cases loads
      rw [answer, info, failed]
      rfl
  | _ => cases loads

theorem answer_of_unopened {found : List (List Cell)} {fault : Fault}
    (held : rows (.ofInput input) contents = .ok found)
    (failed : openWindow window = .error fault) : answer request contents = fail fault := by
  cases request with
  | page paging =>
      cases loads
      rw [answer, page, if_neg (filledPages paging rfl), held, failed]
      rfl
  | info other asked =>
      cases loads
      rw [answer, info, held, failed]
      rfl
  | _ => cases loads

/-- With rows and a window, only a ragged row is left to fail for. -/
theorem answer_of_opened {found : List (List Cell)}
    (held : rows (.ofInput input) contents = .ok found) (nonneg : 0 ≤ window.sizeBytes)
    (bounded : found.length < 2 ^ 64) :
    ((∀ index, Loads request found.length index → ¬ Ragged (columns found) found index) ∧
      (answer request contents).ending = .success ∧
      ∀ other, request = .info other window →
        ∃ line, (answer request contents).output = [line]) ∨
    ∃ row : Position,
      FirstRagged (columns found) found (Loads request found.length) row.val ∧
      answer request contents =
        { output := printedBefore request found row.val
          ending := .failure (raggedFault (columns found) found row) } := by
  cases request with
  | page paging =>
      cases loads
      have positive := Nat.pos_of_ne_zero (filledPages paging rfl)
      rcases page_ends positive nonneg held bounded with ⟨done, even⟩ | ⟨row, first, failed⟩
      · refine .inl ⟨even, by rw [answer, done], ?_⟩
        intro other impossible
        cases impossible
      · exact .inr ⟨row, first, failed⟩
  | info other asked =>
      cases loads
      rcases info_ends nonneg held bounded with ⟨done, even⟩ | ⟨row, first, failed⟩
      · refine .inl ⟨fun index _ => even index, by rw [answer, done], ?_⟩
        intro other _
        exact ⟨_, by rw [answer, done]⟩
      · exact .inr ⟨row, first, failed⟩
  | _ => cases loads

omit loads in
theorem not_emptyPages : ¬ Cause.emptyPages.Applies request window contents := by
  rintro ⟨paging, asked, empty⟩
  exact filledPages paging asked empty

private theorem settled_of_unreadable {fault : Fault}
    (none : ∀ content, ¬ Decodes contents content)
    (failed : text (.ofInput input) contents = .error fault) (kind : fault.kind = .io) :
    Settled request window contents (answer request contents) := by
  refine .inl ⟨.unreadable, ⟨none, ?_⟩, ?_⟩
  · intro earlier sooner
    cases earlier with
    | emptyPages => exact not_emptyPages filledPages
    | _ => exact absurd sooner (by decide)
  · have unread : rows (.ofInput input) contents = .error fault := by
      rw [rows, failed]
      rfl
    rw [answer_of_unread loads filledPages unread]
    exact .of_fail (by decide) kind

private theorem settled_of_malformed {content : String} {fault : Fault}
    (decoded : Decodes contents content)
    (held : text (.ofInput input) contents = .ok content)
    (refused : RowLines.read content.toList = .error fault) :
    Settled request window contents (answer request contents) := by
  refine .inl ⟨.malformed, ⟨⟨content, fault, decoded, refused⟩, ?_⟩, ?_⟩
  · intro earlier sooner
    cases earlier with
    | emptyPages => exact not_emptyPages filledPages
    | unreadable => exact fun none => none content decoded
    | _ => exact absurd sooner (by decide)
  · have unread : rows (.ofInput input) contents = .error fault := by
      rw [rows, held]
      exact refused
    rw [answer_of_unread loads filledPages unread]
    exact .of_fail (by decide) (RowLines.kind_of_read_eq_error refused)

private theorem settled_of_loaded {content : String} {found : List (List Cell)}
    (decoded : Decodes contents content)
    (held : text (.ofInput input) contents = .ok content)
    (accepted : RowLines.read content.toList = .ok found) (bounded : found.length < 2 ^ 64) :
    Settled request window contents (answer request contents) := by
  have loaded : rows (.ofInput input) contents = .ok found := by
    rw [rows, held]
    exact accepted
  have before (earlier : Cause) (sooner : earlier.rank < 3) :
      ¬ earlier.Applies request window contents := by
    cases earlier with
    | emptyPages => exact not_emptyPages filledPages
    | unreadable => exact fun none => none content decoded
    | malformed =>
        rintro ⟨other, fault, decodedToo, refused⟩
        rw [← decoded.eq decodedToo, accepted] at refused
        cases refused
    | _ => exact absurd sooner (by decide)
  by_cases negative : window.sizeBytes < 0
  · refine .inl ⟨.negativeSize, ⟨negative, before⟩, ?_⟩
    obtain ⟨fault, unopened, kind⟩ := openWindow_of_negative negative
    rw [answer_of_unopened loads filledPages loaded unopened]
    exact .of_fail (by decide) kind
  rcases answer_of_opened loads filledPages loaded (Int.not_lt.mp negative) bounded with
    ⟨even, success, single⟩ | ⟨row, first, failed⟩
  · refine .inr ⟨?_, success, single⟩
    intro cause
    cases cause with
    | emptyPages | unreadable | malformed => exact before _ (by decide)
    | negativeSize => exact negative
    | ragged =>
        rintro ⟨other, others, index, decodedToo, acceptedToo, loadedRow, ragged⟩
        rw [← decoded.eq decodedToo, accepted] at acceptedToo
        cases acceptedToo
        exact even index loadedRow ragged
  · refine .inl ⟨.ragged, ⟨⟨content, found, row.val, decoded, accepted, first.visited,
      first.ragged⟩, ?_⟩, ?_⟩
    · intro earlier sooner
      cases earlier with
      | emptyPages | unreadable | malformed => exact before _ (by decide)
      | negativeSize => exact negative
      | ragged => exact absurd sooner (by decide)
    · rw [failed]
      exact {
        failed := ⟨_, rfl, rfl⟩
        status := rfl
        silent := fun other => (other rfl).elim
        printed := fun _ => ⟨content, found, row.val, decoded, accepted, first, rfl⟩ }

end Stages

private theorem run_of_emptyPages {arguments : List String} {sources : Source → Contents}
    {paging : CommandLine.PageRequest}
    (parsed : Program.request arguments = .ok (.page paging)) (empty : paging.pageSize = 0) :
    run arguments sources = fail (Fault.new .usage "--page-size must be at least 1") := by
  rw [run, parsed]
  simp only [answer, page, if_pos empty]

theorem run_settled {arguments : List String} {sources : Source → Contents}
    {request : CommandLine.Request} {input : String} {window : CommandLine.WindowRequest}
    (parsed : Program.request arguments = .ok request)
    (loads : loads? request = some (input, window))
    (sized : ∀ bytes, sources (.ofInput input) = .ok bytes → bytes.size < 2 ^ 63) :
    Settled request window (sources (.ofInput input)) (run arguments sources) := by
  by_cases some : Cause.emptyPages.Applies request window (sources (.ofInput input))
  · refine .inl ⟨.emptyPages, ⟨some, nofun⟩, ?_⟩
    obtain ⟨paging, rfl, empty⟩ := some
    rw [run_of_emptyPages parsed empty]
    exact .of_fail (by decide) rfl
  have filledPages (paging : CommandLine.PageRequest) (asked : request = .page paging) :
      paging.pageSize ≠ 0 := fun empty => some ⟨paging, asked, empty⟩
  rw [run_of_loads loads filledPages parsed]
  rcases text_cases (.ofInput input) (sources (.ofInput input)) with
    ⟨content, decoded, held⟩ | ⟨none, fault, failed, kind⟩
  · cases read : RowLines.read content.toList with
    | error fault => exact settled_of_malformed loads filledPages decoded held read
    | ok found =>
        have rows := RowLines.length_read_le read
        have bytes := length_le_utf8ByteSize content
        have small := decoded.utf8ByteSize_lt sized
        exact settled_of_loaded loads filledPages decoded held read (by omega)
  · exact settled_of_unreadable loads filledPages none failed kind

/-- A run that loads rows, to print or to describe them, is decided by the first cause
that applies: it fails with the kind and the status of that cause, and prints nothing but
the pages before a ragged row.  Where no cause applies it succeeds.  So it fails with four
kinds of fault only, and a description is one line or nothing. -/
theorem run_ends_by_first_cause {arguments : List String} {sources : Source → Contents}
    {request : CommandLine.Request} {input : String} {window : CommandLine.WindowRequest}
    (parsed : Program.request arguments = .ok request)
    (loads : loads? request = some (input, window))
    (sized : ∀ bytes, sources (.ofInput input) = .ok bytes → bytes.size < 2 ^ 63) :
    let contents := sources (.ofInput input)
    let outcome := run arguments sources
    (∀ cause : Cause, cause.IsFirst request window contents →
      cause.Decides request contents outcome) ∧
    ((∀ cause : Cause, ¬ cause.Applies request window contents) →
      outcome.ending = .success ∧ outcome.ending.status = 0) ∧
    (outcome.ending = .success ∨ ∃ fault, outcome.ending = .failure fault ∧
      fault.kind ∈ [.usage, .io, .invalidConstruction, .preconditionViolation]) ∧
    (request = .info input window →
      if outcome.ending = .success then ∃ line, outcome.output = [line]
      else outcome.output = []) := by
  intro contents outcome
  rcases run_settled parsed loads sized with
    ⟨cause, first, decided⟩ | ⟨none, success, single⟩
  · obtain ⟨fault, failed, kind⟩ := decided.failed
    refine ⟨?_, ?_, .inr ⟨fault, failed, ?_⟩, ?_⟩
    · intro other firstToo
      rw [firstToo.eq first]
      exact decided
    · intro none
      exact (none cause first.applies).elim
    · rw [kind]
      cases cause <;> decide
    · rintro rfl
      have fails : outcome.ending ≠ .success := by
        intro success
        rw [success] at failed
        cases failed
      rw [if_neg fails]
      by_cases ragged : cause = .ragged
      · obtain ⟨content, found, row, -, -, -, printed⟩ := decided.printed ragged
        exact printed
      · exact decided.silent ragged
  · refine ⟨?_, ?_, .inl success, ?_⟩
    · intro cause first
      exact (none cause first.applies).elim
    · intro _
      exact ⟨success, congrArg Ending.status success⟩
    · intro asked
      rw [if_pos success]
      exact single input asked

/-- Rows of which the second is too long, for a window of a negative size. -/
def longSecond (_source : Source) : Contents :=
  .ok "[1]\n[2,3]\n".toUTF8

theorem run_ends_by_first_cause_of_longSecond :
    (run ["page", "--window-size", "-1", "-"] longSecond).output = [] ∧
      (run ["page", "--window-size", "-1", "-"] longSecond).ending.status = 4 ∧
      (run ["page", "--window-size", "-1", "-"] longSecond).ending ≠ .success := by
  have parsed : Program.request ["page", "--window-size", "-1", "-"] =
      .ok (.page
        { input := "-"
          window := { name? := none, sizeBytes := -1 }
          pageSize := 64
          start := 0
          limit := 2 ^ 64 - 1 }) := by rfl
  have sized : ∀ bytes, longSecond (.ofInput "-") = .ok bytes → bytes.size < 2 ^ 63 := by
    intro bytes held
    cases held
    decide
  obtain ⟨decides, -⟩ := run_ends_by_first_cause parsed rfl sized
  have decoded : Decodes (longSecond (.ofInput "-")) "[1]\n[2,3]\n" := ⟨_, rfl, by rfl⟩
  have decided := decides .negativeSize ⟨(by decide : (-1 : Int) < 0), by
    intro earlier sooner
    cases earlier with
    | emptyPages =>
        rintro ⟨paging, asked, empty⟩
        cases asked
        cases empty
    | unreadable => exact fun none => none _ decoded
    | malformed =>
        rintro ⟨content, fault, decodedToo, refused⟩
        cases decoded.eq decodedToo
        cases refused
    | _ => exact absurd sooner (by decide)⟩
  obtain ⟨fault, failed, -⟩ := decided.failed
  refine ⟨decided.silent nofun, decided.status, ?_⟩
  rw [failed]
  exact nofun

end Program

end PagedRows
