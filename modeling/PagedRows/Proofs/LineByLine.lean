import Mathlib.Data.List.TakeWhile
import PagedRows.Proofs.ReadLines

/-!
# Rows line by line

Rows are read from one line after another, up to the first line that is refused.  So the
rows of a text are those of its parts, and what is wrong with a part is wrong with the
whole, where only the number of the line is another.  White space at the ends of lines,
and lines that hold nothing else, make no difference to the rows.
-/

namespace PagedRows

namespace Text

/-- A line of nothing but white space. -/
def IsBlankLine (line : List Char) : Prop :=
  ∀ character ∈ line, isBlank character = true

theorem trim_eq_nil_iff {blank : Char → Bool} {text : List Char} :
    trim blank text = [] ↔ ∀ character ∈ text, blank character = true := by
  rw [trim, List.reverse_eq_nil_iff, List.dropWhile_eq_nil_iff]
  constructor
  · intro inner
    have back : ∀ character ∈ text.dropWhile blank, blank character = true :=
      fun character member => inner character (List.mem_reverse.mpr member)
    have front : ∀ character ∈ text.takeWhile blank, blank character = true :=
      fun _ member => List.mem_takeWhile_imp member
    have both := List.forall_mem_append.mpr ⟨front, back⟩
    rwa [List.takeWhile_append_dropWhile] at both
  · intro all character member
    have inside := List.mem_reverse.mp member
    exact all character ((List.dropWhile_sublist blank).subset inside)

private theorem trim_append_of_blank {blank : Char → Bool} {back : List Char} (text : List Char)
    (all : ∀ character ∈ back, blank character = true) :
    trim blank (text ++ back) = trim blank text := by
  have reversed : ∀ character ∈ back.reverse, blank character = true :=
    fun character member => all character (List.mem_reverse.mp member)
  rw [trim, trim, List.dropWhile_append]
  split
  next empty => rw [List.isEmpty_iff.mp empty, List.dropWhile_eq_nil_iff.mpr all]
  next => rw [List.reverse_append, List.dropWhile_append_of_pos reversed]

/-- A text with a carriage return put before every newline. -/
def withReturns (text : List Char) : List Char :=
  text.flatMap fun character => if character = '\n' then ['\r', '\n'] else [character]

/-- Lines with a carriage return at the end of each but the last. -/
def returned : List (List Char) → List (List Char)
  | [] => []
  | [last] => [last]
  | line :: next :: lines => (line ++ ['\r']) :: returned (next :: lines)

private theorem lines_withReturns (text : List Char) :
    lines (withReturns text) = returned (lines text) := by
  induction text with
  | nil => rfl
  | cons character text induction =>
      obtain ⟨line, rest, found⟩ := exists_lines_eq_cons text
      rw [found] at induction
      by_cases newline : character = '\n'
      · subst newline
        have opened : lines (withReturns ('\n' :: text)) =
            ['\r'] :: lines (withReturns text) := rfl
        rw [opened, induction, lines_newline, found]
        rfl
      · have shown : withReturns (character :: text) = character :: withReturns text := by
          rw [withReturns, List.flatMap_cons, if_neg newline]
          rfl
        rw [shown, lines_cons, lines_cons, induction, found, consLine_cons newline]
        cases rest with
        | nil => exact consLine_cons newline line []
        | cons next rest => exact consLine_cons newline _ _

/-- The lines of a text, without an empty one that a newline at the end opens. -/
def properLines (text : List Char) : List (List Char) :=
  if (lines text).getLast? = some [] then (lines text).dropLast else lines text

private theorem lines_eq_properLines (text : List Char) :
    lines text = properLines text ∨ lines text = properLines text ++ [[]] := by
  rw [properLines]
  split
  next opened =>
    right
    obtain ⟨front, found⟩ := List.getLast?_eq_some_iff.mp opened
    rw [found, List.dropLast_concat]
  next => exact .inl rfl

/-- Lines into which blank ones have been inserted. -/
inductive Spaced : List (List Char) → List (List Char) → Prop
  | none : Spaced [] []
  | kept (line : List Char) {lines spaced : List (List Char)} :
      Spaced lines spaced → Spaced (line :: lines) (line :: spaced)
  | inserted {blank : List Char} {lines spaced : List (List Char)} :
      IsBlankLine blank → Spaced lines spaced → Spaced lines (blank :: spaced)

end Text

namespace RowLines

open Text

theorem readLines_properLines (text : List Char) (number : Nat) :
    readLines (properLines text) number = readLines (lines text) number := by
  rcases lines_eq_properLines text with whole | opened
  · rw [← whole]
  · rw [opened, readLines_append]
    cases readLines (properLines text) number with
    | error fault => rfl
    | ok rows => exact congrArg Except.ok (List.append_nil rows).symm

/-- How a message names a line, the number of which is left open. -/
inductive Wording : (Nat → String) → Prop
  | malformed : Wording fun number => s!"invalid JSON on line {number}"
  | row (rest : String) : Wording fun number => s!"line {number}: " ++ rest

/-- A line that holds something, but no row. -/
structure Refused (line : List Char) : Prop where
  present : ¬IsBlankLine line
  noRow : ∀ value, Json.read (trim isBlank line) = .ok value →
    ∀ cells, Cell.rowOfJson value ≠ .ok cells

/-- The number of the first line that is refused. -/
def FirstRefused (lines : List (List Char)) (number : Nat) : Prop :=
  ∃ front line back, lines = front ++ line :: back ∧ front.length + 1 = number ∧
    (∀ earlier ∈ front, ¬Refused earlier) ∧ Refused line

theorem FirstRefused.head {line : List Char} (refused : Refused line)
    (lines : List (List Char)) : FirstRefused (line :: lines) 1 :=
  ⟨[], line, lines, rfl, rfl, nofun, refused⟩

theorem FirstRefused.cons {line : List Char} {lines : List (List Char)} {number : Nat}
    (first : FirstRefused lines number) (accepted : ¬Refused line) :
    FirstRefused (line :: lines) (number + 1) := by
  obtain ⟨front, refusedLine, back, rfl, counted, earlier, refused⟩ := first
  refine ⟨line :: front, refusedLine, back, rfl, ?_, ?_, refused⟩
  · rw [List.length_cons, counted]
  · exact List.forall_mem_cons.mpr ⟨accepted, earlier⟩

/-- Whatever number is given, the result is a fault that names a line so many lines later,
and all else about the fault is the same. -/
def FailsAfter {α : Type} (before : Nat) (result : Nat → Except Fault α) : Prop :=
  ∃ (fault : Fault) (wording : Nat → String), Wording wording ∧
    ∀ number, result number = .error (fault.withMessage (wording (number + before)))

private theorem row_cases (line : List Char) :
    (∃ value cells, Json.read line = .ok value ∧ Cell.rowOfJson value = .ok cells ∧
      ∀ number, row line number = .ok cells) ∨
    FailsAfter 0 (row line) := by
  cases read : Json.read line with
  | error flaw =>
      right
      exact ⟨(Fault.ofKind .usage).withCause flaw.describe, _, .malformed, row_of_error read⟩
  | ok value =>
      cases held : Cell.rowOfJson value with
      | error fault =>
          right
          refine ⟨fault, _, .row (fault.message?.getD "invalid row"), fun number => ?_⟩
          rw [row_of_ok read, held]
          rfl
      | ok cells =>
          left
          refine ⟨value, cells, rfl, held, fun number => ?_⟩
          rw [row_of_ok read, held]
          rfl

theorem rowsOfLine_cases (line : List Char) :
    (¬Refused line ∧ ∃ found, ∀ number, rowsOfLine line number = .ok found) ∨
    (Refused line ∧ FailsAfter 0 (rowsOfLine line)) := by
  by_cases blank : trim isBlank line = []
  · left
    have skipped : IsBlankLine line := trim_eq_nil_iff.mp blank
    exact ⟨fun refused => refused.present skipped, [], rowsOfLine_of_blank blank⟩
  · rcases row_cases (trim isBlank line) with ⟨value, cells, read, held, done⟩ | failed
    · left
      refine ⟨fun refused => refused.noRow value read cells held, [cells], fun number => ?_⟩
      rw [rowsOfLine_of_present blank, done]
      rfl
    · right
      obtain ⟨fault, wording, worded, failed⟩ := failed
      have present : ¬IsBlankLine line := fun skipped => blank (trim_eq_nil_iff.mpr skipped)
      refine ⟨⟨present, ?_⟩, fault, wording, worded, fun number => ?_⟩
      · intro value read cells held
        have done : row (trim isBlank line) 1 = .ok cells :=
          row_eq_ok_iff.mpr ⟨value, read, held⟩
        rw [failed] at done
        cases done
      · rw [rowsOfLine_of_present blank, failed]
        rfl

/-- Lines are read completely, or up to the first that is refused, which is named. -/
theorem readLines_cases (lines : List (List Char)) :
    (∃ rows, ∀ number, readLines lines number = .ok rows) ∨
    ∃ before, FirstRefused lines (before + 1) ∧
      FailsAfter before (readLines lines) := by
  induction lines with
  | nil => exact .inl ⟨[], fun _ => rfl⟩
  | cons line lines induction =>
      rcases rowsOfLine_cases line with ⟨accepted, found, here⟩ | ⟨refused, failed⟩
      · rcases induction with ⟨rows, done⟩ | ⟨before, first, failed⟩
        · left
          refine ⟨found ++ rows, fun number => ?_⟩
          rw [readLines_cons_of_ok (here number), done]
          rfl
        · right
          obtain ⟨fault, wording, worded, failed⟩ := failed
          refine ⟨before + 1, first.cons accepted, fault, wording, worded, fun number => ?_⟩
          have shifted : number + 1 + before = number + (before + 1) := by omega
          rw [readLines_cons_of_ok (here number), failed, shifted]
          rfl
      · right
        obtain ⟨fault, wording, worded, failed⟩ := failed
        refine ⟨0, .head refused lines, fault, wording, worded, fun number => ?_⟩
        exact readLines_cons_of_error (failed number) lines

private theorem rowsOfLine_append_return (line : List Char) (number : Nat) :
    rowsOfLine (line ++ ['\r']) number = rowsOfLine line number := by
  have blank : ∀ character ∈ ['\r'], isBlank character = true :=
    fun character member => List.mem_singleton.mp member ▸ rfl
  rw [rowsOfLine, rowsOfLine, trim_append_of_blank line blank]

private theorem readLines_returned (lines : List (List Char)) (number : Nat) :
    readLines (returned lines) number = readLines lines number := by
  induction lines generalizing number with
  | nil => rfl
  | cons line lines induction =>
      cases lines with
      | nil => rfl
      | cons next lines =>
          rw [returned, readLines, readLines, rowsOfLine_append_return, induction]

/-- Blank lines change the numbers of other lines, but not the rows. -/
theorem toOption_readLines_of_spaced {lines spaced : List (List Char)}
    (inserted : Spaced lines spaced) (number other : Nat) :
    (readLines spaced other).toOption = (readLines lines number).toOption := by
  induction inserted generalizing number other with
  | none => rfl
  | kept line _ induction =>
      rcases rowsOfLine_cases line with ⟨-, found, here⟩ | ⟨-, fault, wording, -, failed⟩
      · rw [readLines_cons_of_ok (here other), readLines_cons_of_ok (here number),
          toOption_map, toOption_map, induction (number + 1) (other + 1)]
      · rw [readLines_cons_of_error (failed other), readLines_cons_of_error (failed number)]
        rfl
  | inserted blank _ induction =>
      rw [readLines_cons_of_blank (trim_eq_nil_iff.mpr blank)]
      exact induction number (other + 1)

/-- The lines of the second text are counted on from those of the first. -/
theorem read_append (first second : List Char) :
    read (first ++ '\n' :: second) = do
      let found ← read first
      let others ← readLines (lines second) (1 + (first.count '\n' + 1))
      return found ++ others := by
  rw [read_eq_readLines, read_eq_readLines, lines_append, readLines_append, length_lines]

theorem readLines_of_read_eq_ok {text : List Char} {rows : List (List Cell)}
    (accepted : read text = .ok rows) (number : Nat) :
    readLines (lines text) number = .ok rows := by
  rw [read_eq_readLines] at accepted
  rcases readLines_cases (lines text) with ⟨found, done⟩ | ⟨_, -, _, _, -, failed⟩
  · rw [done] at accepted
    rw [done, accepted]
  · rw [failed] at accepted
    cases accepted

/-- The fault of a text names a line, and it would name a later one in the same words. -/
theorem exists_wording_of_read_eq_error {text : List Char} {fault : Fault}
    (refused : read text = .error fault) :
    ∃ number wording, Wording wording ∧ FirstRefused (lines text) number ∧
      fault.message? = some (wording number) ∧
      ∀ offset, readLines (lines text) (1 + offset) =
        .error (fault.withMessage (wording (number + offset))) := by
  rw [read_eq_readLines] at refused
  rcases readLines_cases (lines text) with ⟨found, done⟩ | ⟨before, first, failed⟩
  · rw [done] at refused
    cases refused
  · obtain ⟨inner, wording, worded, failed⟩ := failed
    rw [failed, Nat.add_comm] at refused
    cases refused
    refine ⟨before + 1, wording, worded, first, rfl, fun offset => ?_⟩
    have shifted : 1 + offset + before = before + 1 + offset := by omega
    rw [failed, shifted]
    rfl

/-- The rows of two texts on lines of their own are those of the first, then those of the
second.  What is wrong with the first is reported as it is, and what is wrong with the
second with the number that the line has in the whole.  Neither blank lines nor carriage
returns change the rows. -/
theorem read_is_compositional (first second : List Char) :
    (∀ fault, read first = .error fault →
      read (first ++ '\n' :: second) = .error fault) ∧
    (∀ rows, read first = .ok rows →
      (∀ others, read second = .ok others →
        read (first ++ '\n' :: second) = .ok (rows ++ others)) ∧
      ∀ fault, read second = .error fault →
        ∃ number wording, Wording wording ∧ FirstRefused (lines second) number ∧
          fault.message? = some (wording number) ∧
          read (first ++ '\n' :: second) =
            .error (fault.withMessage (wording (number + first.count '\n' + 1)))) ∧
    (∀ spaced, Spaced (properLines first) (properLines spaced) →
      (read spaced).toOption = (read first).toOption) ∧
    read (withReturns first) = read first := by
  refine ⟨?_, ?_, ?_, ?_⟩
  · intro fault failed
    rw [read_append, failed]
    rfl
  · intro rows done
    refine ⟨fun others accepted => ?_, fun fault failed => ?_⟩
    · rw [read_append, done, ok_bind, readLines_of_read_eq_ok accepted]
      rfl
    · obtain ⟨number, wording, worded, refused, named, later⟩ :=
        exists_wording_of_read_eq_error failed
      refine ⟨number, wording, worded, refused, named, ?_⟩
      rw [read_append, done, ok_bind, later]
      rfl
  · intro spaced inserted
    rw [read_eq_readLines, read_eq_readLines, ← readLines_properLines,
      ← readLines_properLines first]
    exact toOption_readLines_of_spaced inserted 1 1
  · rw [read_eq_readLines, read_eq_readLines, lines_withReturns, readLines_returned]

/-- A line that is refused in the second text is reported two lines later in the whole. -/
theorem read_is_compositional_of_refused_line :
    read ['[', ']', '\n'] = .ok [[]] ∧
    (∃ fault number wording, read ['\n', 'x'] = .error fault ∧ Wording wording ∧
      fault.message? = some (wording number) ∧
      read ['[', ']', '\n', '\n', '\n', 'x'] =
        .error (fault.withMessage (wording (number + 2)))) ∧
    (read [' ', '\n', '[', ']']).toOption = some [[]] ∧
    read ['[', ']', '\r', '\n'] = .ok [[]] := by
  have accepted : read ['[', ']', '\n'] = .ok [[]] := rfl
  have refused : ∃ fault, read ['\n', 'x'] = .error fault := ⟨_, rfl⟩
  have blank : IsBlankLine [' '] := fun character member => List.mem_singleton.mp member ▸ rfl
  have inserted : Spaced (properLines ['[', ']', '\n']) (properLines [' ', '\n', '[', ']']) :=
    .inserted blank (.kept ['[', ']'] .none)
  obtain ⟨-, joins, spaced, returned⟩ := read_is_compositional ['[', ']', '\n'] ['\n', 'x']
  obtain ⟨-, fails⟩ := joins [[]] accepted
  obtain ⟨fault, failed⟩ := refused
  obtain ⟨number, wording, worded, -, named, later⟩ := fails fault failed
  refine ⟨accepted, ⟨fault, number, wording, failed, worded, named, later⟩, ?_, ?_⟩
  · exact (spaced [' ', '\n', '[', ']'] inserted).trans (congrArg Except.toOption accepted)
  · exact returned.trans accepted

end RowLines

end PagedRows
