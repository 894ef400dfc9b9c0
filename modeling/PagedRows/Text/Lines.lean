/-!
# Lines

A text consists of the lines between its newlines.  A newline at the end opens
one more line, which is empty.
-/

namespace PagedRows.Text

/-- Puts a character before the first line, or opens a line before it. -/
def consLine (character : Char) (lines : List (List Char)) : List (List Char) :=
  if character = '\n' then [] :: lines
  else
    match lines with
    | [] => [[character]]
    | line :: rest => (character :: line) :: rest

/-- The lines of a text, without their newlines. -/
def lines (text : List Char) : List (List Char) :=
  text.foldr consLine [[]]

theorem lines_cons (character : Char) (text : List Char) :
    lines (character :: text) = consLine character (lines text) :=
  rfl

theorem lines_newline (text : List Char) : lines ('\n' :: text) = [] :: lines text :=
  rfl

theorem consLine_cons {character : Char} (other : character ≠ '\n') (line : List Char)
    (lines : List (List Char)) :
    consLine character (line :: lines) = (character :: line) :: lines :=
  if_neg other

theorem exists_lines_eq_cons (text : List Char) :
    ∃ line rest, lines text = line :: rest := by
  induction text with
  | nil => exact ⟨[], [], rfl⟩
  | cons character text induction =>
      obtain ⟨line, rest, found⟩ := induction
      rw [lines_cons, found]
      by_cases newline : character = '\n'
      · subst newline
        exact ⟨[], line :: rest, rfl⟩
      · exact ⟨character :: line, rest, consLine_cons newline line rest⟩

theorem length_lines (text : List Char) : (lines text).length = text.count '\n' + 1 := by
  induction text with
  | nil => rfl
  | cons character text induction =>
      by_cases newline : character = '\n'
      · subst newline
        rw [lines_newline, List.length_cons, induction, List.count_cons_self]
      · obtain ⟨line, rest, found⟩ := exists_lines_eq_cons text
        rw [found] at induction
        rw [lines_cons, found, consLine_cons newline, List.count_cons_of_ne newline]
        exact induction

/-- A newline between two texts keeps their lines apart. -/
theorem lines_append (first second : List Char) :
    lines (first ++ '\n' :: second) = lines first ++ lines second := by
  induction first with
  | nil => rfl
  | cons character first induction =>
      rw [List.cons_append, lines_cons, lines_cons, induction]
      by_cases newline : character = '\n'
      · subst newline
        rfl
      · obtain ⟨line, rest, found⟩ := exists_lines_eq_cons first
        rw [found, List.cons_append, consLine_cons newline, consLine_cons newline,
          List.cons_append]

theorem lines_of_not_mem {line : List Char} (single : '\n' ∉ line) : lines line = [line] := by
  induction line with
  | nil => rfl
  | cons character line induction =>
      have newline : character ≠ '\n' := fun same => single (same ▸ List.mem_cons_self)
      have rest := induction fun member => single (List.mem_cons_of_mem _ member)
      rw [lines_cons, rest, consLine_cons newline]

end PagedRows.Text
