import PagedRows.Text.Trim

/-!
# Both ends of a text

Readers take from the front of a text what belongs to a class of characters, and what
follows is recognised by its first character.
-/

namespace PagedRows

theorem takeWhile_append {accept : Char → Bool} {taken rest : List Char}
    (all : ∀ character ∈ taken, accept character = true)
    (stops : ∀ character ∈ rest.head?, accept character = false) :
    (taken ++ rest).takeWhile accept = taken := by
  rw [List.takeWhile_append_of_pos all]
  cases rest with
  | nil => simp
  | cons character rest => simp [stops character rfl]

theorem dropWhile_append {accept : Char → Bool} {taken rest : List Char}
    (all : ∀ character ∈ taken, accept character = true)
    (stops : ∀ character ∈ rest.head?, accept character = false) :
    (taken ++ rest).dropWhile accept = rest := by
  rw [List.dropWhile_append_of_pos all]
  cases rest with
  | nil => rfl
  | cons character rest => simp [stops character rfl]

namespace Text

theorem trim_of_ends {blank : Char → Bool} {first last : Char} (inner : List Char)
    (front : blank first = false) (back : blank last = false) :
    trim blank (first :: (inner ++ [last])) = first :: (inner ++ [last]) := by
  simp [trim, front, back]

theorem trim_of_forall {blank : Char → Bool} {text : List Char}
    (inner : ∀ character ∈ text, blank character = false) : trim blank text = text := by
  have keep {characters : List Char} (all : ∀ character ∈ characters, blank character = false) :
      characters.dropWhile blank = characters := by
    cases characters with
    | nil => rfl
    | cons first rest => simp [all first List.mem_cons_self]
  have reversed : ∀ character ∈ text.reverse, blank character = false := by
    intro character member
    exact inner character (List.mem_reverse.mp member)
  rw [trim, keep inner, keep reversed, List.reverse_reverse]

theorem length_trim_le (blank : Char → Bool) (text : List Char) :
    (trim blank text).length ≤ text.length := by
  have back := (List.dropWhile_sublist blank (l := (text.dropWhile blank).reverse)).length_le
  have front := (List.dropWhile_sublist blank (l := text)).length_le
  rw [List.length_reverse] at back
  rw [trim, List.length_reverse]
  omega

end Text

end PagedRows
