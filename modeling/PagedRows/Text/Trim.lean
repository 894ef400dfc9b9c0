/-!
# Trimming text

Text is trimmed at both ends of the characters of a class; the callers say
which characters those are.
-/

namespace PagedRows.Text

/-- Removes the leading and the trailing characters that are blank. -/
def trim (blank : Char → Bool) (text : List Char) : List Char :=
  ((text.dropWhile blank).reverse.dropWhile blank).reverse

end PagedRows.Text
