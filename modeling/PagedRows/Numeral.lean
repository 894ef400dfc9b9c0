import PagedRows.Numeral.Hexadecimal
import PagedRows.Text.Trim

/-!
# Numerals in text cells

A text cell that is read as a number may hold a decimal or a hexadecimal
numeral with a type suffix, or one of two words.  Everything else reads as no
number at all.
-/

namespace PagedRows.Numeral

/-- Spaces and control characters, which may surround a numeral. -/
def isPadding (character : Char) : Bool :=
  character ≤ ' '

/-- The letters that may end a numeral without changing its value. -/
def isTypeSuffix (character : Char) : Bool :=
  character = 'f' || character = 'F' || character = 'd' || character = 'D'

/-- Removes one type suffix, if there is one. -/
def withoutTypeSuffix (text : List Char) : List Char :=
  match text.getLast? with
  | some last => if isTypeSuffix last then text.dropLast else text
  | none => text

/-- Reads a numeral or word without sign. -/
def unsigned? (text : List Char) : Option Double :=
  if text = "NaN".toList then some .nan
  else if text = "Infinity".toList then some (.infinite false)
  else
    match withoutTypeSuffix text with
    | '0' :: 'x' :: rest => hexadecimal? rest
    | '0' :: 'X' :: rest => hexadecimal? rest
    | rest => (decimal? rest).map (·.toBinary false .double)

/-- Reads a padded numeral or word with at most one sign. -/
def read? (text : List Char) : Option Double :=
  match Text.trim isPadding text with
  | '-' :: rest => (unsigned? rest).map Binary.negate
  | '+' :: rest => unsigned? rest
  | rest => unsigned? rest

end PagedRows.Numeral
