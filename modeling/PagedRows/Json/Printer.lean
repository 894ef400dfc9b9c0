import PagedRows.Decimal.Layout
import PagedRows.Json
import PagedRows.Text.Integer

/-!
# Printing JSON

Values are printed on one line without spaces.  In strings only the quotation
mark, the backslash and the control characters below the space are escaped.
-/

namespace PagedRows.Json

/-- How floats are printed. -/
def floatLayout : Layout where
  leastPositional := -5
  greatestPositional := 15
  exponentMark := 'e'
  plusSign := true
  fractionAlways := false
  tie := .even

/-- A character as it stands in a string. -/
def escaped (character : Char) : List Char :=
  match character with
  | '"' => ['\\', '"']
  | '\\' => ['\\', '\\']
  | '\x08' => ['\\', 'b']
  | '\x0c' => ['\\', 'f']
  | '\n' => ['\\', 'n']
  | '\r' => ['\\', 'r']
  | '\t' => ['\\', 't']
  | _ =>
      if character < ' ' then
        ['\\', 'u', '0', '0', Nat.digitChar (character.toNat / 16),
          Nat.digitChar (character.toNat % 16)]
      else [character]

/-- A string between its quotation marks. -/
def stringText (text : String) : List Char :=
  '"' :: (text.toList.flatMap escaped ++ ['"'])

mutual

def text : Json → List Char
  | null => "null".toList
  | bool true => "true".toList
  | bool false => "false".toList
  | integer value => Text.integer value
  | float value _ => floatLayout.text value
  | string value => stringText value
  | array items => '[' :: (itemsText items ++ [']'])
  | object members => '{' :: (membersText members ++ ['}'])

/-- The items of an array, with commas between them. -/
def itemsText : List Json → List Char
  | [] => []
  | [item] => text item
  | item :: items => text item ++ ',' :: itemsText items

/-- The members of an object, with commas between them. -/
def membersText : List (String × Json) → List Char
  | [] => []
  | [(key, value)] => stringText key ++ ':' :: text value
  | (key, value) :: members =>
      stringText key ++ ':' :: (text value ++ ',' :: membersText members)

end

def print (value : Json) : String :=
  String.ofList value.text

end PagedRows.Json
