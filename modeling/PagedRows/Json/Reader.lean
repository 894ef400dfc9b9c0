import PagedRows.Json
import PagedRows.Numeral.Hexadecimal

/-!
# Reading JSON

The reader takes exactly the texts of the standard grammar whose arrays and
objects are not nested too deeply, whose strings contain no half of a surrogate
pair, and whose numbers do not exceed the range of floats.  Integers beyond 64
bits are read as floats, and so is a negative zero.

Two things are assumed of the JSON library that the program reads with.  A numeral
with a fraction, with an exponent or beyond 64 bits is read as the nearest float,
which the library need not promise: it may read a neighbour of the nearest one for
numerals such as 3e23.  And the words for a flaw are this reader's own.
-/

namespace PagedRows.Json

/-- What keeps a text from being read. -/
inductive Flaw where
  | unexpectedEnd
  | unexpected (character : Char)
  | badEscape
  | loneSurrogate
  | controlCharacter
  | numberOutOfRange
  | tooDeep
deriving DecidableEq

/-- What is said of a flaw, in words of this reader's own. -/
def Flaw.describe : Flaw → String
  | unexpectedEnd => "unexpected end of text"
  | unexpected character => "unexpected character " ++ character.quote
  | badEscape => "invalid escape sequence"
  | loneSurrogate => "half of a surrogate pair"
  | controlCharacter => "control character in a string"
  | numberOutOfRange => "number out of range"
  | tooDeep => "nested too deeply"

/-- How many arrays and objects may be open at once. -/
def depthLimit : Nat :=
  127

/-- Reading takes a value from the front of a text and leaves the rest. -/
abbrev Read (α : Type) :=
  List Char → Except Flaw (α × List Char)

/-- The characters that may stand between tokens. -/
def isBlank (character : Char) : Bool :=
  character = ' ' || character = '\t' || character = '\n' || character = '\r'

/-- The flaw of a text that does not go on as it should. -/
def flawAt : List Char → Flaw
  | [] => .unexpectedEnd
  | character :: _ => .unexpected character

/-- The float nearest to a decimal, as is assumed of the JSON library; infinity is out
of range. -/
def floatValue (negative : Bool) (decimal : Decimal) : Except Flaw Json :=
  let number := decimal.toBinary negative .double
  if finite : number.isFinite then .ok (.float number finite)
  else .error .numberOutOfRange

/-- A numeral without fraction and exponent.  Beyond 64 bits it is the nearest float, as
is assumed of the JSON library. -/
def integerValue (negative : Bool) (magnitude : Nat) : Except Flaw Json :=
  let value : Int := if negative then -magnitude else magnitude
  if (value ≠ 0 ∨ negative = false) ∧ -2 ^ 63 ≤ value ∧ value < 2 ^ 64 then
    .ok (.integer value)
  else
    floatValue negative ⟨magnitude, 0⟩

/-- The digits before the point; a zero stands alone. -/
def readWhole : Read (List Char)
  | '0' :: rest => .ok (['0'], rest)
  | text =>
      let digits := text.takeWhile Char.isDigit
      if digits.isEmpty then .error (flawAt text)
      else .ok (digits, text.dropWhile Char.isDigit)

/-- A point with digits after it, if there is one. -/
def readFraction : Read (Option (List Char))
  | '.' :: rest =>
      let digits := rest.takeWhile Char.isDigit
      if digits.isEmpty then .error (flawAt rest)
      else .ok (some digits, rest.dropWhile Char.isDigit)
  | text => .ok (none, text)

/-- The digits of an exponent, after its sign. -/
def readPower (negative : Bool) : Read (Option Int) := fun text =>
  let digits := text.takeWhile Char.isDigit
  if digits.isEmpty then .error (flawAt text)
  else
    let magnitude : Int := Nat.ofDigitChars 10 digits 0
    .ok (some (if negative then -magnitude else magnitude),
      text.dropWhile Char.isDigit)

/-- A mark with an exponent after it, if there is one. -/
def readExponent : Read (Option Int)
  | [] => .ok (none, [])
  | mark :: rest =>
      if mark = 'e' ∨ mark = 'E' then
        match rest with
        | '-' :: rest => readPower true rest
        | '+' :: rest => readPower false rest
        | rest => readPower false rest
      else .ok (none, mark :: rest)

/-- A number after its sign. -/
def readMagnitude (negative : Bool) : Read Json := fun text => do
  let (whole, rest) ← readWhole text
  let (fraction?, rest) ← readFraction rest
  let (exponent?, rest) ← readExponent rest
  let value ←
    if fraction?.isNone && exponent?.isNone then
      integerValue negative (Nat.ofDigitChars 10 whole 0)
    else
      floatValue negative
        (Decimal.ofDigits whole (fraction?.getD []) (exponent?.getD 0))
  return (value, rest)

def readNumber : Read Json
  | '-' :: rest => readMagnitude true rest
  | text => readMagnitude false text

/-- The number of four hexadecimal digits. -/
def codeUnit? (first second third fourth : Char) : Option Nat := do
  let first ← Numeral.hexadecimalDigit? first
  let second ← Numeral.hexadecimalDigit? second
  let third ← Numeral.hexadecimalDigit? third
  let fourth ← Numeral.hexadecimalDigit? fourth
  return ((first * 16 + second) * 16 + third) * 16 + fourth

def isHighSurrogate (unit : Nat) : Bool :=
  0xD800 ≤ unit && unit < 0xDC00

def isLowSurrogate (unit : Nat) : Bool :=
  0xDC00 ≤ unit && unit < 0xE000

/-- The character of a surrogate pair. -/
def ofSurrogates (high low : Nat) : Char :=
  Char.ofNat (0x10000 + (high - 0xD800) * 0x400 + (low - 0xDC00))

/-- The character of an escape sequence of one letter. -/
def shortEscape? : Char → Option Char
  | '"' => some '"'
  | '\\' => some '\\'
  | '/' => some '/'
  | 'b' => some '\x08'
  | 'f' => some '\x0c'
  | 'n' => some '\n'
  | 'r' => some '\r'
  | 't' => some '\t'
  | _ => none

/-- The rest of a string, of which some characters are already taken. -/
def readCharacters (taken : List Char) : Read String
  | [] => .error .unexpectedEnd
  | '"' :: rest => .ok (String.ofList taken.reverse, rest)
  | '\\' :: 'u' :: first :: second :: third :: fourth :: rest =>
      match codeUnit? first second third fourth with
      | none => .error .badEscape
      | some unit =>
          if isHighSurrogate unit then
            match rest with
            | '\\' :: 'u' :: first :: second :: third :: fourth :: rest =>
                match codeUnit? first second third fourth with
                | none => .error .badEscape
                | some low =>
                    if isLowSurrogate low then
                      readCharacters (ofSurrogates unit low :: taken) rest
                    else .error .loneSurrogate
            | _ => .error .loneSurrogate
          else if isLowSurrogate unit then .error .loneSurrogate
          else readCharacters (Char.ofNat unit :: taken) rest
  | '\\' :: mark :: rest =>
      match shortEscape? mark with
      | none => .error .badEscape
      | some character => readCharacters (character :: taken) rest
  | character :: rest =>
      if character < ' ' then .error .controlCharacter
      else readCharacters (character :: taken) rest

/-- Items with commas between them and a closing character after the last.
Every item takes at least one character, which bounds their number. -/
def readItems {α : Type} (item : Read α) (close : Char) :
    Nat → List α → Read (List α)
  | 0, _, _ => .error .unexpectedEnd
  | bound + 1, taken, text =>
      match item text with
      | .error flaw => .error flaw
      | .ok (value, rest) =>
          match rest.dropWhile isBlank with
          | [] => .error .unexpectedEnd
          | character :: rest =>
              if character = ',' then
                readItems item close bound (value :: taken) rest
              else if character = close then .ok ((value :: taken).reverse, rest)
              else .error (.unexpected character)

/-- No items or several, up to the closing character. -/
def readUntil {α : Type} (item : Read α) (close : Char) : Read (List α) :=
  fun text =>
    match text.dropWhile isBlank with
    | [] => .error .unexpectedEnd
    | character :: rest =>
        if character = close then .ok ([], rest)
        else readItems item close text.length [] text

def readMember (value : Read Json) : Read (String × Json) := fun text =>
  match text.dropWhile isBlank with
  | '"' :: rest => do
      let (key, rest) ← readCharacters [] rest
      match rest.dropWhile isBlank with
      | ':' :: rest =>
          let (held, rest) ← value rest
          return ((key, held), rest)
      | rest => .error (flawAt rest)
  | rest => .error (flawAt rest)

/-- A value in which at most `depth` arrays and objects are open at once. -/
def readValue (depth : Nat) : Read Json := fun text =>
  match text.dropWhile isBlank with
  | 'n' :: 'u' :: 'l' :: 'l' :: rest => .ok (.null, rest)
  | 't' :: 'r' :: 'u' :: 'e' :: rest => .ok (.bool true, rest)
  | 'f' :: 'a' :: 'l' :: 's' :: 'e' :: rest => .ok (.bool false, rest)
  | '"' :: rest => (readCharacters [] rest).map fun (value, rest) => (.string value, rest)
  | '[' :: rest =>
      match depth with
      | 0 => .error .tooDeep
      | depth + 1 =>
          (readUntil (readValue depth) ']' rest).map fun (items, rest) =>
            (.array items, rest)
  | '{' :: rest =>
      match depth with
      | 0 => .error .tooDeep
      | depth + 1 =>
          (readUntil (readMember (readValue depth)) '}' rest).map
            fun (members, rest) => (ofMembers members, rest)
  | rest => readNumber rest

/-- Reads a text that holds one value and nothing else. -/
def read (text : List Char) : Except Flaw Json := do
  let (value, rest) ← readValue depthLimit text
  match rest.dropWhile isBlank with
  | [] => return value
  | character :: _ => .error (.unexpected character)

end PagedRows.Json
