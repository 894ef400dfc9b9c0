/-!
# Printable text

An escape character begins a control sequence, which tells a terminal what to
do.  Control sequences and control characters are removed from text before it is
repeated to anyone; tabs and the characters that break lines stay.

Every sequence ends with its own last character, or is cut short by a character
that cancels it or begins another one.
-/

namespace PagedRows.Text

/-- What the characters read so far belong to. -/
inductive Sequence where
  /-- Plain text. -/
  | none
  /-- An escape character and nothing more. -/
  | opened
  /-- An escape character and intermediate characters, up to one final letter. -/
  | intermediate
  /-- A sequence with parameters, up to its final letter. -/
  | parameters
  /-- A command with free text, up to a bell. -/
  | command
  /-- A string for a device, before its parameters. -/
  | device
  /-- The parameters of a string for a device. -/
  | deviceParameters
  /-- The intermediate characters of a string for a device. -/
  | deviceIntermediate
  /-- Free text, up to a string terminator. -/
  | string
deriving DecidableEq

namespace Sequence

/-- Control characters that lay out text. -/
def isLayout (character : Char) : Bool :=
  character = '\t' || character = '\n' || character = '\x0c' || character = '\r'

/-- The characters that sequences consist of; others inside them mean nothing. -/
def isGraphic (character : Char) : Bool :=
  ' ' ≤ character && character < '\x7f'

/-- Whether a character holds the byte that terminates strings. -/
def isTerminator (character : Char) : Bool :=
  (String.utf8EncodeChar character).contains 0x9C

/-- What the character after an escape character begins. -/
def opening (character : Char) : Sequence :=
  if character = '[' then parameters
  else if character = ']' then command
  else if character = 'P' then device
  else if character = 'X' ∨ character = '^' ∨ character = '_' then string
  else if character < '0' then intermediate
  else none

/-- What a graphic character leads to within a sequence that is not free text. -/
def afterGraphic (character : Char) : Sequence → Sequence
  | opened => opening character
  | intermediate => if character < '0' then intermediate else none
  | parameters => if character < '@' then parameters else none
  | device =>
      if character < '0' then deviceIntermediate
      else if character < '@' then deviceParameters
      else string
  | deviceParameters =>
      if character < '0' then deviceIntermediate
      else if character < '<' then deviceParameters
      else string
  | deviceIntermediate => if character < '0' then deviceIntermediate else string
  | sequence => sequence

/-- What a character belongs to that neither begins nor cancels a sequence. -/
def after (character : Char) (sequence : Sequence) : Sequence :=
  match sequence with
  | none => none
  | command => if character = '\x07' then none else command
  | string => if isTerminator character then none else string
  | _ => if isGraphic character then afterGraphic character sequence else sequence

/-- Whether layout ends a sequence and is shown. -/
def yieldsToLayout : Sequence → Bool
  | none | opened | intermediate | parameters => true
  | command | device | deviceParameters | deviceIntermediate | string => false

end Sequence

/-- The characters of a text that are shown, from within a sequence on. -/
def printableFrom (sequence : Sequence) : List Char → List Char
  | [] => []
  | character :: text =>
      if character = '\x1b' then printableFrom .opened text
      else if character = '\x18' ∨ character = '\x1a' then printableFrom .none text
      else if Sequence.isLayout character && sequence.yieldsToLayout then
        character :: printableFrom .none text
      else
        let rest := printableFrom (sequence.after character) text
        if sequence = .none ∧ ' ' ≤ character ∧ character ≠ '\x7f' then
          character :: rest
        else rest

/-- A text without control sequences and control characters. -/
def printable (text : List Char) : List Char :=
  printableFrom .none text

end PagedRows.Text
