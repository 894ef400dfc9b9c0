import PagedRows.Position

/-!
# Numbers on the command line

Numbers are written in decimal with at most one sign, a minus sign only where
negative numbers are meant.  Digits are taken from the left, and the first thing
that is wrong is reported.
-/

namespace PagedRows.CommandLine

inductive NumberFlaw where
  | empty
  | invalidDigit
  | tooLarge
  | tooSmall
deriving DecidableEq

def NumberFlaw.describe : NumberFlaw → String
  | empty => "cannot parse integer from empty string"
  | invalidDigit => "invalid digit found in string"
  | tooLarge => "number too large to fit in target type"
  | tooSmall => "number too small to fit in target type"

/-- Appends digits to a value that must not exceed a limit. -/
def appendDigits (limit : Nat) (beyond : NumberFlaw) (value : Nat) :
    List Char → Except NumberFlaw Nat
  | [] => .ok value
  | digit :: digits =>
      if !digit.isDigit then .error .invalidDigit
      else
        let longer := value * 10 + (digit.toNat - '0'.toNat)
        if limit < longer then .error beyond
        else appendDigits limit beyond longer digits

/-- One digit or more. -/
def readDigits (limit : Nat) (beyond : NumberFlaw) : List Char → Except NumberFlaw Nat
  | [] => .error .invalidDigit
  | digits => appendDigits limit beyond 0 digits

def readPosition (text : List Char) : Except NumberFlaw Position :=
  let limit := Position.last.val
  let value : Except NumberFlaw Nat :=
    match text with
    | [] => .error .empty
    | '+' :: digits => readDigits limit .tooLarge digits
    | digits => readDigits limit .tooLarge digits
  value.map (Fin.ofNat (2 ^ 64))

def readInt64 (text : List Char) : Except NumberFlaw Int :=
  let limit := 2 ^ 63 - 1
  match text with
  | [] => .error .empty
  | '-' :: digits => (readDigits (limit + 1) .tooSmall digits).map fun value => -(value : Int)
  | '+' :: digits => (readDigits limit .tooLarge digits).map Int.ofNat
  | digits => (readDigits limit .tooLarge digits).map Int.ofNat

end PagedRows.CommandLine
