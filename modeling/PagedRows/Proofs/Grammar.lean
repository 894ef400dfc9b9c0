import PagedRows.Numeral

/-!
# The grammar of numerals

What a text cell may hold to be read as a number is given by a grammar.  Its syntax
trees exist for well-formed texts only, and have a text and a value.
-/

namespace PagedRows.Numeral

/-- The sign before a numeral or an exponent. -/
inductive Sign where
  | absent
  | plus
  | minus
deriving DecidableEq

namespace Sign

def text : Sign → List Char
  | absent => []
  | plus => ['+']
  | minus => ['-']

def apply (sign : Sign) (magnitude : Nat) : Int :=
  if sign = minus then -magnitude else magnitude

end Sign

/-- One or more digits, with or without a point before, among or after them. -/
structure Digits (isDigit : Char → Bool) where
  whole : List Char
  fraction? : Option (List Char)
  all : ∀ digit ∈ whole ++ fraction?.getD [], isDigit digit = true
  present : whole ++ fraction?.getD [] ≠ []

namespace Digits

variable {isDigit : Char → Bool}

def fraction (digits : Digits isDigit) : List Char :=
  digits.fraction?.getD []

def fractionText (digits : Digits isDigit) : List Char :=
  (digits.fraction?.map ('.' :: ·)).getD []

def text (digits : Digits isDigit) : List Char :=
  digits.whole ++ digits.fractionText

end Digits

/-- An exponent after its mark. -/
structure Exponent (isMark : Char → Bool) where
  mark : Char
  sign : Sign
  digits : List Char
  marks : isMark mark = true
  present : isDigits digits = true

namespace Exponent

variable {isMark : Char → Bool}

def text (exponent : Exponent isMark) : List Char :=
  exponent.mark :: (exponent.sign.text ++ exponent.digits)

def optionalText (exponent? : Option (Exponent isMark)) : List Char :=
  (exponent?.map text).getD []

/-- The exponent, where `value` gives the number that its digits stand for. -/
def value (exponent : Exponent isMark) (value : List Char → Nat) : Int :=
  exponent.sign.apply (value exponent.digits)

end Exponent

/-- A letter that may end a numeral. -/
abbrev TypeSuffix :=
  { letter : Char // isTypeSuffix letter = true }

def TypeSuffix.optionalText (suffix? : Option TypeSuffix) : List Char :=
  (suffix?.map Subtype.val).toList

/-- The letters before a power of ten. -/
def isPowerMark (character : Char) : Bool :=
  character = 'e' || character = 'E'

structure DecimalNumeral where
  digits : Digits Char.isDigit
  exponent? : Option (Exponent isPowerMark)
  suffix? : Option TypeSuffix

namespace DecimalNumeral

/-- The numeral without its suffix. -/
def body (numeral : DecimalNumeral) : List Char :=
  numeral.digits.text ++ Exponent.optionalText numeral.exponent?

def text (numeral : DecimalNumeral) : List Char :=
  numeral.body ++ TypeSuffix.optionalText numeral.suffix?

def decimal (numeral : DecimalNumeral) : Decimal :=
  .ofDigits numeral.digits.whole numeral.digits.fraction
    ((numeral.exponent?.map (·.value boundedExponent)).getD 0)

end DecimalNumeral

/-- The digits of base sixteen, in either case. -/
def isHexadecimalDigit (character : Char) : Bool :=
  character.isDigit || decide ('a' ≤ character ∧ character ≤ 'f') ||
    decide ('A' ≤ character ∧ character ≤ 'F')

structure HexadecimalNumeral where
  /-- Whether the numeral begins with `0X`. -/
  capital : Bool
  digits : Digits isHexadecimalDigit
  exponent : Exponent isExponentMark
  suffix? : Option TypeSuffix

namespace HexadecimalNumeral

/-- What follows the mark `0x`, without the suffix. -/
def body (numeral : HexadecimalNumeral) : List Char :=
  numeral.digits.text ++ numeral.exponent.text

def text (numeral : HexadecimalNumeral) : List Char :=
  '0' :: (if numeral.capital then 'X' else 'x') ::
    (numeral.body ++ TypeSuffix.optionalText numeral.suffix?)

def significand (numeral : HexadecimalNumeral) : Significand :=
  .ofDigits (numeral.digits.whole.filterMap hexadecimalDigit?)
    (numeral.digits.fraction.filterMap hexadecimalDigit?)

def value (numeral : HexadecimalNumeral) : Double :=
  numeral.significand.toDouble (numeral.exponent.value saturatedExponent)

end HexadecimalNumeral

/-- A numeral or word without sign. -/
inductive Magnitude where
  | notANumber
  | infinity
  | decimal (numeral : DecimalNumeral)
  | hexadecimal (numeral : HexadecimalNumeral)

namespace Magnitude

def text : Magnitude → List Char
  | notANumber => ['N', 'a', 'N']
  | infinity => ['I', 'n', 'f', 'i', 'n', 'i', 't', 'y']
  | decimal numeral => numeral.text
  | hexadecimal numeral => numeral.text

def value : Magnitude → Double
  | notANumber => .nan
  | infinity => .infinite false
  | decimal numeral => numeral.decimal.toBinary false .double
  | hexadecimal numeral => numeral.value

end Magnitude

/-- What is read as a number. -/
structure Spelling where
  sign : Sign
  magnitude : Magnitude

namespace Spelling

def text (spelling : Spelling) : List Char :=
  spelling.sign.text ++ spelling.magnitude.text

def value (spelling : Spelling) : Double :=
  if spelling.sign = .minus then spelling.magnitude.value.negate
  else spelling.magnitude.value

end Spelling

end PagedRows.Numeral
