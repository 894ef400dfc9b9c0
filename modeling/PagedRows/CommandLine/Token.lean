/-!
# Arguments by their form

The hyphens at its front tell whether an argument is an option, a group of
letters, the mark after which no more options come, or a plain word.
-/

namespace PagedRows.CommandLine

/-- An argument by its form. -/
inductive Token where
  /-- Two hyphens alone: what follows are plain words. -/
  | endOfOptions
  /-- Two hyphens and a name, with a value if there is an equals sign. -/
  | long (name : List Char) (value? : Option (List Char))
  /-- One hyphen and letters. -/
  | short (first : Char) (others : List Char)
  /-- Anything else, a hyphen alone included. -/
  | word (text : List Char)
deriving DecidableEq

def Token.ofArgument : List Char → Token
  | ['-', '-'] => .endOfOptions
  | '-' :: '-' :: text =>
      .long (text.takeWhile (· ≠ '=')) (text.dropWhile (· ≠ '=')).tail?
  | '-' :: first :: others => .short first others
  | text => .word text

/-- Whether the letters after a hyphen look like a number: digits, at most one
point after the first of them, and at most one exponent mark after that, which
is not the last character. -/
def looksLikeNumber (text : List Char) : Bool :=
  scan false false true text
where
  scan (point mark first : Bool) : List Char → Bool
    | [] => true
    | character :: rest =>
        if character.isDigit then scan point mark false rest
        else if character = '.' then
          !point && !mark && !first && scan true mark false rest
        else if character = 'e' || character = 'E' then
          !mark && !first && !rest.isEmpty && scan point true false rest
        else false

end PagedRows.CommandLine
