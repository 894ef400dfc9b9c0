import PagedRows.CommandLine.Number
import PagedRows.Text.Blank
import PagedRows.Text.Printable
import PagedRows.Text.Trim

/-!
# Complaints about the command line

A complaint is a single line.  Where it quotes an argument of several lines it
ends with the first of them, and only what is printable is repeated.
-/

namespace PagedRows.CommandLine

/-- What an argument can give a value to. -/
inductive Parameter where
  | input
  | name
  | windowSize
  | pageSize
  | start
  | count
deriving DecidableEq

namespace Parameter

/-- The name after the two hyphens; the input has none. -/
def flag? : Parameter → Option String
  | input => none
  | name => some "name"
  | windowSize => some "window-size"
  | pageSize => some "page-size"
  | start => some "start"
  | count => some "count"

/-- The word that stands for the value. -/
def placeholder : Parameter → String
  | input => "<INPUT>"
  | name => "<NAME>"
  | windowSize => "<WINDOW_SIZE>"
  | pageSize => "<PAGE_SIZE>"
  | start => "<START>"
  | count => "<COUNT>"

/-- How a parameter is spelled in full. -/
def usage (parameter : Parameter) : String :=
  match parameter.flag? with
  | none => parameter.placeholder
  | some flag => "--" ++ flag ++ " " ++ parameter.placeholder

end Parameter

inductive Complaint where
  | unexpectedArgument (argument : List Char)
  | unexpectedValue (value : List Char) (flag : String)
  | unrecognizedSubcommand (argument : List Char)
  | missingInput
  | missingValue (parameter : Parameter)
  | repeated (parameter : Parameter)
  | invalidValue (value : List Char) (parameter : Parameter) (flaw : NumberFlaw)
deriving DecidableEq

namespace Complaint

/-- An argument as it is repeated, in quotation marks. -/
def quoted (argument : List Char) : String :=
  "'" ++ String.ofList (Text.printable argument) ++ "'"

def describe : Complaint → String
  | unexpectedArgument argument => "unexpected argument " ++ quoted argument ++ " found"
  | unexpectedValue value flag =>
      "unexpected value " ++ quoted value ++ " for '--" ++ flag ++
        "' found; no more were expected"
  | unrecognizedSubcommand argument => "unrecognized subcommand " ++ quoted argument
  | missingInput => "the following required arguments were not provided:"
  | missingValue parameter =>
      "a value is required for '" ++ parameter.usage ++ "' but none was supplied"
  | repeated parameter =>
      "the argument '" ++ parameter.usage ++ "' cannot be used multiple times"
  | invalidValue value parameter flaw =>
      "invalid value " ++ quoted value ++ " for '" ++ parameter.usage ++ "': " ++
        flaw.describe

/-- The first line of a complaint. -/
def message (complaint : Complaint) : String :=
  String.ofList (Text.trim Text.isBlank (complaint.describe.toList.takeWhile (· ≠ '\n')))

end Complaint

end PagedRows.CommandLine
