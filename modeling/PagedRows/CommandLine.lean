import PagedRows.CommandLine.Settings
import PagedRows.Window

/-!
# The command line

The first argument names a subcommand or asks for help or for the version.
-/

namespace PagedRows.CommandLine

def programName : String :=
  "cursorwindow"

/-- Which window the rows go through. -/
structure WindowRequest where
  name? : Option String
  sizeBytes : Int
deriving DecidableEq

/-- Which rows to print, and how many of them at once pass through the window. -/
structure PageRequest where
  input : String
  window : WindowRequest
  pageSize : Nat
  start : Position
  /-- At most so many rows. -/
  limit : Nat
deriving DecidableEq

inductive Subcommand where
  | page
  | info
  | version
  | help
deriving DecidableEq

namespace Subcommand

def name : Subcommand → String
  | page => "page"
  | info => "info"
  | version => "version"
  | help => "help"

def all : List Subcommand :=
  [page, info, version, help]

def ofName? (name : List Char) : Option Subcommand :=
  all.find? (·.name = String.ofList name)

def options : Subcommand → List Parameter
  | page => [.name, .windowSize, .pageSize, .start, .count]
  | info => [.name, .windowSize]
  | version | help => []

def takesInput : Subcommand → Bool
  | page | info => true
  | version | help => false

end Subcommand

inductive Request where
  | page (request : PageRequest)
  | info (input : String) (window : WindowRequest)
  | version
  | versionLine
  /-- Help on a subcommand, or on the whole program. -/
  | help (topic? : Option Subcommand)
  /-- Nothing was asked for, so help is shown instead. -/
  | nothing
deriving DecidableEq

/-- How many rows a page has unless it is said. -/
def defaultPageSize : Nat :=
  64

/-- Where printing begins unless it is said. -/
def defaultStart : Position :=
  0

def Settings.windowRequest (settings : Settings) : WindowRequest where
  name? := settings.name?
  sizeBytes := settings.windowSize?.getD Window.defaultSizeBytes

def Settings.pageRequest (settings : Settings) (input : String) : PageRequest where
  input := input
  window := settings.windowRequest
  pageSize := (settings.pageSize?.map Fin.val).getD defaultPageSize
  start := settings.start?.getD defaultStart
  limit := (settings.count?.getD Position.last).val

/-- What a subcommand is to do with its settings. -/
def request (subcommand : Subcommand) (settings : Settings) :
    Except Complaint Request :=
  match subcommand with
  | .version => .ok .version
  | .help => .ok (.help none)
  | .info =>
      match settings.input? with
      | none => .error .missingInput
      | some input => .ok (.info input settings.windowRequest)
  | .page =>
      match settings.input? with
      | none => .error .missingInput
      | some input => .ok (.page (settings.pageRequest input))

/-- Help on a subcommand, which has no subcommands of its own. -/
def readHelp : List (List Char) → Except Complaint Request
  | [] => .ok (.help none)
  | topic :: others =>
      match Subcommand.ofName? topic, others with
      | none, _ => .error (.unrecognizedSubcommand topic)
      | some subcommand, [] => .ok (.help (some subcommand))
      | some _, other :: _ => .error (.unrecognizedSubcommand other)

/-- The arguments after the name of a subcommand. -/
def readSubcommand (subcommand : Subcommand) (arguments : List (List Char)) :
    Except Complaint Request :=
  match subcommand with
  | .help => readHelp arguments
  | _ => do
      match ← readSettings subcommand.options subcommand.takesInput false {} arguments with
      | none => return .help (some subcommand)
      | some settings => request subcommand settings

/-- A word where only the name of a subcommand can stand, when no more options
may come; a subcommand may not either. -/
def readAfterOptions : List (List Char) → Except Complaint Request
  | [] => .ok .nothing
  | word :: _ =>
      if (Subcommand.ofName? word).isSome then .error (.unexpectedArgument word)
      else .error (.unrecognizedSubcommand word)

/-- An option before any subcommand. -/
def readFlag (flag : String) (value? : Option (List Char)) (asked : Request) :
    Except Complaint Request :=
  match value? with
  | some value => .error (.unexpectedValue value flag)
  | none => .ok asked

def read : List (List Char) → Except Complaint Request
  | [] => .ok .nothing
  | argument :: rest =>
      match Token.ofArgument argument with
      | .endOfOptions => readAfterOptions rest
      | .long name value? =>
          if name = "help".toList then readFlag "help" value? (.help none)
          else if name = "version".toList then readFlag "version" value? .versionLine
          else .error (.unexpectedArgument ('-' :: '-' :: name))
      | .short first _ =>
          if first = 'h' then .ok (.help none)
          else if first = 'V' then .ok .versionLine
          else .error (.unexpectedArgument ['-', first])
      | .word word =>
          match Subcommand.ofName? word with
          | some subcommand => readSubcommand subcommand rest
          | none => .error (.unrecognizedSubcommand word)

end PagedRows.CommandLine
