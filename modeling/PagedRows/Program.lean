import PagedRows.CommandLine.Help
import PagedRows.Fault.Report
import PagedRows.Paging
import PagedRows.RowLines
import PagedRows.Window.Census

/-!
# The program

The program answers a request with lines of output and a way of ending.  What it
reads comes from one source, whose contents are given to it.
-/

namespace PagedRows.Program

def version : String :=
  "0.1.0"

inductive Ending where
  | success
  /-- Help is shown because nothing was asked for. -/
  | nothingAsked
  | failure (fault : Fault)
deriving DecidableEq

def Ending.status : Ending → Nat
  | success => 0
  | nothingAsked => 2
  | failure fault => fault.kind.exitCode

/-- The lines that are printed, and the end. -/
structure Outcome where
  output : List String
  ending : Ending
deriving DecidableEq

inductive Source where
  | standardInput
  | file (path : String)
deriving DecidableEq

def Source.ofInput (input : String) : Source :=
  if input = "-" then .standardInput else .file input

/-- What a source holds, or why it cannot be read. -/
abbrev Contents :=
  Except String ByteArray

def readFault (source : Source) (cause : String) : Fault :=
  match source with
  | .standardInput => (Fault.new .io "failed to read stdin").withCause cause
  | .file path =>
      ((Fault.new .io ("failed to read " ++ path)).withHint
        "Check that the input path exists and is readable.").withCause cause

def text (source : Source) (contents : Contents) : Except Fault String :=
  match contents with
  | .error cause => .error (readFault source cause)
  | .ok bytes =>
      match String.fromUTF8? bytes with
      | some text => .ok text
      | none => .error (readFault source "the contents are not valid UTF-8")

def rows (source : Source) (contents : Contents) : Except Fault (List (List Cell)) := do
  RowLines.read (← text source contents).toList

/-- The first row decides how many columns there are. -/
def columns (rows : List (List Cell)) : Nat :=
  (rows.head?.map List.length).getD 0

def openWindow (request : CommandLine.WindowRequest) : Except Fault Window :=
  (Window.ofSize request.name? request.sizeBytes).mapError
    (·.withHint "--window-size must be zero or greater.")

/-- Ends with a fault before anything is printed. -/
def fail (fault : Fault) : Outcome where
  output := []
  ending := .failure fault

/-- What paging comes to. -/
def ofPaging : Paging.Progress × Paging.Ending → Outcome
  | (progress, ending) =>
      { output := progress.emitted.toList.map Json.print
        ending :=
          match ending with
          | .complete => .success
          | .failed fault => .failure fault
          | .outOfSteps => .failure (.ofKind .internal) }

/-- How the rows that were read are paged through. -/
def pagingOf (request : CommandLine.PageRequest) (rows : List (List Cell)) : Paging where
  rows := rows.toArray
  columns := columns rows
  pageSize := request.pageSize
  limit := request.limit

def page (request : CommandLine.PageRequest) (contents : Contents) : Outcome :=
  if request.pageSize = 0 then
    fail (Fault.new .usage "--page-size must be at least 1")
  else
    let loaded := do
      let rows ← rows (.ofInput request.input) contents
      let window ← openWindow request.window
      return (rows, window)
    match loaded with
    | .error fault => fail fault
    | .ok (rows, window) => ofPaging ((pagingOf request rows).run window request.start)

/-- Fills the window with all rows and describes it. -/
def describe (rows : List (List Cell)) : Window.Action Json := do
  discard (Window.Action.fill 0 (columns rows) rows)
  match (← get).infoJson with
  | .error fault => throw fault
  | .ok info => return info

/-- Prints what there is to say of all rows. -/
def info (input : String) (request : CommandLine.WindowRequest) (contents : Contents) :
    Outcome :=
  let described := do
    let rows ← rows (.ofInput input) contents
    let window ← openWindow request
    match Window.Action.withReference (describe rows) window with
    | .error fault _ => .error fault
    | .ok info _ => .ok info
  match described with
  | .error fault => fail fault
  | .ok info => { output := [info.print], ending := .success }

def versionJson : Json :=
  Json.ofMembers [("name", .string CommandLine.programName), ("version", .string version)]

/-- The source whose contents a request needs. -/
def source? : CommandLine.Request → Option Source
  | .page request =>
      if request.pageSize = 0 then none else some (.ofInput request.input)
  | .info input _ => some (.ofInput input)
  | _ => none

/-- Answers a request, given the contents of its source. -/
def answer (request : CommandLine.Request) (contents : Contents) : Outcome :=
  match request with
  | .page request => page request contents
  | .info input window => info input window contents
  | .version => { output := [versionJson.print], ending := .success }
  | .versionLine => { output := [CommandLine.programName ++ " " ++ version], ending := .success }
  | .help topic? => { output := CommandLine.Help.lines topic?, ending := .success }
  | .nothing => { output := [], ending := .nothingAsked }

def usageFault (complaint : CommandLine.Complaint) : Fault :=
  (Fault.new .usage complaint.message).withHint
    ("Run `" ++ CommandLine.programName ++ " --help` for usage.")

def request (arguments : List String) : Except Fault CommandLine.Request :=
  (CommandLine.read (arguments.map String.toList)).mapError usageFault

/-- Runs the program on its arguments, where every source is known. -/
def run (arguments : List String) (contents : Source → Contents) : Outcome :=
  match request arguments with
  | .error fault => fail fault
  | .ok request =>
      answer request (((source? request).map contents).getD (.error "nothing to read"))

end PagedRows.Program
