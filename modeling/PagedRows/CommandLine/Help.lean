import PagedRows.CommandLine

/-!
# Help

Help explains the whole program or one of its subcommands.  It consists of blocks
of lines with an empty line between them; in a table all explanations begin in one
column.
-/

namespace PagedRows.CommandLine

def Parameter.explanation : Parameter → String
  | input => "JSONL rows file, or - for stdin"
  | name => "Window name (default: <unnamed>)"
  | windowSize => "Window byte budget"
  | pageSize => "Rows held by the window at once"
  | start => "Global position of the first row to print"
  | count => "Maximum number of rows to print"

/-- The number that stands for a parameter that is not given. -/
def Parameter.default? : Parameter → Option Nat
  | windowSize => some Window.defaultSizeBytes
  | pageSize => some defaultPageSize
  | start => some defaultStart.val
  | input | name | count => none

def Subcommand.explanation : Subcommand → String
  | page => "Page through rows with a cursor, refilling one window per page"
  | info => "Load every row into one window and report its metadata"
  | version => "Print the program name and version as JSON"
  | help => "Print this message or the help of the given subcommand(s)"

namespace Help

/-- A line of a table: a term and what it means. -/
structure Entry where
  term : String
  explanation : String

def table (heading : String) (entries : List Entry) : List String :=
  let width := entries.foldl (fun width entry => max width entry.term.length) 0
  heading :: entries.map fun entry =>
    "  " ++ entry.term.pushn ' ' (width - entry.term.length) ++ "  " ++ entry.explanation

/-- The entry of a parameter.  Options have room before them for the letters that
other options have. -/
def Entry.ofParameter (parameter : Parameter) : Entry where
  term := (if parameter.flag?.isSome then "    " else "") ++ parameter.usage
  explanation := parameter.explanation ++
    (parameter.default?.map fun value => s!" [default: {value}]").getD ""

def Entry.ofSubcommand (subcommand : Subcommand) : Entry where
  term := subcommand.name
  explanation := subcommand.explanation

def helpEntry : Entry where
  term := "-h, --help"
  explanation := "Print help"

def versionEntry : Entry where
  term := "-V, --version"
  explanation := "Print version"

def topicsEntry : Entry where
  term := "[COMMAND]..."
  explanation := "Print help for the subcommand(s)"

/-- How the program is called with what follows its name. -/
def usageLine (words : List String) : String :=
  "Usage: " ++ String.intercalate " " (programName :: words)

/-- What there is to know beyond the options. -/
def examples : List String :=
  ["EXAMPLES",
    "  $ printf '[1, \"a\"]\\n[2.5, null]\\n' > rows.jsonl",
    "  $ " ++ programName ++ " page rows.jsonl --page-size 1",
    "  $ " ++ programName ++ " info rows.jsonl --name results",
    "",
    "Rows are JSONL: each line is an array of cells (null, number, string,",
    "or \x7b\"blob\": [bytes]\x7d). Set RUST_LOG=debug to trace window activity."]

def programBlocks : List (List String) :=
  [["Load typed rows into a cursor window and read them back page by page"],
    [usageLine ["<COMMAND>"]],
    table "Commands:" (Subcommand.all.map .ofSubcommand),
    table "Options:" [helpEntry, versionEntry],
    examples]

def subcommandBlocks (subcommand : Subcommand) : List (List String) :=
  let options := table "Options:" (subcommand.options.map .ofParameter ++ [helpEntry])
  let name := subcommand.name
  [subcommand.explanation] ::
    match subcommand with
    | .page | .info =>
        [[usageLine [name, "[OPTIONS]", Parameter.input.placeholder]],
          table "Arguments:" [.ofParameter .input],
          options]
    | .version => [[usageLine [name]], options]
    | .help => [[usageLine [name, topicsEntry.term]], table "Arguments:" [topicsEntry]]

/-- The lines of the help on a subcommand, or on the whole program. -/
def lines (topic? : Option Subcommand) : List String :=
  [""].intercalate ((topic?.map subcommandBlocks).getD programBlocks)

end Help

end PagedRows.CommandLine
