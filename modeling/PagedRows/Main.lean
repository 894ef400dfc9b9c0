import PagedRows.Program

/-!
# The command

Reads what the request needs, prints the answer, and reports a fault on the
standard error stream: in lines to a terminal, otherwise as JSON.
-/

namespace PagedRows

/-- Everything that a stream still holds. -/
partial def readAll (stream : IO.FS.Stream) (held : ByteArray) : IO ByteArray := do
  let bytes ← stream.read 65536
  if bytes.isEmpty then return held else readAll stream (held ++ bytes)

/-- The contents of a source. -/
def readSource : Program.Source → IO Program.Contents
  | .standardInput => do
      try return .ok (← readAll (← IO.getStdin) .empty)
      catch failure => return .error (toString failure)
  | .file path => do
      try return .ok (← IO.FS.readBinFile path)
      catch failure => return .error (toString failure)

/-- Answers the arguments of the command. -/
def answerArguments (arguments : List String) : IO Program.Outcome := do
  match Program.request arguments with
  | .error fault => return Program.fail fault
  | .ok request =>
      match Program.source? request with
      | none => return Program.answer request (.error "nothing to read")
      | some source => return Program.answer request (← readSource source)

/-- Writes what the ending says to the standard error stream. -/
def reportEnding : Program.Ending → IO Unit
  | .success => return ()
  | .nothingAsked => (CommandLine.Help.lines none).forM IO.eprintln
  | .failure fault => do
      if ← (← IO.getStderr).isTty then fault.lines.forM IO.eprintln
      else IO.eprintln fault.toJson.print

end PagedRows

def main (arguments : List String) : IO UInt32 := do
  let outcome ← PagedRows.answerArguments arguments
  outcome.output.forM IO.println
  PagedRows.reportEnding outcome.ending
  return outcome.ending.status.toUInt32
