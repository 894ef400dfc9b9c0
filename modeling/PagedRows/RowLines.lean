import PagedRows.Cell.Json
import PagedRows.Json.Reader
import PagedRows.Text.Blank
import PagedRows.Text.Lines
import PagedRows.Text.Trim

/-!
# Rows in lines of text

Every line that is not blank holds one row as a JSON array.  Lines count from
one, blank ones included, and the first line that holds no row is reported.
-/

namespace PagedRows.RowLines

def syntaxFault (number : Nat) (flaw : Json.Flaw) : Fault :=
  (Fault.new .usage s!"invalid JSON on line {number}").withCause flaw.describe

/-- The fault of a row, with the line in which it stands. -/
def locateFault (number : Nat) (fault : Fault) : Fault :=
  fault.withMessage (s!"line {number}: " ++ fault.message?.getD "invalid row")

def row (line : List Char) (number : Nat) : Except Fault (List Cell) :=
  match Json.read line with
  | .error flaw => .error (syntaxFault number flaw)
  | .ok value => (Cell.rowOfJson value).mapError (locateFault number)

/-- The trimmed lines that are not blank, with their numbers. -/
def content (text : List Char) : List (List Char × Nat) :=
  (((Text.lines text).map (Text.trim Text.isBlank)).zipIdx 1).filter
    fun (line, _) => !line.isEmpty

def read (text : List Char) : Except Fault (List (List Cell)) :=
  (content text).mapM fun (line, number) => row line number

end PagedRows.RowLines
