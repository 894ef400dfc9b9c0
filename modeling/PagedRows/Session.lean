import PagedRows.Cursor.Drain
import PagedRows.RowLines
import PagedRows.Session.Step
import PagedRows.Window.Census
import PagedRows.Window.Fill

/-!
# Sessions

A session runs its steps one after the other.  A step that fails does not end
the session; what it has changed before it failed stays changed.
-/

namespace PagedRows

/-- The window of a session, with the cursors and the buffer beside it. -/
structure Session where
  window : Window
  cursors : List (Nat × Cursor)
  buffer : String

namespace Session

/-- A session begins with an unnamed window and nothing beside it. -/
def initial : Session where
  window := .named none
  cursors := []
  buffer := ""

def summary (session : Session) : Summary where
  start := session.window.start
  rows := session.window.rows.size
  columns := session.window.columns
  disposed := session.window.isDisposed

/-- A cursor that has not been placed stands at the first position. -/
def cursor (session : Session) (id : Nat) : Cursor :=
  (session.cursors.lookup id).getD (.startingAt 0)

def setCursor (session : Session) (id : Nat) (cursor : Cursor) : Session :=
  { session with cursors := (id, cursor) :: session.cursors }

/-- Runs an action on the window, whose changes remain if it fails. -/
def perform {α : Type} (session : Session) (action : Window.Action α)
    (reply : α → Reply) : Except Fault Reply × Session :=
  match action session.window with
  | .ok result window => (.ok (reply result), { session with window := window })
  | .error fault window => (.error fault, { session with window := window })

/-- Looks at the window without changing anything. -/
def inspect {α : Type} (session : Session) (found : Except Fault α)
    (reply : α → Reply) : Except Fault Reply × Session :=
  (found.map reply, session)

def Written.action (row : Position) (column : Nat) : Written → Window.Action Unit
  | null => .putNull row column
  | long value => .putLong value row column
  | double value => .putDouble value row column
  | string text? => .putString text? row column
  | blob bytes? => .putBlob bytes? row column

/-- A new window of a given size or of the default size. -/
def newWindow (name? : Option String) : Option Int → Except Fault Window
  | none => .ok (.named name?)
  | some sizeBytes => Window.ofSize name? sizeBytes

def renew (session : Session) (name? : Option String) (sizeBytes? : Option Int) :
    Except Fault Reply × Session :=
  match newWindow name? sizeBytes? with
  | .error fault => (.error fault, session)
  | .ok window => (.ok .done, { session with window := window })

/-- Copies the text of a cell into the buffer, which a fault leaves alone. -/
def copyText (session : Session) (row : Position) (column : Nat) :
    Except Fault Reply × Session :=
  match session.window.copyText row column with
  | .error fault => (.ok (.buffer session.buffer (some fault)), session)
  | .ok text => (.ok (.buffer text none), { session with buffer := text })

/-- The action that fills the window with the rows of a text, once all of them
have been read. -/
def fillLines (start : Position) (columns : Nat) (text : String) :
    Window.Action Nat :=
  match RowLines.read text.toList with
  | .error fault => throw fault
  | .ok rows => .fill start columns rows

/-- A yielded row as it is asked for. -/
def yieldedRow (window : Window) (position : Position)
    (readings? : Option (List (Getter × Nat))) (rendered : Bool) : YieldedRow where
  position := position
  columns := window.columns
  windowName := window.name
  readings? := readings?.map fun wanted =>
    wanted.map fun (getter, column) => window.read position column getter
  json? := if rendered then some (window.rowJson position) else none

def next (session : Session) (id : Nat) (readings? : Option (List (Getter × Nat)))
    (rendered : Bool) : Except Fault Reply × Session :=
  match (session.cursor id).next session.window with
  | .error fault => (.error fault, session)
  | .ok (.gap gap, after) =>
      (.ok (.missing gap after.position), session.setCursor id after)
  | .ok (.row position, after) =>
      (.ok (.yielded (yieldedRow session.window position readings? rendered)
        after.position), session.setCursor id after)

def drain (session : Session) (id : Nat) : Except Fault Reply × Session :=
  match (session.cursor id).drain session.window with
  | .error fault => (.error fault, session)
  | .ok (positions, gap, after) =>
      ((positions.mapM session.window.rowJson).map
        fun rows => .drained rows gap after.position,
        session.setCursor id after)

mutual

def run : Step → Session → Except Fault Reply × Session
  | .renew name? sizeBytes?, session => session.renew name? sizeBytes?
  | .describe, session =>
      (.ok (.description session.window.name session.window.sizeBytes
        session.window.contentFlags), session)
  | .info, session => session.inspect session.window.infoJson .json
  | .setStart start, session => session.perform (.setStart start) fun _ => .done
  | .setColumns columns, session =>
      session.perform (.setColumns columns) fun _ => .done
  | .allocateRow, session => session.perform .allocateRow fun _ => .done
  | .freeLastRow, session => session.perform .freeLastRow fun _ => .done
  | .clear, session => session.perform .clear fun _ => .done
  | .acquire, session => session.perform .acquire fun _ => .done
  | .release, session =>
      (.ok .done, { session with window := session.window.release })
  | .close, session => (.ok .done, { session with window := session.window.close })
  | .guarded steps stopAtFailure, session =>
      match session.perform .acquire fun _ => .done with
      | (.error fault, held) => (.error fault, held)
      | (.ok _, held) =>
          match runAll steps stopAtFailure held with
          | (results, after) =>
              (.ok (.guarded results), { after with window := after.window.release })
  | .read getter row column, session =>
      session.inspect (session.window.read row column getter) .reading
  | .readAll row column, session =>
      (.ok (.readings (Getter.all.map fun getter =>
        (getter, session.window.read row column getter))), session)
  | .copyText row column, session => session.copyText row column
  | .write value row column, session =>
      session.perform (value.action row column) fun _ => .done
  | .fill start columns rows, session =>
      session.perform (.fill start columns rows) .count
  | .fillLines start columns text, session =>
      session.perform (fillLines start columns text) .count
  | .placeCursor id position, session =>
      (.ok .done, session.setCursor id (.startingAt position))
  | .next id readings? rendered, session => session.next id readings? rendered
  | .drain id, session => session.drain id

/-- Runs steps in order, up to the first failure if that is to end them. -/
def runAll : List Step → Bool → Session → List Result × Session
  | [], _, session => ([], session)
  | step :: steps, stopAtFailure, session =>
      match run step session with
      | (outcome, after) =>
          if stopAtFailure && !outcome.toBool then ([(outcome, after.summary)], after)
          else
            match runAll steps stopAtFailure after with
            | (results, last) => ((outcome, after.summary) :: results, last)

end

/-- The results of all steps of a new session. -/
def results (steps : List Step) : List Result :=
  (runAll steps false initial).1

end Session

end PagedRows
