import PagedRows.CommandLine.Complaint
import PagedRows.CommandLine.Token

/-!
# Settings of a subcommand

The arguments after a subcommand are taken from left to right.  A value is
checked when the next parameter begins or the arguments end, so that an argument
which fits nowhere is complained about before the value in front of it.
-/

namespace PagedRows.CommandLine

structure Settings where
  input? : Option String := none
  name? : Option String := none
  windowSize? : Option Int := none
  pageSize? : Option Position := none
  start? : Option Position := none
  count? : Option Position := none
deriving DecidableEq

namespace Settings

/-- A value that has been read, or the complaint about it. -/
def checked {α : Type} (parameter : Parameter) (value : List Char)
    (read : Except NumberFlaw α) : Except Complaint α :=
  read.mapError (.invalidValue value parameter)

/-- Refuses to set what is already set. -/
def ensureUnset {α : Type} (parameter : Parameter) (held : Option α) :
    Except Complaint Unit :=
  if held.isSome then .error (.repeated parameter) else .ok ()

def assign (settings : Settings) (value : List Char) :
    Parameter → Except Complaint Settings
  | .input =>
      if value.isEmpty then .error (.missingValue .input)
      else .ok { settings with input? := some (String.ofList value) }
  | .name => do
      ensureUnset .name settings.name?
      return { settings with name? := some (String.ofList value) }
  | .windowSize => do
      ensureUnset .windowSize settings.windowSize?
      let size ← checked .windowSize value (readInt64 value)
      return { settings with windowSize? := some size }
  | .pageSize => do
      ensureUnset .pageSize settings.pageSize?
      let size ← checked .pageSize value (readPosition value)
      return { settings with pageSize? := some size }
  | .start => do
      ensureUnset .start settings.start?
      let start ← checked .start value (readPosition value)
      return { settings with start? := some start }
  | .count => do
      ensureUnset .count settings.count?
      let count ← checked .count value (readPosition value)
      return { settings with count? := some count }

end Settings

/-- The parameter begun last, whose value has not been checked. -/
inductive Pending where
  | nothing
  | awaiting (parameter : Parameter)
  | given (parameter : Parameter) (value : List Char)
deriving DecidableEq

structure Taken where
  settings : Settings := {}
  pending : Pending := .nothing
  /-- Whether the input has been given, checked or not. -/
  inputGiven : Bool := false
deriving DecidableEq

namespace Taken

/-- Checks the value of the parameter begun last. -/
def settle (taken : Taken) : Except Complaint Settings :=
  match taken.pending with
  | .nothing => .ok taken.settings
  | .awaiting parameter => .error (.missingValue parameter)
  | .given parameter value => taken.settings.assign value parameter

/-- Begins a parameter that has its value with it or after it. -/
def begin (taken : Taken) (parameter : Parameter) (value? : Option (List Char)) :
    Except Complaint Taken := do
  let settings ← taken.settle
  match value? with
  | none => return { taken with settings := settings, pending := .awaiting parameter }
  | some value =>
      let settings ← settings.assign value parameter
      return { taken with settings := settings, pending := .nothing }

/-- Takes a word that is not the value of an option. -/
def takeWord (taken : Taken) (takesInput : Bool) (word : List Char) :
    Except Complaint Taken :=
  if takesInput && !taken.inputGiven then do
    let settings ← taken.settle
    return { settings := settings, pending := .given .input word, inputGiven := true }
  else .error (.unexpectedArgument word)

/-- Takes a word, which is the value of an option that waits for one. -/
def takeValue (taken : Taken) (takesInput : Bool) (word : List Char) :
    Except Complaint Taken :=
  match taken.pending with
  | .awaiting parameter => .ok { taken with pending := .given parameter word }
  | _ => taken.takeWord takesInput word

/-- Whether the window size waits for its value, which may be negative. -/
def awaitsNegative (taken : Taken) : Bool :=
  taken.pending = .awaiting .windowSize

end Taken

/-- Takes the arguments of a subcommand with the given options.  There are no
settings if help is asked for. -/
def readSettings (options : List Parameter) (takesInput : Bool) (ended : Bool)
    (taken : Taken) : List (List Char) → Except Complaint (Option Settings)
  | [] => taken.settle.map some
  | argument :: rest => do
      if ended then
        readSettings options takesInput true (← taken.takeWord takesInput argument) rest
      else
        match Token.ofArgument argument with
        | .endOfOptions => readSettings options takesInput true taken rest
        | .long name value? =>
            match options.find? (·.flag? = some (String.ofList name)) with
            | some parameter =>
                readSettings options takesInput false (← taken.begin parameter value?) rest
            | none =>
                if name = "help".toList then
                  match value? with
                  | some value => .error (.unexpectedValue value "help")
                  | none => taken.settle.map fun _ => none
                else .error (.unexpectedArgument ('-' :: '-' :: name))
        | .short first others =>
            if taken.awaitsNegative && looksLikeNumber (first :: others) then
              readSettings options takesInput false
                (← taken.takeValue takesInput argument) rest
            else if first = 'h' then taken.settle.map fun _ => none
            else .error (.unexpectedArgument ['-', first])
        | .word word =>
            readSettings options takesInput false (← taken.takeValue takesInput word) rest

end PagedRows.CommandLine
