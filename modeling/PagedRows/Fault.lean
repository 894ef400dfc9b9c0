/-!
# Faults

A fault says what kind of thing went wrong and, where they are known, in which
words, with which advice, in which row and column, and for which outer cause.
-/

namespace PagedRows

inductive Fault.Kind where
  | internal
  | usage
  | io
  | invalidConstruction
  | outOfRange
  | typeMismatch
  | preconditionViolation
  | emptyRemoval
  | disposed
deriving DecidableEq

namespace Fault.Kind

def name : Fault.Kind → String
  | internal => "Internal"
  | usage => "Usage"
  | io => "Io"
  | invalidConstruction => "InvalidConstruction"
  | outOfRange => "OutOfRange"
  | typeMismatch => "TypeMismatch"
  | preconditionViolation => "PreconditionViolation"
  | emptyRemoval => "EmptyRemoval"
  | disposed => "Disposed"

def exitCode : Fault.Kind → Nat
  | internal => 1
  | usage => 2
  | io => 3
  | invalidConstruction => 4
  | outOfRange => 5
  | typeMismatch => 6
  | preconditionViolation => 7
  | emptyRemoval => 8
  | disposed => 9

end Fault.Kind

/-- A failure with what is known about it. -/
structure Fault where
  kind : Fault.Kind
  message? : Option String := none
  hint? : Option String := none
  row? : Option Nat := none
  column? : Option Nat := none
  cause? : Option String := none
deriving DecidableEq

namespace Fault

/-- A fault of which only the kind is known. -/
def ofKind (kind : Fault.Kind) : Fault where
  kind := kind

def new (kind : Fault.Kind) (message : String) : Fault where
  kind := kind
  message? := some message

def withMessage (fault : Fault) (message : String) : Fault :=
  { fault with message? := some message }

def withHint (fault : Fault) (hint : String) : Fault :=
  { fault with hint? := some hint }

def withRow (fault : Fault) (row : Nat) : Fault :=
  { fault with row? := some row }

def withColumn (fault : Fault) (column : Nat) : Fault :=
  { fault with column? := some column }

def withCause (fault : Fault) (cause : String) : Fault :=
  { fault with cause? := some cause }

/-- Names the cell that was asked for, by its position in the whole result. -/
def atCell (fault : Fault) (row column : Nat) : Fault :=
  (fault.withRow row).withColumn column

/-- The message, or the name of the kind where there is none. -/
def summary (fault : Fault) : String :=
  fault.message?.getD fault.kind.name

/-- The whole fault on one line. -/
def display (fault : Fault) : String :=
  fault.kind.name ++
    (fault.message?.map (": " ++ ·)).getD "" ++
    (fault.row?.map fun row => s!" (row: {row})").getD "" ++
    (fault.column?.map fun column => s!" (column: {column})").getD ""

end Fault

end PagedRows
