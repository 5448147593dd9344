import TableGateway.Gateway.Call
import TableGateway.Text.Utf8

/-! # Hooks

A hook is shown every statement before it is run. It can note it, and it cannot change it.

* `Hook.notes` : what a hook notes of a statement
* `clip` : a text cut to a number of bytes for the log -/

namespace TableGateway

open TableGateway.Sql

/-! ### The log -/

/-- How much an event of the log matters. -/
inductive Level where
  | error
  | warn
  | info
  | debug
  | trace
  deriving DecidableEq, Repr

def Level.label : Level → String
  | error => "ERROR"
  | warn => "WARN"
  | info => "INFO"
  | debug => "DEBUG"
  | trace => "TRACE"

/-- An event of the log, its fields in the order of their names. -/
structure Event where
  level : Level
  target : String
  fields : List (String × String)
  deriving DecidableEq, Repr

/-- The longest head of a text that has at most `limit` bytes. -/
def head (limit : Nat) (s : String) : String :=
  if s.utf8ByteSize ≤ limit then s else (s.sliceTo (Text.lastCut s limit)).copy

/-- A text, or its longest head that has at most `limit` bytes followed by three points. -/
def clip (limit : Option Nat) (s : String) : String :=
  match limit with
  | none => s
  | some n => if n < s.utf8ByteSize then head n s ++ "..." else s

/-! ### Hooks -/

/-- What a hook is shown: a statement, and the call and the table that it is for. -/
structure Sighting where
  operation : Operation
  table : String
  statement : Statement

/-- **A hook**: one that does nothing, one that notes statements under a label, one that logs them, or
several. -/
inductive Hook where
  | silent
  | recorder (label : String)
  | logger (level : Level) (limit : Option Nat)
  | chain (hooks : List Hook)

/-- A hook that logs at the usual level and length. -/
def Hook.usualLogger : Hook := .logger .debug (some 200)

/-- What is noted: a statement under a label, or an event of the log. -/
inductive Note where
  | seen (label : String) (sighting : Sighting)
  | event (event : Event)

/-- The event of a statement. -/
def Sighting.event (s : Sighting) (level : Level) (limit : Option Nat) : Event where
  level := level
  target := "pgrepo.sql"
  fields :=
    [("operation", s.operation.label), ("param_count", toString s.statement.params.length),
      ("sql", clip limit s.statement.text), ("table", s.table)]

namespace Hook

mutual

/-- **What a hook notes of a statement.** Several hooks note it one after the other. -/
def notes (s : Sighting) : Hook → List Note
  | silent => []
  | recorder label => [.seen label s]
  | logger level limit => [.event (s.event level limit)]
  | chain hooks => chainNotes s hooks

def chainNotes (s : Sighting) : List Hook → List Note
  | [] => []
  | h :: hs => notes s h ++ chainNotes s hs

end

end Hook

end TableGateway
