import TableGateway.Gateway.Session
import TableGateway.Wire.Bind
import TableGateway.Wire.Cell

/-! # Exchanges with a server

One statement on the wire. It is parsed by the server, which tells the types of its parameters; the
parameters are sent; the server runs the statement and sends rows of cells. The first thing that goes wrong
ends the exchange. A server has its reactions prepared and takes the next one for every statement that
reaches it.

* `Reaction.exchange` : what is sent for a statement, and the rows or the fault
* `Server.query` : one exchange with a server
* `Executor.server` : a server as the executor of a gateway -/

namespace TableGateway.Wire

open TableGateway.Sql

/-- When a server refuses a statement. -/
inductive Stage where
  | parse
  | execute
  deriving DecidableEq, Repr

/-- A server's refusal. -/
structure Refusal where
  code : String
  message : String
  constraint : Option String
  stage : Stage
  deriving DecidableEq, Repr

/-- **What a server does with a statement.** -/
structure Reaction where
  parameters : List SqlType
  columns : List (String × SqlType)
  rows : List (List (Option (List UInt8)))
  refusal : Option Refusal

/-- What reached the server: the text, and the parameters if they were sent. -/
structure Sent where
  text : String
  params : Option (List (Option (List UInt8)))
  deriving DecidableEq, Repr

/-- The fault of a refusal. A violated constraint is named. -/
def Refusal.fault (r : Refusal) : Fault :=
  let detail := r.constraint.getD "unknown" ++ ": " ++ r.message
  if r.code = "23505" then .uniqueViolation detail
  else if r.code = "23503" then .foreignKeyViolation detail
  else if r.code = "23514" then .checkViolation detail
  else .query .server

/-- The bytes of the parameters, from the `index`-th on. -/
def bindParams (index : Nat) :
    List Value → List SqlType → Except Fault (List (Option (List UInt8)))
  | v :: vs, type :: types =>
    match v.bind type with
    | .ok bytes => (bindParams (index + 1) vs types).map (bytes :: ·)
    | .error _ => .error (.query (.parameter index))
  | _, _ => .ok []

/-- The cells of a row, from the `index`-th column on. -/
def decodeCells (index : Nat) :
    List (String × SqlType) → List (Option (List UInt8)) → Except Fault (List (String × Value))
  | (name, type) :: columns, cell :: cells =>
    match decodeCell? type cell with
    | some v => (decodeCells (index + 1) columns cells).map ((name, v) :: ·)
    | none => .error (.decode name (.malformed index))
  | _, _ => .ok []

/-- A row. -/
def decodeRow (columns : List (String × SqlType)) (cells : List (Option (List UInt8))) :
    Except Fault Row :=
  (decodeCells 0 columns cells).map Row.mk

namespace Reaction

/-- What happens after the statement was parsed. -/
def execute (reaction : Reaction) (statement : Statement) : Sent × Except Fault (List Row) :=
  if statement.params.length ≠ reaction.parameters.length then
    (⟨statement.text, none⟩, .error
      (.query (.parameterCount reaction.parameters.length statement.params.length)))
  else
    match bindParams 0 statement.params reaction.parameters with
    | .error fault => (⟨statement.text, none⟩, .error fault)
    | .ok params =>
      let sent := ⟨statement.text, some params⟩
      match reaction.refusal with
      | some refusal => (sent, .error refusal.fault)
      | none => (sent, reaction.rows.mapM (decodeRow reaction.columns))

/-- **One exchange** about a statement that reaches the server. -/
def exchange (reaction : Reaction) (statement : Statement) : Sent × Except Fault (List Row) :=
  match reaction.refusal with
  | some ⟨code, message, constraint, .parse⟩ =>
    (⟨statement.text, none⟩, .error (Refusal.fault ⟨code, message, constraint, .parse⟩))
  | _ => reaction.execute statement

end Reaction

/-- **A server**: the reactions that it has left, and what reached it, the last statement first. -/
structure Server where
  pending : List Reaction
  reached : List Sent

namespace Server

/-- A server with its reactions prepared. -/
def prepared (reactions : List Reaction) : Server := ⟨reactions, []⟩

/-- A reaction without parameters or rows. -/
def idle : Reaction := ⟨[], [], [], none⟩

/-- Whether a statement can be sent: a text with a zero character cannot. -/
def isSendable (statement : Statement) : Bool := statement.text.toList.all (·.toNat != 0)

/-- **One exchange with a server.** -/
def query (statement : Statement) (server : Server) : Except Fault (List Row) × Server :=
  if isSendable statement then
    let (sent, result) := (server.pending.headD idle).exchange statement
    (result, ⟨server.pending.tail, sent :: server.reached⟩)
  else (.error (.query .encoding), server)

end Server

end TableGateway.Wire

namespace TableGateway

/-- A server as an executor. -/
def Executor.server : Executor Wire.Server := ⟨Wire.Server.query⟩

end TableGateway
