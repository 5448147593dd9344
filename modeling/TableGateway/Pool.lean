import TableGateway.Connection.Pairs
import TableGateway.Connection.Url
import TableGateway.Fault

/-! # Pools

A pool of connections to one server. It is made from the text of a connection, which is read at once, and
it opens nothing until a connection is taken out.

* `Pool.make` : a pool, or why there is none
* `Pool.refusal?` : why a pool gives out no connection -/

namespace TableGateway

/-- Whether a text spells a connection: an address with a scheme, or else pairs. -/
def Connection.isValid (text : String) : Bool :=
  match Connection.afterScheme? text.toList with
  | some cs => Connection.isUrl cs
  | none =>
    match Connection.readPairs? text.toList with
    | some settings => settings.all Connection.Setting.isValid
    | none => false

/-- What a pool is made with: the number of connections that it may hold, and whether to give up waiting
for one after a time. -/
structure Pool.Options where
  maxSize : Nat := 16
  timed : Bool := false

/-- **A pool**: how many connections it may hold and how many it holds, and whether it is closed. -/
structure Pool where
  maxSize : Nat
  size : Nat
  isClosed : Bool
  deriving DecidableEq, Repr

namespace Pool

/-- **A pool for the connection that a text spells.** There is no timer to wait with, so a pool that gives
up after a time cannot be made. -/
def make (text : String) (options : Options) : Except Fault Pool :=
  if Connection.isValid text then
    if options.timed then .error (.pool .noTimer) else .ok ⟨options.maxSize, 0, false⟩
  else .error (.connection .malformed)

/-- The pool, closed for good. -/
def close (p : Pool) : Pool := { p with isClosed := true }

/-- **Why a pool gives out no connection**, if it does not. -/
def refusal? (p : Pool) : Option Fault := if p.isClosed then some (.pool .closed) else none

end Pool

end TableGateway
