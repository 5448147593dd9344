import TableGateway.Gateway.Hook

/-! # Sessions

A gateway runs calls on a table: it makes the statement of a call, shows it to its hook, has an executor run
it, and makes the answer of the rows. An executor is any machine that answers statements with rows or with a
fault; its state is carried from call to call.

* `Gateway.perform` : one call
* `Gateway.run` : calls one after the other
* `Turn.deeds` : what a call did, in order
* `Executor.replay` : the executor that gives prepared responses -/

namespace TableGateway

open TableGateway.Sql

/-- **An executor** with states in `σ`. -/
structure Executor (σ : Type) where
  query : Statement → σ → Except Fault (List Row) × σ

/-- **A gateway** to a table, with the hook that statements are shown to. -/
structure Gateway where
  table : Table
  hook : Hook

/-- One thing that is done for a call: an event is logged, a statement is shown to a hook, or a statement is
run. -/
inductive Deed where
  | logged (event : Event)
  | shown (sighting : Sighting) (hook : Hook)
  | ran (statement : Statement) (response : Except Fault (List Row))

/-- What is noted of a deed. -/
def Deed.notes : Deed → List Note
  | logged event => [.event event]
  | shown sighting hook => hook.notes sighting
  | ran _ _ => []

/-- What one call did: its result, its deeds in the order in which they were done, and the state that it left
the executor in. -/
structure Turn (σ : Type) where
  result : Except Fault Answer
  deeds : List Deed
  state : σ

/-- What was noted in a call. -/
def Turn.notes {σ : Type} (turn : Turn σ) : List Note := turn.deeds.flatMap Deed.notes

/-- The event of an update that has nothing to change. -/
def skippedUpdate (table : String) : Event where
  level := .debug
  target := "pgrepo"
  fields := [("message", "empty update skipped"), ("table", table)]

namespace Gateway

variable {σ : Type}

/-- The gateway to the table of a record, without a hook. -/
def ofTable (t : Table) : Gateway := ⟨t, .silent⟩

/-- The gateway with another hook in place of its own. -/
def withHook (g : Gateway) (hook : Hook) : Gateway := { g with hook }

/-- **One call.** The statement is made before anything else happens; where there is none, nothing is shown
and nothing is run. -/
def perform (g : Gateway) (exec : Executor σ) (call : Call) (s : σ) : Turn σ :=
  match g.table.statement call with
  | .error fault => ⟨.error fault, [], s⟩
  | .ok none => ⟨.ok (.ids []), [.logged (skippedUpdate g.table.name)], s⟩
  | .ok (some statement) =>
    let shown := Deed.shown ⟨call.operation, g.table.name, statement⟩ g.hook
    let (response, s) := exec.query statement s
    ⟨response.bind (g.table.answer call), [shown, .ran statement response], s⟩

/-- Calls one after the other, each in the state that the one before it left. -/
def run (g : Gateway) (exec : Executor σ) : List Call → σ → List (Turn σ)
  | [], _ => []
  | call :: calls, s =>
    let turn := g.perform exec call s
    turn :: run g exec calls turn.state

end Gateway

/-! ### Prepared responses -/

/-- The responses that are left, and the statements that were run, the last one first. -/
structure Replay where
  pending : List (Except Fault (List Row))
  ran : List Statement

/-- The executor that gives prepared responses, and no rows when they are used up. -/
def Executor.replay : Executor Replay where
  query statement s :=
    match s.pending with
    | [] => (.ok [], ⟨[], statement :: s.ran⟩)
    | response :: pending => (response, ⟨pending, statement :: s.ran⟩)

end TableGateway
