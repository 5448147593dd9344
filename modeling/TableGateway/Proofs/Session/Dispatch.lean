import Mathlib.Data.List.Basic
import TableGateway.Gateway.Session

/-! # Dispatch

Every statement of a session is shown once and run once. `Conducts` says all that a call may do: it is
refused or idle and leaves the executor alone, or its statement is shown to the hook and then run, and
nothing else happens. A session is such calls one after the other, whatever the executor does.

* `Hook.notes_eq_leaves` : several hooks note a statement one after the other, from left to right
* `Gateway.conducts_perform`, `Gateway.conducted_run` : what one call does, and what a session does
* `Gateway.run_exactlyOnce` : the statements of a session, those run and those seen -/

namespace TableGateway

open TableGateway.Sql

variable {σ : Type}

/-! ### Several hooks in one -/

namespace Hook

mutual

/-- The hooks that several hooks come down to, from left to right. -/
def leaves : Hook → List Hook
  | silent => [silent]
  | recorder label => [recorder label]
  | logger level limit => [logger level limit]
  | chain hooks => chainLeaves hooks

def chainLeaves : List Hook → List Hook
  | [] => []
  | h :: hs => leaves h ++ chainLeaves hs

end

/-- Whether a hook is made of other hooks. -/
def isChain : Hook → Bool
  | chain _ => true
  | _ => false

/-- The label of a hook that notes statements. -/
def label? : Hook → Option String
  | recorder label => some label
  | _ => none

/-- The labels under which a statement is noted, from left to right. -/
def recorders (h : Hook) : List String := h.leaves.filterMap label?

mutual

theorem isChain_of_mem_leaves {l : Hook} : ∀ {h : Hook}, l ∈ h.leaves → l.isChain = false
  | silent, hl => by rw [List.mem_singleton.mp hl]; rfl
  | recorder _, hl => by rw [List.mem_singleton.mp hl]; rfl
  | logger _ _, hl => by rw [List.mem_singleton.mp hl]; rfl
  | chain _, hl => isChain_of_mem_chainLeaves hl

theorem isChain_of_mem_chainLeaves {l : Hook} :
    ∀ {hs : List Hook}, l ∈ chainLeaves hs → l.isChain = false
  | [], hl => absurd hl List.not_mem_nil
  | h :: hs, hl => by
    rcases List.mem_append.mp hl with hl | hl
    · exact isChain_of_mem_leaves hl
    · exact isChain_of_mem_chainLeaves hl

end

mutual

/-- **A hook notes what its leaves note**, from left to right. -/
theorem notes_eq_leaves (s : Sighting) : ∀ h : Hook, h.notes s = h.leaves.flatMap (Hook.notes s)
  | silent => rfl
  | recorder _ => rfl
  | logger _ _ => rfl
  | chain hooks => chainNotes_eq_leaves s hooks

theorem chainNotes_eq_leaves (s : Sighting) :
    ∀ hs : List Hook, chainNotes s hs = (chainLeaves hs).flatMap (Hook.notes s)
  | [] => rfl
  | h :: hs => by
    rw [chainNotes, chainLeaves, List.flatMap_append, ← notes_eq_leaves s h, ← chainNotes_eq_leaves s hs]

end

end Hook

/-- The statement that a note under a label is of. -/
def Note.seenBy? (label : String) : Note → Option Statement
  | seen l s => if l = label then some s.statement else none
  | event _ => none

theorem Hook.seenBy_leaf (label : String) (s : Sighting) {h : Hook} (hh : h.isChain = false) :
    (h.notes s).filterMap (Note.seenBy? label) =
      List.replicate (h.label?.toList.count label) s.statement := by
  cases h with
  | silent => rfl
  | recorder l =>
    by_cases hl : l = label
    · simp [notes, Note.seenBy?, label?, hl]
    · simp [notes, Note.seenBy?, label?, hl]
  | logger level limit => rfl
  | chain hooks => cases hh

/-- **A statement is noted under a label once by every hook that has the label.** -/
theorem Hook.seenBy_notes (label : String) (s : Sighting) (h : Hook) :
    (h.notes s).filterMap (Note.seenBy? label) = List.replicate (h.recorders.count label) s.statement := by
  have hleaves : ∀ hs : List Hook, (∀ l ∈ hs, l.isChain = false) →
      (hs.flatMap (Hook.notes s)).filterMap (Note.seenBy? label) =
        List.replicate ((hs.filterMap label?).count label) s.statement := by
    intro hs
    induction hs with
    | nil => exact fun _ => rfl
    | cons l ls ih =>
      intro hl
      have hfirst := Hook.seenBy_leaf label s (hl l List.mem_cons_self)
      have hrest := ih fun m hm => hl m (List.mem_cons_of_mem _ hm)
      have hcount : ((l :: ls).filterMap label?).count label =
          l.label?.toList.count label + (ls.filterMap label?).count label := by
        cases hlabel : l.label? <;> simp [hlabel, List.count_cons, Nat.add_comm]
      rw [List.flatMap_cons, List.filterMap_append, hfirst, hrest, hcount, List.replicate_add]
  rw [h.notes_eq_leaves, hleaves _ fun _ => isChain_of_mem_leaves]
  rfl

/-! ### What a call does -/

/-- The statement that is to be run for a call, if there is one. -/
def Table.statement? (t : Table) (call : Call) : Option Statement :=
  match t.statement call with
  | .ok statement => statement
  | .error _ => none

/-- The statement that a deed ran. -/
def Deed.ran? : Deed → Option Statement
  | ran statement _ => some statement
  | _ => none

/-- The statements that a call ran. -/
def Turn.ran (turn : Turn σ) : List Statement := turn.deeds.filterMap Deed.ran?

/-- The statements of a call that a hook saw. -/
def Turn.seenBy (label : String) (turn : Turn σ) : List Statement :=
  turn.notes.filterMap (Note.seenBy? label)

theorem Turn.seenBy_dispatched (label : String) (hook : Hook) (result : Except Fault Answer) (s : Sighting)
    (response : Except Fault (List Row)) (state : σ) :
    (Turn.mk result [.shown s hook, .ran s.statement response] state).seenBy label =
      (Turn.mk result [.shown s hook, .ran s.statement response] state).ran.flatMap
        (List.replicate (hook.recorders.count label)) := by
  have hnotes : (Turn.mk result [.shown s hook, .ran s.statement response] state).notes =
      hook.notes s := List.append_nil _
  have hran : (Turn.mk result [.shown s hook, .ran s.statement response] state).ran = [s.statement] := rfl
  rw [hran, List.flatMap_singleton, seenBy, hnotes, Hook.seenBy_notes]

/-- **All that a call may do.** Without a statement it shows nothing, runs nothing and leaves the executor as
it was. With a statement it shows just that to just the hook, and then runs just that. -/
inductive Conducts (t : Table) (hook : Hook) (exec : Executor σ) (s : σ) (call : Call) : Turn σ → Prop
  | refused {fault : Fault} (h : t.statement call = .error fault) :
    Conducts t hook exec s call ⟨.error fault, [], s⟩
  | idle (hcall : call.operation = .update) (h : t.statement call = .ok none) :
    Conducts t hook exec s call ⟨.ok (.ids []), [.logged (skippedUpdate t.name)], s⟩
  | failed {statement : Statement} {fault : Fault} {s' : σ} (h : t.statement call = .ok (some statement))
    (hquery : exec.query statement s = (.error fault, s')) :
    Conducts t hook exec s call
      ⟨.error fault, [.shown ⟨call.operation, t.name, statement⟩ hook, .ran statement (.error fault)], s'⟩
  | answered {statement : Statement} {rows : List Row} {s' : σ} (h : t.statement call = .ok (some statement))
    (hquery : exec.query statement s = (.ok rows, s')) :
    Conducts t hook exec s call
      ⟨t.answer call rows, [.shown ⟨call.operation, t.name, statement⟩ hook, .ran statement (.ok rows)], s'⟩

/-- **A session**: calls one after the other, each from the state that the one before it left. -/
inductive Conducted (t : Table) (hook : Hook) (exec : Executor σ) : σ → List Call → List (Turn σ) → Prop
  | done (s : σ) : Conducted t hook exec s [] []
  | call {s : σ} {call : Call} {turn : Turn σ} {calls : List Call} {turns : List (Turn σ)}
    (h : Conducts t hook exec s call turn) (rest : Conducted t hook exec turn.state calls turns) :
    Conducted t hook exec s (call :: calls) (turn :: turns)

/-- Only an update can have nothing to run. -/
theorem Table.operation_of_statement_none {t : Table} {call : Call} (h : t.statement call = .ok none) :
    call.operation = .update := by
  have hsome : ∀ x : Except Fault Statement, x.map some ≠ .ok none := by
    rintro (_ | _) hx
    · cases hx
    · cases hx
  cases call with
  | getById id => cases h
  | list filter page order => exact absurd h (hsome _)
  | count filter => exact absurd h (hsome _)
  | create values => exact absurd h (hsome _)
  | update changes filter => rfl
  | remove filter => exact absurd h (hsome _)

namespace Gateway

/-- **A call of a gateway does what a call may do.** -/
theorem conducts_perform (g : Gateway) (exec : Executor σ) (call : Call) (s : σ) :
    Conducts g.table g.hook exec s call (g.perform exec call s) := by
  unfold perform
  rcases h : g.table.statement call with fault | (_ | statement)
  · exact .refused h
  · exact .idle (Table.operation_of_statement_none h) h
  · rcases hquery : exec.query statement s with ⟨fault | rows, s'⟩
    · simp only [hquery]
      exact .failed h hquery
    · simp only [hquery]
      exact .answered h hquery

/-- **Calls of a gateway are a session.** -/
theorem conducted_run (g : Gateway) (exec : Executor σ) :
    ∀ (calls : List Call) (s : σ), Conducted g.table g.hook exec s calls (g.run exec calls s)
  | [], s => .done s
  | call :: calls, s => .call (g.conducts_perform exec call s) (conducted_run g exec calls _)

theorem table_foldl_withHook : ∀ (installed : List Hook) (g : Gateway),
    (installed.foldl withHook g).table = g.table
  | [], _ => rfl
  | h :: hs, g => table_foldl_withHook hs (g.withHook h)

/-- Of several hooks that are installed the last one is left. -/
theorem hook_foldl_withHook : ∀ (installed : List Hook) (g : Gateway),
    (installed.foldl withHook g).hook = installed.getLast?.getD g.hook
  | [], _ => rfl
  | h :: hs, g => by
    rw [List.foldl_cons, hook_foldl_withHook hs (g.withHook h), List.getLast?_cons]
    rfl

end Gateway

/-! ### What a session does -/

namespace Conducts

variable {t : Table} {hook : Hook} {exec : Executor σ} {s : σ} {call : Call} {turn : Turn σ}

theorem ran_eq (h : Conducts t hook exec s call turn) : turn.ran = (t.statement? call).toList := by
  unfold Table.statement?
  cases h with
  | refused h => rw [h]; rfl
  | idle _ h => rw [h]; rfl
  | failed h _ => rw [h]; rfl
  | answered h _ => rw [h]; rfl

theorem state_eq (h : Conducts t hook exec s call turn) :
    turn.state = turn.ran.foldl (fun s statement => (exec.query statement s).2) s := by
  cases h with
  | refused h => rfl
  | idle _ h => rfl
  | failed _ hquery => exact (congrArg Prod.snd hquery).symm
  | answered _ hquery => exact (congrArg Prod.snd hquery).symm

theorem seenBy_eq (h : Conducts t hook exec s call turn) (label : String) :
    turn.seenBy label = turn.ran.flatMap (List.replicate (hook.recorders.count label)) := by
  cases h with
  | refused h => rfl
  | idle _ h => rfl
  | failed _ _ => exact Turn.seenBy_dispatched label hook _ _ _ _
  | answered _ _ => exact Turn.seenBy_dispatched label hook _ _ _ _

end Conducts

/-- The state that a session left the executor in. -/
def stateAfter (s : σ) (turns : List (Turn σ)) : σ := turns.foldl (fun _ turn => turn.state) s

namespace Conducted

variable {t : Table} {hook : Hook} {exec : Executor σ} {s : σ} {calls : List Call} {turns : List (Turn σ)}

theorem ran_eq (h : Conducted t hook exec s calls turns) :
    turns.flatMap Turn.ran = calls.filterMap t.statement? := by
  induction h with
  | done s => rfl
  | call hcall _ ih =>
    rw [List.flatMap_cons, hcall.ran_eq, ih]
    cases hs : t.statement? _ with
    | none => rw [List.filterMap_cons_none hs]; rfl
    | some statement => rw [List.filterMap_cons_some hs]; rfl

theorem state_eq (h : Conducted t hook exec s calls turns) :
    stateAfter s turns =
      (turns.flatMap Turn.ran).foldl (fun s statement => (exec.query statement s).2) s := by
  induction h with
  | done s => rfl
  | call hcall _ ih =>
    rw [List.flatMap_cons, List.foldl_append, ← hcall.state_eq, ← ih]
    rfl

theorem seenBy_eq (h : Conducted t hook exec s calls turns) (label : String) :
    turns.flatMap (Turn.seenBy label) =
      (turns.flatMap Turn.ran).flatMap (List.replicate (hook.recorders.count label)) := by
  induction h with
  | done s => rfl
  | call hcall _ ih =>
    rw [List.flatMap_cons, List.flatMap_cons, List.flatMap_append, hcall.seenBy_eq, ih]

/-- A hook with a label of its own has seen the statements that were run, and no others. -/
theorem seenBy_eq_ran (h : Conducted t hook exec s calls turns) {label : String}
    (hlabel : hook.recorders.count label = 1) :
    turns.flatMap (Turn.seenBy label) = turns.flatMap Turn.ran := by
  have hone : (List.replicate 1 : Statement → List Statement) = fun statement => [statement] := rfl
  rw [h.seenBy_eq, hlabel, hone]
  exact List.flatMap_singleton' _

end Conducted

/-- **Statements of a session that are shown once and run once.** -/
structure ExactlyOnce (t : Table) (hook : Hook) (exec : Executor σ) (s : σ) (calls : List Call)
    (turns : List (Turn σ)) : Prop where
  conducted : Conducted t hook exec s calls turns
  /-- The statements run are those that the calls have, in order. -/
  ran : turns.flatMap Turn.ran = calls.filterMap t.statement?
  /-- The executor is asked these statements once each, in order, and nothing else. -/
  state : stateAfter s turns =
    (turns.flatMap Turn.ran).foldl (fun s statement => (exec.query statement s).2) s
  /-- A statement that is shown comes to every leaf of the hook once, from left to right. -/
  leaves : ∀ sighting, hook.notes sighting = hook.leaves.flatMap (Hook.notes sighting)
  chainless : ∀ leaf ∈ hook.leaves, leaf.isChain = false
  /-- Under a label each of them is seen as often as the hook has the label. -/
  seen : ∀ label, turns.flatMap (Turn.seenBy label) =
    (turns.flatMap Turn.ran).flatMap (List.replicate (hook.recorders.count label))
  /-- A hook with a label of its own has seen just the statements that were run. -/
  recorded : ∀ label, hook.recorders.count label = 1 →
    turns.flatMap (Turn.seenBy label) = turns.flatMap Turn.ran

/-- **Every statement of a session is shown once, to the hook that was installed last, and run once**, whatever
the executor does. -/
theorem Gateway.run_exactlyOnce (t : Table) (installed : List Hook) (exec : Executor σ) (calls : List Call)
    (s : σ) : ExactlyOnce t (installed.getLast?.getD .silent) exec s calls
      ((installed.foldl withHook (ofTable t)).run exec calls s) := by
  have hrun := (installed.foldl withHook (ofTable t)).conducted_run exec calls s
  rw [table_foldl_withHook, hook_foldl_withHook] at hrun
  exact ⟨hrun, hrun.ran_eq, hrun.state_eq, fun s => Hook.notes_eq_leaves s _,
    fun _ => Hook.isChain_of_mem_leaves, hrun.seenBy_eq, fun _ => hrun.seenBy_eq_ran⟩

end TableGateway
