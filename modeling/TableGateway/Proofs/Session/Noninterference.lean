import TableGateway.Proofs.Session.Dispatch
import TableGateway.Proofs.Statement.Refusal

/-! # Noninterference of values

Two sessions whose calls differ in nothing but values cannot be told apart by what they do: in every call they
run the same text with the same number of parameters, log the same events and have the same result, as long as
the executors give the same responses. The values go into the parameters and nowhere else.

* `Call.Alike` : calls that differ in nothing but values
* `Call.Alike.isSome_statement`, `Call.Alike.redact_eq` : they are refused for the same reason, or their
  statements differ in nothing but parameters
* `Hook.redact_notes` : what a hook notes depends on the number of the parameters alone
* `Gateway.run_indistinct` : two sessions -/

namespace TableGateway

open TableGateway.Sql TableGateway.Sql.Lexeme

variable {σ τ : Type}

/-! ### Calls that differ in values -/

namespace Call

/-- **Calls that differ in nothing but values**: the identifiers, the values of columns, and the numbers of a
page. The columns are the same in the same order, and so are the columns to sort by, and a limit or an offset
is given in both calls or in none. -/
inductive Alike : Call → Call → Prop
  | getById (id id' : String) : Alike (.getById id) (.getById id')
  | list {filter filter' : Predicate} {page page' : Option Page} {order order' : Option OrderBy}
    (hfilter : filter.keys = filter'.keys)
    (hlimit : (page.bind Page.limit).isSome = (page'.bind Page.limit).isSome)
    (hoffset : (page.bind Page.offset).isSome = (page'.bind Page.offset).isSome)
    (horder : (order.map Entries.toList).getD [] = (order'.map Entries.toList).getD []) :
    Alike (.list filter page order) (.list filter' page' order')
  | count {filter filter' : Predicate} (hfilter : filter.keys = filter'.keys) :
    Alike (.count filter) (.count filter')
  | create {values values' : Create} (hvalues : values.keys = values'.keys) :
    Alike (.create values) (.create values')
  | update {changes changes' : Update} {filter filter' : Predicate}
    (hchanges : changes.keys = changes'.keys) (hfilter : filter.keys = filter'.keys) :
    Alike (.update changes filter) (.update changes' filter')
  | remove {filter filter' : Predicate} (hfilter : filter.keys = filter'.keys) :
    Alike (.remove filter) (.remove filter')

end Call

theorem mapEntries_unit (es : Entries Value) :
    mapEntries (fun _ => ()) es.toList = es.keys.map fun k => (k, ()) := by
  rw [mapEntries, Entries.keys, List.map_map]
  rfl

theorem map_unit_eq {α : Type} {a b : Option α} (h : a.isSome = b.isSome) :
    a.map (fun _ => ()) = b.map fun _ => () := by
  cases a <;> cases b <;> first | rfl | cases h

theorem OrderBy.offence?_eq (r : Record) (order : Option OrderBy) :
    order.bind (OrderBy.offence? r) =
      (((order.map Entries.toList).getD []).map Prod.fst).findSome? fun field =>
        if (r.column? field).isSome then none else some (.unknownField field r.table) := by
  cases order <;> rfl

/-- A statement without what its parameters are. -/
def Sql.Statement.redact (s : Statement) : Statement := { s with params := s.params.map fun _ => .null }

theorem Sql.Statement.redact_eq {s s' : Statement} (htext : s.text = s'.text)
    (hcount : s.params.length = s'.params.length) : s.redact = s'.redact := by
  unfold redact
  rw [List.map_const', List.map_const', htext, hcount]

namespace Call.Alike

variable {call call' : Call}

theorem operation_eq (h : Alike call call') : call.operation = call'.operation := by
  cases h <;> rfl

theorem answer_eq (h : Alike call call') (t : Table) : t.answer call = t.answer call' := by
  cases h <;> rfl

/-- The checks do not look at values. -/
theorem refusal_eq (h : Alike call call') (t : Table) : t.refusal? call = t.refusal? call' := by
  cases h with
  | getById id id' => rfl
  | list hfilter _ _ horder =>
    simp only [Table.refusal?, Predicate.offence?, hfilter, OrderBy.offence?_eq, horder]
  | count hfilter => simp only [Table.refusal?, Predicate.offence?, hfilter]
  | create hvalues => simp only [Table.refusal?, Create.offence?, Create.missing, hvalues]
  | update hchanges hfilter =>
    simp only [Table.refusal?, Update.offence?, Predicate.offence?, hchanges, hfilter]
  | remove hfilter => simp only [Table.refusal?, Predicate.offence?, hfilter]

theorem isIdle_eq (h : Alike call call') : call.isIdle = call'.isIdle := by
  have hempty : ∀ es : Entries Value, es.isEmpty = es.keys.isEmpty := fun es => by
    rw [Entries.keys, List.isEmpty_map]
    rfl
  cases h with
  | update hchanges _ =>
    exact (hempty _).trans ((congrArg List.isEmpty hchanges).trans (hempty _).symm)
  | _ => rfl

theorem shape_eq (h : Alike call call') (t : Table) :
    (t.outline call).shape = (t.outline call').shape := by
  unfold Outline.shape
  cases h with
  | getById id id' => rfl
  | list hfilter hlimit hoffset horder =>
    simp only [Table.outline, Outline.map, mapEntries_unit, hfilter, horder, Option.map_map]
    exact congrArg₂ (Outline.list _ _ _) (map_unit_eq hlimit) (map_unit_eq hoffset)
  | count hfilter => simp only [Table.outline, Outline.map, mapEntries_unit, hfilter]
  | create hvalues => simp only [Table.outline, Outline.map, mapEntries_unit, hvalues]
  | update hchanges hfilter =>
    simp only [Table.outline, Outline.map, mapEntries_unit, hchanges, hfilter]
  | remove hfilter => simp only [Table.outline, Outline.map, mapEntries_unit, hfilter]

/-- **Alike calls are refused for the same reason**, and either both or none have a statement. -/
theorem isSome_statement (h : Alike call call') (t : Table) :
    (t.statement call).map Option.isSome = (t.statement call').map Option.isSome := by
  rw [t.isSome_statement, t.isSome_statement, h.refusal_eq, h.isIdle_eq]

/-- **The statements of alike calls differ in nothing but parameters.** -/
theorem redact_eq (h : Alike call call') {t : Table} {s s' : Statement}
    (hs : t.statement call = .ok (some s)) (hs' : t.statement call' = .ok (some s')) :
    s.redact = s'.redact := by
  have hcount : ∀ o : Outline Value, o.values.length = o.shape.values.length := fun o => by
    rw [Outline.shape, Outline.values_map, List.length_map]
  refine Statement.redact_eq (String.toList_injective ?_) ?_
  · rw [Table.toList_text_of_statement hs, Table.toList_text_of_statement hs', ← Outline.spell_shape,
      h.shape_eq, Outline.spell_shape]
  · rw [Table.params_of_statement hs, Table.params_of_statement hs', hcount, h.shape_eq, ← hcount]

end Call.Alike

/-! ### What is noted -/

/-- What is shown to a hook, without the parameters of the statement. -/
def Sighting.redact (s : Sighting) : Sighting := { s with statement := s.statement.redact }

theorem Sighting.redact_eq {operation operation' : Operation} {table : String} {s s' : Statement}
    (hoperation : operation = operation') (hs : s.redact = s'.redact) :
    (Sighting.mk operation table s).redact = (Sighting.mk operation' table s').redact := by
  unfold redact
  rw [hoperation, hs]

/-- A note without the parameters of its statement. The events of the log are as they are. -/
def Note.redact : Note → Note
  | seen label s => seen label s.redact
  | event e => event e

theorem Sighting.event_redact (s : Sighting) (level : Level) (limit : Option Nat) :
    s.redact.event level limit = s.event level limit := by
  unfold event redact Statement.redact
  rw [List.length_map]

mutual

/-- **What a hook notes depends on the number of the parameters alone.** -/
theorem Hook.redact_notes (s : Sighting) : ∀ h : Hook, (h.notes s).map Note.redact = h.notes s.redact
  | .silent => rfl
  | .recorder _ => rfl
  | .logger level limit => by
    rw [notes, notes, s.event_redact]
    rfl
  | .chain hooks => Hook.redact_chainNotes s hooks

theorem Hook.redact_chainNotes (s : Sighting) :
    ∀ hs : List Hook, (chainNotes s hs).map Note.redact = chainNotes s.redact hs
  | [] => rfl
  | h :: hs => by
    rw [chainNotes, chainNotes, List.map_append, Hook.redact_notes s h, Hook.redact_chainNotes s hs]

end

/-- The event of the log that a note is. -/
def Note.event? : Note → Option Event
  | event e => some e
  | seen _ _ => none

theorem Note.filterMap_redact (notes : List Note) :
    (notes.map redact).filterMap event? = notes.filterMap event? := by
  rw [List.filterMap_map]
  refine List.filterMap_congr fun note _ => ?_
  cases note <;> rfl

/-! ### Sessions -/

/-- The response that a deed had. -/
def Deed.response? : Deed → Option (Except Fault (List Row))
  | ran _ response => some response
  | _ => none

namespace Turn

/-- The responses that a call had from the executor. -/
def responses (turn : Turn σ) : List (Except Fault (List Row)) := turn.deeds.filterMap Deed.response?

/-- The events that a call logged. -/
def events (turn : Turn σ) : List Event := turn.notes.filterMap Note.event?

/-- **Calls that cannot be told apart** by what they did, unless one looks at parameters. -/
structure Indistinct (turn : Turn σ) (turn' : Turn τ) : Prop where
  result : turn.result = turn'.result
  texts : turn.ran.map Statement.text = turn'.ran.map Statement.text
  counts : turn.ran.map (fun s => s.params.length) = turn'.ran.map fun s => s.params.length
  events : turn.events = turn'.events
  /-- Hooks that note statements note the same but for the parameters. -/
  notes : turn.notes.map Note.redact = turn'.notes.map Note.redact

theorem events_eq {turn : Turn σ} {turn' : Turn τ}
    (h : turn.notes.map Note.redact = turn'.notes.map Note.redact) : turn.events = turn'.events := by
  unfold events
  rw [← Note.filterMap_redact, h, Note.filterMap_redact]

end Turn

theorem indistinct_dispatched (hook : Hook) {response response' : Except Fault (List Row)}
    {result result' : Except Fault Answer} {s s' : Sighting} (hresult : result = result')
    (hs : s.redact = s'.redact) (u : σ) (u' : τ) :
    (Turn.mk result [.shown s hook, .ran s.statement response] u).Indistinct
      (Turn.mk result' [.shown s' hook, .ran s'.statement response'] u') := by
  have hstatement : s.statement.redact = s'.statement.redact := congrArg Sighting.statement hs
  have htext : s.statement.redact.text = s'.statement.redact.text := congrArg Statement.text hstatement
  have hcount : s.statement.params.length = s'.statement.params.length := by
    have hlength := congrArg (fun st : Statement => st.params.length) hstatement
    simpa [Statement.redact] using hlength
  have hnotes : (hook.notes s ++ []).map Note.redact = (hook.notes s' ++ []).map Note.redact := by
    rw [List.append_nil, List.append_nil, Hook.redact_notes, Hook.redact_notes, hs]
  exact ⟨hresult, congrArg (fun text => [text]) htext, congrArg (fun n => [n]) hcount,
    Turn.events_eq hnotes, hnotes⟩

namespace Gateway

/-- **Alike calls cannot be told apart**, if the executors respond alike. -/
theorem perform_indistinct (g : Gateway) {exec : Executor σ} {exec' : Executor τ} {call call' : Call}
    (hcall : call.Alike call') {s : σ} {s' : τ} {rs : List (Except Fault (List Row))}
    (h : (g.perform exec call s).responses <+: rs) (h' : (g.perform exec' call' s').responses <+: rs) :
    (g.perform exec call s).Indistinct (g.perform exec' call' s') ∧
      (g.perform exec call s).responses = (g.perform exec' call' s').responses := by
  have hkind := hcall.isSome_statement g.table
  unfold perform at h h' ⊢
  rcases hst : g.table.statement call with fault | (_ | st) <;>
    rcases hst' : g.table.statement call' with fault' | (_ | st') <;>
    simp only [hst, hst', Except.map, Option.isSome, Except.ok.injEq, Except.error.injEq,
      reduceCtorEq] at hkind h h' ⊢
  · subst hkind
    exact ⟨⟨rfl, rfl, rfl, rfl, rfl⟩, rfl⟩
  · exact ⟨⟨rfl, rfl, rfl, rfl, rfl⟩, rfl⟩
  · have hstatement := hcall.redact_eq hst hst'
    have hresponse : (exec.query st s).1 = (exec'.query st' s').1 :=
      List.singleton_inj.mp ((List.prefix_of_prefix_length_le h h' (Nat.le_refl 1)).eq_of_length rfl)
    have hresult : (exec.query st s).1.bind (g.table.answer call) =
        (exec'.query st' s').1.bind (g.table.answer call') := by
      rw [hresponse, hcall.answer_eq]
    refine ⟨?_, congrArg (fun r => [r]) hresponse⟩
    exact indistinct_dispatched g.hook hresult (Sighting.redact_eq hcall.operation_eq hstatement) _ _

/-- The responses of a session with prepared responses are the prepared ones, and then responses without
rows, whatever the calls are. -/
theorem responses_replay (g : Gateway) : ∀ (calls : List Call) (s : Replay),
    (g.run .replay calls s).flatMap Turn.responses <+: s.pending ++ List.replicate calls.length (.ok [])
  | [], s => List.nil_prefix
  | call :: calls, s => by
    have hmore : ∀ pending : List (Except Fault (List Row)),
        pending ++ List.replicate calls.length (.ok []) <+:
          pending ++ List.replicate (calls.length + 1) (.ok []) := fun pending => by
      rw [List.replicate_succ', ← List.append_assoc]
      exact List.prefix_append _ _
    have ih := responses_replay g calls (g.perform .replay call s).state
    rw [run, List.flatMap_cons, List.length_cons]
    unfold perform at ih ⊢
    rcases hst : g.table.statement call with fault | (_ | statement) <;> rw [hst] at ih
    · exact ih.trans (hmore s.pending)
    · exact ih.trans (hmore s.pending)
    · obtain ⟨pending, ran⟩ := s
      cases pending with
      | nil => exact List.cons_prefix_cons.mpr ⟨rfl, ih⟩
      | cons response pending => exact List.cons_prefix_cons.mpr ⟨rfl, ih.trans (hmore pending)⟩

/-- **Sessions whose calls differ in nothing but values cannot be told apart**, step by step, as long as the
executors respond alike. How many responses each of the sessions asks for is not presupposed. -/
theorem run_indistinct (g : Gateway) {exec : Executor σ} {exec' : Executor τ} {calls calls' : List Call}
    (hcalls : List.Forall₂ Call.Alike calls calls') {s : σ} {s' : τ}
    {rs : List (Except Fault (List Row))} (h : (g.run exec calls s).flatMap Turn.responses <+: rs)
    (h' : (g.run exec' calls' s').flatMap Turn.responses <+: rs) :
    List.Forall₂ Turn.Indistinct (g.run exec calls s) (g.run exec' calls' s') := by
  induction hcalls generalizing s s' rs with
  | nil => exact .nil
  | @cons call call' calls calls' hcall _ ih =>
    simp only [run, List.flatMap_cons] at h h' ⊢
    obtain ⟨hturn, hresponses⟩ := g.perform_indistinct hcall ((List.prefix_append _ _).trans h)
      ((List.prefix_append _ _).trans h')
    -- the rest of each session is answered from what is left of the responses
    obtain ⟨rest, rfl⟩ := (List.prefix_append _ _).trans h
    rw [List.prefix_append_right_inj] at h
    rw [← hresponses, List.prefix_append_right_inj] at h'
    exact .cons hturn (ih h h')

end Gateway

/-- A record with a column that is not for every eye. -/
def patientRecord : Record where
  table := "patient"
  columns := [⟨"id", .identifier, false⟩, ⟨"name", .scalar, false⟩, ⟨"diagnosis", .scalar, true⟩]
  fields := []

/-- A session about a patient. -/
def patientCalls (id : String) (diagnosis : Value) (limit : UInt64) : List Call :=
  [.getById id, .update (.ofList [("diagnosis", diagnosis)]) (.ofList [("name", .text id)]),
    .update .empty .empty, .list (.ofList [("diagnosis", diagnosis)]) (some ⟨some limit, none⟩) none]

theorem patientCalls_indistinct :
    List.Forall₂ Turn.Indistinct
      ((Gateway.mk patientRecord.home .usualLogger).run .replay (patientCalls "ada" (.text "flu") 5)
        ⟨[.ok [], .error (.rowCount 1 2)], []⟩)
      ((Gateway.mk patientRecord.home .usualLogger).run .replay (patientCalls "'; --" .null 900)
        ⟨[.ok [], .error (.rowCount 1 2)], []⟩) := by
  have halike : List.Forall₂ Call.Alike (patientCalls "ada" (.text "flu") 5)
      (patientCalls "'; --" .null 900) :=
    .cons (.getById _ _) (.cons (.update rfl rfl) (.cons (.update rfl rfl) (.cons (.list rfl rfl rfl rfl)
      .nil)))
  exact Gateway.run_indistinct _ halike (Gateway.responses_replay _ _ _) (Gateway.responses_replay _ _ _)

end TableGateway
