import TableGateway.Proofs.Session.Answer
import TableGateway.Proofs.Uuid
import TableGateway.Proofs.Wire.Coercion
import TableGateway.Proofs.Wire.Rebinding

/-! # Returned identifiers find their rows

A call that creates, changes or removes rows returns their identifiers as texts. Where the server keeps identifiers
in sixteen bytes they are returned in their written form, and that is what the next call binds. Sent to a parameter
of identifiers it is read and comes to the same sixteen bytes; sent to a parameter of texts it is what the identifier
itself would be sent as.

* `Value.StandsFor` : a parameter is sent as an identifier would be
* `Table.FindsBy` : what is bound for a text stands for an identifier
* `Gateway.returned_ids_find` : the identifiers that a call returns are texts that find them -/

namespace TableGateway

open TableGateway.Sql TableGateway.Wire

variable {row : Row} {column : String} {type : SqlType} {u v : Uuid}

/-! ### Parameters -/

/-- **A parameter stands for an identifier.** -/
structure Value.StandsFor (v : Value) (u : Uuid) : Prop where
  /-- To a parameter of identifiers it is sent as the sixteen bytes that the identifier is sent as. -/
  uuid : v.bind .uuid = .ok (some u.bytes) ∧ (Value.uuid u).bind .uuid = .ok (some u.bytes)
  /-- To a parameter of texts it is sent as the identifier is. -/
  text : ∀ type : SqlType, type.isTextual = true →
    ∃ out, v.bind type = .ok (some out) ∧ (Value.uuid u).bind type = .ok (some out)

theorem bindBytes_uuid_textual (u : Uuid) (h : type.isTextual = true) :
    (Value.uuid u).bindBytes type = (Value.text u.text).bindBytes type := by
  cases type with
  | text | varchar | bpchar | name | unknown | other => rfl
  | _ => cases h

/-- **The written form of an identifier stands for it.** -/
theorem standsFor_text (u : Uuid) : (Value.text u.text).StandsFor u where
  uuid := by
    have hbytes : (Value.text u.text).bindBytes .uuid = .ok u.bytes := by
      rw [Value.bindBytes, u.read_text]
      rfl
    exact ⟨bind_of_bindBytes hbytes, rfl⟩
  text type htype := by
    have htext := bindBytes_text (s := u.text) htype
    exact ⟨_, bind_of_bindBytes htext, bind_of_bindBytes ((bindBytes_uuid_textual u htype).trans htext)⟩

/-! ### Texts that find a row -/

namespace Table

variable {t : Table} {id id' : String}

/-- **A text finds an identifier**: what is bound for it stands for the identifier, whether it is asked for by
itself or in a condition, and it is read as the identifier. -/
structure FindsBy (t : Table) (id : String) (u : Uuid) : Prop where
  getById : ∃ statement v, t.statement (.getById id) = .ok (some statement) ∧
    statement.params = [v] ∧ v.StandsFor u
  filter : ∃ v, (whereClause (Predicate.ofId t.record (.text id))).params = [v] ∧ v.StandsFor u
  read : FieldType.uuid.read (.text id) = .ok (.uuid u)

theorem params_getByIdStatement (t : Table) (id : String) : (t.getByIdStatement id).params = [.text id] := rfl

theorem params_whereClause_ofId (t : Table) (v : Value) : (whereClause (Predicate.ofId t.record v)).params = [v] := rfl

/-- **The written form of an identifier finds it.** -/
theorem findsBy_text (t : Table) (u : Uuid) : t.FindsBy u.text u where
  getById := ⟨_, _, rfl, t.params_getByIdStatement u.text, standsFor_text u⟩
  filter := ⟨_, t.params_whereClause_ofId _, standsFor_text u⟩
  read := Coerces.read_eq (.uuidOfText u.read_text)

theorem FindsBy.unique (h : t.FindsBy id u) (h' : t.FindsBy id v) : u = v :=
  Value.uuid.inj (Except.ok.inj (h.read.symm.trans h'.read))

end Table

/-! ### Returned identifiers -/

/-- **A column with an identifier gives its written form.** -/
theorem Row.Holds.gives_text_iff {s : String} (h : row.Holds column (.uuid u)) :
    row.Gives column .text (.text s) ↔ s = u.text := by
  constructor
  · rintro ⟨cell, hcell, hread⟩
    obtain rfl := hcell.unique h
    exact (Value.text.inj (Except.ok.inj hread)).symm
  · rintro rfl
    exact ⟨_, h, rfl⟩

namespace Table

/-- **A row has an identifier** of sixteen bytes. -/
def Identifies (t : Table) (row : Row) (u : Uuid) : Prop := row.Holds t.record.idColumn (.uuid u)

variable {t : Table} {call : Call} {rows : List Row} {ids : List String}

theorem answer_create (values : Create) (h : t.Identifies row u) :
    t.answer (.create values) [row] = .ok (.id u.text) :=
  ((t.answers_answer [row] (.create values)).ok_iff _).mpr ⟨row, u.text, rfl, h.gives_text_iff.mpr rfl, rfl⟩

theorem answer_eq_ids_iff (hcall : call.operation = .update ∨ call.operation = .remove) :
    t.answer call rows = .ok (.ids ids) ↔
      List.Forall₂ (fun row s => row.Gives t.record.idColumn .text (.text s)) rows ids := by
  have hanswers := t.answers_answer rows call
  cases call with
  | update | remove => simpa using hanswers.ok_iff (.ids ids)
  | _ => rcases hcall with hcall | hcall <;> cases hcall

theorem answer_changed (hcall : call.operation = .update ∨ call.operation = .remove) {us : List Uuid}
    (h : List.Forall₂ t.Identifies rows us) : t.answer call rows = .ok (.ids (us.map Uuid.text)) :=
  (answer_eq_ids_iff hcall).mpr (List.forall₂_map_right_iff.mpr (h.imp fun _ _ hrow => hrow.gives_text_iff.mpr rfl))

end Table

namespace Gateway

/-- **The identifiers that a gateway returns find their rows.** -/
structure ReturnsIds (g : Gateway) : Prop where
  /-- A new row with an identifier is returned by a text that finds it. -/
  created : ∀ {σ : Type} (exec : Executor σ) (values : Create) (statement : Statement) (s s' : σ) (row : Row)
    (u : Uuid), g.table.statement (.create values) = .ok (some statement) → exec.query statement s = (.ok [row], s') →
    g.table.Identifies row u →
    ∃ id, (g.perform exec (.create values) s).result = .ok (.id id) ∧ g.table.FindsBy id u
  /-- Changed or removed rows with identifiers are returned by texts that find them, one by one. -/
  changed : ∀ {σ : Type} (exec : Executor σ) (call : Call) (statement : Statement) (s s' : σ) (rows : List Row)
    (us : List Uuid), call.operation = .update ∨ call.operation = .remove →
    g.table.statement call = .ok (some statement) → exec.query statement s = (.ok rows, s') →
    List.Forall₂ g.table.Identifies rows us →
    ∃ ids, (g.perform exec call s).result = .ok (.ids ids) ∧ List.Forall₂ g.table.FindsBy ids us
  /-- Where identifiers of other kinds are returned as well, each text finds the identifier of its own row. -/
  found : ∀ {σ : Type} (exec : Executor σ) (call : Call) (statement : Statement) (s s' : σ) (rows : List Row)
    (ids : List String), call.operation = .update ∨ call.operation = .remove →
    g.table.statement call = .ok (some statement) → exec.query statement s = (.ok rows, s') →
    (g.perform exec call s).result = .ok (.ids ids) →
    List.Forall₂ (fun row id => ∀ u, g.table.Identifies row u → g.table.FindsBy id u) rows ids
  /-- Texts that find different identifiers are different. -/
  distinct : ∀ id id' u v, g.table.FindsBy id u → g.table.FindsBy id' v → u ≠ v → id ≠ id'

/-- **The identifiers that a call returns are texts that find them.** -/
theorem returned_ids_find (g : Gateway) : g.ReturnsIds where
  created exec values statement s s' row u h hquery hrow := by
    rw [g.result_perform h hquery]
    exact ⟨u.text, Table.answer_create values hrow, g.table.findsBy_text u⟩
  changed exec call statement s s' rows us hcall h hquery hrows := by
    rw [g.result_perform h hquery]
    refine ⟨_, Table.answer_changed hcall hrows, ?_⟩
    rw [List.forall₂_map_left_iff]
    exact List.forall₂_same.mpr fun u _ => g.table.findsBy_text u
  found exec call statement s s' rows ids hcall h hquery hresult := by
    rw [g.result_perform h hquery, Table.answer_eq_ids_iff hcall] at hresult
    refine hresult.imp fun row id hgives u hrow => ?_
    rw [hrow.gives_text_iff.mp hgives]
    exact g.table.findsBy_text u
  distinct id id' u v h h' hne := by
    rintro rfl
    exact hne (h.unique h')

end Gateway

/-- A record of members. -/
def memberRecord : Record where
  table := "members"
  columns := [⟨"member_no", .identifier, false⟩, ⟨"name", .scalar, false⟩]
  fields := [⟨"id", "member_no", .uuid⟩, ⟨"name", "name", .text⟩]

/-- An identifier of equal bytes. -/
def memberId (b : UInt8) : Uuid := ⟨List.replicate 16 b, List.length_replicate⟩

/-- Two members, the columns of the second one in another order. -/
def memberRows : List Row :=
  [⟨[("member_no", .uuid (memberId 0x1A)), ("name", .text "ada")]⟩,
    ⟨[("name", .text "eve"), ("member_no", .uuid (memberId 0xFF))]⟩]

theorem identifies_memberRows :
    List.Forall₂ memberRecord.home.Identifies memberRows [memberId 0x1A, memberId 0xFF] := by
  refine .cons (Row.get?_eq_some_iff.mp ?_) (.cons (Row.get?_eq_some_iff.mp ?_) .nil)
  all_goals rfl

/-- Both members are removed, and each of the returned texts finds the member that it is for. -/
theorem memberIds_find : ∃ statement ids,
    memberRecord.home.statement (.remove .empty) = .ok (some statement) ∧
    Executor.replay.query statement ⟨[.ok memberRows], []⟩ = (.ok memberRows, ⟨[], [statement]⟩) ∧
    ((Gateway.ofTable memberRecord.home).perform .replay (.remove .empty) ⟨[.ok memberRows], []⟩).result =
      .ok (.ids ids) ∧
    ids = ["1a1a1a1a-1a1a-1a1a-1a1a-1a1a1a1a1a1a", "ffffffff-ffff-ffff-ffff-ffffffffffff"] ∧
    List.Forall₂ memberRecord.home.FindsBy ids [memberId 0x1A, memberId 0xFF] := by
  obtain ⟨ids, hresult, hfind⟩ := (Gateway.returned_ids_find (.ofTable memberRecord.home)).changed .replay
    (.remove .empty) _ ⟨[.ok memberRows], []⟩ _ memberRows _ (.inr rfl) rfl rfl identifies_memberRows
  refine ⟨_, ids, rfl, rfl, hresult, ?_, hfind⟩
  have hids : Answer.ids [(memberId 0x1A).text, (memberId 0xFF).text] = .ids ids :=
    Except.ok.inj hresult
  obtain rfl := Answer.ids.inj hids
  decide

end TableGateway
