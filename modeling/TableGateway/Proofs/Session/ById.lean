import TableGateway.Proofs.Session.Answer
import TableGateway.Proofs.Statement.Refusal

/-! # One row by its identifier

A row can be got by its identifier, or listed under the condition that it has the identifier. To get it no condition
is built and nothing is checked, and only the first row of the response is read. It comes to the same: the condition
always passes its check, the two statements differ in the limit alone, and a response with one row at most is read
in the same way by both.

* `Table.exists_listStatement_ofId` : the list has a statement, which is that of the other call up to the limit
* `Concurs` : what is listed and what is got are the same
* `Table.getById_concurs` : getting a row concurs with listing it -/

namespace TableGateway

open TableGateway.Sql TableGateway.Sql.Lexeme

/-! ### The condition on the identifier -/

namespace Record

variable {r : Record}

theorem comparison_allows_idColumn (hdistinct : (r.columns.map Column.name).Nodup)
    (h : ∃ c ∈ r.columns, c.kind = .identifier) : r.comparison.Allows r.idColumn := by
  obtain ⟨c, hc, hkind, hname⟩ := exists_idColumn_eq h
  refine ⟨c, hname ▸ Declares.of_mem hdistinct hc, ?_⟩
  rw [hkind]
  nofun

theorem offence?_ofId (hdistinct : (r.columns.map Column.name).Nodup)
    (h : ∃ c ∈ r.columns, c.kind = .identifier) (v : Value) :
    Predicate.offence? r (Predicate.ofId r v) = none := by
  have hkeys : (Predicate.ofId r v).keys = [r.idColumn] := rfl
  rw [Predicate.offence?, hkeys, r.enforced_comparison.findSome?_eq_none_iff]
  intro name hname
  rw [List.mem_singleton.mp hname]
  exact comparison_allows_idColumn hdistinct h

end Record

/-! ### The two statements -/

namespace Table

variable {t : Table} {id : String}

/-- The call that lists the rows with an identifier. -/
def listById (t : Table) (id : String) : Call := .list (Predicate.ofId t.record (.text id)) none none

theorem outline_listById (t : Table) (id : String) :
    t.outline (t.listById id) = .list t.name [(t.record.idColumn, .text id)] [] none none := rfl

/-- Written out, the two differ in the limit alone. -/
theorem lexemes_getById (t : Table) (id : String) :
    (t.outline (.getById id)).lexemes = (t.outline (t.listById id)).lexemes ++ [.text " LIMIT 1"] := by
  have hend : (Outline.orderLexemes [] ++ Outline.pageLexemes none none : List (Lexeme Value)) = [] := rfl
  rw [outline_listById, Outline.lexemes, List.append_assoc _ (Outline.orderLexemes []), hend, List.append_nil]
  rfl

theorem text_getByIdStatement {listed : Statement} (h : t.statement (t.listById id) = .ok (some listed)) :
    (t.getByIdStatement id).text = listed.text ++ " LIMIT 1" := by
  have hgot : t.statement (.getById id) = .ok (some (t.getByIdStatement id)) := rfl
  rw [← String.toList_inj, String.toList_append, toList_text_of_statement hgot, toList_text_of_statement h,
    lexemes_getById, spell_append]
  rfl

theorem params_getByIdStatement_eq {listed : Statement} (h : t.statement (t.listById id) = .ok (some listed)) :
    (t.getByIdStatement id).params = listed.params := by
  rw [params_of_statement h]
  rfl

/-- **The list has a statement**, and with a limit of one it is the statement of the other call. -/
theorem exists_listStatement_ofId (hdistinct : (t.record.columns.map Column.name).Nodup)
    (hid : ∃ c ∈ t.record.columns, c.kind = .identifier) (id : String) :
    ∃ listed, t.listStatement (Predicate.ofId t.record (.text id)) none none = .ok listed ∧
      (t.getByIdStatement id).text = listed.text ++ " LIMIT 1" ∧
      (t.getByIdStatement id).params = listed.params := by
  have hpasses : t.refusal? (t.listById id) = none := by
    rw [listById, refusal?, Record.offence?_ofId hdistinct hid]
    rfl
  obtain ⟨listed, hlisted⟩ := exists_statement hpasses rfl
  exact ⟨listed, map_some_eq_ok_iff.mp hlisted, text_getByIdStatement hlisted, params_getByIdStatement_eq hlisted⟩

end Table

/-! ### The two answers -/

/-- **What is listed and what is got are the same**: a fault, nothing, or one record. -/
inductive Concurs : Except Fault Answer → Except Fault Answer → Prop
  | fault (fault : Fault) : Concurs (.error fault) (.error fault)
  | nothing : Concurs (.ok (.entries [])) (.ok (.entry none))
  | single (e : Entry) : Concurs (.ok (.entries [e])) (.ok (.entry (some e)))

namespace Table

variable {t : Table} {id : String}

theorem concurs_answer (t : Table) (id : String) {rows : List Row} (h : rows.length ≤ 1) :
    Concurs (t.answer (t.listById id) rows) (t.answer (.getById id) rows) := by
  match rows, h with
  | [], _ => exact .nothing
  | [row], _ =>
    rw [listById, answer, answer, mapM_cons_eq, List.mapM_nil]
    rcases t.record.read row with fault | e
    · exact .fault fault
    · exact .single e

theorem concurs_bind_answer (t : Table) (id : String) {response : Except Fault (List Row)}
    (h : ∀ rows, response = .ok rows → rows.length ≤ 1) :
    Concurs (response.bind (t.answer (t.listById id))) (response.bind (t.answer (.getById id))) := by
  rcases response with fault | rows
  · exact .fault fault
  · exact t.concurs_answer id (h rows rfl)

/-- **Getting a row by its identifier concurs with listing it.** -/
structure GetsAsListed (t : Table) (id : String) : Prop where
  /-- The list has a statement, which the other call has with a limit of one and the same parameters. -/
  statement : ∃ listed, t.listStatement (Predicate.ofId t.record (.text id)) none none = .ok listed ∧
    (t.getByIdStatement id).text = listed.text ++ " LIMIT 1" ∧
    (t.getByIdStatement id).params = listed.params
  /-- Where the two have the same response, a fault or one row at most, their results are the same, whoever runs
  the statements and whoever is shown them. -/
  result : ∀ {σ τ : Type} (hook hook' : Hook) (exec : Executor σ) (exec' : Executor τ) (s : σ) (s' : τ)
    (listed : Statement) (response : Except Fault (List Row)),
    t.listStatement (Predicate.ofId t.record (.text id)) none none = .ok listed →
    (exec.query listed s).1 = response → (exec'.query (t.getByIdStatement id) s').1 = response →
    (∀ rows, response = .ok rows → rows.length ≤ 1) →
    Concurs ((Gateway.mk t hook).perform exec (.list (Predicate.ofId t.record (.text id)) none none) s).result
      ((Gateway.mk t hook').perform exec' (.getById id) s').result

theorem getById_concurs (t : Table) (hdistinct : (t.record.columns.map Column.name).Nodup)
    (hid : ∃ c ∈ t.record.columns, c.kind = .identifier) (id : String) : t.GetsAsListed id where
  statement := exists_listStatement_ofId hdistinct hid id
  result hook hook' exec exec' s s' listed response hlisted hresponse hresponse' hrows := by
    have hlist : t.statement (t.listById id) = .ok (some listed) := map_some_eq_ok_iff.mpr hlisted
    have hgot : t.statement (.getById id) = .ok (some (t.getByIdStatement id)) := rfl
    have hlistResult : ((Gateway.mk t hook).perform exec (t.listById id) s).result =
        (exec.query listed s).1.bind (t.answer (t.listById id)) := Gateway.result_perform_eq hlist
    have hgotResult : ((Gateway.mk t hook').perform exec' (.getById id) s').result =
        (exec'.query (t.getByIdStatement id) s').1.bind (t.answer (.getById id)) := Gateway.result_perform_eq hgot
    rw [hresponse] at hlistResult
    rw [hresponse'] at hgotResult
    rw [hgotResult]
    exact hlistResult ▸ t.concurs_bind_answer id hrows

theorem guest_getById_concurs : (guestRecord.columns.map Column.name).Nodup ∧
    (∃ c ∈ guestRecord.columns, c.kind = .identifier) ∧ guestRecord.home.GetsAsListed "ada" := by
  have hdistinct : (guestRecord.columns.map Column.name).Nodup := by decide
  have hid : ∃ c ∈ guestRecord.columns, c.kind = .identifier := ⟨_, List.mem_cons_self, rfl⟩
  exact ⟨hdistinct, hid, getById_concurs guestRecord.home hdistinct hid "ada"⟩

end Table

end TableGateway
