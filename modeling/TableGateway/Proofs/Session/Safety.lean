import TableGateway.Proofs.Session.Dispatch
import TableGateway.Proofs.Statement.Columns
import TableGateway.Proofs.Statement.Reading
import TableGateway.Proofs.Statement.Refusal

/-! # Safety of what is run

Whatever the calls of a session are, the statements that are run keep to the table: they write only columns that
callers may write, leave out none that a new row must have, compare and sort by declared columns, and mention
nothing else. This is said of the text that is run. Since a text has one reading, what its reading does is what
the text does.

* `Outline.Safe` : what an outline may do to a table
* `Table.safe_of_statement` : the statement of a call is safe
* `Gateway.run_safe` : so is everything that a session runs -/

namespace TableGateway

open TableGateway.Sql TableGateway.Sql.Lexeme

variable {α β σ : Type}

/-! ### What an outline does -/

namespace Outline

/-- What kind of call an outline is of. -/
def operation : Outline α → Operation
  | getById _ _ _ => .getById
  | list _ _ _ _ _ => .list
  | count _ _ => .count
  | create _ _ _ => .create
  | update _ _ _ _ => .update
  | remove _ _ _ => .remove

/-- The table that an outline is about. -/
def table : Outline α → String
  | getById t _ _ | list t _ _ _ _ | count t _ | create t _ _ | update t _ _ _ | remove t _ _ => t

/-- The columns that get values: those of rows that there are, or those of a new one. -/
def written (o : Outline α) : List String := (o.sets ++ o.columns).map Prod.fst

/-- The columns that are compared. -/
def compared (o : Outline α) : List String := o.conditions.map Prod.fst

/-- The columns to sort by. -/
def sorted : Outline α → List String
  | list _ _ o _ _ => o.map Prod.fst
  | _ => []

/-- The column that is returned. -/
def returned : Outline α → Option String
  | create _ _ k | update _ _ _ k | remove _ _ k => some k
  | _ => none

section Shape

variable (o : Outline α)

theorem operation_shape : o.shape.operation = o.operation := by cases o <;> rfl

theorem table_shape : o.shape.table = o.table := by cases o <;> rfl

theorem sorted_shape : o.shape.sorted = o.sorted := by cases o <;> rfl

theorem returned_shape : o.shape.returned = o.returned := by cases o <;> rfl

theorem map_fst_mapEntries (f : α → β) (es : List (String × α)) :
    (mapEntries f es).map Prod.fst = es.map Prod.fst := by
  rw [mapEntries, List.map_map]
  rfl

theorem written_shape : o.shape.written = o.written := by
  cases o <;> simp [shape, map, written, sets, columns, map_fst_mapEntries]

theorem compared_shape : o.shape.compared = o.compared := by
  cases o <;> simp [shape, map, compared, conditions, map_fst_mapEntries]

end Shape

/-! ### What an outline mentions -/

@[simp] theorem name_mem_separated {name separator : String} {item : β → List (Lexeme α)} :
    ∀ {bs : List β}, .name name ∈ separated separator item bs ↔ ∃ b ∈ bs, .name name ∈ item b
  | [] => by simp [separated]
  | [b] => by simp [separated]
  | b :: c :: bs => by
    rw [separated_cons_cons, List.mem_append, List.mem_cons, name_mem_separated]
    simp

@[simp] theorem name_mem_clause {name keyword separator : String} {item : β → List (Lexeme α)}
    {bs : List β} : .name name ∈ clause keyword separator item bs ↔ ∃ b ∈ bs, .name name ∈ item b := by
  cases bs with
  | nil => simp [clause]
  | cons b bs => rw [clause, List.mem_cons, name_mem_separated]; simp

@[simp] theorem name_mem_boundLexemes {name keyword : String} {a : Option α} :
    .name name ∉ boundLexemes keyword a := by
  cases a <;> simp [boundLexemes]

@[simp] theorem name_mem_valuesLexemes {name : String} {es : List (String × α)} :
    .name name ∈ valuesLexemes es ↔ name ∈ es.map Prod.fst := by
  cases es with
  | nil => simp [valuesLexemes]
  | cons e es =>
    have hnames : (∃ b ∈ e :: es, .name name ∈ columnName b) ↔ name ∈ (e :: es).map Prod.fst := by
      simp only [columnName, List.mem_singleton, Lexeme.name.injEq, List.mem_map, eq_comm]
    simpa only [valuesLexemes, List.cons_append, List.mem_cons, List.mem_append, name_mem_separated,
      columnValue, reduceCtorEq, List.not_mem_nil, and_false, exists_false, or_false, false_or] using hnames

/-- **The names in an outline**: its table and its columns, and the one that a number is returned under. -/
theorem name_mem_lexemes {name : String} (o : Outline α) :
    .name name ∈ o.lexemes ↔ name = o.table ∨ o.operation = .count ∧ name = "count" ∨
      name ∈ o.written ∨ name ∈ o.compared ∨ name ∈ o.sorted ∨ name ∈ o.returned := by
  cases o <;>
    simp [lexemes, table, operation, written, compared, sorted, returned, sets, columns, conditions,
      whereLexemes, setLexemes, orderLexemes, pageLexemes, returningLexemes, assignment, sortKey, eq_comm,
      or_comm, or_left_comm]

/-! ### Safety -/

/-- **What an outline may do to a table.** -/
structure Safe (t : Table) (o : Outline α) : Prop where
  table : o.table = t.name
  /-- A column that gets a value gets one only, and is declared. -/
  written_nodup : o.written.Nodup
  written : ∀ k ∈ o.written, ∃ c ∈ t.record.columns, c.name = k
  /-- No identifier and no timestamp gets a value. -/
  unwritten : ∀ c ∈ t.record.columns, c.kind = .identifier ∨ c.kind = .timestamp → c.name ∉ o.written
  /-- A new row has every column that it must have. -/
  complete : o.operation = .create → ∀ c ∈ t.record.columns, Record.Requires c → c.name ∈ o.written
  /-- An update is of something. -/
  nonempty : o.operation = .update → o.written ≠ []
  /-- One row is looked for by its identifier. -/
  identifier : o.operation = .getById → o.compared = [t.record.idColumn]
  /-- Any other column that is compared is declared and not structured. -/
  compared_nodup : o.compared.Nodup
  compared : o.operation ≠ .getById → ∀ k ∈ o.compared, ∃ c ∈ t.record.columns, c.name = k
  uncompared : o.operation ≠ .getById → ∀ c ∈ t.record.columns, c.kind = .structured → c.name ∉ o.compared
  sorted_nodup : o.sorted.Nodup
  sorted : ∀ k ∈ o.sorted, ∃ c ∈ t.record.columns, c.name = k
  returned : ∀ k ∈ o.returned, k = t.record.idColumn

namespace Safe

variable {t : Table} {o : Outline α}

/-- Safety is a matter of the shape. -/
theorem shape (h : o.Safe t) : o.shape.Safe t := by
  constructor
  · rw [table_shape]; exact h.table
  · rw [written_shape]; exact h.written_nodup
  · rw [written_shape]; exact h.written
  · rw [written_shape]; exact h.unwritten
  · rw [operation_shape, written_shape]; exact h.complete
  · rw [operation_shape, written_shape]; exact h.nonempty
  · rw [operation_shape, compared_shape]; exact h.identifier
  · rw [compared_shape]; exact h.compared_nodup
  · rw [operation_shape, compared_shape]; exact h.compared
  · rw [operation_shape, compared_shape]; exact h.uncompared
  · rw [sorted_shape]; exact h.sorted_nodup
  · rw [sorted_shape]; exact h.sorted
  · rw [returned_shape]; exact h.returned

theorem of_name_mem (h : o.Safe t) {name : String} (hname : .name name ∈ o.lexemes) :
    name = t.name ∨ name = t.record.idColumn ∨ o.operation = .count ∧ name = "count" ∨
      ∃ c ∈ t.record.columns, c.name = name := by
  rcases o.name_mem_lexemes.mp hname with hn | hn | hn | hn | hn | hn
  · exact .inl (hn.trans h.table)
  · exact .inr (.inr (.inl hn))
  · exact .inr (.inr (.inr (h.written name hn)))
  · by_cases hop : o.operation = .getById
    · rw [h.identifier hop, List.mem_singleton] at hn
      exact .inr (.inl hn)
    · exact .inr (.inr (.inr (h.compared hop name hn)))
  · exact .inr (.inr (.inr (h.sorted name hn)))
  · exact .inr (.inl (h.returned name hn))

end Safe

end Outline

/-! ### The outline of a call -/

namespace Record

variable {r : Record} {p : Column → Prop}

theorem forall_of_declares (hdistinct : (r.columns.map Column.name).Nodup) {c : Column}
    (hc : c ∈ r.columns) (h : ∃ d, r.Declares c.name d ∧ p d) : p c := by
  obtain ⟨d, hd, hp⟩ := h
  rwa [(Declares.of_mem hdistinct hc).unique hd]

theorem exists_mem_of_declares {name : String} (h : ∃ d, r.Declares name d ∧ p d) :
    ∃ c ∈ r.columns, c.name = name := by
  obtain ⟨d, hd, -⟩ := h
  exact ⟨d, hd.mem, hd.name_eq⟩

end Record

namespace Table

variable {t : Table} {call : Call}

theorem operation_outline (t : Table) (call : Call) : (t.outline call).operation = call.operation := by
  cases call <;> rfl

theorem allows_written (h : t.refusal? call = none) :
    ∀ k ∈ (t.outline call).written, t.record.assignment.Allows k := by
  have hcheck := t.record.enforced_assignment.findSome?_eq_none_iff
  cases call with
  | create values =>
    have hvalues := ((t.record.create_offence?_eq_none_iff values).mp h).1
    intro k hk
    exact hvalues k hk
  | update changes filter =>
    rw [refusal?, Option.or_eq_none_iff] at h
    intro k hk
    refine (hcheck changes.keys).mp h.1 k ?_
    simpa [Outline.written, outline, Outline.sets, Outline.columns, Entries.keys] using hk
  | getById | list | count | remove =>
    intro k hk
    cases hk

theorem allows_compared (h : t.refusal? call = none) (hcall : call.operation ≠ .getById) :
    ∀ k ∈ (t.outline call).compared, t.record.comparison.Allows k := by
  have hcheck := t.record.enforced_comparison.findSome?_eq_none_iff
  cases call with
  | getById id => exact absurd rfl hcall
  | list filter page order =>
    rw [refusal?, Option.or_eq_none_iff] at h
    exact (hcheck filter.keys).mp h.1
  | update changes filter =>
    rw [refusal?, Option.or_eq_none_iff] at h
    exact (hcheck filter.keys).mp h.2
  | count filter | remove filter => exact (hcheck filter.keys).mp h
  | create values =>
    intro k hk
    cases hk

theorem allows_sorted (h : t.refusal? call = none) :
    ∀ k ∈ (t.outline call).sorted, t.record.sorting.Allows k := by
  cases call with
  | list filter page order =>
    rw [refusal?, Option.or_eq_none_iff] at h
    cases order with
    | none =>
      intro k hk
      cases hk
    | some order => exact (t.record.enforced_sorting.findSome?_eq_none_iff order.keys).mp h.2
  | getById | count | create | update | remove =>
    intro k hk
    cases hk

theorem written_nodup (t : Table) (call : Call) : (t.outline call).written.Nodup := by
  cases call with
  | create values => exact values.nodup_keys
  | update changes filter =>
    have hnodup := changes.nodup_keys
    simpa [Outline.written, outline, Outline.sets, Outline.columns] using hnodup
  | getById | list | count | remove => exact List.nodup_nil

theorem compared_nodup (t : Table) (call : Call) : (t.outline call).compared.Nodup := by
  cases call with
  | getById id => exact List.pairwise_singleton _ _
  | list filter _ _ | count filter | update _ filter | remove filter => exact filter.nodup_keys
  | create values => exact List.nodup_nil

theorem sorted_nodup (t : Table) (call : Call) : (t.outline call).sorted.Nodup := by
  cases call with
  | list filter page order =>
    cases order with
    | none => exact List.nodup_nil
    | some order => exact order.nodup_keys
  | getById | count | create | update | remove => exact List.nodup_nil

/-- **A call that is not refused and has something to run is safe.** -/
theorem safe_outline (hdistinct : (t.record.columns.map Column.name).Nodup) (h : t.refusal? call = none)
    (hidle : call.isIdle = false) : (t.outline call).Safe t where
  table := by cases call <;> rfl
  written_nodup := t.written_nodup call
  written k hk := Record.exists_mem_of_declares (allows_written h k hk)
  unwritten c hc hkind hk := by
    -- the check saw the first column of the name only, which is this one as names are not declared twice
    have hwritable := Record.forall_of_declares hdistinct hc (allows_written h c.name hk)
    rcases hkind with hkind | hkind <;> rw [hkind] at hwritable <;> rcases hwritable with hw | hw <;> cases hw
  complete hop := by
    rw [operation_outline] at hop
    cases call with
    | create values =>
      have hvalues := ((t.record.create_offence?_eq_none_iff values).mp h).2
      intro c hc hrequires
      exact hvalues c hc hrequires
    | getById | list | count | update | remove => cases hop
  nonempty hop := by
    rw [operation_outline] at hop
    cases call with
    | update changes filter =>
      have hne : changes.toList ≠ [] := List.isEmpty_eq_false_iff.mp hidle
      simpa [Outline.written, outline, Outline.sets, Outline.columns] using hne
    | getById | list | count | create | remove => cases hop
  identifier hop := by
    rw [operation_outline] at hop
    cases call with
    | getById id => rfl
    | list | count | create | update | remove => cases hop
  compared_nodup := t.compared_nodup call
  compared hop k hk := by
    rw [operation_outline] at hop
    exact Record.exists_mem_of_declares (allows_compared h hop k hk)
  uncompared hop c hc hkind hk := by
    rw [operation_outline] at hop
    exact Record.forall_of_declares hdistinct hc (allows_compared h hop c.name hk) hkind
  sorted_nodup := t.sorted_nodup call
  sorted k hk := by
    obtain ⟨c, hc⟩ := allows_sorted h k hk
    exact ⟨c, hc.mem, hc.name_eq⟩
  returned k hk := by
    cases call with
    | create | update | remove => exact (Option.some.inj hk).symm
    | getById | list | count => cases hk

end Table

/-! ### The text of a statement -/

namespace Sql

theorem name_mem_tokens {name : String} : ∀ {n : ℕ} {ls : List (Lexeme α)},
    .name name ∈ tokens n ls → .name name ∈ ls
  | _, [], h => by cases h
  | n, .text s :: ls, h => by
    have hchars : Token.name name ∉ chars s := by simp [chars]
    rw [tokens, List.mem_append] at h
    exact List.mem_cons_of_mem _ (name_mem_tokens (h.resolve_left hchars))
  | n, .name s :: ls, h => by
    rw [tokens, List.mem_cons] at h
    rcases h with h | h
    · rw [Token.name.inj h]
      exact List.mem_cons_self
    · exact List.mem_cons_of_mem _ (name_mem_tokens h)
  | n, .slot a :: ls, h => by
    rw [tokens, List.mem_cons] at h
    exact List.mem_cons_of_mem _ (name_mem_tokens (h.resolve_left (by simp)))

theorem unclosed_not_mem_tokens {name : String} : ∀ (n : ℕ) (ls : List (Lexeme α)),
    .unclosed name ∉ tokens n ls
  | _, [] => List.not_mem_nil
  | n, .text s :: ls => by
    have ih : .unclosed name ∉ tokens n ls := unclosed_not_mem_tokens n ls
    simp [tokens, chars, ih]
  | n, .name s :: ls => by
    have ih : .unclosed name ∉ tokens n ls := unclosed_not_mem_tokens n ls
    simp [tokens, ih]
  | n, .slot a :: ls => by
    have ih : .unclosed name ∉ tokens (n + 1) ls := unclosed_not_mem_tokens (n + 1) ls
    simp [tokens, ih]

theorem mem_names_iff {name : String} {ts : List Token} : name ∈ names ts ↔ .name name ∈ ts := by
  rw [names, List.mem_filterMap]
  constructor
  · rintro ⟨token, htoken, hname⟩
    cases token <;> cases hname
    exact htoken
  · exact fun h => ⟨_, h, rfl⟩

end Sql

/-- **A text has one reading**: two shapes that are written alike are the same. -/
theorem Outline.eq_of_spell_eq {o p : Outline Unit} (h : spell 0 o.lexemes = spell 0 p.lexemes) : o = p := by
  refine Outline.eq_of_tokens_eq o p ?_
  rw [← scan_spell 0 _ o.spaced_lexemes, ← scan_spell 0 _ p.spaced_lexemes, h]

/-- **A statement that keeps to a table**, for a call of some kind. -/
structure Sql.Statement.Safe (t : Table) (operation : Operation) (s : Statement) : Prop where
  /-- Its text can be read in just one way, and as that it is safe. -/
  reading : ∃ o : Outline Unit, o.operation = operation ∧ o.Safe t ∧
    ∀ p : Outline Unit, s.text.toList = spell 0 p.lexemes ↔ p = o
  /-- No name is quoted in it that the table does not have. -/
  names : ∀ name ∈ names (scan s.text), name = t.name ∨ name = t.record.idColumn ∨
    operation = .count ∧ name = "count" ∨ ∃ c ∈ t.record.columns, c.name = name
  /-- Every quoted name has an end. -/
  closed : ∀ name, .unclosed name ∉ scan s.text

/-- **The statement of a call is safe**, if no column is declared twice. -/
theorem Table.safe_of_statement {t : Table} (hdistinct : (t.record.columns.map Column.name).Nodup)
    {call : Call} {s : Statement} (h : t.statement call = .ok (some s)) : s.Safe t call.operation := by
  obtain ⟨hrefusal, hidle⟩ := refusal?_of_statement h
  have hsafe := safe_outline hdistinct hrefusal hidle
  have htext : s.text.toList = spell 0 (t.outline call).shape.lexemes :=
    (toList_text_of_statement h).trans (Outline.spell_shape _).symm
  refine ⟨⟨(t.outline call).shape, ?_, hsafe.shape, fun p => ⟨fun hp => ?_, ?_⟩⟩, fun name hname => ?_,
    fun name => ?_⟩
  · rw [Outline.operation_shape, operation_outline]
  · exact Outline.eq_of_spell_eq (hp.symm.trans htext)
  · rintro rfl
    exact htext
  · rw [scan_text h, mem_names_iff] at hname
    have hname := hsafe.of_name_mem (name_mem_tokens hname)
    rwa [operation_outline] at hname
  · rw [scan_text h]
    exact unclosed_not_mem_tokens 0 _

/-! ### Sessions -/

namespace Gateway

theorem perform_safe (g : Gateway) (hdistinct : (g.table.record.columns.map Column.name).Nodup)
    (exec : Executor σ) (call : Call) (s : σ) :
    ∀ statement ∈ (g.perform exec call s).ran, statement.Safe g.table call.operation := by
  intro statement hstatement
  rw [(g.conducts_perform exec call s).ran_eq, Option.mem_toList, Table.statement?] at hstatement
  rcases hst : g.table.statement call with fault | found <;> rw [hst] at hstatement
  · cases hstatement
  · have hfound : found = some statement := hstatement
    rw [hfound] at hst
    exact Table.safe_of_statement hdistinct hst

/-- **Everything that a session runs is safe**, whatever is called and whatever the executor answers. -/
theorem run_safe (g : Gateway) (hdistinct : (g.table.record.columns.map Column.name).Nodup)
    (exec : Executor σ) : ∀ (calls : List Call) (s : σ),
      List.Forall₂ (fun call turn => ∀ statement ∈ turn.ran, statement.Safe g.table call.operation)
        calls (g.run exec calls s)
  | [], _ => .nil
  | call :: calls, s => .cons (g.perform_safe hdistinct exec call s) (run_safe g hdistinct exec calls _)

end Gateway

/-- A record with columns of every kind. -/
def auditRecord : Record where
  table := "audit"
  columns := [⟨"id", .identifier, false⟩, ⟨"actor", .scalar, false⟩, ⟨"detail", .structured, true⟩,
    ⟨"at", .timestamp, false⟩]
  fields := []

/-- A session that tries to set back the time. -/
def auditCalls : List Call :=
  [.create (.ofList [("actor", .text "ada")]), .update (.ofList [("at", .null)]) .empty,
    .update (.ofList [("detail", .null), ("actor", .text "eve")]) (.ofList [("at", .null)]),
    .list (.ofList [("actor", .text "eve")]) none (some (.ofList [("at", .descending)])), .getById "1"]

theorem auditCalls_safe : (auditRecord.columns.map Column.name).Nodup ∧
    ((Gateway.ofTable auditRecord.home).run .replay auditCalls ⟨[], []⟩).map (fun turn => turn.ran.length) =
      [1, 0, 1, 1, 1] ∧
    List.Forall₂ (fun call turn => ∀ statement ∈ turn.ran, statement.Safe auditRecord.home call.operation)
      auditCalls ((Gateway.ofTable auditRecord.home).run .replay auditCalls ⟨[], []⟩) :=
  ⟨by decide, rfl, Gateway.run_safe (.ofTable auditRecord.home) (by decide) _ _ _⟩

end TableGateway
