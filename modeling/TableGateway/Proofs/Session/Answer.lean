import TableGateway.Gateway.Session
import TableGateway.Proofs.Row.Column

/-! # Answers

A call makes its answer of all rows or of none. A list, and the identifiers that an update or a removal
returns, have one item for every row, in order; the first row that cannot be read is what the call fails with.
A single record is made of the first row, and a number or a new identifier takes exactly one row. Nothing of a
row counts but the columns that are read.

* `Table.answers_answer` : what the rows decide of an answer
* `Table.answer_eq_of_alike` : rows that are alike in the columns that are read have the same answer
* `Gateway.perform_decided` : so a call is decided by what is read from the rows of its statement -/

namespace TableGateway

open TableGateway.Sql

variable {α σ : Type} {rows rows' : List Row}

/-! ### All rows, the first row, the only row -/

/-- **An answer made of all rows**, in order, or of none if one of them fails. -/
structure AllRows (reads : Row → α → Prop) (fails : Row → Fault → Prop) (answer : List α → Answer)
    (rows : List Row) (result : Except Fault Answer) : Prop where
  ok_iff : ∀ a, result = .ok a ↔ ∃ xs, List.Forall₂ reads rows xs ∧ a = answer xs
  error_iff : ∀ fault, result = .error fault ↔
    ∃ before row after, rows = before ++ row :: after ∧ (∀ b ∈ before, ∃ x, reads b x) ∧ fails row fault

/-- **An answer made of the first row**, if there is one. -/
structure FirstRow (reads : Row → α → Prop) (fails : Row → Fault → Prop) (answer : Option α → Answer)
    (rows : List Row) (result : Except Fault Answer) : Prop where
  ok_iff : ∀ a, result = .ok a ↔ rows = [] ∧ a = answer none ∨
    ∃ row rest x, rows = row :: rest ∧ reads row x ∧ a = answer (some x)
  error_iff : ∀ fault, result = .error fault ↔ ∃ row rest, rows = row :: rest ∧ fails row fault

/-- **An answer made of the only row**; another number of rows is a fault. -/
structure OnlyRow (reads : Row → α → Prop) (fails : Row → Fault → Prop) (answer : α → Answer)
    (rows : List Row) (result : Except Fault Answer) : Prop where
  ok_iff : ∀ a, result = .ok a ↔ ∃ row x, rows = [row] ∧ reads row x ∧ a = answer x
  error_iff : ∀ fault, result = .error fault ↔ (∃ row, rows = [row] ∧ fails row fault) ∨
    rows.length ≠ 1 ∧ fault = .rowCount 1 rows.length

section Readings

variable {read : Row → Except Fault α} {reads : Row → α → Prop} {fails : Row → Fault → Prop}

variable (hreads : ∀ row x, read row = .ok x ↔ reads row x)
  (hfails : ∀ row fault, read row = .error fault ↔ fails row fault)
include hreads hfails

theorem allRows_mapM (answer : List α → Answer) (rows : List Row) :
    AllRows reads fails answer rows ((rows.mapM read).map answer) where
  ok_iff a := by
    rw [map_eq_ok_iff]
    simp only [mapM_eq_ok_iff, hreads]
  error_iff fault := by
    rw [map_eq_error_iff, mapM_eq_error_iff]
    simp only [Stops, hreads, hfails]

theorem firstRow_map (answer : Option α → Answer) : ∀ rows : List Row,
    FirstRow reads fails answer rows (rows.head?.elim (.ok (answer none)) fun row =>
      (read row).map fun x => answer (some x))
  | [] => ⟨fun a => by simp [eq_comm], fun fault => by simp⟩
  | row :: rest => by
    refine ⟨fun a => ?_, fun fault => ?_⟩
    · have h := map_eq_ok_iff (read row) (fun x => answer (some x)) a
      simpa [hreads] using h
    · have h := map_eq_error_iff (read row) (fun x => answer (some x)) fault
      simpa [hfails] using h

theorem onlyRow_bind (answer : α → Answer) : ∀ rows : List Row,
    OnlyRow reads fails answer rows ((Table.onlyRow rows).bind fun row => (read row).map answer)
  | [] => ⟨fun a => by simp [Table.onlyRow, Except.bind], fun fault => by
      simp [Table.onlyRow, Except.bind, eq_comm]⟩
  | [row] => by
    refine ⟨fun a => ?_, fun fault => ?_⟩
    · have h := map_eq_ok_iff (read row) answer a
      simpa [Table.onlyRow, Except.bind, hreads] using h
    · have h := map_eq_error_iff (read row) answer fault
      simpa [Table.onlyRow, Except.bind, hfails] using h
  | row :: row' :: rest => ⟨fun a => by simp [Table.onlyRow, Except.bind], fun fault => by
      simp [Table.onlyRow, Except.bind, eq_comm]⟩

end Readings

/-! ### The six calls -/

namespace Table

variable {t : Table} {call : Call}

/-- **What rows decide of the answer to a call.** -/
def Answers (t : Table) (rows : List Row) (result : Except Fault Answer) : Call → Prop
  | .getById _ => FirstRow t.record.Reads t.record.Fails .entry rows result
  | .list _ _ _ => AllRows t.record.Reads t.record.Fails .entries rows result
  | .count _ => OnlyRow (fun row (n : Nat) => ∃ i : Int64, row.Holds "count" (.int i) ∧ i.toInt = n)
      (fun row fault => row.Fails "count" (.int .u64) fault) .number rows result
  | .create _ => OnlyRow (fun row s => row.Gives t.record.idColumn .text (.text s))
      (fun row fault => row.Fails t.record.idColumn .text fault) .id rows result
  | .update _ _ | .remove _ => AllRows (fun row s => row.Gives t.record.idColumn .text (.text s))
      (fun row fault => row.Fails t.record.idColumn .text fault) .ids rows result

/-- **What the rows decide is what a call answers.** -/
theorem answers_answer (t : Table) (rows : List Row) (call : Call) :
    t.Answers rows (t.answer call rows) call := by
  have hrecord : ∀ row entry, t.record.read row = .ok entry ↔ t.record.Reads row entry :=
    fun _ _ => Record.read_eq_ok_iff
  have hrecord' : ∀ row fault, t.record.read row = .error fault ↔ t.record.Fails row fault :=
    fun _ _ => Record.read_eq_error_iff
  have hid : ∀ row s, Row.readText row t.record.idColumn = .ok s ↔
      row.Gives t.record.idColumn .text (.text s) := fun _ _ => Row.readText_eq_ok_iff
  have hid' : ∀ row fault, Row.readText row t.record.idColumn = .error fault ↔
      row.Fails t.record.idColumn .text fault := fun _ _ => Row.readText_eq_error_iff
  cases call with
  | getById id =>
    have h := firstRow_map hrecord hrecord' .entry rows
    cases rows <;> exact h
  | list filter page order => exact allRows_mapM hrecord hrecord' .entries rows
  | count filter =>
    exact onlyRow_bind (fun _ _ => Row.readCount_eq_ok_iff) (fun _ _ => Row.readCount_eq_error_iff)
      .number rows
  | create values => exact onlyRow_bind hid hid' .id rows
  | update changes filter => exact allRows_mapM hid hid' .ids rows
  | remove filter => exact allRows_mapM hid hid' .ids rows

/-- **The columns that a call reads.** -/
def reads (t : Table) : Call → List String
  | .getById _ | .list _ _ _ => t.record.fields.map Field.column
  | .count _ => ["count"]
  | .create _ | .update _ _ | .remove _ => [t.record.idColumn]

theorem mapM_eq_of_alike {read : Row → Except Fault α} {columns : List String}
    (hread : ∀ row row', Row.Alike columns row row' → read row = read row')
    (h : List.Forall₂ (Row.Alike columns) rows rows') : rows.mapM read = rows'.mapM read := by
  induction h with
  | nil => rfl
  | cons hrow _ ih => rw [mapM_cons_eq, mapM_cons_eq, hread _ _ hrow, ih]

/-- **Rows that are alike in the columns that are read have the same answer.** -/
theorem answer_eq_of_alike (h : List.Forall₂ (Row.Alike (t.reads call)) rows rows') :
    t.answer call rows = t.answer call rows' := by
  have honly : ∀ {columns : List String} {f g : Row → Except Fault Answer},
      (∀ row row', Row.Alike columns row row' → f row = g row') →
      List.Forall₂ (Row.Alike columns) rows rows' → (onlyRow rows).bind f = (onlyRow rows').bind g := by
    intro columns f g hfg h
    rcases h with _ | ⟨hrow, _ | ⟨hrow', hrest⟩⟩
    · rfl
    · exact hfg _ _ hrow
    · have hlength := hrest.length_eq
      simp only [onlyRow, List.length_cons, hlength]
      rfl
  have hid : ∀ row row', Row.Alike [t.record.idColumn] row row' →
      row.readText t.record.idColumn = row'.readText t.record.idColumn :=
    fun _ _ h => h.readText_eq List.mem_cons_self
  cases call with
  | getById id =>
    rcases h with _ | ⟨hrow, -⟩
    · rfl
    · exact congrArg (Except.map fun e => Answer.entry (some e)) (Record.read_eq_of_alike hrow)
  | list filter page order =>
    exact congrArg (Except.map Answer.entries) (mapM_eq_of_alike (fun _ _ => Record.read_eq_of_alike) h)
  | count filter =>
    exact honly (fun row row' hrow => congrArg (Except.map Answer.number) (hrow.readCount_eq List.mem_cons_self)) h
  | create values =>
    exact honly (fun row row' hrow => congrArg (Except.map Answer.id) (hid row row' hrow)) h
  | update changes filter => exact congrArg (Except.map Answer.ids) (mapM_eq_of_alike hid h)
  | remove filter => exact congrArg (Except.map Answer.ids) (mapM_eq_of_alike hid h)

end Table

/-! ### Calls of a gateway -/

namespace Gateway

/-- Whoever runs the statement of a call and whatever came before, the rows decide that this is the result. -/
def Results (g : Gateway) (call : Call) (statement : Statement) (rows : List Row)
    (result : Except Fault Answer) : Prop :=
  ∀ (τ : Type) (exec : Executor τ) (s s' : τ), exec.query statement s = (.ok rows, s') →
    (g.perform exec call s).result = result

/-- **A result that is decided by what is read from the rows.** -/
structure Decided (g : Gateway) (call : Call) (statement : Statement) (rows : List Row)
    (result : Except Fault Answer) : Prop where
  answers : g.table.Answers rows result call
  /-- Rows with the same values in the columns that are read give the same result. -/
  alike : ∀ rows', List.Forall₂ (Row.Alike (g.table.reads call)) rows rows' →
    g.Results call statement rows' result
  /-- Other columns, later columns of a name, and the order of the columns make no difference. -/
  varied : ∀ rows', List.Forall₂ (Row.Varied (g.table.reads call)) rows rows' →
    g.Results call statement rows' result

theorem result_perform_eq {g : Gateway} {exec : Executor σ} {call : Call} {statement : Statement} {s : σ}
    (h : g.table.statement call = .ok (some statement)) :
    (g.perform exec call s).result = (exec.query statement s).1.bind (g.table.answer call) := by
  simp only [perform, h]

theorem result_perform (g : Gateway) {exec : Executor σ} {call : Call} {statement : Statement} {s s' : σ}
    (h : g.table.statement call = .ok (some statement)) (hquery : exec.query statement s = (.ok rows, s')) :
    (g.perform exec call s).result = g.table.answer call rows := by
  rw [result_perform_eq h, hquery]
  rfl

/-- **The result of a call is decided by what is read from the rows of its statement.** -/
theorem perform_decided (g : Gateway) (exec : Executor σ) {call : Call} {statement : Statement} {s s' : σ}
    (h : g.table.statement call = .ok (some statement)) (hquery : exec.query statement s = (.ok rows, s')) :
    g.Decided call statement rows (g.perform exec call s).result := by
  have hanswer := g.result_perform h hquery
  have halike : ∀ rows', List.Forall₂ (Row.Alike (g.table.reads call)) rows rows' →
      g.Results call statement rows' (g.table.answer call rows) := by
    intro rows' hrows τ exec' r r' hquery'
    rw [g.result_perform h hquery', Table.answer_eq_of_alike hrows]
  rw [hanswer]
  exact ⟨g.table.answers_answer rows call, halike,
    fun rows' hrows => halike rows' (hrows.imp fun _ _ hrow => hrow.alike)⟩

end Gateway

/-- A record of guests. -/
def guestRecord : Record where
  table := "guests"
  columns := [⟨"id", .identifier, false⟩, ⟨"age", .scalar, false⟩, ⟨"note", .scalar, true⟩]
  fields := [⟨"id", "id", .text⟩, ⟨"age", "age", .int .i16⟩, ⟨"note", "note", .optional .text⟩]

/-- Two guests. The first one has another column, which is not declared, and a second identifier; of the second
one neither the age nor the note can be read. -/
def guestRows : List Row :=
  [⟨[("age", .int 30), ("id", .text "ada"), ("addr", .raw ⟨.other "inet", [2, 32]⟩), ("note", .null),
      ("id", .int 7)]⟩,
    ⟨[("id", .text "eve"), ("note", .int 1), ("age", .text "old")]⟩]

theorem guests_decided : ∃ statement,
    guestRecord.home.statement (.list .empty none none) = .ok (some statement) ∧
    Executor.replay.query statement ⟨[.ok guestRows], []⟩ = (.ok guestRows, ⟨[], [statement]⟩) ∧
    ((Gateway.ofTable guestRecord.home).perform .replay (.list .empty none none) ⟨[.ok guestRows], []⟩).result =
      .error (.decode "age" (.mismatch (.kind "int" "text"))) ∧
    (Gateway.ofTable guestRecord.home).Decided (.list .empty none none) statement guestRows
      ((Gateway.ofTable guestRecord.home).perform .replay (.list .empty none none)
        ⟨[.ok guestRows], []⟩).result :=
  ⟨_, rfl, rfl, rfl, Gateway.perform_decided (.ofTable guestRecord.home) .replay rfl rfl⟩

end TableGateway
