import TableGateway.Proofs.Session.Answer
import TableGateway.Proofs.Wire.Cell
import TableGateway.Wire.Exchange

/-! # Results with cells that nobody reads

What a server sends has the width or the form of its type, and still there may be no value for it: a date or a
point in time may lie outside the calendar, which the infinities do, a decimal may have no digits or too many,
and a document may go beyond the reader. Such a decimal is kept raw. All others break the result that they are
in, whether or not a field reads their column.

* `Wire.Sendable`, `Wire.Formless` : what a server may send, and what of it has no form
* `Wire.Sendable.formless_or_exists_decodes` : what has no form can fail, and nothing else
* `Wire.result_carried` : what is made of a whole result, and of the records that are read from it -/

namespace TableGateway

open TableGateway.Number TableGateway.Calendar TableGateway.Sql

/-- The number of bytes of a cell, for the types that fix it. -/
def SqlType.width? : SqlType → Option Nat
  | bool => some 1
  | int2 => some 2
  | int4 | float4 | date => some 4
  | int8 | float8 | timestamp | timestamptz | time => some 8
  | uuid => some 16
  | _ => none

namespace Wire

variable {type : SqlType} {bytes : List UInt8} {v : Value}

/-! ### Cells -/

/-- **Bytes that a server may send for a type**: as many as the type is wide, whatever they are, or a text in
UTF-8, after a byte for the version if the type has one. -/
structure Sendable (type : SqlType) (bytes : List UInt8) : Prop where
  width : ∀ n, type.width? = some n → bytes.length = n
  text : type.isTextual = true → ∃ s, Text.utf8 s = bytes
  versionedText : type.isVersionedText = true → ∃ s, 1 :: Text.utf8 s = bytes
  document : type = .jsonb → ∃ rest, 1 :: rest = bytes

/-- No day of the calendar has this number. -/
def OffCalendar (day : Int) : Prop := day < -96476249 ∨ 95015279 < day

/-- **A cell that has no value of the kind that its type has.** -/
inductive Formless : SqlType → List UInt8 → Prop
  | numeric {bytes : List UInt8} (h : Numeric.decode? bytes = none) : Formless .numeric bytes
  | date {bytes : List UInt8} (h : OffCalendar (ofSignedWord bytes)) : Formless .date bytes
  | timestamp {type : SqlType} {bytes : List UInt8} (htype : type.isTimestamp = true)
    (h : OffCalendar (ofSignedWord bytes / 86400000000)) : Formless type bytes
  | json {bytes : List UInt8} (h : ∀ j, Json.parseBytes bytes ≠ .ok j) : Formless .json bytes
  | jsonb {bytes : List UInt8} (h : ∀ j, Json.parseBytes bytes ≠ .ok j) : Formless .jsonb (1 :: bytes)

theorem offCalendar_iff {day : Int} : OffCalendar day ↔ Date.ofDay? day = none := by
  unfold OffCalendar Date.ofDay?
  split
  · next h => exact iff_of_false (by omega) (Option.some_ne_none _)
  · next h => exact iff_of_true (by omega) rfl

theorem offCalendar_micros_iff {micros : Int} :
    OffCalendar (micros / 86400000000) ↔ Timestamp.ofMicros? micros = none := by
  rw [offCalendar_iff, Timestamp.ofMicros?, Option.map_eq_none_iff]

theorem decodeJson?_eq_none (h : ∀ j, Json.parseBytes bytes ≠ .ok j) : decodeJson? bytes = none := by
  rw [Option.eq_none_iff_forall_ne_some]
  intro v hv
  obtain ⟨j, hj, -⟩ := decodeJson?_eq_some_iff.mp hv
  exact h j hj

/-- **A cell without form cannot be decoded**, unless it is a decimal. -/
theorem Formless.decodeBytes?_eq_none (h : Formless type bytes) (hnumeric : type ≠ .numeric) :
    decodeBytes? type bytes = none := by
  have hcalendar : ∀ {α : Type} {n : Nat} {f : Int → Option α}, f (ofSignedWord bytes) = none →
      (decodeInt? n bytes).bind f = none := by
    intro α n f hf
    rw [Option.bind_eq_none_iff]
    intro x hx
    rwa [← (decodeInt?_eq_some_iff.mp hx).2]
  cases h with
  | numeric => exact absurd rfl hnumeric
  | date hoff => exact Option.map_eq_none_iff.mpr (hcalendar (offCalendar_iff.mp hoff))
  | timestamp htype hoff =>
    rw [decodeBytes?_timestamp htype]
    exact Option.map_eq_none_iff.mpr (hcalendar (offCalendar_micros_iff.mp hoff))
  | json hj => exact decodeJson?_eq_none hj
  | jsonb hj => exact decodeJson?_eq_none hj

theorem formless_or_exists_document (bytes : List UInt8) :
    (∀ j, Json.parseBytes bytes ≠ .ok j) ∨ ∃ j, Json.parseBytes bytes = .ok j := by
  by_cases h : ∃ j, Json.parseBytes bytes = .ok j
  · exact .inr h
  · exact .inl fun j hj => h ⟨j, hj⟩

/-- **A cell that a server may send is without form or has a value**, or it is a decimal that is both. -/
theorem Sendable.formless_or_exists_decodes (h : Sendable type bytes) :
    Formless type bytes ∧ type ≠ .numeric ∨ ∃ v, Decodes type bytes v := by
  cases type with
  | bool =>
    obtain ⟨b, rfl⟩ := List.length_eq_one_iff.mp (h.width 1 rfl)
    exact .inr ⟨_, .bool b⟩
  | int2 | int4 | int8 => exact .inr ⟨_, .int (congrArg some (h.width _ rfl).symm)⟩
  | float4 => exact .inr ⟨_, .float4 (h.width 4 rfl)⟩
  | float8 => exact .inr ⟨_, .float8 (h.width 8 rfl)⟩
  | numeric =>
    rcases hd : Numeric.decode? bytes with _ | d
    · exact .inr ⟨_, .rawNumeric hd⟩
    · exact .inr ⟨_, .numeric hd⟩
  | uuid => exact .inr ⟨_, .uuid ⟨bytes, h.width 16 rfl⟩⟩
  | timestamp | timestamptz =>
    rcases ht : Timestamp.ofMicros? (ofSignedWord bytes) with _ | t
    · exact .inl ⟨.timestamp rfl (offCalendar_micros_iff.mpr ht), nofun⟩
    · exact .inr ⟨_, .timestamp rfl (h.width 8 rfl) ht⟩
  | date =>
    rcases hd : Date.ofDay? (ofSignedWord bytes) with _ | d
    · exact .inl ⟨.date (offCalendar_iff.mpr hd), nofun⟩
    · exact .inr ⟨_, .date (h.width 4 rfl) hd⟩
  | time => exact .inr ⟨_, .time (h.width 8 rfl)⟩
  | bytea => exact .inr ⟨_, .bytea bytes⟩
  | json =>
    rcases formless_or_exists_document bytes with hj | ⟨j, hj⟩
    · exact .inl ⟨.json hj, nofun⟩
    · exact .inr ⟨_, .json hj⟩
  | jsonb =>
    obtain ⟨rest, rfl⟩ := h.document rfl
    rcases formless_or_exists_document rest with hj | ⟨j, hj⟩
    · exact .inl ⟨.jsonb hj, nofun⟩
    · exact .inr ⟨_, .jsonb hj⟩
  | text | varchar | bpchar | name | unknown =>
    obtain ⟨s, rfl⟩ := h.text rfl
    exact .inr ⟨_, .text rfl s⟩
  | other name =>
    rcases htext : (SqlType.other name).isTextual with _ | _
    · rcases hversioned : (SqlType.other name).isVersionedText with _ | _
      · have hkind : (SqlType.other name).hasKind = false := Bool.or_eq_false_iff.mpr ⟨htext, hversioned⟩
        exact .inr ⟨_, .raw hkind bytes⟩
      · obtain ⟨s, rfl⟩ := h.versionedText hversioned
        exact .inr ⟨_, .versionedText hversioned s⟩
    · obtain ⟨s, rfl⟩ := h.text htext
      exact .inr ⟨_, .text htext s⟩

/-- **What a server may send is broken** if it has no form and is not kept raw either. -/
def Broken (type : SqlType) (cell : Option (List UInt8)) : Prop :=
  ∃ bytes, cell = some bytes ∧ Formless type bytes ∧ type ≠ .numeric

/-- **What the value of a cell may be**: null, or the bytes as they are if there is no other form for them, or
else a value that is neither. -/
inductive Carries (type : SqlType) : Option (List UInt8) → Value → Prop
  | null : Carries type none .null
  | raw {bytes : List UInt8} (h : type.hasKind = false ∨ Formless type bytes) :
    Carries type (some bytes) (.raw ⟨type, bytes⟩)
  | value {bytes : List UInt8} {v : Value} (hkind : type.hasKind = true) (hform : ¬ Formless type bytes)
    (hdecodes : Decodes type bytes v) (hnull : v ≠ .null) (hraw : ∀ c, v ≠ .raw c) :
    Carries type (some bytes) v

theorem hasKind_of_decodes (h : Decodes type bytes v) (hraw : ∀ c, v ≠ .raw c) : type.hasKind = true := by
  rcases hkind : type.hasKind with _ | _
  · have hdecode := decodeBytes?_eq_some_iff.mpr h
    rw [decodeBytes?_raw hkind] at hdecode
    exact absurd (Option.some.inj hdecode).symm (hraw _)
  · rfl

/-- **The value of a cell is raw just if there is no other form for it.** -/
theorem Decodes.carries (h : Decodes type bytes v) : Carries type (some bytes) v := by
  have hvalue : (∀ c, v ≠ .raw c) → v ≠ .null → (type = .numeric → ∃ d, Numeric.decode? bytes = some d) →
      Carries type (some bytes) v := by
    intro hraw hnull hnumeric
    refine .value (hasKind_of_decodes h hraw) (fun hform => ?_) h hnull hraw
    by_cases htype : type = .numeric
    · obtain ⟨d, hd⟩ := hnumeric htype
      subst htype
      cases hform with
      | numeric hnone => rw [hnone] at hd; cases hd
      | timestamp htype => cases htype
    · have hdecode := decodeBytes?_eq_some_iff.mpr h
      rw [hform.decodeBytes?_eq_none htype] at hdecode
      cases hdecode
  cases h with
  | numeric hd => exact hvalue nofun nofun fun _ => ⟨_, hd⟩
  | rawNumeric hd => exact .raw (.inr (.numeric hd))
  | raw htype bytes => exact .raw (.inl htype)
  | int hwidth => exact hvalue nofun nofun (by rintro rfl; cases hwidth)
  | timestamp htype => exact hvalue nofun nofun (by rintro rfl; cases htype)
  | text htype => exact hvalue nofun nofun (by rintro rfl; cases htype)
  | versionedText htype => exact hvalue nofun nofun (by rintro rfl; cases htype)
  | _ => exact hvalue nofun nofun nofun

/-! ### Rows -/

/-- A cell of a result, with the name and the type of its column. -/
abbrev TypedCell := (String × SqlType) × Option (List UInt8)

theorem decodeCell?_some (type : SqlType) (bytes : List UInt8) :
    decodeCell? type (some bytes) = decodeBytes? type bytes := rfl

theorem carries_of_decodeCell? {cell : Option (List UInt8)} (h : decodeCell? type cell = some v) :
    Carries type cell v := by
  cases cell with
  | none => exact Option.some.inj h ▸ .null
  | some bytes => exact (decodeBytes?_eq_some_iff.mp h).carries

theorem decodeCell?_eq_none_iff {cell : Option (List UInt8)}
    (hsent : ∀ bytes, cell = some bytes → Sendable type bytes) :
    decodeCell? type cell = none ↔ Broken type cell := by
  constructor
  · intro h
    cases cell with
    | none => cases h
    | some bytes =>
      rcases (hsent bytes rfl).formless_or_exists_decodes with ⟨hform, hnumeric⟩ | ⟨v, hv⟩
      · exact ⟨bytes, rfl, hform, hnumeric⟩
      · rw [decodeCell?_some, decodeBytes?_eq_some_iff.mpr hv] at h
        cases h
  · rintro ⟨bytes, rfl, hform, hnumeric⟩
    exact hform.decodeBytes?_eq_none hnumeric

theorem decodeCells_eq_ok_iff : ∀ {columns : List (String × SqlType)} {cells : List (Option (List UInt8))}
    {xs : List (String × Value)} (i : Nat), decodeCells i columns cells = .ok xs ↔
      List.Forall₂ (fun (c : TypedCell) x => x.1 = c.1.1 ∧ decodeCell? c.1.2 c.2 = some x.2)
        (columns.zip cells) xs
  | [], cells, xs, i => by
    rw [List.zip_nil_left, List.forall₂_nil_left_iff]
    exact ⟨fun h => (Except.ok.inj h).symm, fun h => congrArg Except.ok h.symm⟩
  | column :: columns, [], xs, i => by
    rw [List.zip_nil_right, List.forall₂_nil_left_iff]
    exact ⟨fun h => (Except.ok.inj h).symm, fun h => congrArg Except.ok h.symm⟩
  | (name, type) :: columns, cell :: cells, xs, i => by
    rw [List.zip_cons_cons, List.forall₂_cons_left_iff, decodeCells]
    simp only [← decodeCells_eq_ok_iff (i + 1)]
    rcases decodeCell? type cell with _ | v
    · simp
    · rcases decodeCells (i + 1) columns cells with fault | xs' <;> simp [Except.map, eq_comm]

theorem decodeCells_eq_error_iff {fault : Fault} : ∀ (columns : List (String × SqlType))
    (cells : List (Option (List UInt8))) (i : Nat), decodeCells i columns cells = .error fault ↔
      ∃ before name type cell after, columns.zip cells = before ++ ((name, type), cell) :: after ∧
        (∀ b ∈ before, ∃ v, decodeCell? b.1.2 b.2 = some v) ∧ decodeCell? type cell = none ∧
          fault = .decode name (.malformed (i + before.length))
  | [], cells, i => by
    refine iff_of_false nofun ?_
    rintro ⟨before, name, type, cell, after, h, -⟩
    simp at h
  | column :: columns, [], i => by
    refine iff_of_false nofun ?_
    rintro ⟨before, name, type, cell, after, h, -⟩
    simp at h
  | (name, type) :: columns, cell :: cells, i => by
    have ih := @decodeCells_eq_error_iff fault columns cells (i + 1)
    rw [List.zip_cons_cons, decodeCells]
    constructor
    · intro h
      rcases hd : decodeCell? type cell with _ | v <;> rw [hd] at h
      · exact ⟨[], name, type, cell, _, rfl, nofun, hd, (Except.error.inj h).symm⟩
      · rcases hrest : decodeCells (i + 1) columns cells with fault' | xs <;> rw [hrest] at h
        · rw [Except.error.inj h] at hrest
          obtain ⟨before, name', type', cell', after, hzip, hbefore, hnone, hfault⟩ := ih.mp hrest
          refine ⟨((name, type), cell) :: before, name', type', cell', after, by rw [hzip]; rfl,
            List.forall_mem_cons.mpr ⟨⟨v, hd⟩, hbefore⟩, hnone, ?_⟩
          rw [hfault, List.length_cons, Nat.add_right_comm, Nat.add_assoc]
        · cases h
    · rintro ⟨_ | ⟨b, before⟩, name', type', cell', after, hzip, hbefore, hnone, hfault⟩
      · obtain ⟨hhead, -⟩ := List.cons.inj hzip
        cases hhead
        rw [hnone, hfault]
        rfl
      · obtain ⟨rfl, hrest⟩ := List.cons.inj hzip
        obtain ⟨⟨v, hv⟩, hbefore⟩ := List.forall_mem_cons.mp hbefore
        have hrest := ih.mpr ⟨before, name', type', cell', after, hrest, hbefore, hnone, by
          rw [hfault, List.length_cons, Nat.add_right_comm, Nat.add_assoc]⟩
        simp only [hv, hrest]
        rfl

variable {columns : List (String × SqlType)} {cells : List (Option (List UInt8))}
  {rows : List (List (Option (List UInt8)))} {fault : Fault}

theorem decodeRow_eq_ok_iff {row : Row} : decodeRow columns cells = .ok row ↔
    List.Forall₂ (fun (c : TypedCell) x => x.1 = c.1.1 ∧ decodeCell? c.1.2 c.2 = some x.2)
      (columns.zip cells) row.cells := by
  rw [← decodeCells_eq_ok_iff 0, decodeRow]
  obtain ⟨xs⟩ := row
  rcases decodeCells 0 columns cells with fault | xs' <;> simp [Except.map]

theorem decodeRow_eq_error_iff : decodeRow columns cells = .error fault ↔
    ∃ before name type cell after, columns.zip cells = before ++ ((name, type), cell) :: after ∧
      (∀ b ∈ before, ∃ v, decodeCell? b.1.2 b.2 = some v) ∧ decodeCell? type cell = none ∧
        fault = .decode name (.malformed before.length) := by
  have h := @decodeCells_eq_error_iff fault columns cells 0
  simp only [Nat.zero_add] at h
  rw [← h, decodeRow]
  rcases decodeCells 0 columns cells with fault | xs <;> simp [Except.map]

theorem exists_decodeRow_iff : (∃ row, decodeRow columns cells = .ok row) ↔
    ∀ c ∈ columns.zip cells, ∃ v, decodeCell? c.1.2 c.2 = some v := by
  constructor
  · rintro ⟨row, h⟩ c hc
    obtain ⟨x, -, -, hx⟩ := exists_mem_of_forall₂ (decodeRow_eq_ok_iff.mp h) c hc
    exact ⟨x.2, hx⟩
  · intro h
    rcases hrow : decodeRow columns cells with fault | row
    · obtain ⟨before, name, type, cell, after, hzip, -, hnone, -⟩ := decodeRow_eq_error_iff.mp hrow
      obtain ⟨v, hv⟩ := h ((name, type), cell) (hzip ▸ List.mem_append_right before List.mem_cons_self)
      rw [hnone] at hv
      cases hv
    · exact ⟨row, rfl⟩

/-! ### Results -/

/-- **A result of which everything may be sent.** -/
def AllSendable (columns : List (String × SqlType)) (rows : List (List (Option (List UInt8)))) : Prop :=
  ∀ cells ∈ rows, ∀ c ∈ columns.zip cells, ∀ bytes, c.2 = some bytes → Sendable c.1.2 bytes

/-- **The first broken cell of a result.** The fault names its column and the place of that. -/
def FirstBroken (columns : List (String × SqlType)) (rows : List (List (Option (List UInt8))))
    (fault : Fault) : Prop :=
  ∃ before cells after left name type cell right, rows = before ++ cells :: after ∧
    (∀ b ∈ before, ∀ c ∈ columns.zip b, ¬ Broken c.1.2 c.2) ∧
    columns.zip cells = left ++ ((name, type), cell) :: right ∧ (∀ c ∈ left, ¬ Broken c.1.2 c.2) ∧
    Broken type cell ∧ fault = .decode name (.malformed left.length)

/-- **What is made of a result.** -/
structure Carried (columns : List (String × SqlType)) (rows : List (List (Option (List UInt8)))) : Prop where
  /-- It has rows of values if no cell in it is broken. -/
  converts_iff : (∃ rs, rows.mapM (decodeRow columns) = .ok rs) ↔
    ∀ cells ∈ rows, ∀ c ∈ columns.zip cells, ¬ Broken c.1.2 c.2
  /-- The rows have the values of the cells, raw if there is no other form for them. -/
  values : ∀ rs, rows.mapM (decodeRow columns) = .ok rs →
    List.Forall₂ (fun cells row => List.Forall₂
      (fun (c : TypedCell) x => x.1 = c.1.1 ∧ Carries c.1.2 c.2 x.2) (columns.zip cells) row.cells) rows rs
  /-- If a cell is broken, the first one that is is what the result fails with. -/
  fault_iff : ∀ fault, rows.mapM (decodeRow columns) = .error fault ↔ FirstBroken columns rows fault
  /-- Every call fails with the first broken cell, whatever columns are read. -/
  breaks : ∀ {σ : Type} (g : Gateway) (exec : Executor σ) (call : Call) (statement : Statement) (s : σ),
    g.table.statement call = .ok (some statement) →
    (exec.query statement s).1 = rows.mapM (decodeRow columns) →
    ∀ fault, FirstBroken columns rows fault → (g.perform exec call s).result = .error fault
  /-- Where no cell is broken, records fail only with a field that cannot be read from its column. -/
  records : ∀ {σ : Type} (g : Gateway) (exec : Executor σ) (call : Call) (statement : Statement) (s : σ),
    g.table.statement call = .ok (some statement) →
    (exec.query statement s).1 = rows.mapM (decodeRow columns) →
    call.operation = .getById ∨ call.operation = .list →
    ∀ fault, (g.perform exec call s).result = .error fault → FirstBroken columns rows fault ∨
      ∃ rs row, rows.mapM (decodeRow columns) = .ok rs ∧ row ∈ rs ∧ g.table.record.Fails row fault

theorem exists_decodeCell?_iff (hsent : AllSendable columns rows) (hcells : cells ∈ rows) {c : TypedCell}
    (hc : c ∈ columns.zip cells) : (∃ v, decodeCell? c.1.2 c.2 = some v) ↔ ¬ Broken c.1.2 c.2 := by
  rw [← decodeCell?_eq_none_iff (hsent cells hcells c hc), ← ne_eq, Option.ne_none_iff_exists']

theorem exists_row_iff (hsent : AllSendable columns rows) (hcells : cells ∈ rows) :
    (∃ row, decodeRow columns cells = .ok row) ↔ ∀ c ∈ columns.zip cells, ¬ Broken c.1.2 c.2 := by
  rw [exists_decodeRow_iff]
  exact forall₂_congr fun c hc => exists_decodeCell?_iff hsent hcells hc

/-- **A result fails with its first broken cell.** -/
theorem rows_eq_error_iff (hsent : AllSendable columns rows) :
    rows.mapM (decodeRow columns) = .error fault ↔ FirstBroken columns rows fault := by
  rw [mapM_eq_error_iff]
  constructor
  · rintro ⟨before, cells, after, rfl, hbefore, hfault⟩
    have hcells : cells ∈ before ++ cells :: after := List.mem_append_right before List.mem_cons_self
    obtain ⟨left, name, type, cell, right, hzip, hleft, hnone, rfl⟩ := decodeRow_eq_error_iff.mp hfault
    refine ⟨before, cells, after, left, name, type, cell, right, rfl, fun b hb => ?_, hzip, fun c hc => ?_,
      ?_, rfl⟩
    · exact (exists_row_iff hsent (List.mem_append_left _ hb)).mp (hbefore b hb)
    · exact (exists_decodeCell?_iff hsent hcells (hzip ▸ List.mem_append_left _ hc)).mp (hleft c hc)
    · exact (decodeCell?_eq_none_iff (hsent cells hcells ((name, type), cell)
        (hzip ▸ List.mem_append_right left List.mem_cons_self))).mp hnone
  · rintro ⟨before, cells, after, left, name, type, cell, right, rfl, hbefore, hzip, hleft, hbroken, rfl⟩
    have hcells : cells ∈ before ++ cells :: after := List.mem_append_right before List.mem_cons_self
    refine ⟨before, cells, after, rfl, fun b hb => ?_, decodeRow_eq_error_iff.mpr
      ⟨left, name, type, cell, right, hzip, fun c hc => ?_, ?_, rfl⟩⟩
    · exact (exists_row_iff hsent (List.mem_append_left _ hb)).mpr (hbefore b hb)
    · exact (exists_decodeCell?_iff hsent hcells (hzip ▸ List.mem_append_left _ hc)).mpr (hleft c hc)
    · exact (decodeCell?_eq_none_iff (hsent cells hcells ((name, type), cell)
        (hzip ▸ List.mem_append_right left List.mem_cons_self))).mpr hbroken

theorem exists_fails_of_answer {t : Table} {call : Call} (hcall : call.operation = .getById ∨ call.operation = .list)
    {rs : List Row} (h : t.answer call rs = .error fault) : ∃ row ∈ rs, t.record.Fails row fault := by
  have hanswers := t.answers_answer rs call
  cases call with
  | getById id =>
    obtain ⟨row, rest, rfl, hfails⟩ := (hanswers.error_iff fault).mp h
    exact ⟨row, List.mem_cons_self, hfails⟩
  | list filter page order =>
    obtain ⟨before, row, after, rfl, -, hfails⟩ := (hanswers.error_iff fault).mp h
    exact ⟨row, List.mem_append_right before List.mem_cons_self, hfails⟩
  | count | create | update | remove => rcases hcall with hcall | hcall <;> cases hcall

/-- **What is made of a result of which everything may be sent.** -/
theorem result_carried (hsent : AllSendable columns rows) : Carried columns rows where
  converts_iff := by
    rw [exists_mapM_eq_ok_iff]
    exact forall₂_congr fun cells hcells => exists_row_iff hsent hcells
  values rs hrs := (mapM_eq_ok_iff.mp hrs).imp fun cells row hrow =>
    (decodeRow_eq_ok_iff.mp hrow).imp fun c x hx => ⟨hx.1, carries_of_decodeCell? hx.2⟩
  fault_iff fault := rows_eq_error_iff hsent
  breaks g exec call statement s h hquery fault hbroken := by
    rw [Gateway.result_perform_eq h, hquery, (rows_eq_error_iff hsent).mpr hbroken]
    rfl
  records g exec call statement s h hquery hcall fault hfault := by
    rw [Gateway.result_perform_eq h, hquery] at hfault
    rcases hrs : rows.mapM (decodeRow columns) with fault' | rs <;> rw [hrs] at hfault
    · obtain rfl := Except.error.inj hfault
      exact .inl ((rows_eq_error_iff hsent).mp hrs)
    · obtain ⟨row, hrow, hfails⟩ := exists_fails_of_answer hcall hfault
      exact .inr ⟨rs, row, rfl, hrow, hfails⟩

/-- The columns of a table of guests, with two that no field of the record of guests reads. -/
def bornColumns : List (String × SqlType) :=
  [("id", .text), ("age", .int2), ("note", .text), ("born", .date), ("weight", .numeric)]

/-- A guest of thirty whose weight is not a number. -/
def bornCells (born : List UInt8) : List (Option (List UInt8)) :=
  [some [97], some [0, 30], none, some born, some [0, 0, 0, 0, 0xC0, 0, 0, 0]]

theorem allSendable_born {born : List UInt8} (h : born.length = 4) :
    AllSendable bornColumns [bornCells born] := by
  intro cells hcells c hc bytes hbytes
  obtain rfl := List.mem_singleton.mp hcells
  simp only [bornColumns, bornCells, List.zip_cons_cons, List.zip_nil_left, List.mem_cons,
    List.not_mem_nil, or_false] at hc
  rcases hc with rfl | rfl | rfl | rfl | rfl <;> cases hbytes
  · exact ⟨nofun, fun _ => ⟨"a", rfl⟩, nofun, nofun⟩
  · exact ⟨fun n hn => Option.some.inj hn, nofun, nofun, nofun⟩
  · exact ⟨fun n hn => h.trans (Option.some.inj hn), nofun, nofun, nofun⟩
  · exact ⟨nofun, nofun, nofun, nofun⟩

theorem bornCells_carried : AllSendable bornColumns [bornCells [0, 0, 0, 0]] ∧
    Carried bornColumns [bornCells [0, 0, 0, 0]] :=
  ⟨allSendable_born rfl, result_carried (allSendable_born rfl)⟩

theorem decodeRow_bornCells (born : List UInt8) : decodeRow bornColumns (bornCells born) =
    match decodeBytes? .date born with
    | none => .error (.decode "born" (.malformed 3))
    | some v => .ok ⟨[("id", .text "a"), ("age", .int 30), ("note", .null), ("born", v),
        ("weight", .raw ⟨.numeric, [0, 0, 0, 0, 0xC0, 0, 0, 0]⟩)]⟩ := by
  have hid : decodeCell? .text (some [97]) = some (.text "a") :=
    decodeBytes?_eq_some_iff.mpr (@Decodes.text .text rfl "a")
  have hage : decodeCell? .int2 (some [0, 30]) = some (.int 30) := by
    have hthirty : ofSignedWord [0, 30] = 30 := by decide +kernel
    rw [decodeCell?_some, decodeBytes?_eq_some_iff.mpr (.int rfl), hthirty]
    rfl
  have hnote : decodeCell? .text none = some .null := rfl
  have hweight : decodeCell? .numeric (some [0, 0, 0, 0, 0xC0, 0, 0, 0]) =
      some (.raw ⟨.numeric, [0, 0, 0, 0, 0xC0, 0, 0, 0]⟩) := rfl
  simp only [decodeRow, bornColumns, bornCells, decodeCells, hid, hage, hnote, hweight, decodeCell?_some]
  cases decodeBytes? .date born <;> rfl

/-- **A date that nobody reads breaks a list.** No field is read from the column `born`. A guest born on
1 January 2000 is listed, and one whose date of birth is infinite is a fault of that column. -/
theorem infinity_breaks_list : AllSendable bornColumns [bornCells [0x7F, 0xFF, 0xFF, 0xFF]] ∧
    "born" ∉ guestRecord.fields.map Field.column ∧
    ((Gateway.ofTable guestRecord.home).perform .server (.list .empty none none)
      (.prepared [⟨[], bornColumns, [bornCells [0, 0, 0, 0]], none⟩])).result =
      .ok (.entries [[("id", .text "a"), ("age", .int 30), ("note", .null)]]) ∧
    ((Gateway.ofTable guestRecord.home).perform .server (.list .empty none none)
      (.prepared [⟨[], bornColumns, [bornCells [0x7F, 0xFF, 0xFF, 0xFF]], none⟩])).result =
      .error (.decode "born" (.malformed 3)) := by
  have hfirst : decodeBytes? .date [0, 0, 0, 0] = some (.date ⟨0, by decide, by decide⟩) :=
    decodeBytes?_eq_some_iff.mpr (.date rfl (by decide +kernel))
  have hinfinite : decodeBytes? .date [0x7F, 0xFF, 0xFF, 0xFF] = none :=
    (Formless.date (.inr (by decide))).decodeBytes?_eq_none nofun
  refine ⟨allSendable_born rfl, by decide, ?_, ?_⟩
  · have hrow := decodeRow_bornCells [0, 0, 0, 0]
    rw [hfirst] at hrow
    rw [Gateway.result_perform_eq rfl]
    show (List.mapM (decodeRow bornColumns) [bornCells [0, 0, 0, 0]]).bind _ = _
    rw [mapM_cons_eq, hrow]
    rfl
  · have hrow := decodeRow_bornCells [0x7F, 0xFF, 0xFF, 0xFF]
    rw [hinfinite] at hrow
    rw [Gateway.result_perform_eq rfl]
    show (List.mapM (decodeRow bornColumns) [bornCells [0x7F, 0xFF, 0xFF, 0xFF]]).bind _ = _
    rw [mapM_cons_eq, hrow]
    rfl

end Wire

end TableGateway
