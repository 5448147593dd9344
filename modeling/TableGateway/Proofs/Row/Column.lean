import TableGateway.Row
import TableGateway.Proofs.Traversal

/-! # What is read from a row

A column of a row has the value at its first occurrence. A record takes the columns of its fields in the order
of the fields, and the first one that is not there or has no form in the type of its field is what the record
fails with. Nothing else in a row counts.

* `Row.read_eq_ok_iff`, `Row.read_eq_error_iff` : what a column gives, and what it fails with
* `Record.read_eq_ok_iff`, `Record.read_eq_error_iff` : the same for the fields of a record
* `Row.Varied.alike` : columns that are not read, later columns of a name, and another order of the columns -/

namespace TableGateway

variable {row row' : Row} {column : String} {columns : List String} {type : FieldType} {v w : Value}

namespace Row

/-! ### Columns -/

/-- **The value of a column**: no column before it is called so. -/
def Holds (row : Row) (column : String) (v : Value) : Prop :=
  ∃ before after, row.cells = before ++ (column, v) :: after ∧ ∀ cell ∈ before, cell.1 ≠ column

/-- No column is called so. -/
def Lacks (row : Row) (column : String) : Prop := ∀ cell ∈ row.cells, cell.1 ≠ column

theorem get?_eq_some_iff : row.get? column = some v ↔ row.Holds column v := by
  rw [get?, List.lookup_eq_some_iff]
  simp only [bne_iff_ne, ne_eq, eq_comm (a := column)]
  rfl

theorem get?_eq_none_iff : row.get? column = none ↔ row.Lacks column := by
  rw [get?, List.lookup_eq_none_iff]
  simp only [bne_iff_ne, ne_eq, eq_comm (a := column)]
  rfl

theorem Holds.unique (h : row.Holds column v) (h' : row.Holds column w) : v = w :=
  Option.some.inj ((get?_eq_some_iff.mpr h).symm.trans (get?_eq_some_iff.mpr h'))

theorem Holds.mem (h : row.Holds column v) : (column, v) ∈ row.cells := by
  obtain ⟨before, after, hcells, -⟩ := h
  rw [hcells]
  exact List.mem_append_right before List.mem_cons_self

theorem Holds.of_mem (hdistinct : (row.cells.map Prod.fst).Nodup) (h : (column, v) ∈ row.cells) :
    row.Holds column v := by
  obtain ⟨before, after, hcells⟩ := List.append_of_mem h
  refine ⟨before, after, hcells, fun cell hcell hname => ?_⟩
  rw [hcells, List.map_append, List.map_cons, List.nodup_append] at hdistinct
  exact hdistinct.2.2 cell.1 (List.mem_map_of_mem hcell) column List.mem_cons_self hname

/-! ### Reading a column -/

/-- **What a column gives in a type**: the form that its value has there. -/
def Gives (row : Row) (column : String) (type : FieldType) (v : Value) : Prop :=
  ∃ cell, row.Holds column cell ∧ type.read cell = .ok v

/-- **Why a column gives nothing in a type**: it is not there, or its value has no form in the type. -/
inductive Denies (row : Row) (column : String) (type : FieldType) : CellFault → Prop
  | absent (h : row.Lacks column) : Denies row column type .absent
  | mismatch {cell : Value} {cause : Mismatch} (h : row.Holds column cell)
    (hread : type.read cell = .error cause) : Denies row column type (.mismatch cause)

/-- **What a column fails with in a type**: the fault names the column. -/
def Fails (row : Row) (column : String) (type : FieldType) (fault : Fault) : Prop :=
  ∃ cause, row.Denies column type cause ∧ fault = .decode column cause

theorem Holds.read_eq (h : row.Holds column w) :
    row.read column type = (type.read w).mapError fun cause => .decode column (.mismatch cause) := by
  rw [read, get?_eq_some_iff.mpr h]

theorem Lacks.read_eq (h : row.Lacks column) :
    row.read column type = .error (.decode column .absent) := by
  rw [read, get?_eq_none_iff.mpr h]

theorem read_eq_ok_iff : row.read column type = .ok v ↔ row.Gives column type v := by
  constructor
  · intro h
    rcases hget : row.get? column with _ | cell
    · rw [(get?_eq_none_iff.mp hget).read_eq] at h
      cases h
    · have hcell := get?_eq_some_iff.mp hget
      rw [hcell.read_eq] at h
      rcases hread : type.read cell with cause | u <;> rw [hread] at h
      · cases h
      · exact ⟨cell, hcell, hread.trans (congrArg Except.ok (Except.ok.inj h))⟩
  · rintro ⟨cell, hcell, hread⟩
    rw [hcell.read_eq, hread]
    rfl

theorem read_eq_error_iff {fault : Fault} :
    row.read column type = .error fault ↔ row.Fails column type fault := by
  constructor
  · intro h
    rcases hget : row.get? column with _ | cell
    · have hlacks := get?_eq_none_iff.mp hget
      rw [hlacks.read_eq] at h
      exact ⟨_, .absent hlacks, (Except.error.inj h).symm⟩
    · have hcell := get?_eq_some_iff.mp hget
      rw [hcell.read_eq] at h
      rcases hread : type.read cell with cause | u <;> rw [hread] at h
      · exact ⟨_, .mismatch hcell hread, (Except.error.inj h).symm⟩
      · cases h
  · rintro ⟨cause, hdenies, rfl⟩
    cases hdenies with
    | absent hlacks => exact hlacks.read_eq
    | mismatch hcell hread =>
      rw [hcell.read_eq, hread]
      rfl

/-! ### Texts and numbers -/

theorem exists_text_of_read (h : FieldType.text.read v = .ok w) : ∃ s, w = .text s := by
  cases v with
  | text s => exact ⟨s, (Except.ok.inj h).symm⟩
  | uuid u => exact ⟨u.text, (Except.ok.inj h).symm⟩
  | _ => cases h

theorem readText_eq_ok_iff {s : String} : row.readText column = .ok s ↔ row.Gives column .text (.text s) := by
  rw [← read_eq_ok_iff, readText]
  rcases h : row.read column .text with fault | w
  · simp
  · obtain ⟨cell, -, hread⟩ := read_eq_ok_iff.mp h
    obtain ⟨s', rfl⟩ := exists_text_of_read hread
    simp

theorem readText_eq_error_iff {fault : Fault} :
    row.readText column = .error fault ↔ row.Fails column .text fault := by
  rw [← read_eq_error_iff, readText]
  rcases h : row.read column .text with fault | w
  · simp
  · obtain ⟨cell, -, hread⟩ := read_eq_ok_iff.mp h
    obtain ⟨s, rfl⟩ := exists_text_of_read hread
    simp

theorem read_count_eq_ok_iff : (FieldType.int .u64).read v = .ok w ↔
    ∃ i : Int64, v = .int i ∧ w = .int i ∧ 0 ≤ i.toInt := by
  have hmax : ∀ i : Int64, i.toInt ≤ IntWidth.u64.greatest := fun i => by
    have hpow : IntWidth.u64.greatest = 18446744073709551615 := rfl
    have hlt := i.toInt_lt
    omega
  cases v with
  | int i =>
    have hread : (FieldType.int .u64).read (.int i) =
        if IntWidth.u64.holds i.toInt then .ok (.int i) else .error (.range i .u64) := rfl
    have hholds : IntWidth.u64.holds i.toInt = true ↔ 0 ≤ i.toInt := by
      rw [IntWidth.holds, decide_eq_true (hmax i), Bool.and_true]
      exact decide_eq_true_iff
    rw [hread]
    by_cases h0 : 0 ≤ i.toInt
    · rw [if_pos (hholds.mpr h0)]
      simp [h0, eq_comm]
    · rw [if_neg fun h => h0 (hholds.mp h)]
      simp [h0]
  | _ => simp [FieldType.read]

theorem readCount_eq_ok_iff {n : Nat} : row.readCount column = .ok n ↔
    ∃ i : Int64, row.Holds column (.int i) ∧ i.toInt = n := by
  have hgives : (∃ i : Int64, row.Holds column (.int i) ∧ i.toInt = n) ↔
      ∃ i : Int64, row.Gives column (.int .u64) (.int i) ∧ i.toInt.toNat = n := by
    constructor
    · rintro ⟨i, hi, hn⟩
      exact ⟨i, ⟨_, hi, read_count_eq_ok_iff.mpr ⟨i, rfl, rfl, by omega⟩⟩, by omega⟩
    · rintro ⟨i, ⟨cell, hcell, hread⟩, hn⟩
      obtain ⟨j, rfl, hij, hj⟩ := read_count_eq_ok_iff.mp hread
      obtain rfl := Value.int.inj hij
      exact ⟨i, hcell, by omega⟩
  rw [hgives, readCount]
  simp only [← read_eq_ok_iff]
  rcases h : row.read column (.int .u64) with fault | w
  · simp
  · obtain ⟨cell, -, hread⟩ := read_eq_ok_iff.mp h
    obtain ⟨i, -, rfl, -⟩ := read_count_eq_ok_iff.mp hread
    simp

theorem readCount_eq_error_iff {fault : Fault} :
    row.readCount column = .error fault ↔ row.Fails column (.int .u64) fault := by
  rw [← read_eq_error_iff, readCount]
  rcases h : row.read column (.int .u64) with fault | w
  · simp
  · obtain ⟨cell, -, hread⟩ := read_eq_ok_iff.mp h
    obtain ⟨i, -, rfl, -⟩ := read_count_eq_ok_iff.mp hread
    simp

/-! ### Rows that are alike -/

/-- **Rows that are alike in some columns**: these have the same values. -/
def Alike (columns : List String) (row row' : Row) : Prop :=
  ∀ column ∈ columns, ∀ v, row.Holds column v ↔ row'.Holds column v

theorem alike_iff : Alike columns row row' ↔ ∀ column ∈ columns, row.get? column = row'.get? column := by
  refine forall₂_congr fun column _ => ?_
  simp only [← get?_eq_some_iff]
  exact Option.ext_iff.symm

theorem Alike.read_eq (h : Alike columns row row') (hcolumn : column ∈ columns) :
    row.read column type = row'.read column type := by
  rw [read, read, alike_iff.mp h column hcolumn]

theorem Alike.readText_eq (h : Alike columns row row') (hcolumn : column ∈ columns) :
    row.readText column = row'.readText column := by
  rw [readText, readText, h.read_eq hcolumn]

theorem Alike.readCount_eq (h : Alike columns row row') (hcolumn : column ∈ columns) :
    row.readCount column = row'.readCount column := by
  rw [readCount, readCount, h.read_eq hcolumn]

/-- **What makes no difference to some columns** of a row: a column of another name, a column of a name that
was there before, and another order of columns that are all named differently. -/
inductive Varied (columns : List String) : Row → Row → Prop
  | other {before after : List (String × Value)} {name : String} {v : Value} (h : name ∉ columns) :
    Varied columns ⟨before ++ after⟩ ⟨before ++ (name, v) :: after⟩
  | again {before after : List (String × Value)} {name : String} {v : Value}
    (h : name ∈ before.map Prod.fst) : Varied columns ⟨before ++ after⟩ ⟨before ++ (name, v) :: after⟩
  | order {cells cells' : List (String × Value)} (h : cells.Perm cells')
    (hdistinct : (cells.map Prod.fst).Nodup) : Varied columns ⟨cells⟩ ⟨cells'⟩
  | refl (row : Row) : Varied columns row row
  | trans {row row' row'' : Row} (h : Varied columns row row') (h' : Varied columns row' row'') :
    Varied columns row row''

/-- A column of a name that is not there yet, or that is not asked for, adds nothing to a lookup. -/
theorem lookup_insert {before after : List (String × Value)} {name : String} {v : Value}
    (h : column ≠ name ∨ name ∈ before.map Prod.fst) :
    (before ++ after).lookup column = (before ++ (name, v) :: after).lookup column := by
  rw [List.lookup_append, List.lookup_append, List.lookup_cons]
  by_cases hcolumn : column = name
  · subst hcolumn
    obtain ⟨cell, hcell, hname⟩ := List.mem_map.mp (h.resolve_left fun hne => hne rfl)
    rcases hlookup : before.lookup column with _ | w
    · exact absurd hname.symm (by simpa using List.lookup_eq_none_iff.mp hlookup cell hcell)
    · rfl
  · rw [beq_false_of_ne hcolumn]

/-- **What makes no difference to some columns leaves them alike.** -/
theorem Varied.alike (h : Varied columns row row') : Alike columns row row' := by
  induction h with
  | other hname =>
    exact alike_iff.mpr fun column hcolumn => lookup_insert (.inl fun h => hname (h ▸ hcolumn))
  | again hname => exact alike_iff.mpr fun column _ => lookup_insert (.inr hname)
  | order hperm hdistinct =>
    have hdistinct' := (hperm.map Prod.fst).nodup_iff.mp hdistinct
    intro column _ v
    exact ⟨fun h => .of_mem hdistinct' (hperm.mem_iff.mp h.mem),
      fun h => .of_mem hdistinct (hperm.mem_iff.mpr h.mem)⟩
  | refl row => exact fun _ _ _ => Iff.rfl
  | trans _ _ ih ih' => exact fun column hcolumn v => (ih column hcolumn v).trans (ih' column hcolumn v)

end Row

/-! ### Records -/

namespace Record

variable {r : Record} {entry : Entry} {fault : Fault}

/-- **What a record reads from a row**: what the column of each field gives in the type of the field, in the
order of the fields. -/
def Reads (r : Record) (row : Row) (entry : Entry) : Prop :=
  List.Forall₂ (fun f x => x.1 = f.name ∧ row.Gives f.column f.type x.2) r.fields entry

/-- **What a record fails with at a row**: the columns of all fields before one give something in the type of
their field, and the column of that one does not. -/
def Fails (r : Record) (row : Row) (fault : Fault) : Prop :=
  ∃ before f after, r.fields = before ++ f :: after ∧ (∀ b ∈ before, ∃ v, row.Gives b.column b.type v) ∧
    row.Fails f.column f.type fault

theorem read_field_eq_ok_iff {f : Field} {x : String × Value} :
    (row.read f.column f.type).map (f.name, ·) = .ok x ↔ x.1 = f.name ∧ row.Gives f.column f.type x.2 := by
  rw [← Row.read_eq_ok_iff]
  rcases row.read f.column f.type with fault | v
  · simp [Except.map]
  · obtain ⟨name, w⟩ := x
    simp [Except.map, eq_comm]

theorem read_field_eq_error_iff {f : Field} :
    (row.read f.column f.type).map (f.name, ·) = .error fault ↔ row.Fails f.column f.type fault := by
  rw [← Row.read_eq_error_iff]
  rcases row.read f.column f.type with fault | v <;> simp [Except.map]

theorem read_eq_ok_iff : r.read row = .ok entry ↔ r.Reads row entry := by
  rw [read, mapM_eq_ok_iff]
  simp only [read_field_eq_ok_iff]
  rfl

theorem read_eq_error_iff : r.read row = .error fault ↔ r.Fails row fault := by
  have hgives : ∀ f : Field, (∃ x : String × Value, x.1 = f.name ∧ row.Gives f.column f.type x.2) ↔
      ∃ v, row.Gives f.column f.type v := fun f =>
    ⟨fun ⟨x, _, hx⟩ => ⟨x.2, hx⟩, fun ⟨v, hv⟩ => ⟨(f.name, v), rfl, hv⟩⟩
  rw [read, mapM_eq_error_iff]
  simp only [Stops, read_field_eq_ok_iff, read_field_eq_error_iff, hgives]
  rfl

theorem read_eq_of_alike (h : Row.Alike (r.fields.map Field.column) row row') :
    r.read row = r.read row' :=
  mapM_congr fun f hf => by rw [h.read_eq (List.mem_map_of_mem hf)]

end Record

end TableGateway
