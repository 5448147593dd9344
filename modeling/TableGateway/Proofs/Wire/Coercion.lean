import TableGateway.FieldType
import TableGateway.Proofs.Traversal
import TableGateway.Wire.Bind

/-! # Reading and binding coerce alike

A value has a form in a field, and it has bytes at the type of a column. Both make something of values of other
kinds: an integer becomes a floating-point number or a decimal, an identifier becomes a text and a text an
identifier. What a value becomes in a field is bound, at the type of column that the field is for, by the bytes
that the value itself is bound by. What has no form in a field has no bytes either, but for a few values that only
binding makes a decimal, a date or a time of.

* `FieldType.Serves` : the type of column that a field is for
* `Coerces` : what a value becomes in a field
* `Exceeds` : the values that are bound though they have no form in a field
* `read_bind_coherent` : reading and binding coerce alike -/

namespace TableGateway

open TableGateway.Number TableGateway.Calendar TableGateway.Wire

/-- **The type of column that a field is for.** -/
inductive FieldType.Serves : FieldType → SqlType → Prop
  | bool : Serves .bool .bool
  | int2 : Serves (.int .i16) .int2
  | int4 : Serves (.int .i32) .int4
  | int8 : Serves (.int .i64) .int8
  | float8 : Serves .float .float8
  | text : Serves .text .text
  | uuid : Serves .uuid .uuid
  | timestamptz : Serves .timestamp .timestamptz
  | numeric : Serves .decimal .numeric
  | date : Serves .date .date
  | time : Serves .time .time
  | bytea : Serves .bytes .bytea
  | jsonb : Serves .json .jsonb

/-- **What a value becomes in a field.** -/
inductive Coerces : FieldType → Value → Value → Prop
  | bool (b : Bool) : Coerces .bool (.bool b) (.bool b)
  /-- An integer has to be in range. -/
  | int {width : IntWidth} {n : Int64} (h : width.holds n.toInt = true) : Coerces (.int width) (.int n) (.int n)
  | float (x : Binary64) : Coerces .float (.float x) (.float x)
  | floatOfInt (n : Int64) : Coerces .float (.int n) (.float (Binary64.ofInt n.toInt))
  | text (s : String) : Coerces .text (.text s) (.text s)
  | textOfUuid (u : Uuid) : Coerces .text (.uuid u) (.text u.text)
  | uuid (u : Uuid) : Coerces .uuid (.uuid u) (.uuid u)
  | uuidOfText {s : String} {u : Uuid} (h : Uuid.read s = .ok u) : Coerces .uuid (.text s) (.uuid u)
  | timestamp (t : Timestamp) : Coerces .timestamp (.timestamp t) (.timestamp t)
  | decimal (d : Decimal) : Coerces .decimal (.decimal d) (.decimal d)
  | decimalOfInt (n : Int64) : Coerces .decimal (.int n) (.decimal (Decimal.ofInt64 n))
  | decimalOfText {s : String} {d : Decimal} (h : Decimal.read s = .ok d) : Coerces .decimal (.text s) (.decimal d)
  | date (d : Date) : Coerces .date (.date d) (.date d)
  | time (t : Time) : Coerces .time (.time t) (.time t)
  | bytes (bs : List UInt8) : Coerces .bytes (.bytes bs) (.bytes bs)
  | json (j : Json) : Coerces .json (.json j) (.json j)

/-- **The values that are bound though they have no form in a field**: a number as the decimal of its digits, a text
that spells a date or a time, and a point in time as its date. -/
inductive Exceeds : FieldType → Value → Prop
  | decimal {x : Binary64} {d : Decimal} (h : Decimal.ofBinary? x = some d) : Exceeds .decimal (.float x)
  | dateOfText {s : String} {d : Date} (h : readDate s = .ok d) : Exceeds .date (.text s)
  | dateOfTimestamp (t : Timestamp) : Exceeds .date (.timestamp t)
  | time {s : String} {t : Time} (h : readTime s = .ok t) : Exceeds .time (.text s)

variable {type : FieldType} {column : SqlType} {v w : Value}

/-! ### Reading -/

theorem coerces_of_read (hserves : type.Serves column) (h : type.read v = .ok w) : Coerces type v w := by
  cases hserves with
  | bool =>
    cases v with
    | bool b => exact Except.ok.inj h ▸ .bool b
    | _ => cases h
  | int2 | int4 | int8 =>
    cases v with
    | int n =>
      rw [FieldType.read] at h
      split at h
      · next hholds => exact Except.ok.inj h ▸ .int hholds
      · cases h
    | _ => cases h
  | float8 =>
    cases v with
    | float x => exact Except.ok.inj h ▸ .float x
    | int n => exact Except.ok.inj h ▸ .floatOfInt n
    | _ => cases h
  | text =>
    cases v with
    | text s => exact Except.ok.inj h ▸ .text s
    | uuid u => exact Except.ok.inj h ▸ .textOfUuid u
    | _ => cases h
  | uuid =>
    cases v with
    | uuid u => exact Except.ok.inj h ▸ .uuid u
    | text s =>
      obtain ⟨u, hu, rfl⟩ := (mapError_map_eq_ok_iff _ _ _ _).mp h
      exact .uuidOfText hu
    | _ => cases h
  | timestamptz =>
    cases v with
    | timestamp t => exact Except.ok.inj h ▸ .timestamp t
    | _ => cases h
  | numeric =>
    cases v with
    | decimal d => exact Except.ok.inj h ▸ .decimal d
    | int n => exact Except.ok.inj h ▸ .decimalOfInt n
    | text s =>
      obtain ⟨d, hd, rfl⟩ := (mapError_map_eq_ok_iff _ _ _ _).mp h
      exact .decimalOfText hd
    | _ => cases h
  | date =>
    cases v with
    | date d => exact Except.ok.inj h ▸ .date d
    | _ => cases h
  | time =>
    cases v with
    | time t => exact Except.ok.inj h ▸ .time t
    | _ => cases h
  | bytea =>
    cases v with
    | bytes bs => exact Except.ok.inj h ▸ .bytes bs
    | _ => cases h
  | jsonb =>
    cases v with
    | json j => exact Except.ok.inj h ▸ .json j
    | _ => cases h

theorem Coerces.read_eq (h : Coerces type v w) : type.read v = .ok w := by
  cases h with
  | int hholds => exact if_pos hholds
  | uuidOfText hu => rw [FieldType.read, hu]; rfl
  | decimalOfText hd => rw [FieldType.read, hd]; rfl
  | _ => rfl

/-- **What is read into a field is what the value becomes there.** -/
theorem read_eq_ok_iff_coerces (hserves : type.Serves column) : type.read v = .ok w ↔ Coerces type v w :=
  ⟨coerces_of_read hserves, Coerces.read_eq⟩

/-! ### Integers -/

/-- The number of bytes of an integer of a width. -/
def IntWidth.size : IntWidth → Nat
  | i16 => 2
  | i32 => 4
  | i64 | u64 => 8

theorem IntWidth.holds_iff {width : IntWidth} {x : Int} :
    width.holds x = true ↔ width.least ≤ x ∧ x ≤ width.greatest := by
  rw [holds, Bool.and_eq_true, decide_eq_true_iff, decide_eq_true_iff]

theorem bindInt_eq_ok_iff {n : Nat} {x : Int} {out : List UInt8} : bindInt n x = .ok out ↔
    (-Int.pow 256 n ≤ 2 * x ∧ 2 * x < Int.pow 256 n) ∧ signedWord n x = out := by
  unfold bindInt
  split
  · next h => exact iff_of_false nofun fun hx => absurd hx.1.2 (Int.not_lt.mpr h)
  · next hhigh =>
    split
    · next h => exact iff_of_false nofun fun hx => absurd hx.1.1 (Int.not_le.mpr h)
    · next hlow =>
      have hfits := And.intro (Int.not_lt.mp hlow) (Int.not_le.mp hhigh)
      exact ⟨fun h => ⟨hfits, Except.ok.inj h⟩, fun h => congrArg Except.ok h.2⟩

section

variable {width : IntWidth} (hserves : (FieldType.int width).Serves column)
include hserves

theorem bindBytes_int_eq (n : Int64) : (Value.int n).bindBytes column = bindInt width.size n.toInt := by
  cases hserves <;> rfl

/-- **An integer has a width just if it has as many bytes.** -/
theorem holds_iff_fits {x : Int} :
    width.holds x = true ↔ -Int.pow 256 width.size ≤ 2 * x ∧ 2 * x < Int.pow 256 width.size := by
  obtain ⟨hleast, hgreatest⟩ : 2 * width.least = -Int.pow 256 width.size ∧
      2 * (width.greatest + 1) = Int.pow 256 width.size := by
    cases hserves <;> exact ⟨rfl, rfl⟩
  rw [IntWidth.holds_iff]
  constructor <;> rintro ⟨hlow, hhigh⟩ <;> omega

/-- **An integer is bound at a column just if it is in range there**, by as many bytes as the column has. -/
theorem bindBytes_int_eq_ok_iff {n : Int64} {out : List UInt8} : (Value.int n).bindBytes column = .ok out ↔
    width.holds n.toInt = true ∧ signedWord width.size n.toInt = out := by
  rw [bindBytes_int_eq hserves, bindInt_eq_ok_iff, holds_iff_fits hserves]

end

/-! ### Binding -/

/-- **What a value becomes in a field is bound by the bytes of the value.** -/
theorem Coerces.exists_bindBytes (h : Coerces type v w) (hserves : type.Serves column) :
    ∃ out, v.bindBytes column = .ok out ∧ w.bindBytes column = .ok out := by
  cases h with
  | int hholds =>
    have hbind := (bindBytes_int_eq_ok_iff hserves).mpr ⟨hholds, rfl⟩
    exact ⟨_, hbind, hbind⟩
  | @uuidOfText s u hu =>
    cases hserves
    exact ⟨u.bytes, by rw [Value.bindBytes, hu]; rfl, rfl⟩
  | @decimalOfText s d hd =>
    cases hserves
    exact ⟨Numeric.encode d, by rw [Value.bindBytes, hd]; rfl, rfl⟩
  | _ => cases hserves; exact ⟨_, rfl, rfl⟩

theorem Exceeds.exists_bindBytes (h : Exceeds type v) (hserves : type.Serves column) :
    ∃ out, v.bindBytes column = .ok out := by
  cases h with
  | decimal hd => cases hserves; exact ⟨_, by rw [Value.bindBytes, hd]⟩
  | dateOfText hd => cases hserves; exact ⟨_, by rw [Value.bindBytes, hd]; rfl⟩
  | dateOfTimestamp t => cases hserves; exact ⟨_, rfl⟩
  | time ht => cases hserves; exact ⟨_, by rw [Value.bindBytes, ht]; rfl⟩

/-- **What is bound has a form in the field**, or it is one of the values that only binding takes. -/
theorem coerces_or_exceeds (hserves : type.Serves column) (hraw : ∀ c, v ≠ .raw c) {out : List UInt8}
    (h : v.bindBytes column = .ok out) : (∃ w, Coerces type v w) ∨ Exceeds type v := by
  cases v with
  | null => cases h
  | raw c => exact absurd rfl (hraw c)
  | bool b =>
    cases hserves with
    | bool => exact .inl ⟨_, .bool b⟩
    | _ => cases h
  | int n =>
    cases hserves with
    | int2 => exact .inl ⟨_, .int ((bindBytes_int_eq_ok_iff .int2).mp h).1⟩
    | int4 => exact .inl ⟨_, .int ((bindBytes_int_eq_ok_iff .int4).mp h).1⟩
    | int8 => exact .inl ⟨_, .int ((bindBytes_int_eq_ok_iff .int8).mp h).1⟩
    | float8 => exact .inl ⟨_, .floatOfInt n⟩
    | numeric => exact .inl ⟨_, .decimalOfInt n⟩
    | _ => cases h
  | float x =>
    cases hserves with
    | float8 => exact .inl ⟨_, .float x⟩
    | numeric =>
      rw [Value.bindBytes] at h
      split at h
      · next hd => exact .inr (.decimal hd)
      · cases h
    | _ => cases h
  | text s =>
    cases hserves with
    | text => exact .inl ⟨_, .text s⟩
    | uuid =>
      obtain ⟨u, hu, -⟩ := (mapError_map_eq_ok_iff _ _ _ _).mp h
      exact .inl ⟨_, .uuidOfText hu⟩
    | numeric =>
      obtain ⟨d, hd, -⟩ := (mapError_map_eq_ok_iff _ _ _ _).mp h
      exact .inl ⟨_, .decimalOfText hd⟩
    | date =>
      obtain ⟨d, hd, -⟩ := (mapError_map_eq_ok_iff _ _ _ _).mp h
      exact .inr (.dateOfText hd)
    | time =>
      obtain ⟨t, ht, -⟩ := (mapError_map_eq_ok_iff _ _ _ _).mp h
      exact .inr (.time ht)
    | _ => cases h
  | uuid u =>
    cases hserves with
    | text => exact .inl ⟨_, .textOfUuid u⟩
    | uuid => exact .inl ⟨_, .uuid u⟩
    | _ => cases h
  | timestamp t =>
    cases hserves with
    | timestamptz => exact .inl ⟨_, .timestamp t⟩
    | date => exact .inr (.dateOfTimestamp t)
    | _ => cases h
  | decimal d =>
    cases hserves with
    | numeric => exact .inl ⟨_, .decimal d⟩
    | _ => cases h
  | date d =>
    cases hserves with
    | date => exact .inl ⟨_, .date d⟩
    | _ => cases h
  | time t =>
    cases hserves with
    | time => exact .inl ⟨_, .time t⟩
    | _ => cases h
  | bytes bs =>
    cases hserves with
    | bytea => exact .inl ⟨_, .bytes bs⟩
    | _ => cases h
  | json j =>
    cases hserves with
    | jsonb => exact .inl ⟨_, .json j⟩
    | _ => cases h

/-! ### Coherence -/

/-- **A value other than null is bound by its bytes.** -/
theorem Value.bind_eq_ok_iff {cell : Option (List UInt8)} (h : v ≠ .null) :
    v.bind column = .ok cell ↔ ∃ out, v.bindBytes column = .ok out ∧ cell = some out := by
  rw [Value.bind, if_neg (by rwa [Value.isNull_iff]), map_eq_ok_iff]

theorem bind_of_bindBytes {out : List UInt8} (h : v.bindBytes column = .ok out) : v.bind column = .ok (some out) := by
  have hnull : v ≠ .null := by
    rintro rfl
    cases h
  exact (Value.bind_eq_ok_iff hnull).mpr ⟨out, h, rfl⟩

/-- **What is bound though it cannot be read** is one of the values that only binding takes. -/
theorem exists_bind_iff_exceeds (hserves : type.Serves column) (hnull : v ≠ .null) (hraw : ∀ c, v ≠ .raw c)
    {cause : Mismatch} (h : type.read v = .error cause) : (∃ out, v.bind column = .ok out) ↔ Exceeds type v := by
  constructor
  · rintro ⟨cell, hbind⟩
    obtain ⟨out, hout, -⟩ := (Value.bind_eq_ok_iff hnull).mp hbind
    rcases coerces_or_exceeds hserves hraw hout with ⟨w, hw⟩ | hexceeds
    · rw [hw.read_eq] at h
      cases h
    · exact hexceeds
  · intro hexceeds
    obtain ⟨out, hout⟩ := hexceeds.exists_bindBytes hserves
    exact ⟨some out, bind_of_bindBytes hout⟩

/-- **Reading into a field and binding at its column coerce a value alike.** -/
structure Coherent (type : FieldType) (column : SqlType) (v : Value) : Prop where
  /-- What can be read can be bound, and what is read from it is bound by the same bytes. -/
  bound : ∀ w, type.read v = .ok w → ∃ out, v.bind column = .ok (some out) ∧ w.bind column = .ok (some out)
  /-- What cannot be read cannot be bound, unless it is to be a decimal, a date or a time. -/
  unbound : type ≠ .decimal → type ≠ .date → type ≠ .time → ∀ cause, type.read v = .error cause →
    ∃ fault, v.bind column = .error fault
  /-- Of what cannot be read, just some values that only binding takes are bound. -/
  exceeds : ∀ cause, type.read v = .error cause → ((∃ out, v.bind column = .ok out) ↔ Exceeds type v)

/-- **Reading and binding coerce alike**, for every type of fields and the type of its columns. -/
theorem read_bind_coherent (hserves : type.Serves column) (hnull : v ≠ .null) (hraw : ∀ c, v ≠ .raw c) :
    Coherent type column v where
  bound w hread := by
    obtain ⟨out, hv, hw⟩ := ((read_eq_ok_iff_coerces hserves).mp hread).exists_bindBytes hserves
    exact ⟨out, bind_of_bindBytes hv, bind_of_bindBytes hw⟩
  unbound hdecimal hdate htime cause hread := by
    have hiff := exists_bind_iff_exceeds hserves hnull hraw hread
    rcases hbind : v.bind column with fault | out
    · exact ⟨fault, rfl⟩
    · cases hiff.mp ⟨out, hbind⟩ with
      | decimal => exact absurd rfl hdecimal
      | dateOfText | dateOfTimestamp => exact absurd rfl hdate
      | time => exact absurd rfl htime
  exceeds cause hread := exists_bind_iff_exceeds hserves hnull hraw hread

/-- The text of an identifier in capital letters and braces. -/
def bracedText : Value := .text "\x7b67E55044-10B1-426F-9247-BB680E5FE0C8\x7d"

theorem bracedText_coherent : FieldType.uuid.Serves .uuid ∧ bracedText ≠ .null ∧ (∀ c, bracedText ≠ .raw c) ∧
    FieldType.uuid.read bracedText = .ok (.uuid ⟨[0x67, 0xE5, 0x50, 0x44, 0x10, 0xB1, 0x42, 0x6F, 0x92, 0x47, 0xBB,
      0x68, 0x0E, 0x5F, 0xE0, 0xC8], rfl⟩) ∧ Coherent .uuid .uuid bracedText :=
  ⟨.uuid, nofun, nofun, rfl, read_bind_coherent .uuid nofun nofun⟩

end TableGateway
