import Mathlib.Tactic.SplitIfs
import TableGateway.Wire.Cell

/-! # Cells and their values

A cell that is not null has the value that its bytes mean at the type of its column. Types of one family mean
the same by their bytes; a decimal without a form here, and every cell of a type without a kind of values, is
kept as it is.

* `Wire.Decodes` : the value of a cell, type by type
* `Wire.decodeBytes?_eq_some_iff` : a cell is decoded to its value -/

namespace TableGateway

open TableGateway.Number TableGateway.Calendar

/-! ### Types -/

namespace SqlType

/-- The number of bytes of an integer. -/
def intWidth? : SqlType → Option Nat
  | int2 => some 2
  | int4 => some 4
  | int8 => some 8
  | _ => none

/-- The types of points in time. -/
def isTimestamp : SqlType → Bool
  | timestamp | timestamptz => true
  | _ => false

/-- Whether there is a kind of values for a type. -/
def hasKind : SqlType → Bool
  | other s => (other s).isTextual || (other s).isVersionedText
  | _ => true

end SqlType

namespace Wire

variable {type : SqlType} {bytes : List UInt8} {v : Value}

/-! ### The value of a cell -/

theorem decodeInt?_eq_some_iff {n : Nat} {x : Int} :
    decodeInt? n bytes = some x ↔ bytes.length = n ∧ ofSignedWord bytes = x := by
  unfold decodeInt?
  split <;> simp [*]

theorem decodeWord?_eq_some_iff {n x : Nat} :
    decodeWord? n bytes = some x ↔ bytes.length = n ∧ ofWord bytes = x := by
  unfold decodeWord?
  split <;> simp [*]

theorem decodeJson?_eq_some_iff :
    decodeJson? bytes = some v ↔ ∃ j, Json.parseBytes bytes = .ok j ∧ v = .json j := by
  unfold decodeJson?
  rcases Json.parseBytes bytes with fault | j <;> simp [eq_comm]

theorem ofUtf8?_eq_some_iff {s : String} : Text.ofUtf8? bytes = some s ↔ Text.utf8 s = bytes :=
  ⟨Text.utf8_of_ofUtf8?, fun h => h ▸ Text.ofUtf8?_utf8 s⟩

theorem dropVersion?_eq_some_iff {rest : List UInt8} : dropVersion? bytes = some rest ↔ bytes = 1 :: rest := by
  unfold dropVersion?
  split
  · simp
  · next h =>
    refine iff_of_false nofun (fun he => ?_)
    subst he
    exact h rest rfl

/-- **The value of a cell that is not null**, type by type. -/
inductive Decodes : SqlType → List UInt8 → Value → Prop
  | bool (b : UInt8) : Decodes .bool [b] (.bool (b != 0))
  | int {type : SqlType} {bytes : List UInt8} (h : type.intWidth? = some bytes.length) :
    Decodes type bytes (.int (Int64.ofInt (ofSignedWord bytes)))
  | float4 {bytes : List UInt8} (h : bytes.length = 4) :
    Decodes .float4 bytes (.float (Binary64.widen (UInt32.ofNat (ofWord bytes))))
  | float8 {bytes : List UInt8} (h : bytes.length = 8) :
    Decodes .float8 bytes (.float ⟨UInt64.ofNat (ofWord bytes)⟩)
  | numeric {bytes : List UInt8} {d : Decimal} (h : Numeric.decode? bytes = some d) :
    Decodes .numeric bytes (.decimal d)
  | uuid (u : Uuid) : Decodes .uuid u.bytes (.uuid u)
  | timestamp {type : SqlType} {bytes : List UInt8} {t : Timestamp} (htype : type.isTimestamp = true)
    (hwidth : bytes.length = 8) (h : Timestamp.ofMicros? (ofSignedWord bytes) = some t) :
    Decodes type bytes (.timestamp t)
  | date {bytes : List UInt8} {d : Date} (hwidth : bytes.length = 4)
    (h : Date.ofDay? (ofSignedWord bytes) = some d) : Decodes .date bytes (.date d)
  | time {bytes : List UInt8} (hwidth : bytes.length = 8) :
    Decodes .time bytes (.time (Time.ofMicros (ofSignedWord bytes)))
  | bytea (bytes : List UInt8) : Decodes .bytea bytes (.bytes bytes)
  | json {bytes : List UInt8} {j : Json} (h : Json.parseBytes bytes = .ok j) : Decodes .json bytes (.json j)
  | jsonb {bytes : List UInt8} {j : Json} (h : Json.parseBytes bytes = .ok j) :
    Decodes .jsonb (1 :: bytes) (.json j)
  | text {type : SqlType} (htype : type.isTextual = true) (s : String) : Decodes type (Text.utf8 s) (.text s)
  | versionedText {type : SqlType} (htype : type.isVersionedText = true) (s : String) :
    Decodes type (1 :: Text.utf8 s) (.text s)
  /-- A decimal without a form here is kept as it is. -/
  | rawNumeric {bytes : List UInt8} (h : Numeric.decode? bytes = none) :
    Decodes .numeric bytes (.raw ⟨.numeric, bytes⟩)
  /-- Everything of a type without a kind of values is kept as it is. -/
  | raw {type : SqlType} (htype : type.hasKind = false) (bytes : List UInt8) :
    Decodes type bytes (.raw ⟨type, bytes⟩)

/-! Types of one family are decoded alike. -/

theorem decodeBytes?_int {n : Nat} (h : type.intWidth? = some n) :
    decodeBytes? type bytes = decodeIntValue? n bytes := by
  cases type with
  | int2 | int4 | int8 => exact Option.some.inj h ▸ rfl
  | _ => cases h

theorem decodeBytes?_timestamp (h : type.isTimestamp = true) :
    decodeBytes? type bytes = ((decodeInt? 8 bytes).bind Timestamp.ofMicros?).map .timestamp := by
  cases type with
  | timestamp | timestamptz => rfl
  | _ => cases h

theorem decodeBytes?_other {name : String} : decodeBytes? (.other name) bytes =
    if (SqlType.other name).isTextual then (Text.ofUtf8? bytes).map .text
    else if (SqlType.other name).isVersionedText then ((dropVersion? bytes).bind Text.ofUtf8?).map .text
    else some (.raw ⟨.other name, bytes⟩) := rfl

theorem isTextual_eq_false (h : type.isVersionedText = true) : type.isTextual = false := by
  cases type with
  | other name =>
    obtain (rfl | rfl) | rfl : (name = "ltree" ∨ name = "lquery") ∨ name = "ltxtquery" := by
      simpa [SqlType.isVersionedText] using h
    all_goals rfl
  | _ => cases h

theorem decodeBytes?_text (h : type.isTextual = true) :
    decodeBytes? type bytes = (Text.ofUtf8? bytes).map .text := by
  cases type with
  | text | varchar | bpchar | name | unknown => rfl
  | other name => rw [decodeBytes?_other, if_pos h]
  | _ => cases h

theorem decodeBytes?_versionedText (h : type.isVersionedText = true) :
    decodeBytes? type bytes = ((dropVersion? bytes).bind Text.ofUtf8?).map .text := by
  have htext := isTextual_eq_false h
  cases type with
  | other name => rw [decodeBytes?_other, if_neg (by simp [htext]), if_pos h]
  | _ => cases h

theorem decodeBytes?_raw (h : type.hasKind = false) : decodeBytes? type bytes = some (.raw ⟨type, bytes⟩) := by
  cases type with
  | other name =>
    obtain ⟨htext, hversioned⟩ := Bool.or_eq_false_iff.mp h
    rw [decodeBytes?_other, if_neg (by simp [htext]), if_neg (by simp [hversioned])]
  | _ => cases h

theorem decodes_of_decodeBytes? (h : decodeBytes? type bytes = some v) : Decodes type bytes v := by
  cases type with
  | bool =>
    match bytes, h with
    | [b], h =>
      rw [← Option.some.inj h]
      exact .bool b
  | int2 | int4 | int8 =>
    obtain ⟨x, hx, rfl⟩ := Option.map_eq_some_iff.mp h
    obtain ⟨hwidth, rfl⟩ := decodeInt?_eq_some_iff.mp hx
    exact .int (congrArg some hwidth.symm)
  | float4 =>
    obtain ⟨x, hx, rfl⟩ := Option.map_eq_some_iff.mp h
    obtain ⟨hwidth, rfl⟩ := decodeWord?_eq_some_iff.mp hx
    exact .float4 hwidth
  | float8 =>
    obtain ⟨x, hx, rfl⟩ := Option.map_eq_some_iff.mp h
    obtain ⟨hwidth, rfl⟩ := decodeWord?_eq_some_iff.mp hx
    exact .float8 hwidth
  | numeric =>
    rcases hd : Numeric.decode? bytes with _ | d <;> simp only [decodeBytes?, hd, Option.some.injEq] at h
    · exact h ▸ .rawNumeric hd
    · exact h ▸ .numeric hd
  | uuid =>
    obtain ⟨u, hu, rfl⟩ := Option.map_eq_some_iff.mp h
    unfold Uuid.ofBytes? at hu
    split at hu
    · next hlength =>
      rw [← Option.some.inj hu]
      exact .uuid ⟨bytes, hlength⟩
    · cases hu
  | timestamp | timestamptz =>
    obtain ⟨t, ht, rfl⟩ := Option.map_eq_some_iff.mp h
    obtain ⟨x, hx, ht⟩ := Option.bind_eq_some_iff.mp ht
    obtain ⟨hwidth, rfl⟩ := decodeInt?_eq_some_iff.mp hx
    exact .timestamp rfl hwidth ht
  | date =>
    obtain ⟨d, hd, rfl⟩ := Option.map_eq_some_iff.mp h
    obtain ⟨x, hx, hd⟩ := Option.bind_eq_some_iff.mp hd
    obtain ⟨hwidth, rfl⟩ := decodeInt?_eq_some_iff.mp hx
    exact .date hwidth hd
  | time =>
    obtain ⟨x, hx, rfl⟩ := Option.map_eq_some_iff.mp h
    obtain ⟨hwidth, rfl⟩ := decodeInt?_eq_some_iff.mp hx
    exact .time hwidth
  | bytea => exact Option.some.inj h ▸ .bytea bytes
  | json =>
    obtain ⟨j, hj, rfl⟩ := decodeJson?_eq_some_iff.mp h
    exact .json hj
  | jsonb =>
    obtain ⟨rest, hrest, h⟩ := Option.bind_eq_some_iff.mp h
    obtain rfl := dropVersion?_eq_some_iff.mp hrest
    obtain ⟨j, hj, rfl⟩ := decodeJson?_eq_some_iff.mp h
    exact .jsonb hj
  | text | varchar | bpchar | name | unknown =>
    obtain ⟨s, hs, rfl⟩ := Option.map_eq_some_iff.mp h
    exact ofUtf8?_eq_some_iff.mp hs ▸ .text rfl s
  | other name =>
    rw [decodeBytes?_other] at h
    split_ifs at h with htext hversioned
    · obtain ⟨s, hs, rfl⟩ := Option.map_eq_some_iff.mp h
      exact ofUtf8?_eq_some_iff.mp hs ▸ .text htext s
    · obtain ⟨s, hs, rfl⟩ := Option.map_eq_some_iff.mp h
      obtain ⟨rest, hrest, hs⟩ := Option.bind_eq_some_iff.mp hs
      obtain rfl := dropVersion?_eq_some_iff.mp hrest
      exact ofUtf8?_eq_some_iff.mp hs ▸ .versionedText hversioned s
    · refine Option.some.inj h ▸ .raw ?_ bytes
      simp [SqlType.hasKind, htext, hversioned]

theorem decodeBytes?_of_decodes (h : Decodes type bytes v) : decodeBytes? type bytes = some v := by
  cases h with
  | bool b => rfl
  | int hwidth => rw [decodeBytes?_int hwidth, decodeIntValue?, decodeInt?, if_pos rfl, Option.map_some]
  | float4 hwidth => simp [decodeBytes?, decodeWord?, hwidth]
  | float8 hwidth => simp [decodeBytes?, decodeWord?, hwidth]
  | numeric hd => simp [decodeBytes?, hd]
  | uuid u => simp [decodeBytes?, Uuid.ofBytes?, u.length_eq]
  | timestamp htype hwidth ht => simp [decodeBytes?_timestamp htype, decodeInt?, hwidth, ht]
  | date hwidth hd => simp [decodeBytes?, decodeInt?, hwidth, hd]
  | time hwidth => simp [decodeBytes?, decodeInt?, hwidth]
  | bytea bytes => rfl
  | json hj => simp [decodeBytes?, decodeJson?, hj]
  | jsonb hj => simp [decodeBytes?, dropVersion?, decodeJson?, hj]
  | text htype s => rw [decodeBytes?_text htype, Text.ofUtf8?_utf8, Option.map_some]
  | versionedText htype s => simp [decodeBytes?_versionedText htype, dropVersion?, Text.ofUtf8?_utf8]
  | rawNumeric hd => simp [decodeBytes?, hd]
  | raw htype bytes => exact decodeBytes?_raw htype

/-- **The value of a cell is what its bytes mean at its type.** -/
theorem decodeBytes?_eq_some_iff : decodeBytes? type bytes = some v ↔ Decodes type bytes v :=
  ⟨decodes_of_decodeBytes?, decodeBytes?_of_decodes⟩

end Wire

end TableGateway
