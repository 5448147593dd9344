import TableGateway.Proofs.Json.Document
import TableGateway.Proofs.Wire.Cell
import TableGateway.Proofs.Wire.Numeric
import TableGateway.Wire.Bind

/-! # Cells that are sent back

The value of a cell can be bound at the type of its column. What is sent is null for null and the bytes as they
were for a raw cell. Anything else may be sent by other bytes than it came by: a truth value by another byte, a
time without whole days, a decimal or a document in its normal form. They mean the same value at that type.

* `Value.Alike` : equality of values up to numbers that are undefined
* `Rebinds` : a value can be bound, and the bytes mean the same value
* `FloatsReadBack` : what is assumed of the documents in a cell
* `exists_rebound` : the value of every cell can be sent back -/

namespace TableGateway

open TableGateway.Number TableGateway.Calendar

/-- **Values that stand for the same**, where an undefined number stands for any other. -/
inductive Value.Alike : Value → Value → Prop
  | same {v w : Value} (h : v.same w = true) : Alike v w
  | undefined {x y : Binary64} (hx : x.isNaN = true) (hy : y.isNaN = true) : Alike (.float x) (.float y)

namespace Wire

variable {type : SqlType} {bytes : List UInt8} {v : Value}

theorem alike_float (x : Binary64) : Value.Alike (.float x) (.float x) := by
  rcases hx : x.isNaN with _ | _
  · exact .same (Binary64.same_self hx)
  · exact .undefined hx hx

theorem alike_self (v : Value) (h : ∀ j, v = .json j → j.same j = true) : v.Alike v := by
  cases v with
  | float x => exact alike_float x
  | json j => exact .same (h j rfl)
  | decimal d => exact .same d.same_self
  | null => exact .same rfl
  | _ => exact .same (beq_self_eq_true _)

/-! ### Bytes that are written back -/

/-- **A value can be bound at a type**, and the bytes that are sent mean the same value there. -/
def Rebinds (type : SqlType) (v : Value) (out : List UInt8) : Prop :=
  v.bindBytes type = .ok out ∧ ∃ w, Decodes type out w ∧ v.Alike w

/-- Most values are sent by the bytes that they came by. -/
theorem Decodes.rebinds (h : Decodes type bytes v) (hbind : v.bindBytes type = .ok bytes)
    (hjson : ∀ j, v ≠ .json j) : Rebinds type v bytes :=
  ⟨hbind, v, h, alike_self v fun j hj => absurd hj (hjson j)⟩

theorem ofSignedWord_bounds (bytes : List UInt8) :
    -Int.pow 256 bytes.length ≤ 2 * ofSignedWord bytes ∧ 2 * ofSignedWord bytes < Int.pow 256 bytes.length := by
  have hpos : 0 < Nat.pow 256 bytes.length := Nat.pow_pos (by decide)
  have hcast : ((Nat.pow 256 bytes.length : Nat) : Int) = Int.pow 256 bytes.length := Int.natCast_pow 256 _
  have hlow := Int.le_bmod (x := ofWord bytes) hpos
  have hhigh := Int.bmod_lt (x := ofWord bytes) hpos
  rw [← hcast]
  unfold ofSignedWord
  omega

theorem bindInt_ofSignedWord (bytes : List UInt8) : bindInt bytes.length (ofSignedWord bytes) = .ok bytes := by
  obtain ⟨hlow, hhigh⟩ := ofSignedWord_bounds bytes
  rw [bindInt, if_neg (Int.not_le.mpr hhigh), if_neg (Int.not_lt.mpr hlow), signedWord_ofSignedWord]

theorem signedWord_of_length {n : Nat} (h : bytes.length = n) : signedWord n (ofSignedWord bytes) = bytes := by
  rw [← h, signedWord_ofSignedWord]

/-! ### Truth values and numbers -/

theorem rebinds_bool (b : Bool) : Rebinds .bool (.bool b) [if b then 1 else 0] := by
  refine ⟨rfl, _, .bool _, .same ?_⟩
  cases b <;> rfl

theorem toInt_ofSignedWord (h : bytes.length ≤ 8) :
    (Int64.ofInt (ofSignedWord bytes)).toInt = ofSignedWord bytes := by
  obtain ⟨hlow, hhigh⟩ := ofSignedWord_bounds bytes
  have hpow : Int.pow 256 bytes.length ≤ 2 ^ 64 := pow_le_pow_right₀ (by decide : (1 : Int) ≤ 256) h
  exact Int64.toInt_ofInt_of_le (by omega) (by omega)

theorem bindBytes_int (h : type.intWidth? = some bytes.length) :
    (Value.int (Int64.ofInt (ofSignedWord bytes))).bindBytes type = .ok bytes := by
  have hbind := bindInt_ofSignedWord bytes
  cases type with
  | int2 | int4 | int8 =>
    have hwidth := Option.some.inj h
    rw [← hwidth] at hbind
    rw [Value.bindBytes, toInt_ofSignedWord (by omega), hbind]
  | _ => cases h

theorem ofNat_ofWord_word (w : UInt32) : UInt32.ofNat (ofWord (word 4 w.toNat)) = w := by
  rw [ofWord_word w.toNat_lt, UInt32.ofNat_toNat]

/-- **A number of 32 bits is narrowed to the one that was widened**, unless it is undefined. -/
theorem rebinds_float4 (w : UInt32) :
    Rebinds .float4 (.float (Binary64.widen w)) (word 4 (Binary64.widen w).narrow.toNat) := by
  refine ⟨rfl, _, .float4 (length_word 4 _), ?_⟩
  rw [ofNat_ofWord_word]
  by_cases hw : w.toNat % 2 ^ 31 ≤ Format.single.infinity
  · rw [Binary64.narrow_widen hw]
    exact alike_float _
  · have hnan := Binary64.isNaN_widen (Nat.lt_of_not_le hw)
    exact .undefined hnan (Binary64.isNaN_widen_narrow hnan)

theorem bindFloat_ofWord (h : bytes.length = 8) : bindFloat ⟨UInt64.ofNat (ofWord bytes)⟩ = bytes := by
  have hlt : ofWord bytes < 2 ^ 64 := by
    have hlt := ofWord_lt bytes
    rw [h] at hlt
    exact hlt
  rw [bindFloat, UInt64.toNat_ofNat', Nat.mod_eq_of_lt hlt, ← h, word_ofWord]

/-! ### Points in time -/

theorem micros_ofMicros_emod (micros : Int) : ((Time.ofMicros micros).micros : Int) = micros % 86400000000 := by
  unfold Time.ofMicros Time.micros
  simp only
  omega

theorem ofMicros_emod (micros : Int) : Time.ofMicros (micros % 86400000000) = Time.ofMicros micros := by
  simp only [Time.ofMicros, Int.emod_emod]

/-- A time is sent without the whole days that it came with. -/
theorem rebinds_time (micros : Int) :
    Rebinds .time (.time (Time.ofMicros micros)) (bindTime (Time.ofMicros micros)) := by
  refine ⟨rfl, _, .time (length_signedWord 8 _), ?_⟩
  have hpow : Int.pow 256 8 = 18446744073709551616 := rfl
  rw [bindTime, ofSignedWord_signedWord, micros_ofMicros_emod, ofMicros_emod]
  · exact alike_self _ nofun
  · omega
  · rw [micros_ofMicros_emod]
    omega

theorem bindBytes_timestamp {t : Timestamp} (htype : type.isTimestamp = true) (hwidth : bytes.length = 8)
    (h : Timestamp.ofMicros? (ofSignedWord bytes) = some t) : (Value.timestamp t).bindBytes type = .ok bytes := by
  have hbytes : bindTimestamp t = bytes := by
    rw [bindTimestamp, Timestamp.micros_of_ofMicros? h, signedWord_of_length hwidth]
  cases type with
  | timestamp | timestamptz => exact congrArg Except.ok hbytes
  | _ => cases htype

/-! ### Texts -/

theorem bindBytes_text {s : String} (h : type.isTextual = true) :
    (Value.text s).bindBytes type = .ok (Text.utf8 s) := by
  cases type with
  | text | varchar | bpchar | name | unknown => rfl
  | other name => rw [Value.bindBytes, bindText, if_pos h] <;> nofun
  | _ => cases h

theorem bindBytes_versionedText {s : String} (h : type.isVersionedText = true) :
    (Value.text s).bindBytes type = .ok (1 :: Text.utf8 s) := by
  have htext := isTextual_eq_false h
  cases type with
  | other name => rw [Value.bindBytes, bindText, if_neg (by simp [htext]), if_pos h] <;> nofun
  | _ => cases h

theorem bindBytes_raw (type : SqlType) (bytes : List UInt8) :
    (Value.raw ⟨type, bytes⟩).bindBytes type = .ok bytes := by
  rw [Value.bindBytes, if_pos rfl]

/-! ### Cells -/

/-- **The floating-point numbers of a document are read back.** No other value needs an assumption: all other forms
are read back as they were written. -/
def FloatsReadBack (v : Value) : Prop := ∀ j, v = .json j → ∀ x, j.HasFloat x → x.ReadsBack

theorem alike_json {j : Json} (h : FloatsReadBack (.json j)) : Value.Alike (.json j) (.json j) :=
  .same (Json.same_self j fun x hx => Json.isNaN_eq_false_of_readsBack (h j rfl x hx))

/-- **What a cell means can be sent back.** -/
theorem Decodes.exists_rebinds (h : Decodes type bytes v) (hfloats : FloatsReadBack v) :
    ∃ out, Rebinds type v out ∧ ∀ c, v = .raw c → out = bytes := by
  cases h with
  | bool b => exact ⟨_, rebinds_bool _, nofun⟩
  | int hwidth => exact ⟨bytes, Decodes.rebinds (.int hwidth) (bindBytes_int hwidth) nofun, nofun⟩
  | float4 hwidth => exact ⟨_, rebinds_float4 _, nofun⟩
  | float8 hwidth =>
    exact ⟨bytes, Decodes.rebinds (.float8 hwidth) (congrArg Except.ok (bindFloat_ofWord hwidth)) nofun, nofun⟩
  | numeric hd =>
    obtain ⟨e, he, hsame⟩ := Numeric.exists_decode?_encode _
    exact ⟨_, ⟨rfl, _, .numeric he, .same hsame⟩, nofun⟩
  | uuid u => exact ⟨_, Decodes.rebinds (.uuid u) rfl nofun, nofun⟩
  | timestamp htype hwidth ht =>
    exact ⟨bytes, Decodes.rebinds (.timestamp htype hwidth ht) (bindBytes_timestamp htype hwidth ht) nofun, nofun⟩
  | @date _ d hwidth hd =>
    have hbytes : bindDate d = bytes := by rw [bindDate, Date.day_of_ofDay? hd, signedWord_of_length hwidth]
    exact ⟨bytes, Decodes.rebinds (.date hwidth hd) (congrArg Except.ok hbytes) nofun, nofun⟩
  | time hwidth => exact ⟨_, rebinds_time _, nofun⟩
  | bytea => exact ⟨bytes, Decodes.rebinds (.bytea bytes) rfl nofun, nofun⟩
  | json hj =>
    have hback := (Json.regular_of_parseBytes hj).parseBytes_text (hfloats _ rfl)
    exact ⟨_, ⟨rfl, _, .json hback, alike_json hfloats⟩, nofun⟩
  | jsonb hj =>
    have hback := (Json.regular_of_parseBytes hj).parseBytes_text (hfloats _ rfl)
    exact ⟨_, ⟨rfl, _, .jsonb hback, alike_json hfloats⟩, nofun⟩
  | text htype s => exact ⟨_, Decodes.rebinds (.text htype s) (bindBytes_text htype) nofun, nofun⟩
  | versionedText htype s =>
    exact ⟨_, Decodes.rebinds (.versionedText htype s) (bindBytes_versionedText htype) nofun, nofun⟩
  | rawNumeric hd => exact ⟨bytes, Decodes.rebinds (.rawNumeric hd) (bindBytes_raw _ _) nofun, fun _ _ => rfl⟩
  | raw htype => exact ⟨bytes, Decodes.rebinds (.raw htype bytes) (bindBytes_raw _ _) nofun, fun _ _ => rfl⟩

/-- **What binding the value of a cell comes to**: null for null and the bytes as they were for a raw value, and in
any case a cell with the same value. -/
structure Rebound (type : SqlType) (cell : Option (List UInt8)) (v : Value) (out : Option (List UInt8)) : Prop where
  eq_none_iff : out = none ↔ v = .null
  decoded : ∃ w, decodeCell? type out = some w ∧ v.Alike w
  raw : ∀ c, v = .raw c → out = cell

/-- **The value of a cell can be bound at the type of its column, and that gives the value back.** -/
theorem exists_rebound {cell : Option (List UInt8)} (h : decodeCell? type cell = some v) (hfloats : FloatsReadBack v) :
    ∃ out, v.bind type = .ok out ∧ Rebound type cell v out := by
  cases cell with
  | none =>
    obtain rfl : Value.null = v := Option.some.inj h
    exact ⟨none, rfl, iff_of_true rfl rfl, ⟨.null, rfl, .same rfl⟩, nofun⟩
  | some bytes =>
    obtain ⟨out, ⟨hbind, w, hw, halike⟩, hraw⟩ := (decodeBytes?_eq_some_iff.mp h).exists_rebinds hfloats
    have hnull : v ≠ .null := by
      rintro rfl
      cases hbind
    refine ⟨some out, ?_, iff_of_false nofun hnull, ⟨w, decodeBytes?_eq_some_iff.mpr hw, halike⟩,
      fun c hc => ?_⟩
    · rw [Value.bind, if_neg (by rwa [Value.isNull_iff]), hbind]
      rfl
    · rw [hraw c hc]

/-! A list with one and a half in it is such a cell. -/

def oneAndHalf : Binary64 := ⟨0x3FF8000000000000⟩

theorem printFloat_oneAndHalf : Json.printFloat oneAndHalf = ['1', '.', '5'] := by decide +kernel

theorem readsBack_oneAndHalf : oneAndHalf.ReadsBack := by
  have hscaled : Json.scaled? 15 (-1) = some oneAndHalf := by decide +kernel
  exact Json.parse_text_float (by rw [printFloat_oneAndHalf]; rfl) rfl rfl hscaled

theorem floatsReadBack_list : FloatsReadBack (.json (.array [.float oneAndHalf])) := by
  intro j hj x hx
  cases hj
  cases hx with
  | item hj hx =>
    obtain rfl := List.mem_singleton.mp hj
    cases hx
    exact readsBack_oneAndHalf

theorem decodeCell?_list :
    decodeCell? .json (some [91, 49, 46, 53, 93]) = some (.json (.array [.float oneAndHalf])) := by
  have hregular : Json.Regular 127 (.array [.float oneAndHalf]) := .array fun j hj => by
    obtain rfl := List.mem_singleton.mp hj
    exact .number _ (.inl ⟨_, rfl⟩)
  have hparse := hregular.parseBytes_text (floatsReadBack_list _ rfl)
  have hbytes : Text.utf8 (String.ofList ['[', '1', '.', '5', ']']) = [91, 49, 46, 53, 93] := rfl
  rw [Json.text, Json.print, Json.print, Json.printItems, printFloat_oneAndHalf] at hparse
  exact decodeBytes?_eq_some_iff.mpr (.json (hbytes ▸ hparse))

theorem list_rebound : decodeCell? .json (some [91, 49, 46, 53, 93]) = some (.json (.array [.float oneAndHalf])) ∧
    FloatsReadBack (.json (.array [.float oneAndHalf])) ∧
    ∃ out, (Value.json (.array [.float oneAndHalf])).bind .json = .ok out ∧
      Rebound .json (some [91, 49, 46, 53, 93]) (.json (.array [.float oneAndHalf])) out :=
  ⟨decodeCell?_list, floatsReadBack_list, exists_rebound decodeCell?_list floatsReadBack_list⟩

end Wire

end TableGateway
