import Mathlib.Algebra.Order.Ring.Int
import TableGateway.Proofs.Wire.Coercion
import TableGateway.Proofs.Wire.Numeric
import TableGateway.Proofs.Wire.Result

/-! # Integers cross the wire

An integer is bound in the bytes of its column, fetched from them and read into a field. Each of the three may find
it out of range, and none of them changes it: it is narrowed where it fits and refused where it does not. A decimal
column takes every integer, and gives back a decimal that is the same number, whatever its scale.

* `Decimal.Denotes` : a decimal is an integer
* `Wire.Fetched` : a row that was fetched with a cell
* `Wire.int_crosses` : an integer crosses the wire exactly or not at all -/

namespace TableGateway

open TableGateway.Number

/-! ### Decimals that are integers -/

namespace Number.Decimal

/-- **A decimal is an integer**, at whatever scale. -/
def Denotes (d : Decimal) (n : Int) : Prop := d.signed = n * 10 ^ d.scale

theorem signed_ofInt64 (n : Int64) : (ofInt64 n).signed = n.toInt := by
  have hsigned : (ofInt64 n).signed = if n.toInt < 0 then -(n.toInt.natAbs : Int) else n.toInt.natAbs := by
    simp [signed, ofInt64]
  rw [hsigned]
  split <;> omega

theorem denotes_ofInt64 (n : Int64) : (ofInt64 n).Denotes n.toInt := by
  have hscale : (ofInt64 n).scale = 0 := rfl
  rw [Denotes, signed_ofInt64, hscale, pow_zero, mul_one]

theorem denotes_of_same {n : Int64} {d : Decimal} (h : (ofInt64 n).same d = true) : d.Denotes n.toInt := by
  have hsame : (ofInt64 n).signed * 10 ^ d.scale = d.signed * 10 ^ 0 := beq_iff_eq.mp h
  rw [Denotes, ← signed_ofInt64, hsame, pow_zero, mul_one]

end Number.Decimal

namespace Wire

variable {type : SqlType} {column : String} {row : Row}

/-! ### Fetched rows -/

/-- **A row that was fetched with a cell** in the first column of a name. -/
def Fetched (row : Row) (column : String) (type : SqlType) (cell : Option (List UInt8)) : Prop :=
  ∃ columns cells before after, decodeRow columns cells = .ok row ∧
    columns.zip cells = before ++ ((column, type), cell) :: after ∧ ∀ c ∈ before, c.1.1 ≠ column

/-- A cell that has a value is fetched, if only as the whole of a row. -/
theorem exists_fetched {cell : Option (List UInt8)} {v : Value} (column : String)
    (hv : decodeCell? type cell = some v) : ∃ row, Fetched row column type cell := by
  refine ⟨⟨[(column, v)]⟩, [(column, type)], [cell], [], [], ?_, rfl, fun _ h => nomatch h⟩
  exact decodeRow_eq_ok_iff.mpr (.cons ⟨rfl, hv⟩ .nil)

theorem Fetched.holds {cell : Option (List UInt8)} {v : Value} (h : Fetched row column type cell)
    (hv : decodeCell? type cell = some v) : row.Holds column v := by
  obtain ⟨columns, cells, before, after, hrow, hzip, hbefore⟩ := h
  rw [decodeRow_eq_ok_iff, hzip] at hrow
  obtain ⟨before', rest, hcells, hbefore', hrest⟩ := exists_append_of_forall₂ hrow
  obtain ⟨x, after', ⟨hname, hx⟩, -, rfl⟩ := List.forall₂_cons_left_iff.mp hrest
  obtain rfl : v = x.2 := Option.some.inj (hv.symm.trans hx)
  obtain rfl : x.1 = column := hname
  refine ⟨before', after', hcells, fun cell hcell hcolumn => ?_⟩
  obtain ⟨c, hc, hcell, -⟩ := exists_mem_of_forall₂ hbefore'.flip cell hcell
  exact hbefore c hc (hcell ▸ hcolumn)

/-! ### Binding and fetching -/

variable {width : IntWidth} {n : Int64}

theorem bind_int_eq_ok_iff {cell : Option (List UInt8)} : (Value.int n).bind type = .ok cell ↔
    ∃ out, (Value.int n).bindBytes type = .ok out ∧ cell = some out := Value.bind_eq_ok_iff nofun

theorem intWidth?_of_serves (hserves : (FieldType.int width).Serves type) : type.intWidth? = some width.size := by
  cases hserves <;> rfl

/-- **An integer is bound just if it is in the range of the column.** -/
theorem exists_bind_int_iff (hserves : (FieldType.int width).Serves type) :
    (∃ cell, (Value.int n).bind type = .ok cell) ↔ width.least ≤ n.toInt ∧ n.toInt ≤ width.greatest := by
  simp only [bind_int_eq_ok_iff, bindBytes_int_eq_ok_iff hserves, IntWidth.holds_iff]
  exact ⟨fun ⟨_, _, ⟨h, _⟩, _⟩ => h, fun h => ⟨_, _, ⟨h, rfl⟩, rfl⟩⟩

/-- **An integer that was bound is fetched again.** -/
theorem decodes_int {out : List UInt8} (hserves : (FieldType.int width).Serves type)
    (h : (Value.int n).bindBytes type = .ok out) : Decodes type out (.int n) := by
  obtain ⟨hholds, rfl⟩ := (bindBytes_int_eq_ok_iff hserves).mp h
  obtain ⟨hlow, hhigh⟩ := (holds_iff_fits hserves).mp hholds
  have hdecodes : Decodes type (signedWord width.size n.toInt) _ :=
    .int (by rw [length_signedWord, intWidth?_of_serves hserves])
  rwa [ofSignedWord_signedWord hlow hhigh, Int64.ofInt_toInt] at hdecodes

/-- **An integer that was bound as a decimal is fetched as the same number.** -/
theorem exists_decodes_numeric (n : Int64) : ∃ out d, (Value.int n).bindBytes .numeric = .ok out ∧
    d.Denotes n.toInt ∧ Decodes .numeric out (.decimal d) := by
  obtain ⟨d, hd, hsame⟩ := Numeric.exists_decode?_encode (Decimal.ofInt64 n)
  exact ⟨_, d, rfl, Decimal.denotes_of_same hsame, .numeric hd⟩

/-! ### Reading -/

/-- **An integer is read from a column as it is** by every type that has it in its range, and refused by the others. -/
structure ReadsInt (row : Row) (column : String) (n : Int64) : Prop where
  inRange : ∀ width : IntWidth, width.least ≤ n.toInt ∧ n.toInt ≤ width.greatest →
    row.read column (.int width) = .ok (.int n)
  outOfRange : ∀ width : IntWidth, ¬ (width.least ≤ n.toInt ∧ n.toInt ≤ width.greatest) →
    row.read column (.int width) = .error (.decode column (.mismatch (.range n width)))
  decimal : ∃ d, d.Denotes n.toInt ∧ row.read column .decimal = .ok (.decimal d)

/-- **A decimal is read from a column as it is**, and by no type of integers. -/
structure ReadsDecimal (row : Row) (column : String) (d : Decimal) : Prop where
  decimal : row.read column .decimal = .ok (.decimal d)
  int : ∀ width : IntWidth, row.read column (.int width) = .error (.decode column (.mismatch (.kind "int" "numeric")))

theorem readsInt_of_holds (h : row.Holds column (.int n)) : ReadsInt row column n where
  inRange width hrange := by
    have hread : (FieldType.int width).read (.int n) = .ok (.int n) := if_pos (IntWidth.holds_iff.mpr hrange)
    rw [h.read_eq, hread]
    rfl
  outOfRange width hrange := by
    have hread : (FieldType.int width).read (.int n) = .error (.range n width) :=
      if_neg fun hholds => hrange (IntWidth.holds_iff.mp hholds)
    rw [h.read_eq, hread]
    rfl
  decimal := ⟨_, Decimal.denotes_ofInt64 n, h.read_eq⟩

theorem readsDecimal_of_holds {d : Decimal} (h : row.Holds column (.decimal d)) : ReadsDecimal row column d where
  decimal := h.read_eq
  int _ := h.read_eq

/-! ### Crossing -/

/-- **An integer crosses the wire exactly or not at all.** -/
structure Crosses (n : Int64) : Prop where
  /-- It is bound at a column of integers just if it is in range there. -/
  bind_iff : ∀ width type, (FieldType.int width).Serves type →
    ((∃ cell, (Value.int n).bind type = .ok cell) ↔ width.least ≤ n.toInt ∧ n.toInt ≤ width.greatest)
  /-- The widest column of integers takes all of them. -/
  bind_int8 : ∃ cell, (Value.int n).bind .int8 = .ok cell
  /-- A column of decimals takes all of them. -/
  bind_numeric : ∃ cell, (Value.int n).bind .numeric = .ok cell
  /-- What was bound is fetched as the same integer, and read as such. -/
  fetched : ∀ width type cell column, (FieldType.int width).Serves type → (Value.int n).bind type = .ok cell →
    decodeCell? type cell = some (.int n) ∧ (∃ row, Fetched row column type cell) ∧
      ∀ row, Fetched row column type cell → ReadsInt row column n
  /-- What was bound as a decimal is fetched as the same number, and read as a decimal only. -/
  fetched_numeric : ∀ cell column, (Value.int n).bind .numeric = .ok cell →
    ∃ d : Decimal, d.Denotes n.toInt ∧ decodeCell? .numeric cell = some (.decimal d) ∧
      (∃ row, Fetched row column .numeric cell) ∧
      ∀ row, Fetched row column .numeric cell → ReadsDecimal row column d

theorem int_crosses (n : Int64) : Crosses n where
  bind_iff width type hserves := exists_bind_int_iff hserves
  bind_int8 := (exists_bind_int_iff .int8).mpr ⟨n.le_toInt, Int.le_sub_one_of_lt n.toInt_lt⟩
  bind_numeric := ⟨_, rfl⟩
  fetched width type cell column hserves hbind := by
    obtain ⟨out, hout, rfl⟩ := bind_int_eq_ok_iff.mp hbind
    have hcell := decodeBytes?_of_decodes (decodes_int hserves hout)
    exact ⟨hcell, exists_fetched column hcell, fun row hrow => readsInt_of_holds (hrow.holds hcell)⟩
  fetched_numeric cell column hbind := by
    obtain ⟨out, hout, rfl⟩ := bind_int_eq_ok_iff.mp hbind
    obtain ⟨out', d, hout', hd, hdecodes⟩ := exists_decodes_numeric n
    obtain rfl := Except.ok.inj (hout'.symm.trans hout)
    have hcell := decodeBytes?_of_decodes hdecodes
    exact ⟨d, hd, hcell, exists_fetched column hcell, fun row hrow => readsDecimal_of_holds (hrow.holds hcell)⟩

end Wire

end TableGateway
