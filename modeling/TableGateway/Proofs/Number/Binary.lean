import Mathlib.Algebra.Order.Field.Power
import Mathlib.Data.Rat.Cast.Order
import Mathlib.Tactic.FieldSimp
import Mathlib.Tactic.Linarith
import Mathlib.Tactic.Positivity
import Mathlib.Tactic.Ring
import TableGateway.Number.Binary

/-! # Numbers that a format holds exactly

A finite word of a format stands for a significand times a power of two. Rounding a quotient to a format gives
the word back whenever the quotient is exactly such a number, and every number of 32 bits is one of 64 bits, so
that a number of 32 bits is unchanged by widening and narrowing again.

* `Format.round_eq` : a number of the format is not rounded
* `Binary64.narrow_widen` : a word of 32 bits is read back after widening, unless it is not a number
* `Binary64.isNaN_widen_narrow` : what is not a number stays so -/

namespace TableGateway.Number

/-! ### Quotients -/

theorem scaleDown_snd_pos {num den : Nat} (hden : 0 < den) (e : Int) : 0 < (scaleDown num den e).2 := by
  unfold scaleDown
  split
  · exact Nat.mul_pos hden (Nat.pow_pos (by decide))
  · exact hden

theorem scaleDown_eq (num den : Nat) (e : Int) :
    ((scaleDown num den e).1 : ℚ) / (scaleDown num den e).2 = num / den / 2 ^ e := by
  unfold scaleDown
  split
  · next h =>
    obtain ⟨n, rfl⟩ := Int.eq_ofNat_of_zero_le h
    simp [Nat.pow_eq, div_div]
  · next h =>
    obtain ⟨n, rfl⟩ := Int.exists_eq_neg_ofNat (Int.le_of_not_le h)
    simp [Nat.pow_eq, div_eq_mul_inv, mul_right_comm]

theorem roundQuotient_of_eq {num den m : Nat} (hden : 0 < den) (h : (num : ℚ) / den = m) :
    roundQuotient num den = m := by
  have hmul : num = m * den := by
    rw [div_eq_iff (by positivity)] at h
    exact_mod_cast h
  rw [roundQuotient_of_dvd (by rw [hmul, Nat.mul_mod_left]), hmul, Nat.mul_div_cancel _ hden]

/-- A quotient lies within a factor of four of what the lengths of its parts tell. -/
theorem pow_log2_sub_lt {num den : Nat} (hnum : num ≠ 0) (hden : den ≠ 0) :
    (2 : ℚ) ^ ((num.log2 : ℤ) - den.log2 - 1) ≤ num / den ∧
      (num / den : ℚ) < 2 ^ ((num.log2 : ℤ) - den.log2 + 1) := by
  have hnumLow : (2 : ℚ) ^ (num.log2 : ℤ) ≤ num := by exact_mod_cast Nat.log2_self_le hnum
  have hnumHigh : (num : ℚ) < 2 ^ ((num.log2 : ℤ) + 1) := by
    exact_mod_cast (Nat.lt_log2_self : num < 2 ^ (num.log2 + 1))
  have hdenLow : (2 : ℚ) ^ (den.log2 : ℤ) ≤ den := by exact_mod_cast Nat.log2_self_le hden
  have hdenHigh : (den : ℚ) < 2 ^ ((den.log2 : ℤ) + 1) := by
    exact_mod_cast (Nat.lt_log2_self : den < 2 ^ (den.log2 + 1))
  have hdenPos : (0 : ℚ) < den := by positivity
  constructor
  · rw [le_div_iff₀ hdenPos]
    calc (2 : ℚ) ^ ((num.log2 : ℤ) - den.log2 - 1) * den
        ≤ 2 ^ ((num.log2 : ℤ) - den.log2 - 1) * 2 ^ ((den.log2 : ℤ) + 1) := by gcongr
      _ = 2 ^ (num.log2 : ℤ) := by rw [← zpow_add₀ two_ne_zero]; congr 1; ring
      _ ≤ num := hnumLow
  · rw [div_lt_iff₀ hdenPos]
    calc (num : ℚ) < 2 ^ ((num.log2 : ℤ) + 1) := hnumHigh
      _ = 2 ^ ((num.log2 : ℤ) - den.log2 + 1) * 2 ^ (den.log2 : ℤ) := by
        rw [← zpow_add₀ two_ne_zero]; congr 1; ring
      _ ≤ 2 ^ ((num.log2 : ℤ) - den.log2 + 1) * den := by gcongr

namespace Format

variable {f : Format}

/-! ### Rounding -/

/-- **A significand and an exponent of a format**: the significand is in range, and it has no bit too few unless
the exponent is the least one. -/
structure Normal (f : Format) (m : Nat) (e : ℤ) : Prop where
  significand : m < 2 ^ f.precision
  exponent : f.minExponent ≤ e
  full : 2 ^ (f.precision - 1) ≤ m ∨ e = f.minExponent

/-- The word of a significand and an exponent. -/
def wordOf (f : Format) (m : Nat) (e : ℤ) : Nat := (e - f.minExponent).toNat * 2 ^ (f.precision - 1) + m

/-- The exponent at which the significand of a quotient has exactly the bits of the format. -/
def exponentOf (f : Format) (num den : Nat) : ℤ :=
  let low := (num.log2 : ℤ) - den.log2 - f.precision
  if (scaleDown num den low).2 * Nat.pow 2 f.precision ≤ (scaleDown num den low).1 then low + 1 else low

theorem exponentOf_spec (f : Format) {num den : Nat} (hnum : num ≠ 0) (hden : den ≠ 0) :
    (2 : ℚ) ^ (f.exponentOf num den + f.precision - 1) ≤ num / den ∧
      (num / den : ℚ) < 2 ^ (f.exponentOf num den + f.precision) := by
  obtain ⟨hleast, hgreatest⟩ := pow_log2_sub_lt hnum hden
  unfold exponentOf
  generalize hlow : (num.log2 : ℤ) - den.log2 - f.precision = low
  have hlog : (num.log2 : ℤ) - den.log2 = low + f.precision := by omega
  rw [hlog] at hleast hgreatest
  have hpos : 0 < (scaleDown num den low).2 := scaleDown_snd_pos (Nat.pos_of_ne_zero hden) low
  -- one bit more than the least one is in range if the scaled quotient has it
  have hbit : (scaleDown num den low).2 * Nat.pow 2 f.precision ≤ (scaleDown num den low).1 ↔
      (2 : ℚ) ^ (low + f.precision) ≤ num / den := by
    have hden' : (0 : ℚ) < (scaleDown num den low).2 := by exact_mod_cast hpos
    have hcast : (scaleDown num den low).2 * Nat.pow 2 f.precision ≤ (scaleDown num den low).1 ↔
        (2 : ℚ) ^ (f.precision : ℤ) * (scaleDown num den low).2 ≤ (scaleDown num den low).1 := by
      rw [Nat.pow_eq, mul_comm]
      exact_mod_cast Iff.rfl
    rw [hcast, ← le_div_iff₀ hden', scaleDown_eq, le_div_iff₀ (by positivity), ← zpow_add₀ two_ne_zero,
      add_comm]
  dsimp only
  split
  · next h =>
    refine ⟨?_, ?_⟩
    · rw [show low + 1 + (f.precision : ℤ) - 1 = low + f.precision by ring]
      exact hbit.mp h
    · rw [show low + 1 + (f.precision : ℤ) = low + f.precision + 1 by ring]
      exact hgreatest
  · next h => exact ⟨hleast, not_le.mp (hbit.not.mp h)⟩

theorem round_eq_wordOf (f : Format) {num den : Nat} (hnum : num ≠ 0) :
    f.round num den =
      let e := max f.minExponent (f.exponentOf num den)
      min f.infinity (f.wordOf (roundQuotient (scaleDown num den e).1 (scaleDown num den e).2) e) := by
  simp only [round, if_neg hnum]
  rfl

/-- **A number of the format is not rounded.** -/
theorem Normal.round_eq {m : Nat} {e : ℤ} (h : f.Normal m e) {num den : Nat} (hden : den ≠ 0)
    (hvalue : (num : ℚ) / den = m * 2 ^ e) : f.round num den = min f.infinity (f.wordOf m e) := by
  obtain ⟨hm, he, hfull⟩ := h
  by_cases hnum : num = 0
  · subst hnum
    have hzero : m = 0 := by
      rw [Nat.cast_zero, zero_div, eq_comm, mul_eq_zero] at hvalue
      exact_mod_cast hvalue.resolve_right (by positivity)
    subst hzero
    have hleast : e = f.minExponent := hfull.resolve_left (by simp)
    simp [round, wordOf, hleast]
  · obtain ⟨hlow, hhigh⟩ := f.exponentOf_spec hnum hden
    rw [hvalue] at hlow hhigh
    -- the exponent is not greater, since the significand has no bit too many,
    have hle : f.exponentOf num den ≤ e := by
      have hm' : (m : ℚ) < 2 ^ (f.precision : ℤ) := by exact_mod_cast hm
      have hlt : (2 : ℚ) ^ (f.exponentOf num den + f.precision - 1) < 2 ^ ((f.precision : ℤ) + e) := by
        calc _ ≤ (m : ℚ) * 2 ^ e := hlow
          _ < 2 ^ (f.precision : ℤ) * 2 ^ e := by gcongr
          _ = _ := by rw [← zpow_add₀ two_ne_zero]
      have := (zpow_lt_zpow_iff_right₀ one_lt_two).mp hlt
      omega
    -- and it is not smaller, since the significand has no bit too few
    have hmax : max f.minExponent (f.exponentOf num den) = e := by
      rcases hfull with hfull | rfl
      · have hm' : (2 : ℚ) ^ ((f.precision : ℤ) - 1) ≤ m := by
          have hprecision : 1 ≤ f.precision := by
            by_contra hzero
            rw [show f.precision = 0 by omega] at hm hfull
            omega
          rw [← Nat.cast_one, ← Nat.cast_sub hprecision, zpow_natCast]
          exact_mod_cast hfull
        have hlt : (2 : ℚ) ^ ((f.precision : ℤ) - 1 + e) < 2 ^ (f.exponentOf num den + f.precision) := by
          calc _ = (2 : ℚ) ^ ((f.precision : ℤ) - 1) * 2 ^ e := by rw [← zpow_add₀ two_ne_zero]
            _ ≤ (m : ℚ) * 2 ^ e := by gcongr
            _ < _ := hhigh
        have := (zpow_lt_zpow_iff_right₀ one_lt_two).mp hlt
        omega
      · exact max_eq_left hle
    rw [round_eq_wordOf f hnum]
    simp only [hmax]
    have hscaled : ((scaleDown num den e).1 : ℚ) / (scaleDown num den e).2 = m := by
      rw [scaleDown_eq, hvalue, mul_div_cancel_right₀ _ (by positivity)]
    rw [roundQuotient_of_eq (scaleDown_snd_pos (Nat.pos_of_ne_zero hden) e) hscaled]

/-! ### Words -/

theorem normal_split (hprecision : 1 ≤ f.precision) (word : Nat) :
    f.Normal (f.split word).1 (f.split word).2 ∧ f.wordOf (f.split word).1 (f.split word).2 = word := by
  have hunit : 0 < 2 ^ (f.precision - 1) := Nat.two_pow_pos _
  have hdouble : 2 ^ f.precision = 2 ^ (f.precision - 1) * 2 := by
    rw [← pow_succ, Nat.sub_add_cancel hprecision]
  have hdivmod := Nat.div_add_mod word (2 ^ (f.precision - 1))
  have hmod := Nat.mod_lt word hunit
  unfold split wordOf
  dsimp only
  rw [Nat.pow_eq]
  split
  · next h =>
    have hlt : word < 2 ^ (f.precision - 1) := (Nat.div_eq_zero_iff.mp h).resolve_left hunit.ne'
    exact ⟨⟨by omega, le_rfl, .inr rfl⟩, by simp⟩
  · next h =>
    obtain ⟨k, hk⟩ := Nat.exists_eq_succ_of_ne_zero h
    refine ⟨⟨by omega, by omega, .inl (by omega)⟩, ?_⟩
    rw [hk] at hdivmod ⊢
    have hexponent : (f.minExponent + ((k.succ : Nat) : ℤ) - 1 - f.minExponent).toNat = k := by omega
    rw [hexponent]
    rw [Nat.mul_succ, Nat.mul_comm] at hdivmod
    omega

theorem Normal.split_wordOf {m : Nat} {e : ℤ} (h : f.Normal m e) (hprecision : 1 ≤ f.precision) :
    f.split (f.wordOf m e) = (m, e) := by
  obtain ⟨hm, he, hfull⟩ := h
  have hunit : 0 < 2 ^ (f.precision - 1) := Nat.two_pow_pos _
  have hdouble : 2 ^ f.precision = 2 ^ (f.precision - 1) * 2 := by
    rw [← pow_succ, Nat.sub_add_cancel hprecision]
  unfold split wordOf
  dsimp only
  rw [Nat.pow_eq, Nat.mul_comm, Nat.mul_add_div hunit, Nat.mul_add_mod]
  by_cases hbit : 2 ^ (f.precision - 1) ≤ m
  · have hdiv : m / 2 ^ (f.precision - 1) = 1 := Nat.div_eq_of_lt_le (by omega) (by omega)
    have hmod : m % 2 ^ (f.precision - 1) = m - 2 ^ (f.precision - 1) := by
      rw [Nat.mod_eq_sub_mod hbit, Nat.mod_eq_of_lt (by omega)]
    rw [hdiv, hmod, if_neg (by omega), Prod.mk.injEq]
    omega
  · obtain rfl := hfull.resolve_left hbit
    have hlt : m < 2 ^ (f.precision - 1) := not_le.mp hbit
    simp [Nat.div_eq_of_lt hlt]

theorem quotient_eq (f : Format) (word : Nat) : ((f.quotient word).1 : ℚ) / (f.quotient word).2 =
    (f.split word).1 * 2 ^ (f.split word).2 := by
  unfold quotient
  dsimp only
  split
  · next h =>
    obtain ⟨n, hn⟩ := Int.eq_ofNat_of_zero_le h
    simp [Nat.pow_eq, hn]
  · next h =>
    obtain ⟨n, hn⟩ := Int.exists_eq_neg_ofNat (Int.le_of_not_le h)
    simp [Nat.pow_eq, hn, div_eq_mul_inv]

theorem quotient_snd_ne_zero (f : Format) (word : Nat) : (f.quotient word).2 ≠ 0 := by
  unfold quotient
  dsimp only
  split
  · exact one_ne_zero
  · exact (Nat.two_pow_pos _).ne'

/-- **A finite word is read back from its quotient**, and from any quotient that is equal. -/
theorem round_eq (hprecision : 1 ≤ f.precision) {word num den : Nat} (hword : word < f.infinity) (hden : den ≠ 0)
    (hvalue : (num : ℚ) / den = (f.split word).1 * 2 ^ (f.split word).2) : f.round num den = word := by
  obtain ⟨hnormal, hwordOf⟩ := f.normal_split hprecision word
  rw [hnormal.round_eq hden hvalue, hwordOf, min_eq_right hword.le]

/-- **Every finite number of 32 bits is one of 64 bits.** -/
theorem exists_double {word : Nat} (hword : word < single.infinity) : ∃ m e, double.Normal m e ∧
    ((single.split word).1 : ℚ) * 2 ^ (single.split word).2 = m * 2 ^ e ∧ double.wordOf m e < double.infinity := by
  obtain ⟨⟨hm, he, -⟩, hwordOf⟩ := single.normal_split (by decide) word
  generalize (single.split word).1 = m at *
  generalize (single.split word).2 = e at *
  simp only [single] at hm he
  have hgreatest : e ≤ 105 := by
    simp only [wordOf, single] at hwordOf hword
    omega
  by_cases hzero : m = 0
  · exact ⟨0, -1074, ⟨by decide, le_rfl, .inr rfl⟩, by simp [hzero], by decide⟩
  · have hlog : m.log2 < 24 := (Nat.log2_lt hzero).mpr hm
    have hlow : 2 ^ 52 ≤ m * 2 ^ (52 - m.log2) := by
      calc 2 ^ 52 = 2 ^ m.log2 * 2 ^ (52 - m.log2) := by rw [← pow_add]; congr 1; omega
        _ ≤ m * 2 ^ (52 - m.log2) := Nat.mul_le_mul_right _ (Nat.log2_self_le hzero)
    have hhigh : m * 2 ^ (52 - m.log2) < 2 ^ 53 := by
      calc m * 2 ^ (52 - m.log2) < 2 ^ (m.log2 + 1) * 2 ^ (52 - m.log2) :=
            Nat.mul_lt_mul_of_pos_right Nat.lt_log2_self (Nat.two_pow_pos _)
        _ = 2 ^ 53 := by rw [← pow_add]; congr 1; omega
    refine ⟨m * 2 ^ (52 - m.log2), e - (52 - m.log2 : Nat), ⟨hhigh, ?_, .inl hlow⟩, ?_, ?_⟩
    · simp only [double]
      omega
    · rw [Nat.cast_mul, Nat.cast_pow, Nat.cast_ofNat, zpow_sub₀ two_ne_zero, zpow_natCast]
      field_simp
    · simp only [wordOf, double]
      omega

end Format

/-! ### Words of 32 bits -/

namespace Binary64

theorem isNegative_ofParts (negative : Bool) {magnitude : Nat} (h : magnitude < 2 ^ 63) :
    (ofParts negative magnitude).isNegative = negative := by
  cases negative <;> simp [isNegative, ofParts] <;> omega

theorem magnitude_ofParts (negative : Bool) {magnitude : Nat} (h : magnitude < 2 ^ 63) :
    (ofParts negative magnitude).magnitude = magnitude := by
  cases negative <;> simp [Binary64.magnitude, ofParts] <;> omega

theorem quiet_payload {f : Format} {payload : Nat} (hprecision : 2 ≤ f.precision)
    (hpayload : payload < 2 ^ (f.precision - 1)) :
    0 < payload ||| quietBit f ∧ payload ||| quietBit f < 2 ^ (f.precision - 1) := by
  refine ⟨Nat.lt_of_lt_of_le (Nat.two_pow_pos _) Nat.right_le_or, Nat.or_lt_two_pow hpayload ?_⟩
  exact Nat.pow_lt_pow_right (by decide) (by omega)

theorem exists_widen_eq {w : UInt32} (h : w.toNat % 2 ^ 31 < Format.single.infinity) :
    ∃ m e, Format.double.Normal m e ∧ Format.double.wordOf m e < Format.double.infinity ∧
      widen w = ofParts (decide (2 ^ 31 ≤ w.toNat)) (Format.double.wordOf m e) ∧
      ((Format.single.split (w.toNat % 2 ^ 31)).1 : ℚ) * 2 ^ (Format.single.split (w.toNat % 2 ^ 31)).2 =
        m * 2 ^ e := by
  obtain ⟨m, e, hnormal, hvalue, hlt⟩ := Format.exists_double h
  refine ⟨m, e, hnormal, hlt, ?_, hvalue⟩
  have hround := hnormal.round_eq (Format.quotient_snd_ne_zero .single (w.toNat % 2 ^ 31))
    ((Format.quotient_eq .single _).trans hvalue)
  rw [min_eq_right hlt.le] at hround
  unfold widen ofQuotient
  simp only [Nat.pow_eq, if_neg (not_lt.mpr h.le), if_neg h.ne, hround]

theorem narrow_ofParts {negative : Bool} {magnitude word : Nat} (hmagnitude : magnitude < Format.double.infinity)
    (h : Format.single.round (Format.double.quotient magnitude).1 (Format.double.quotient magnitude).2 = word) :
    narrow (ofParts negative magnitude) = UInt32.ofNat (word + if negative then 2 ^ 31 else 0) := by
  have hlt : magnitude < 2 ^ 63 := lt_trans hmagnitude (by decide)
  have hnan : (ofParts negative magnitude).isNaN = false := by
    simp only [isNaN, magnitude_ofParts negative hlt, decide_eq_false_iff_not, not_lt]
    exact hmagnitude.le
  have hfinite : (ofParts negative magnitude).isFinite = true := by
    simpa only [isFinite, magnitude_ofParts negative hlt, decide_eq_true_eq] using hmagnitude
  unfold narrow
  simp only [hnan, hfinite, toQuotient, magnitude_ofParts negative hlt, isNegative_ofParts negative hlt, h]
  rfl

theorem ofNat_magnitude (w : UInt32) :
    UInt32.ofNat (w.toNat % 2 ^ 31 + if decide (2 ^ 31 ≤ w.toNat) then 2 ^ 31 else 0) = w := by
  have hlt := w.toNat_lt
  have hsum : (w.toNat % 2 ^ 31 + if decide (2 ^ 31 ≤ w.toNat) then 2 ^ 31 else 0) = w.toNat := by
    split <;> simp at * <;> omega
  rw [hsum, UInt32.ofNat_toNat]

/-- **A word of 32 bits is read back after widening**, unless it is not a number. -/
theorem narrow_widen {w : UInt32} (h : w.toNat % 2 ^ 31 ≤ Format.single.infinity) : narrow (widen w) = w := by
  rcases h.lt_or_eq with h | h
  · obtain ⟨m, e, hnormal, hlt, hwiden, hvalue⟩ := exists_widen_eq h
    have hround := Format.round_eq (by decide) h
      (Format.quotient_snd_ne_zero .double (Format.double.wordOf m e))
      (by rw [Format.quotient_eq, hnormal.split_wordOf (by decide), hvalue])
    rw [hwiden, narrow_ofParts hlt hround, ofNat_magnitude]
  · have hwiden : widen w = ofParts (decide (2 ^ 31 ≤ w.toNat)) Format.double.infinity := by
      unfold widen
      simp only [Nat.pow_eq, h, lt_irrefl, if_false, if_true]
    have hlt : Format.double.infinity < 2 ^ 63 := by decide
    have hnarrow : narrow (widen w) =
        UInt32.ofNat (Format.single.infinity + if decide (2 ^ 31 ≤ w.toNat) then 2 ^ 31 else 0) := by
      unfold narrow
      simp only [hwiden, isNaN, isFinite, magnitude_ofParts _ hlt, isNegative_ofParts _ hlt, lt_irrefl,
        decide_false, Bool.false_eq_true, if_false]
      rfl
    rw [hnarrow, ← h, ofNat_magnitude]

/-! ### What is not a number -/

theorem isNaN_widen {w : UInt32} (h : Format.single.infinity < w.toNat % 2 ^ 31) : (widen w).isNaN = true := by
  have hpayload : w.toNat % 2 ^ 31 % 2 ^ 23 * 2 ^ 29 < 2 ^ 52 := by omega
  obtain ⟨hpos, hlt⟩ := quiet_payload (f := .double) (by decide) hpayload
  unfold widen
  simp only [Nat.pow_eq, if_pos h]
  rw [isNaN, magnitude_ofParts _ (by simp only [Format.double] at hlt ⊢; omega)]
  simpa using hpos

theorem isNaN_widen_narrow {x : Binary64} (h : x.isNaN = true) : (widen x.narrow).isNaN = true := by
  have hpayload : x.magnitude % 2 ^ 52 / 2 ^ 29 < 2 ^ 23 := by omega
  obtain ⟨hpos, hlt⟩ := quiet_payload (f := .single) (by decide) hpayload
  refine isNaN_widen ?_
  unfold narrow
  simp only [h, if_true, Nat.pow_eq]
  generalize x.magnitude % 2 ^ 52 / 2 ^ 29 ||| quietBit .single = payload at *
  simp only [Format.single, UInt32.toNat_ofNat'] at hlt ⊢
  split <;> omega

theorem same_self {x : Binary64} (h : x.isNaN = false) : x.same x = true := by
  simp [same, h]

end Binary64

end TableGateway.Number
