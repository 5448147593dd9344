import Mathlib.Algebra.Order.Ring.Int
import Mathlib.Data.List.Basic
import Mathlib.Data.List.TakeWhile
import TableGateway.Proofs.Json.Text

/-! # Numbers in documents, printed and read

A number in a document ends where a comma or a closing bracket or brace follows, or with the document. Up to
there it is read in the same way whatever follows.

* `Ends` : what may follow a number, or any other part of a document
* `readNumber_append` : a number is read alike before anything that may follow it
* `readNumber_toDigits` : a natural number is read back from its digits
* `isNumber_of_readNumber` : what is read is an integer of 64 bits or a floating-point number -/

namespace TableGateway

open TableGateway.Number

namespace Json

/-! ### Ends -/

/-- **What may follow a part of a document**: nothing, a comma, or a closing bracket or brace. -/
def Ends (rest : List UInt8) : Prop := ∀ b, rest.head? = some b → b = 44 ∨ b = 93 ∨ b = 125

variable {rest : List UInt8} {negative : Bool} {digits : Nat} {j : Json} {left : List UInt8}

theorem Ends.cases (h : Ends rest) :
    rest = [] ∨ ∃ b after, rest = b :: after ∧ (b = 44 ∨ b = 93 ∨ b = 125) := by
  cases rest with
  | nil => exact .inl rfl
  | cons b after => exact .inr ⟨b, after, rfl, h b rfl⟩

theorem Ends.skipBlank_eq (h : Ends rest) : skipBlank rest = rest := by
  obtain rfl | ⟨b, after, rfl, rfl | rfl | rfl⟩ := h.cases <;> rfl

theorem Ends.atExponent_append (h : Ends rest) (bytes : List UInt8) :
    atExponent (bytes ++ rest) = atExponent bytes := by
  cases bytes with
  | nil => obtain rfl | ⟨b, after, rfl, rfl | rfl | rfl⟩ := h.cases <;> rfl
  | cons b bytes => rfl

theorem Ends.takeWhile_append (h : Ends rest) (bytes : List UInt8) :
    (bytes ++ rest).takeWhile isDigit = bytes.takeWhile isDigit ∧
      (bytes ++ rest).dropWhile isDigit = bytes.dropWhile isDigit ++ rest := by
  induction bytes with
  | nil => obtain rfl | ⟨b, after, rfl, rfl | rfl | rfl⟩ := h.cases <;> exact ⟨rfl, rfl⟩
  | cons b bytes ih =>
    by_cases hb : isDigit b = true
    · simp [hb, ih.1, ih.2]
    · simp [hb]

theorem Ends.readPower_append (h : Ends rest) : ∀ (bytes : List UInt8) (power : Nat),
    readPower power (bytes ++ rest) = ((readPower power bytes).1, (readPower power bytes).2 ++ rest)
  | [], power => by obtain rfl | ⟨b, after, rfl, rfl | rfl | rfl⟩ := h.cases <;> rfl
  | d :: bytes, power => by
    rw [List.cons_append, readPower, readPower]
    split_ifs
    · exact h.readPower_append bytes _
    · rfl
    · rfl

/-! ### Numbers that something follows -/

theorem makeFloat_append {exponent : Int} {bytes : List UInt8}
    (h : makeFloat negative digits exponent bytes = .ok (j, left)) :
    makeFloat negative digits exponent (bytes ++ rest) = .ok (j, left ++ rest) := by
  unfold makeFloat at h ⊢
  cases hscaled : scaled? digits exponent with
  | none => rw [hscaled] at h; cases h
  | some x => rw [hscaled] at h; cases h; rfl

/-- The digits of an exponent, after its sign. -/
def readUnsigned (negative : Bool) (digits : Nat) (start : Int) (down : Bool) :
    List UInt8 → Except Stop (Json × List UInt8)
  | [] => .error ⟨.eofInValue, 0⟩
  | d :: rest =>
    if isDigit d then
      match readPower (digitOf d) rest with
      | (some power, rest) =>
        makeFloat negative digits (if down then start - power else start + power) rest
      | (none, rest) =>
        if digits ≠ 0 ∧ ¬ down then .error ⟨.numberOutOfRange, rest.length⟩
        else makeFloat negative 0 0 (rest.dropWhile isDigit)
    else .error ⟨.invalidNumber, rest.length⟩

theorem readExponent_cons (negative : Bool) (digits : Nat) (start : Int) (b : UInt8) (bytes : List UInt8) :
    readExponent negative digits start (b :: bytes) =
      if b = 43 then readUnsigned negative digits start false bytes
      else if b = 45 then readUnsigned negative digits start true bytes
      else readUnsigned negative digits start false (b :: bytes) := by
  split_ifs with hplus hminus
  · subst hplus
    cases bytes <;> rfl
  · subst hminus
    cases bytes <;> rfl
  · unfold readExponent
    split
    next hsign =>
      split at hsign
      · next h => exact absurd (List.cons.inj h).1 hplus
      · next h => exact absurd (List.cons.inj h).1 hminus
      · obtain ⟨rfl, rfl⟩ := Prod.mk.inj hsign
        rfl

theorem readUnsigned_append (hrest : Ends rest) {start : Int} {down : Bool} {bytes : List UInt8}
    (h : readUnsigned negative digits start down bytes = .ok (j, left)) :
    readUnsigned negative digits start down (bytes ++ rest) = .ok (j, left ++ rest) := by
  cases bytes with
  | nil => cases h
  | cons d bytes =>
    rw [List.cons_append, readUnsigned, hrest.readPower_append]
    rw [readUnsigned] at h
    by_cases hd : isDigit d = true
    · rw [if_pos hd] at h ⊢
      rcases hpower : readPower (digitOf d) bytes with ⟨_ | power, after⟩ <;> simp only [hpower] at h ⊢
      · split_ifs at h ⊢
        rw [(hrest.takeWhile_append after).2]
        exact makeFloat_append h
      · exact makeFloat_append h
    · rw [if_neg hd] at h
      cases h

theorem readExponent_append (hrest : Ends rest) {start : Int} {bytes : List UInt8}
    (h : readExponent negative digits start bytes = .ok (j, left)) :
    readExponent negative digits start (bytes ++ rest) = .ok (j, left ++ rest) := by
  cases bytes with
  | nil => cases h
  | cons b bytes =>
    rw [readExponent_cons] at h
    rw [List.cons_append, readExponent_cons]
    split_ifs at h ⊢
    · exact readUnsigned_append hrest h
    · exact readUnsigned_append hrest h
    · exact readUnsigned_append hrest h

theorem drop_one_append {bytes : List UInt8} (h : bytes ≠ []) : (bytes ++ rest).drop 1 = bytes.drop 1 ++ rest :=
  List.drop_append_of_le_length (List.length_pos_iff.mpr h)

theorem ne_nil_of_atExponent {bytes : List UInt8} (h : atExponent bytes = true) : bytes ≠ [] := by
  rintro rfl
  cases h

theorem readFraction_append (hrest : Ends rest) {start : Int} {bytes : List UInt8}
    (h : readFraction negative digits start bytes = .ok (j, left)) :
    readFraction negative digits start (bytes ++ rest) = .ok (j, left ++ rest) := by
  obtain ⟨htake, hdrop⟩ := hrest.takeWhile_append bytes
  unfold readFraction at h ⊢
  simp only [htake, hdrop, hrest.atExponent_append] at h ⊢
  split_ifs at h ⊢ with hempty hexponent
  · cases bytes <;> cases h
  · rw [drop_one_append (ne_nil_of_atExponent hexponent)]
    exact readExponent_append hrest h
  · exact makeFloat_append h

theorem readTail_append (hrest : Ends rest) {spare : Nat} {bytes : List UInt8}
    (h : readTail negative digits spare bytes = .ok (j, left)) :
    readTail negative digits spare (bytes ++ rest) = .ok (j, left ++ rest) := by
  have hpoint : (bytes ++ rest).head? = some 46 ↔ bytes.head? = some 46 := by
    cases bytes with
    | nil => obtain rfl | ⟨b, after, rfl, rfl | rfl | rfl⟩ := hrest.cases <;> simp
    | cons b bytes => rfl
  unfold readTail at h ⊢
  simp only [hpoint, hrest.atExponent_append] at h ⊢
  split_ifs at h ⊢ with hhead hexponent hspare
  · have hne : bytes ≠ [] := by
      rintro rfl
      cases hhead
    rw [drop_one_append hne]
    exact readFraction_append hrest h
  · rw [drop_one_append (ne_nil_of_atExponent hexponent)]
    exact readExponent_append hrest h
  · cases h
    rfl
  · exact makeFloat_append h

theorem readNumber_cons (negative : Bool) (d : UInt8) (bytes : List UInt8) : readNumber negative (d :: bytes) =
    if d = 48 then
      if bytes.head?.any isDigit then .error ⟨.invalidNumber, bytes.length - 1⟩ else readTail negative 0 0 bytes
    else if isDigit d then
      readTail negative (absorb 0 (d :: bytes.takeWhile isDigit)).1
        (absorb 0 (d :: bytes.takeWhile isDigit)).2.length (bytes.dropWhile isDigit)
    else .error ⟨.invalidNumber, bytes.length⟩ := by
  by_cases hzero : d = 48
  · subst hzero
    cases bytes with
    | nil => rfl
    | cons b bytes => rw [if_pos rfl]; rfl
  · rw [if_neg hzero, readNumber]
    · by_cases hd : isDigit d = true
      · simp only [if_pos hd, List.takeWhile_cons_of_pos hd]
      · simp only [if_neg hd]
    · exact hzero

theorem readNumber_append (hrest : Ends rest) {bytes : List UInt8} (h : readNumber negative bytes = .ok (j, left)) :
    readNumber negative (bytes ++ rest) = .ok (j, left ++ rest) := by
  cases bytes with
  | nil => cases h
  | cons d bytes =>
    obtain ⟨htake, hdrop⟩ := hrest.takeWhile_append bytes
    have hhead : (bytes ++ rest).head?.any isDigit = bytes.head?.any isDigit := by
      cases bytes with
      | nil => obtain rfl | ⟨b, after, rfl, rfl | rfl | rfl⟩ := hrest.cases <;> rfl
      | cons b bytes => rfl
    rw [readNumber_cons] at h
    rw [List.cons_append, readNumber_cons, hhead, htake, hdrop]
    split_ifs at h ⊢
    · exact readTail_append hrest h
    · exact readTail_append hrest h

/-! ### Integers -/

theorem bytesOf_digits {cs : List Char} (h : ∀ c ∈ cs, c.isDigit = true) :
    bytesOf cs = cs.map fun c => UInt8.ofNat c.toNat := by
  induction cs with
  | nil => rfl
  | cons c cs ih =>
    obtain ⟨hc, hcs⟩ := List.forall_mem_cons.mp h
    have hrange : 48 ≤ c.toNat ∧ c.toNat ≤ 57 := Char.isDigit_iff_toNat.mp hc
    have hlt : c.toNat < 128 := by omega
    rw [bytesOf_cons, utf8EncodeChar_of_lt hlt, ih hcs]
    rfl

theorem isDigit_ofNat {c : Char} (h : c.isDigit = true) : isDigit (UInt8.ofNat c.toNat) = true := by
  have hrange : 48 ≤ c.toNat ∧ c.toNat ≤ 57 := Char.isDigit_iff_toNat.mp h
  have hvalue : (UInt8.ofNat c.toNat).toNat = c.toNat := by rw [UInt8.toNat_ofNat']; omega
  simp only [isDigit, hvalue, Bool.and_eq_true, decide_eq_true_eq]
  exact hrange

theorem digitOf_ofNat {c : Char} (h : c.isDigit = true) : digitOf (UInt8.ofNat c.toNat) = c.toNat - '0'.toNat := by
  have hrange : 48 ≤ c.toNat ∧ c.toNat ≤ 57 := Char.isDigit_iff_toNat.mp h
  have hvalue : (UInt8.ofNat c.toNat).toNat = c.toNat := by rw [UInt8.toNat_ofNat']; omega
  rw [digitOf, hvalue]
  rfl

theorem ne_of_isDigit {b c : UInt8} (hb : isDigit b = true) (hc : isDigit c = false) : b ≠ c := by
  rintro rfl
  rw [hc] at hb
  cases hb

theorem absorb_eq : ∀ {cs : List Char} {n : Nat}, (∀ c ∈ cs, c.isDigit = true) →
    Nat.ofDigitChars 10 cs n < 2 ^ 64 →
      absorb n (cs.map fun c => UInt8.ofNat c.toNat) = (Nat.ofDigitChars 10 cs n, [])
  | [], n, _, _ => rfl
  | c :: cs, n, h, hlt => by
    obtain ⟨hc, hcs⟩ := List.forall_mem_cons.mp h
    rw [Nat.ofDigitChars_cons] at hlt ⊢
    have hstep : n * 10 + digitOf (UInt8.ofNat c.toNat) = 10 * n + (c.toNat - '0'.toNat) := by
      rw [digitOf_ofNat hc, Nat.mul_comm]
    have hroom : 10 * n + (c.toNat - '0'.toNat) < Nat.pow 2 64 := by
      refine Nat.lt_of_le_of_lt ?_ hlt
      rw [Nat.ofDigitChars_eq_ofDigitChars_zero]
      exact Nat.le_trans (Nat.le_mul_of_pos_left _ (Nat.pow_pos (by decide))) (Nat.le_add_right _ _)
    rw [List.map_cons, absorb, hstep, if_pos hroom, absorb_eq hcs hlt]

theorem head_toDigits_ne {n : Nat} (h : n ≠ 0) : (Nat.toDigits 10 n).head? ≠ some '0' := by
  induction n using Nat.strongRecOn with
  | ind n ih =>
    by_cases hn : n < 10
    · rw [Nat.toDigits_of_lt_base hn]
      have hdigit : ∀ d : Fin 10, d.val ≠ 0 → Nat.digitChar d ≠ '0' := by decide
      simpa using hdigit ⟨n, hn⟩ h
    · rw [Nat.toDigits_of_base_le (by decide) (Nat.le_of_not_lt hn), List.head?_append_of_ne_nil]
      · exact ih (n / 10) (by omega) (by omega)
      · exact Nat.toDigits_ne_nil

theorem isDigit_of_mem_toDigits {n : Nat} {c : Char} (h : c ∈ Nat.toDigits 10 n) : c.isDigit = true :=
  Nat.isDigit_of_mem_toDigits (by decide) (by decide) h

theorem exists_bytesOf_toDigits (n : Nat) :
    ∃ b after, bytesOf (Nat.toDigits 10 n) = b :: after ∧ isDigit b = true := by
  have hdigits : ∀ c ∈ Nat.toDigits 10 n, c.isDigit = true := fun c hc => isDigit_of_mem_toDigits hc
  rw [bytesOf_digits hdigits]
  obtain ⟨c, cs, hcs⟩ := List.exists_cons_of_ne_nil (@Nat.toDigits_ne_nil n 10)
  rw [hcs] at hdigits ⊢
  exact ⟨_, _, rfl, isDigit_ofNat (hdigits c List.mem_cons_self)⟩

/-- **A natural number is read back from its digits.** -/
theorem readNumber_toDigits (hrest : Ends rest) (negative : Bool) {n : Nat} (h : n < 2 ^ 64) :
    readNumber negative (bytesOf (Nat.toDigits 10 n) ++ rest) = .ok (makeInteger negative n, rest) := by
  have hdigits : ∀ c ∈ Nat.toDigits 10 n, c.isDigit = true := fun c hc => isDigit_of_mem_toDigits hc
  have htail : readTail negative n 0 rest = .ok (makeInteger negative n, rest) := by
    obtain rfl | ⟨b, after, rfl, rfl | rfl | rfl⟩ := hrest.cases <;> rfl
  rw [bytesOf_digits hdigits]
  by_cases hn : n = 0
  · subst hn
    have hhead : rest.head?.any isDigit = false := by
      obtain rfl | ⟨b, after, rfl, rfl | rfl | rfl⟩ := hrest.cases <;> rfl
    rw [Nat.toDigits_zero]
    change readNumber negative (48 :: rest) = _
    rw [readNumber_cons, if_pos rfl, hhead]
    exact htail
  · have hhead := head_toDigits_ne hn
    have habsorb := @absorb_eq (Nat.toDigits 10 n) 0 hdigits (by rwa [Nat.ofDigitChars_ten_toDigits])
    rw [Nat.ofDigitChars_ten_toDigits] at habsorb
    cases hcs : Nat.toDigits 10 n with
    | nil => exact absurd hcs Nat.toDigits_ne_nil
    | cons c cs =>
      rw [hcs] at hdigits habsorb hhead
      obtain ⟨hc, hcs'⟩ := List.forall_mem_cons.mp hdigits
      have hbytes : ∀ b ∈ cs.map fun c => UInt8.ofNat c.toNat, isDigit b = true := by
        intro b hb
        obtain ⟨d, hd, rfl⟩ := List.mem_map.mp hb
        exact isDigit_ofNat (hcs' d hd)
      have hfirst : UInt8.ofNat c.toNat ≠ 48 := by
        intro heq
        have hrange : 48 ≤ c.toNat ∧ c.toNat ≤ 57 := Char.isDigit_iff_toNat.mp hc
        have hvalue : (UInt8.ofNat c.toNat).toNat = 48 := congrArg UInt8.toNat heq
        rw [UInt8.toNat_ofNat', Nat.mod_eq_of_lt (by omega)] at hvalue
        exact hhead (congrArg some (Char.toNat_inj.mp hvalue))
      obtain ⟨htake, hdrop⟩ := hrest.takeWhile_append (cs.map fun c => UInt8.ofNat c.toNat)
      rw [List.takeWhile_eq_self_iff.mpr hbytes] at htake
      rw [List.dropWhile_eq_nil_iff.mpr hbytes, List.nil_append] at hdrop
      rw [List.map_cons] at habsorb ⊢
      rw [List.cons_append, readNumber_cons, if_neg hfirst, if_pos (isDigit_ofNat hc), htake, hdrop, habsorb]
      exact htail

/-! ### What a number can be -/

/-- **A number that a document can hold**: any floating-point number, an integer only of 64 bits. -/
def IsNumber (j : Json) : Prop := (∃ x, j = .float x) ∨ ∃ n : Int, j = .integer n ∧ -2 ^ 63 ≤ n ∧ n < 2 ^ 64

variable {start exponent : Int} {bytes : List UInt8}

theorem isNumber_of_makeFloat (h : makeFloat negative digits exponent bytes = .ok (j, left)) : IsNumber j := by
  unfold makeFloat at h
  cases hscaled : scaled? digits exponent with
  | none => rw [hscaled] at h; cases h
  | some x => rw [hscaled] at h; cases h; exact .inl ⟨_, rfl⟩

theorem isNumber_of_readUnsigned {down : Bool} (h : readUnsigned negative digits start down bytes = .ok (j, left)) :
    IsNumber j := by
  cases bytes with
  | nil => cases h
  | cons d bytes =>
    rw [readUnsigned] at h
    by_cases hd : isDigit d = true
    · rw [if_pos hd] at h
      rcases hpower : readPower (digitOf d) bytes with ⟨_ | power, after⟩ <;> simp only [hpower] at h
      · split_ifs at h
        exact isNumber_of_makeFloat h
      · exact isNumber_of_makeFloat h
    · rw [if_neg hd] at h
      cases h

theorem isNumber_of_readExponent (h : readExponent negative digits start bytes = .ok (j, left)) : IsNumber j := by
  cases bytes with
  | nil => cases h
  | cons b bytes =>
    rw [readExponent_cons] at h
    split_ifs at h <;> exact isNumber_of_readUnsigned h

theorem isNumber_of_readFraction (h : readFraction negative digits start bytes = .ok (j, left)) : IsNumber j := by
  unfold readFraction at h
  simp only at h
  split_ifs at h
  · cases bytes <;> cases h
  · exact isNumber_of_readExponent h
  · exact isNumber_of_makeFloat h

theorem isNumber_makeInteger (h : digits < 2 ^ 64) : IsNumber (makeInteger negative digits) := by
  unfold makeInteger
  split_ifs with hnegative hroom
  · have hpow : Int.pow 2 63 = 2 ^ 63 := rfl
    exact .inr ⟨_, rfl, by omega, by omega⟩
  · exact .inl ⟨_, rfl⟩
  · exact .inr ⟨_, rfl, by omega, by omega⟩

theorem isNumber_of_readTail {spare : Nat} (hdigits : digits < 2 ^ 64)
    (h : readTail negative digits spare bytes = .ok (j, left)) : IsNumber j := by
  unfold readTail at h
  split_ifs at h
  · exact isNumber_of_readFraction h
  · exact isNumber_of_readExponent h
  · cases h
    exact isNumber_makeInteger hdigits
  · exact isNumber_of_makeFloat h

theorem absorb_lt : ∀ {n : Nat} (ds : List UInt8), n < 2 ^ 64 → (absorb n ds).1 < 2 ^ 64
  | _, [], h => h
  | n, d :: ds, h => by
    rw [absorb]
    split_ifs with hroom
    · exact absorb_lt ds hroom
    · exact h

/-- **What is read as a number is one that a document can hold.** -/
theorem isNumber_of_readNumber (h : readNumber negative bytes = .ok (j, left)) : IsNumber j := by
  cases bytes with
  | nil => cases h
  | cons d bytes =>
    rw [readNumber_cons] at h
    split_ifs at h
    · exact isNumber_of_readTail (by decide) h
    · exact isNumber_of_readTail (absorb_lt _ (by decide)) h

end Json

end TableGateway
