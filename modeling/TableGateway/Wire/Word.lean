/-! # Words on the wire

Integers as bytes, the most significant byte first, without a sign or in two's complement.

* `ofWord_word` : a number below `256 ^ n` is read back from its `n` bytes
* `word_ofWord` : bytes are written back from the number that they stand for
* `ofSignedWord_signedWord` : an integer of `n` bytes is read back
* `signedWord_ofSignedWord` : bytes are written back from the integer that they stand for -/

namespace TableGateway.Wire

/-- The last `n` bytes of a number, the most significant first. -/
def word : Nat → Nat → List UInt8
  | 0, _ => []
  | n + 1, x => word n (x / 256) ++ [UInt8.ofNat (x % 256)]

/-- The number that bytes stand for, the most significant byte first. -/
def ofWord (bytes : List UInt8) : Nat := bytes.foldl (fun x b => 256 * x + b.toNat) 0

/-- The bytes of an integer in two's complement. -/
def signedWord (n : Nat) (x : Int) : List UInt8 := word n (x % Int.pow 256 n).toNat

/-- The integer that bytes stand for in two's complement. -/
def ofSignedWord (bytes : List UInt8) : Int := Int.bmod (ofWord bytes) (Nat.pow 256 bytes.length)

/-- The first `n` bytes and those after them, if there are so many. -/
def takeBytes (n : Nat) (bytes : List UInt8) : Option (List UInt8 × List UInt8) :=
  if n ≤ bytes.length then some (bytes.take n, bytes.drop n) else none

/-! ### Lengths and bounds -/

@[simp] theorem length_word (n x : Nat) : (word n x).length = n := by
  induction n generalizing x with
  | zero => rfl
  | succ n ih => simp [word, ih]

@[simp] theorem length_signedWord (n : Nat) (x : Int) : (signedWord n x).length = n := by
  simp [signedWord]

theorem ofWord_append (as : List UInt8) (b : UInt8) :
    ofWord (as ++ [b]) = 256 * ofWord as + b.toNat := by
  simp [ofWord, List.foldl_append]

theorem ofWord_lt : ∀ bytes : List UInt8, ofWord bytes < Nat.pow 256 bytes.length := by
  intro bytes
  induction h : bytes.length generalizing bytes with
  | zero => rw [List.length_eq_zero_iff.1 h]; decide
  | succ n ih =>
    rcases List.eq_nil_or_concat bytes with rfl | ⟨as, b, rfl⟩
    · simp at h
    · rw [List.concat_eq_append] at h ⊢
      have h1 : as.length = n := by simpa using h
      have h2 := ih as h1
      have hpow : Nat.pow 256 (n + 1) = Nat.pow 256 n * 256 := rfl
      have hb := b.toNat_lt
      rw [ofWord_append, hpow]
      omega

/-! ### Round trips -/

theorem ofWord_word_mod (n x : Nat) : ofWord (word n x) = x % Nat.pow 256 n := by
  induction n generalizing x with
  | zero => exact (Nat.mod_one x).symm
  | succ n ih =>
    have hpow : Nat.pow 256 (n + 1) = 256 * Nat.pow 256 n := Nat.mul_comm _ _
    have hb : (UInt8.ofNat (x % 256)).toNat = x % 256 := by simp
    rw [word, ofWord_append, ih, hb, hpow, Nat.mod_mul]
    omega

theorem ofWord_word {n x : Nat} (h : x < Nat.pow 256 n) : ofWord (word n x) = x := by
  rw [ofWord_word_mod, Nat.mod_eq_of_lt h]

theorem word_ofWord : ∀ bytes : List UInt8, word bytes.length (ofWord bytes) = bytes := by
  intro bytes
  induction h : bytes.length generalizing bytes with
  | zero => rw [List.length_eq_zero_iff.1 h]; rfl
  | succ n ih =>
    rcases List.eq_nil_or_concat bytes with rfl | ⟨as, b, rfl⟩
    · simp at h
    · rw [List.concat_eq_append] at h ⊢
      have h1 : as.length = n := by simpa using h
      have hb := b.toNat_lt
      rw [ofWord_append, word]
      have e1 : (256 * ofWord as + b.toNat) / 256 = ofWord as := by omega
      have e2 : (256 * ofWord as + b.toNat) % 256 = b.toNat := by omega
      rw [e1, e2, ih as h1, UInt8.ofNat_toNat]

theorem ofSignedWord_signedWord {n : Nat} {x : Int} (h1 : -Int.pow 256 n ≤ 2 * x)
    (h2 : 2 * x < Int.pow 256 n) : ofSignedWord (signedWord n x) = x := by
  have hp : 0 < Int.pow 256 n := Int.pow_pos (by decide)
  have hnn := Int.emod_nonneg x (Int.ne_of_gt hp)
  have hlt := Int.emod_lt_of_pos x hp
  have hcast : ((Nat.pow 256 n : Nat) : Int) = Int.pow 256 n := Int.natCast_pow 256 n
  have hw : ofWord (signedWord n x) = (x % Int.pow 256 n).toNat := by
    rw [signedWord, ofWord_word]
    omega
  rw [ofSignedWord, hw, length_signedWord, Int.toNat_of_nonneg hnn, ← hcast, Int.emod_bmod]
  exact Int.bmod_eq_of_le_mul_two (by omega) (by omega)

theorem signedWord_ofSignedWord (bytes : List UInt8) :
    signedWord bytes.length (ofSignedWord bytes) = bytes := by
  have h := ofWord_lt bytes
  have hcast : ((Nat.pow 256 bytes.length : Nat) : Int) = Int.pow 256 bytes.length :=
    Int.natCast_pow 256 bytes.length
  rw [signedWord, ofSignedWord, ← hcast, Int.bmod_emod, ← Int.natCast_emod, Int.toNat_natCast,
    Nat.mod_eq_of_lt h, word_ofWord]

end TableGateway.Wire
