import Mathlib.Tactic.SplitIfs
import TableGateway.Json.Parser
import TableGateway.Json.Printer

/-! # Printed strings are read back

A text is printed as characters and read as bytes. A character of seven bits is one byte, and of any other one no
byte has less than eight bits, so that the quotes, backslashes and controls of a printed string are those that
were put there.

* `bytesOf` : the bytes of characters
* `readStringBytes_eq` : the bytes of a string are read back from its escapes
* `readString_eq` : a string is read back up to its closing quote -/

namespace TableGateway.Json

/-! ### Characters as bytes -/

/-- The bytes of characters. -/
def bytesOf (cs : List Char) : List UInt8 := cs.flatMap String.utf8EncodeChar

@[simp] theorem bytesOf_nil : bytesOf [] = [] := rfl

@[simp] theorem bytesOf_cons (c : Char) (cs : List Char) :
    bytesOf (c :: cs) = String.utf8EncodeChar c ++ bytesOf cs := rfl

@[simp] theorem bytesOf_append (cs ds : List Char) : bytesOf (cs ++ ds) = bytesOf cs ++ bytesOf ds :=
  List.flatMap_append

/-- **The bytes of a text are those of its characters.** -/
theorem utf8_ofList (cs : List Char) : Text.utf8 (String.ofList cs) = bytesOf cs := by
  rw [Text.utf8, String.toUTF8_eq_toByteArray, String.toByteArray_ofList, List.utf8Encode, List.data_toByteArray]
  rfl

theorem utf8_eq (s : String) : Text.utf8 s = bytesOf s.toList := by
  rw [← utf8_ofList, String.ofList_toList]

theorem utf8EncodeChar_of_lt {c : Char} (h : c.toNat < 128) : String.utf8EncodeChar c = [UInt8.ofNat c.toNat] := by
  have hle : c.val.toNat ≤ 0x7f := Nat.le_of_lt_succ h
  exact if_pos hle

theorem le_of_mem_utf8EncodeChar {c : Char} (h : 128 ≤ c.toNat) {b : UInt8}
    (hb : b ∈ String.utf8EncodeChar c) : 128 ≤ b.toNat := by
  have hlt : ¬ c.val.toNat ≤ 0x7f := Nat.not_le.mpr h
  unfold String.utf8EncodeChar at hb
  simp only [if_neg hlt] at hb
  split_ifs at hb <;> simp only [List.mem_cons, List.not_mem_nil, or_false] at hb
  · rcases hb with rfl | rfl <;> simp <;> omega
  · rcases hb with rfl | rfl | rfl <;> simp <;> omega
  · rcases hb with rfl | rfl | rfl | rfl <;> simp <;> omega

/-! ### Escapes -/

/-- A byte that stands for itself in a string. -/
def IsPlain (b : UInt8) : Prop := b ≠ 34 ∧ b ≠ 92 ∧ 32 ≤ b.toNat

/-- The four digits of a control. -/
def controlDigits (n : Nat) : List UInt8 := bytesOf ['0', '0', Nat.digitChar (n / 16), Nat.digitChar (n % 16)]

theorem hexValue?_controlDigits (n : Fin 32) :
    (controlDigits n).length = 4 ∧ hexValue? (controlDigits n) = some n.val := by
  revert n
  decide +kernel

theorem utf8_singleton (c : Char) : Text.utf8 (String.singleton c) = String.utf8EncodeChar c := by
  rw [utf8_eq, String.toList_singleton, bytesOf_cons, bytesOf_nil, List.append_nil]

theorem readEscape_control {c : Char} (h : c.toNat < 32) (rest : List UInt8) :
    readEscape (117 :: controlDigits c.toNat ++ rest) = .ok (String.utf8EncodeChar c, rest) := by
  obtain ⟨hlength, hvalue⟩ := hexValue?_controlDigits ⟨c.toNat, h⟩
  simp only at hlength hvalue
  have htake : Wire.takeBytes 4 (controlDigits c.toNat ++ rest) = some (controlDigits c.toNat, rest) := by
    rw [Wire.takeBytes, if_pos (by rw [List.length_append]; omega), List.take_left' hlength,
      List.drop_left' hlength]
  have hhex : readHex (controlDigits c.toNat ++ rest) = .ok (c.toNat, rest) := by
    simp only [readHex, htake, hvalue]
  have hcode : readCodePoint (controlDigits c.toNat ++ rest) = .ok (String.utf8EncodeChar c, rest) := by
    have hhigh : ¬ (0xDC00 ≤ c.toNat ∧ c.toNat ≤ 0xDFFF) := by omega
    have hlow : c.toNat < 0xD800 ∨ 0xDBFF < c.toNat := by omega
    simp only [readCodePoint, hhex, bind, Except.bind, if_neg hhigh, if_pos hlow, Char.ofNat_toNat, utf8_singleton]
    rfl
  exact hcode

/-- **A character of a string stands for itself, or it is escaped.** -/
theorem escape_cases (c : Char) : (escape c = [c] ∧ ∀ b ∈ String.utf8EncodeChar c, IsPlain b) ∨
    ∃ bytes, bytesOf (escape c) = 92 :: bytes ∧
      ∀ rest, readEscape (bytes ++ rest) = .ok (String.utf8EncodeChar c, rest) := by
  have hmark : ∀ {d : Char} {e b : UInt8}, String.utf8EncodeChar d = [e] → String.utf8EncodeChar c = [b] →
      (∀ rest, readEscape (e :: rest) = .ok ([b], rest)) → ∃ bytes, bytesOf ['\\', d] = 92 :: bytes ∧
        ∀ rest, readEscape (bytes ++ rest) = .ok (String.utf8EncodeChar c, rest) := by
    intro d e b hd hc hread
    refine ⟨[e], by rw [bytesOf_cons, bytesOf_cons, hd]; rfl, fun rest => ?_⟩
    rw [hc]
    exact hread rest
  have hcode : ∀ {n : Nat}, n < 128 → c.toNat = n → String.utf8EncodeChar c = [UInt8.ofNat n] :=
    fun hn hc => hc ▸ utf8EncodeChar_of_lt (hc ▸ hn)
  unfold escape
  split_ifs with hquote hbackslash hb hf hn hr ht hcontrol
  · exact .inr (hmark rfl (hcode (n := 34) (by decide) (by rw [hquote]; rfl)) fun _ => rfl)
  · exact .inr (hmark rfl (hcode (n := 92) (by decide) (by rw [hbackslash]; rfl)) fun _ => rfl)
  · exact .inr (hmark rfl (hcode (by decide) hb) fun _ => rfl)
  · exact .inr (hmark rfl (hcode (by decide) hf) fun _ => rfl)
  · exact .inr (hmark rfl (hcode (n := 10) (by decide) (by rw [hn]; rfl)) fun _ => rfl)
  · exact .inr (hmark rfl (hcode (n := 13) (by decide) (by rw [hr]; rfl)) fun _ => rfl)
  · exact .inr (hmark rfl (hcode (n := 9) (by decide) (by rw [ht]; rfl)) fun _ => rfl)
  · exact .inr ⟨117 :: controlDigits c.toNat, rfl, readEscape_control hcontrol⟩
  · refine .inl ⟨rfl, fun b hmem => ?_⟩
    by_cases hlt : c.toNat < 128
    · rw [utf8EncodeChar_of_lt hlt, List.mem_singleton] at hmem
      have hvalue : b.toNat = c.toNat := by rw [hmem, UInt8.toNat_ofNat']; omega
      refine ⟨fun h => hquote ?_, fun h => hbackslash ?_, by omega⟩
      · exact Char.toNat_inj.mp (hvalue.symm.trans (congrArg UInt8.toNat h))
      · exact Char.toNat_inj.mp (hvalue.symm.trans (congrArg UInt8.toNat h))
    · have hle := le_of_mem_utf8EncodeChar (Nat.le_of_not_lt hlt) hmem
      refine ⟨fun h => ?_, fun h => ?_, by omega⟩
      · rw [h] at hle
        exact absurd hle (by decide)
      · rw [h] at hle
        exact absurd hle (by decide)

/-! ### Strings -/

theorem readStringBytes_plain {bs : List UInt8} (h : ∀ b ∈ bs, IsPlain b) (steps : Nat) (read rest : List UInt8) :
    readStringBytes (steps + bs.length) read (bs ++ rest) = readStringBytes steps (bs.reverse ++ read) rest := by
  induction bs generalizing read with
  | nil => rfl
  | cons b bs ih =>
    obtain ⟨⟨hquote, hbackslash, hcontrol⟩, hbs⟩ := List.forall_mem_cons.mp h
    rw [List.length_cons, ← Nat.add_assoc, List.cons_append, readStringBytes, if_neg hquote, if_neg hbackslash,
      if_neg (by omega), ih hbs, List.reverse_cons, List.append_assoc]
    rfl

theorem exists_readStringBytes_escape (c : Char) {steps : Nat} (hsteps : (bytesOf (escape c)).length ≤ steps) :
    ∃ left, steps ≤ left + (bytesOf (escape c)).length ∧ ∀ read rest,
      readStringBytes steps read (bytesOf (escape c) ++ rest) =
        readStringBytes left ((String.utf8EncodeChar c).reverse ++ read) rest := by
  rcases escape_cases c with ⟨hescape, hplain⟩ | ⟨bytes, hescape, hread⟩
  · rw [hescape, bytesOf_cons, bytesOf_nil, List.append_nil] at hsteps ⊢
    obtain ⟨left, rfl⟩ := Nat.exists_eq_add_of_le' hsteps
    exact ⟨left, Nat.le_refl _, fun read rest => readStringBytes_plain hplain left read rest⟩
  · rw [hescape] at hsteps ⊢
    rw [List.length_cons] at hsteps ⊢
    obtain ⟨left, rfl⟩ := Nat.exists_eq_add_of_le' (Nat.le_of_add_left_le hsteps)
    refine ⟨left, by omega, fun read rest => ?_⟩
    rw [List.cons_append, readStringBytes, if_neg (by decide), if_pos rfl, hread]
    rfl

/-- **The bytes of a string are read back from its escapes.** -/
theorem readStringBytes_eq (rest : List UInt8) : ∀ (cs : List Char) (steps : Nat) (read : List UInt8),
    (bytesOf (cs.flatMap escape)).length < steps →
      readStringBytes steps read (bytesOf (cs.flatMap escape) ++ 34 :: rest) = .ok ((bytesOf cs).reverse ++ read, rest)
  | [], steps, read, hsteps => by
    obtain ⟨left, rfl⟩ := Nat.exists_eq_succ_of_ne_zero (Nat.ne_zero_of_lt hsteps)
    rfl
  | c :: cs, steps, read, hsteps => by
    rw [List.flatMap_cons, bytesOf_append, List.length_append] at hsteps
    obtain ⟨left, hleft, hread⟩ := @exists_readStringBytes_escape c steps (by omega)
    rw [List.flatMap_cons, bytesOf_append, List.append_assoc, hread, readStringBytes_eq rest cs left _ (by omega),
      bytesOf_cons, List.reverse_append, List.append_assoc]

/-- **A string is read back** up to its closing quote. -/
theorem readString_eq (s : String) (rest : List UInt8) :
    readString (bytesOf (s.toList.flatMap escape) ++ 34 :: rest) = .ok (s, rest) := by
  have hbytes := readStringBytes_eq rest s.toList
    ((bytesOf (s.toList.flatMap escape) ++ 34 :: rest).length + 1) [] (by rw [List.length_append]; omega)
  rw [List.append_nil] at hbytes
  simp only [readString, hbytes, bind, Except.bind, List.reverse_reverse, ← utf8_eq, Text.ofUtf8?_utf8]
  rfl

end TableGateway.Json
