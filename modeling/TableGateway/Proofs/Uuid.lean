import Mathlib.Data.List.Basic
import TableGateway.Uuid

/-! # Identifiers are read back from their written form

The written form of an identifier has 36 characters of one byte each, so it is read as five groups between hyphens,
and the digits of the groups are those of all its bytes.

* `Uuid.read_text` : an identifier is read back from its written form -/

namespace TableGateway

/-! ### Digits -/

namespace Text

theorem hexBytes_append (as bs : List UInt8) : hexBytes (as ++ bs) = hexBytes as ++ hexBytes bs :=
  List.flatMap_append

theorem length_hexBytes (bytes : List UInt8) : (hexBytes bytes).length = 2 * bytes.length := by
  induction bytes with
  | nil => rfl
  | cons b bytes ih =>
    have hcons : hexBytes (b :: bytes) = hexByte b ++ hexBytes bytes := rfl
    rw [hcons, List.length_append, ih, hexByte, List.length_cons]
    simp
    omega

theorem utf8Size_hexDigit : ∀ n < 16, (hexDigit n).utf8Size = 1 := by decide

theorem byteLength_hexBytes (bytes : List UInt8) : byteLength (hexBytes bytes) = 2 * bytes.length := by
  induction bytes with
  | nil => rfl
  | cons b bytes ih =>
    have hb : b.toNat < 256 := b.toNat_lt
    have hcons : hexBytes (b :: bytes) =
        hexDigit (b.toNat / 16) :: hexDigit (b.toNat % 16) :: hexBytes bytes := rfl
    rw [hcons, byteLength_cons, byteLength_cons, utf8Size_hexDigit _ (by omega), utf8Size_hexDigit _ (by omega), ih,
      List.length_cons]
    omega

end Text

open TableGateway.Text

namespace Uuid

/-! ### Groups -/

/-- Five groups between hyphens. -/
def hyphenated (a b c d e : List Char) : List Char := a ++ '-' :: (b ++ '-' :: (c ++ '-' :: (d ++ '-' :: e)))

/-- A group ends at the hyphen that comes after it. -/
theorem getElem?_group {a rest : List Char} {n : Nat} (h : a.length = n) : (a ++ '-' :: rest)[n]? = some '-' := by
  rw [List.getElem?_append_right (Nat.le_of_eq h), h, Nat.sub_self, List.getElem?_cons_zero]

theorem drop_group {a rest : List Char} {n : Nat} (h : a.length = n) : (a ++ '-' :: rest).drop (n + 1) = rest := by
  rw [List.drop_append, List.drop_of_length_le (by omega), h]
  simp

/-- **Groups of the right lengths are read as their digits.** -/
theorem readGroups?_hyphenated {a b c d : List Char} (e : List Char) (ha : a.length = 8) (hb : b.length = 4)
    (hc : c.length = 4) (hd : d.length = 4) :
    readGroups? (hyphenated a b c d e) = (readHex? (a ++ b ++ c ++ d ++ e)).bind ofBytes? := by
  have h9 : (hyphenated a b c d e).drop 9 = b ++ '-' :: (c ++ '-' :: (d ++ '-' :: e)) := drop_group ha
  have h14 : (hyphenated a b c d e).drop 14 = c ++ '-' :: (d ++ '-' :: e) := by
    rw [← List.drop_drop (i := 5) (j := 9), h9, drop_group hb]
  have h19 : (hyphenated a b c d e).drop 19 = d ++ '-' :: e := by
    rw [← List.drop_drop (i := 5) (j := 14), h14, drop_group hc]
  have h24 : (hyphenated a b c d e).drop 24 = e := by
    rw [← List.drop_drop (i := 5) (j := 19), h19, drop_group hd]
  have hyphen8 : (hyphenated a b c d e)[8]? = some '-' := getElem?_group ha
  have hyphen13 : (hyphenated a b c d e)[13]? = some '-' := by
    rw [← List.getElem?_drop (i := 9) (j := 4), h9, getElem?_group hb]
  have hyphen18 : (hyphenated a b c d e)[18]? = some '-' := by
    rw [← List.getElem?_drop (i := 14) (j := 4), h14, getElem?_group hc]
  have hyphen23 : (hyphenated a b c d e)[23]? = some '-' := by
    rw [← List.getElem?_drop (i := 19) (j := 4), h19, getElem?_group hd]
  have h8 : (hyphenated a b c d e).take 8 = a := List.take_left' ha
  rw [readGroups?, if_pos ⟨hyphen8, hyphen13, hyphen18, hyphen23⟩, h8, h9, h14, h19, h24, List.take_left' hb,
    List.take_left' hc, List.take_left' hd]

/-! ### The written form -/

theorem chars_eq (u : Uuid) : u.chars = hyphenated (hexBytes (u.bytes.take 4)) (hexBytes ((u.bytes.drop 4).take 2))
    (hexBytes ((u.bytes.drop 6).take 2)) (hexBytes ((u.bytes.drop 8).take 2)) (hexBytes (u.bytes.drop 10)) := by
  simp [chars, hyphenated]

theorem groups_eq (bytes : List UInt8) : bytes.take 4 ++ (bytes.drop 4).take 2 ++ (bytes.drop 6).take 2 ++
    (bytes.drop 8).take 2 ++ bytes.drop 10 = bytes := by
  have hrest : ∀ n, (bytes.drop n).take 2 ++ bytes.drop (n + 2) = bytes.drop n := by
    intro n
    rw [← List.drop_drop, List.take_append_drop]
  rw [List.append_assoc, List.append_assoc, List.append_assoc, hrest 8, hrest 6, hrest 4, List.take_append_drop]

theorem byteLength_chars (u : Uuid) : byteLength u.chars = 36 := by
  have hlength := u.length_eq
  simp only [chars_eq, hyphenated, byteLength_append, byteLength_cons, byteLength_hexBytes, List.length_take,
    List.length_drop, hlength]
  rfl

theorem readGroups?_chars (u : Uuid) : readGroups? u.chars = some u := by
  have hlength := u.length_eq
  rw [chars_eq, readGroups?_hyphenated]
  · rw [← hexBytes_append, ← hexBytes_append, ← hexBytes_append, ← hexBytes_append, groups_eq, readHex?_hexBytes]
    exact dif_pos hlength
  all_goals simp [length_hexBytes, hlength]

/-- **An identifier is read back from its written form.** -/
theorem read_text (u : Uuid) : read u.text = .ok u := by
  have hgroups : groups? u.chars = some u.chars := if_pos u.byteLength_chars
  have hread : read? u.chars = some u := by
    unfold read?
    rw [hgroups]
    exact u.readGroups?_chars
  rw [read, text, String.toList_ofList, hread]

end Uuid

end TableGateway
