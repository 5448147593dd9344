import Mathlib.Data.String.Basic
import TableGateway.Proofs.Json.Number
import TableGateway.Proofs.Traversal

/-! # Documents that were read

A document that was read is regular: its integers have 64 bits, its containers are nested no deeper than the
reader goes, and the keys of its objects are distinct and ascending, in whatever order they stood.

* `Reads` : what is read at the head of some bytes, by the first of them
* `Regular` : a document without an integer, a depth or an object that is never read
* `regular_of_parseBytes` : what is read is regular -/

namespace TableGateway.Json

open TableGateway.Number

/-! ### Members in order -/

/-- Members with ascending keys. -/
def Ascending (members : List (String × Json)) : Prop := members.Pairwise fun m n => m.1 < n.1

variable {key : String} {value : Json} {members : List (String × Json)}

theorem mem_put {m : String × Json} (h : m ∈ put key value members) : m = (key, value) ∨ m ∈ members := by
  induction members with
  | nil => exact .inl (List.mem_singleton.mp h)
  | cons n members ih =>
    obtain ⟨k, v⟩ := n
    rw [put] at h
    split_ifs at h
    · exact List.mem_cons.mp h
    · exact (List.mem_cons.mp h).imp_right (List.mem_cons_of_mem _)
    · rcases List.mem_cons.mp h with rfl | h
      · exact .inr List.mem_cons_self
      · exact (ih h).imp_right (List.mem_cons_of_mem _)

theorem Ascending.put (h : Ascending members) : Ascending (put key value members) := by
  induction members with
  | nil => exact List.pairwise_singleton _ _
  | cons n members ih =>
    obtain ⟨k, v⟩ := n
    obtain ⟨hk, hmembers⟩ := List.pairwise_cons.mp h
    rw [Json.put]
    split_ifs with hlt heq
    · refine List.pairwise_cons.mpr ⟨fun m hm => ?_, h⟩
      rcases List.mem_cons.mp hm with rfl | hm
      · exact hlt
      · exact lt_trans hlt (hk m hm)
    · exact List.pairwise_cons.mpr ⟨heq ▸ hk, hmembers⟩
    · refine List.pairwise_cons.mpr ⟨fun m hm => ?_, ih hmembers⟩
      rcases mem_put hm with rfl | hm
      · exact lt_of_le_of_ne (not_lt.mp hlt) (Ne.symm heq)
      · exact hk m hm

theorem put_of_lt (h : ∀ m ∈ members, m.1 < key) : put key value members = members ++ [(key, value)] := by
  induction members with
  | nil => rfl
  | cons n members ih =>
    obtain ⟨k, v⟩ := n
    obtain ⟨hk, hmembers⟩ := List.forall_mem_cons.mp h
    rw [put, if_neg (lt_asymm hk), if_neg (ne_of_gt hk), ih hmembers]
    rfl

theorem ofMembers_eq_object (members : List (String × Json)) :
    ∃ ordered, ofMembers members = .object ordered ∧ Ascending ordered ∧ ∀ m ∈ ordered, m ∈ members := by
  have hfold : ∀ (members before : List (String × Json)), Ascending before →
      Ascending (members.foldl (fun ms m => put m.1 m.2 ms) before) ∧
        ∀ m ∈ members.foldl (fun ms m => put m.1 m.2 ms) before, m ∈ before ∨ m ∈ members := by
    intro members
    induction members with
    | nil => exact fun before h => ⟨h, fun m hm => .inl hm⟩
    | cons n members ih =>
      intro before h
      obtain ⟨hascending, hmem⟩ := ih (put n.1 n.2 before) h.put
      refine ⟨hascending, fun m hm => ?_⟩
      rcases hmem m hm with hm | hm
      · exact (mem_put hm).elim (fun h => .inr (h ▸ List.mem_cons_self)) .inl
      · exact .inr (List.mem_cons_of_mem _ hm)
  obtain ⟨hascending, hmem⟩ := hfold members [] List.Pairwise.nil
  exact ⟨_, rfl, hascending, fun m hm => (hmem m hm).resolve_left List.not_mem_nil⟩

/-- **Members in order are those of their object.** -/
theorem Ascending.ofMembers_eq (h : Ascending members) : ofMembers members = .object members := by
  have hfold : ∀ members before : List (String × Json), Ascending (before ++ members) →
      members.foldl (fun ms m => Json.put m.1 m.2 ms) before = before ++ members := by
    intro members
    induction members with
    | nil => exact fun before _ => (List.append_nil before).symm
    | cons n members ih =>
      intro before h
      have hlt : ∀ m ∈ before, m.1 < n.1 := fun m hm => (List.pairwise_append.mp h).2.2 m hm n List.mem_cons_self
      have hnext : before ++ n :: members = (before ++ [n]) ++ members := by simp
      rw [List.foldl_cons, put_of_lt hlt, hnext]
      exact ih _ (hnext ▸ h)
  exact congrArg object (hfold members [] h)

/-! ### What is read -/

variable {steps depth : Nat} {bytes left : List UInt8} {j : Json}

/-- **What is read at the head of some bytes**, by the first of them that is no blank. -/
inductive Reads (steps depth : Nat) : UInt8 → List UInt8 → Json → List UInt8 → Prop
  | null {after left : List UInt8} (h : readWord [117, 108, 108] after = .ok left) :
    Reads steps depth 110 after .null left
  | true {after left : List UInt8} (h : readWord [114, 117, 101] after = .ok left) :
    Reads steps depth 116 after (.bool true) left
  | false {after left : List UInt8} (h : readWord [97, 108, 115, 101] after = .ok left) :
    Reads steps depth 102 after (.bool false) left
  | negative {after left : List UInt8} {j : Json} (h : readNumber true after = .ok (j, left)) :
    Reads steps depth 45 after j left
  | number {b : UInt8} {after left : List UInt8} {j : Json} (hb : isDigit b = true)
    (h : readNumber false (b :: after) = .ok (j, left)) : Reads steps depth b after j left
  | string {after left : List UInt8} {s : String} (h : readString after = .ok (s, left)) :
    Reads steps depth 34 after (.string s) left
  | emptyArray {after left : List UInt8} (hdepth : 1 < depth) (h : skipBlank after = 93 :: left) :
    Reads steps depth 91 after (.array []) left
  | array {after left : List UInt8} {items : List Json} (hdepth : 1 < depth)
    (h : readItems steps (depth - 1) after = .ok (items, left)) : Reads steps depth 91 after (.array items) left
  | emptyObject {after left : List UInt8} (hdepth : 1 < depth) (h : skipBlank after = 125 :: left) :
    Reads steps depth 123 after (.object []) left
  | object {after rest left : List UInt8} {members : List (String × Json)} (hdepth : 1 < depth)
    (hquote : skipBlank after = 34 :: rest) (h : readMembers steps (depth - 1) rest = .ok (members, left)) :
    Reads steps depth 123 after (.ofMembers members) left

theorem reads_of_readValue (h : readValue (steps + 1) depth bytes = .ok (j, left)) :
    ∃ b after, skipBlank bytes = b :: after ∧ Reads steps depth b after j left := by
  rw [readValue] at h
  cases hbytes : skipBlank bytes with
  | nil => rw [hbytes] at h; cases h
  | cons b after =>
    rw [hbytes] at h
    refine ⟨b, after, rfl, ?_⟩
    simp only at h
    split_ifs at h with hnull htrue hfalse hminus hdigit hquote hbracket hdepth hbrace hdepth
    · obtain ⟨left, hword, h⟩ := (map_eq_ok_iff _ _ _).mp h
      cases h
      exact hnull ▸ .null hword
    · obtain ⟨left, hword, h⟩ := (map_eq_ok_iff _ _ _).mp h
      cases h
      exact htrue ▸ .true hword
    · obtain ⟨left, hword, h⟩ := (map_eq_ok_iff _ _ _).mp h
      cases h
      exact hfalse ▸ .false hword
    · exact hminus ▸ .negative h
    · exact .number hdigit h
    · obtain ⟨⟨s, left⟩, hs, h⟩ := (map_eq_ok_iff _ _ _).mp h
      cases h
      exact hquote ▸ .string hs
    · cases hbracket
      have hnested := Nat.lt_of_not_le hdepth
      split at h
      · next hempty =>
        cases h
        exact .emptyArray hnested hempty
      · obtain ⟨⟨items, rest⟩, hitems, h⟩ := bind_eq_ok_iff.mp h
        cases h
        exact .array hnested hitems
    · cases hbrace
      have hnested := Nat.lt_of_not_le hdepth
      split at h
      · next hempty =>
        cases h
        exact .emptyObject hnested hempty
      · cases h
      · next hfirst =>
        obtain ⟨⟨members, rest⟩, hmembers, h⟩ := bind_eq_ok_iff.mp h
        cases h
        exact .object hnested hfirst hmembers
      · cases h

theorem Reads.ne {b : UInt8} {after : List UInt8} (h : Reads steps depth b after j left) : b ≠ 93 := by
  cases h with
  | number hb => exact ne_of_isDigit hb rfl
  | _ => decide

theorem items_of_readItems {items : List Json} (h : readItems (steps + 1) depth bytes = .ok (items, left)) :
    ∃ item mid others, readValue steps depth bytes = .ok (item, mid) ∧ items = item :: others ∧
      (others = [] ∨ ∃ after, readItems steps depth after = .ok (others, left)) := by
  rw [readItems] at h
  split_ifs at h
  obtain ⟨⟨item, mid⟩, hitem, h⟩ := bind_eq_ok_iff.mp h
  refine ⟨item, mid, ?_⟩
  simp only at h
  split at h
  · cases h
  · split_ifs at h
    · cases h
      exact ⟨[], hitem, rfl, .inl rfl⟩
    · split at h
      · cases h
      · split_ifs at h
        obtain ⟨⟨others, rest⟩, hothers, h⟩ := bind_eq_ok_iff.mp h
        cases h
        exact ⟨others, hitem, rfl, .inr ⟨_, hothers⟩⟩

theorem members_of_readMembers {members : List (String × Json)}
    (h : readMembers (steps + 1) depth bytes = .ok (members, left)) :
    ∃ key rest value mid others, readValue steps depth rest = .ok (value, mid) ∧
      members = (key, value) :: others ∧ (others = [] ∨ ∃ after, readMembers steps depth after = .ok (others, left)) := by
  rw [readMembers] at h
  obtain ⟨⟨key, rest⟩, hkey, h⟩ := bind_eq_ok_iff.mp h
  obtain ⟨⟨value, mid⟩, hvalue, h⟩ := bind_eq_ok_iff.mp h
  refine ⟨key, rest, value, mid, ?_⟩
  simp only at h
  split at h
  · cases h
  · split_ifs at h
    · cases h
      exact ⟨[], hvalue, rfl, .inl rfl⟩
    · split at h
      · cases h
      · split_ifs at h
        · obtain ⟨⟨others, rest⟩, hothers, h⟩ := bind_eq_ok_iff.mp h
          cases h
          exact ⟨others, hvalue, rfl, .inr ⟨_, hothers⟩⟩

/-! ### Regular documents -/

/-- **A document with no more than so many nested containers**, with integers of 64 bits and with the members of
every object in order. -/
inductive Regular : Nat → Json → Prop
  | null (depth : Nat) : Regular depth .null
  | bool (depth : Nat) (b : Bool) : Regular depth (.bool b)
  | number {j : Json} (depth : Nat) (h : IsNumber j) : Regular depth j
  | string (depth : Nat) (s : String) : Regular depth (.string s)
  | array {depth : Nat} {items : List Json} (hitems : ∀ j ∈ items, Regular depth j) :
    Regular (depth + 1) (.array items)
  | object {depth : Nat} {members : List (String × Json)} (hascending : Ascending members)
    (hmembers : ∀ m ∈ members, Regular depth m.2) : Regular (depth + 1) (.object members)

mutual

theorem regular_of_readValue : ∀ {steps depth : Nat} {bytes left : List UInt8} {j : Json},
    readValue steps (depth + 1) bytes = .ok (j, left) → Regular depth j
  | 0, _, _, _, _, h => nomatch h
  | steps + 1, depth, bytes, left, j, h => by
    obtain ⟨b, after, -, hreads⟩ := reads_of_readValue h
    have hnested (hdepth : 1 < depth + 1) : ∃ inner, depth = inner + 1 := ⟨depth - 1, by omega⟩
    cases hreads with
    | null => exact .null depth
    | true | false => exact .bool depth _
    | negative h => exact .number depth (isNumber_of_readNumber h)
    | number _ h => exact .number depth (isNumber_of_readNumber h)
    | string => exact .string depth _
    | emptyArray hdepth =>
      obtain ⟨depth, rfl⟩ := hnested hdepth
      exact .array fun j hj => absurd hj List.not_mem_nil
    | array hdepth h =>
      obtain ⟨depth, rfl⟩ := hnested hdepth
      exact .array (regular_of_readItems h)
    | emptyObject hdepth =>
      obtain ⟨depth, rfl⟩ := hnested hdepth
      exact .object .nil fun m hm => absurd hm List.not_mem_nil
    | object hdepth _ h =>
      obtain ⟨depth, rfl⟩ := hnested hdepth
      obtain ⟨ordered, heq, hascending, hmem⟩ := ofMembers_eq_object _
      rw [heq]
      exact .object hascending fun m hm => regular_of_readMembers h m (hmem m hm)

theorem regular_of_readItems : ∀ {steps depth : Nat} {bytes left : List UInt8} {items : List Json},
    readItems steps (depth + 1) bytes = .ok (items, left) → ∀ j ∈ items, Regular depth j
  | 0, _, _, _, _, h => nomatch h
  | steps + 1, depth, bytes, left, items, h => by
    obtain ⟨item, mid, others, hitem, rfl, hothers⟩ := items_of_readItems h
    refine List.forall_mem_cons.mpr ⟨regular_of_readValue hitem, ?_⟩
    rcases hothers with rfl | ⟨after, hothers⟩
    · exact fun j hj => absurd hj List.not_mem_nil
    · exact regular_of_readItems hothers

theorem regular_of_readMembers : ∀ {steps depth : Nat} {bytes left : List UInt8} {members : List (String × Json)},
    readMembers steps (depth + 1) bytes = .ok (members, left) → ∀ m ∈ members, Regular depth m.2
  | 0, _, _, _, _, h => nomatch h
  | steps + 1, depth, bytes, left, members, h => by
    obtain ⟨key, rest, value, mid, others, hvalue, rfl, hothers⟩ := members_of_readMembers h
    refine List.forall_mem_cons.mpr ⟨regular_of_readValue hvalue, ?_⟩
    rcases hothers with rfl | ⟨after, hothers⟩
    · exact fun j hj => absurd hj List.not_mem_nil
    · exact regular_of_readMembers hothers

end

/-- **What is read is regular.** -/
theorem regular_of_parseBytes (h : parseBytes bytes = .ok j) : Regular 127 j := by
  unfold parseBytes at h
  split at h
  · cases h
  · next hvalue =>
    split at h
    · cases h
      exact regular_of_readValue hvalue
    · cases h

end TableGateway.Json
