import TableGateway.Proofs.Json.Regular
import TableGateway.Proofs.Number.Binary

/-! # Printed documents are read back

A document that was read, printed and read again is the same document, as far as its floating-point numbers
allow: the reader applies a power of ten by rounding, and so it gives back the shortest decimal of most numbers
but not of all.

* `Binary64.ReadsBack` : a floating-point number that is read back as a document of its own
* `Json.exists_not_readsBack` : not every number is one of them
* `Json.HasFloat` : a floating-point number somewhere in a document
* `Json.Regular.parseBytes_text` : a document is read back if all its floating-point numbers are
* `Json.same_self` : a document without an undefined number is equal to itself -/

namespace TableGateway

open TableGateway.Number

/-- **A number that is read back from its text.** -/
def Number.Binary64.ReadsBack (x : Binary64) : Prop := Json.parse (Json.text (.float x)) = .ok (.float x)

namespace Json

/-- **A floating-point number in a document.** -/
inductive HasFloat (x : Binary64) : Json → Prop
  | float : HasFloat x (.float x)
  | item {items : List Json} {j : Json} (hj : j ∈ items) (h : HasFloat x j) : HasFloat x (.array items)
  | member {members : List (String × Json)} {m : String × Json} (hm : m ∈ members) (h : HasFloat x m.2) :
    HasFloat x (.object members)

/-! ### Blanks -/

variable {bytes after left rest : List UInt8} {b : UInt8} {j : Json}

theorem skipBlank_append (h : skipBlank bytes = b :: after) : skipBlank (bytes ++ rest) = b :: (after ++ rest) := by
  unfold skipBlank at h ⊢
  rw [List.dropWhile_append, h]
  rfl

theorem Ends.skipBlank_append (hrest : Ends rest) (h : skipBlank left = []) : skipBlank (left ++ rest) = rest := by
  have hrest' := hrest.skipBlank_eq
  unfold skipBlank at h hrest' ⊢
  rw [List.dropWhile_append, h]
  exact hrest'

/-! ### Numbers -/

variable {steps depth : Nat} {x : Binary64}

theorem readValue_minus (h : skipBlank bytes = 45 :: after) :
    readValue (steps + 1) depth bytes = readNumber true after := by
  rw [readValue, h]
  rfl

theorem readValue_digit (hb : isDigit b = true) (h : skipBlank bytes = b :: after) :
    readValue (steps + 1) depth bytes = readNumber false (b :: after) := by
  have hne (c : UInt8) (hc : isDigit c = false) : b ≠ c := ne_of_isDigit hb hc
  rw [readValue, h]
  simp only [if_neg (hne 110 rfl), if_neg (hne 116 rfl), if_neg (hne 102 rfl), if_neg (hne 45 rfl), if_pos hb]

theorem skipBlank_digit (hb : isDigit b = true) : skipBlank (b :: after) = b :: after := by
  have hne (c : UInt8) (hc : isDigit c = false) : b ≠ c := ne_of_isDigit hb hc
  simp [skipBlank, isBlank, hne 32 rfl, hne 10 rfl, hne 9 rfl, hne 13 rfl]

/-- **An integer is read back.** -/
theorem readValue_integer (hrest : Ends rest) {n : Int} (hlow : -2 ^ 63 ≤ n) (hhigh : n < 2 ^ 64) :
    readValue (steps + 1) depth (bytesOf (print (.integer n)) ++ rest) = .ok (.integer n, rest) := by
  have hprint : print (.integer n) = n.repr.toList := by rw [print]; rfl
  rw [hprint, Int.repr_eq_if]
  split_ifs with hsign
  · obtain ⟨m, rfl⟩ := Int.eq_ofNat_of_zero_le hsign
    rw [Int.toNat_natCast, Nat.toList_repr]
    have hnumber := readNumber_toDigits hrest false (show m < 2 ^ 64 by omega)
    obtain ⟨b, after, hbytes, hb⟩ := exists_bytesOf_toDigits m
    rw [hbytes] at hnumber ⊢
    rw [List.cons_append, readValue_digit hb (skipBlank_digit hb)]
    exact hnumber
  · obtain ⟨m, rfl⟩ := Int.exists_eq_neg_ofNat (Int.le_of_lt (Int.not_le.mp hsign))
    have hmake : makeInteger true m = .integer (-m) := by
      have hpow : Int.pow 2 63 = 2 ^ 63 := rfl
      rw [makeInteger, if_neg (by simp), if_pos (by omega)]
    rw [Int.neg_neg, Int.toNat_natCast, String.toList_append, Nat.toList_repr, bytesOf_append, List.append_assoc]
    change readValue (steps + 1) depth (45 :: (bytesOf (Nat.toDigits 10 m) ++ rest)) = _
    rw [readValue_minus rfl, readNumber_toDigits hrest true (by omega), hmake]

/-- **A floating-point number that is read back is read back wherever it stands.** -/
theorem exists_readValue_float (hx : x.ReadsBack) (hrest : Ends rest) :
    ∃ left, readValue (steps + 1) depth (bytesOf (printFloat x) ++ rest) = .ok (.float x, left) ∧
      skipBlank left = rest := by
  have hparse : parseBytes (bytesOf (printFloat x)) = .ok (.float x) := by
    rw [← utf8_ofList]
    exact hx
  unfold parseBytes at hparse
  split at hparse
  · cases hparse
  next j left hvalue =>
  split at hparse
  · next hleft =>
    cases hparse
    obtain ⟨b, after, hbytes, hreads⟩ := reads_of_readValue hvalue
    refine ⟨left ++ rest, ?_, hrest.skipBlank_append hleft⟩
    cases hreads with
    | negative h => rw [readValue_minus (skipBlank_append hbytes), readNumber_append hrest h]
    | number hb h =>
      rw [readValue_digit hb (skipBlank_append hbytes), ← List.cons_append, readNumber_append hrest h]
  · cases hparse

theorem parseBytes_of_readValue (h : readValue (2 * bytes.length + 2) 128 bytes = .ok (j, left))
    (hleft : skipBlank left = []) : parseBytes bytes = .ok j := by
  rw [parseBytes, h]
  simp only [hleft]

theorem parse_text_float {y : Binary64} {digits : Nat} {exponent : Int} (hbytes : bytesOf (printFloat x) = b :: bytes)
    (hb : isDigit b = true) (hnumber : readNumber false (b :: bytes) = makeFloat false digits exponent [])
    (hscaled : scaled? digits exponent = some y) : parse (text (.float x)) = .ok (.float y) := by
  have hvalue : readNumber false (b :: bytes) = .ok (.float y, []) := by
    rw [hnumber, makeFloat, hscaled]
    rfl
  rw [parse, text, utf8_ofList, print, hbytes]
  exact parseBytes_of_readValue (by rw [readValue_digit hb (skipBlank_digit hb), hvalue]) rfl

/-- **Not every number is read back**: one eleventh is not. -/
theorem exists_not_readsBack : ∃ x : Binary64, x.isFinite = true ∧ ¬ x.ReadsBack := by
  refine ⟨⟨4591215111030249286⟩, by decide, fun hback => ?_⟩
  have hprint : printFloat ⟨4591215111030249286⟩ = "0.09090909090909091".toList := by decide +kernel
  have hscaled : scaled? 9090909090909091 (-17) = some ⟨4591215111030249287⟩ := by decide +kernel
  have hparse := parse_text_float (by rw [hprint]; rfl) rfl rfl hscaled
  rw [Binary64.ReadsBack, hparse] at hback
  cases hback

/-! ### Items and members -/

variable {mid : List UInt8} {key : String}

theorem head_of_readValue (h : readValue steps depth bytes = .ok (j, left)) :
    ∃ b after, skipBlank bytes = b :: after ∧ b ≠ 93 := by
  cases steps with
  | zero => cases h
  | succ steps =>
    obtain ⟨b, after, hbytes, hreads⟩ := reads_of_readValue h
    exact ⟨b, after, hbytes, hreads.ne⟩

theorem readItems_last (hvalue : readValue steps depth bytes = .ok (j, mid)) (hmid : skipBlank mid = 93 :: rest) :
    readItems (steps + 1) depth bytes = .ok ([j], rest) := by
  obtain ⟨b, after, hbytes, -⟩ := head_of_readValue hvalue
  rw [readItems, hbytes, hvalue]
  simp only [bind, Except.bind, hmid]
  rfl

theorem readItems_next {items : List Json} (hvalue : readValue steps depth bytes = .ok (j, mid))
    (hmid : skipBlank mid = 44 :: after) (hnext : b ≠ 93) (hafter : skipBlank after = b :: left)
    (hitems : readItems steps depth after = .ok (items, rest)) :
    readItems (steps + 1) depth bytes = .ok (j :: items, rest) := by
  obtain ⟨c, after', hbytes, -⟩ := head_of_readValue hvalue
  rw [readItems, hbytes, hvalue]
  simp only [bind, Except.bind, hmid, hafter, if_neg hnext, hitems]
  rfl

theorem readMembers_last (hkey : readKey bytes = .ok (key, after)) (hvalue : readValue steps depth after = .ok (j, mid))
    (hmid : skipBlank mid = 125 :: rest) : readMembers (steps + 1) depth bytes = .ok ([(key, j)], rest) := by
  rw [readMembers, hkey]
  simp only [bind, Except.bind, hvalue, hmid]
  rfl

theorem readMembers_next {members : List (String × Json)} (hkey : readKey bytes = .ok (key, after))
    (hvalue : readValue steps depth after = .ok (j, mid)) (hmid : skipBlank mid = 44 :: 34 :: left)
    (hmembers : readMembers steps depth left = .ok (members, rest)) :
    readMembers (steps + 1) depth bytes = .ok ((key, j) :: members, rest) := by
  have hquote : skipBlank (34 :: left) = 34 :: left := rfl
  rw [readMembers, hkey]
  simp only [bind, Except.bind, hvalue, hmid, hquote, hmembers]
  rfl

/-! ### Containers -/

/-- **A document is read back wherever it stands**, in little more steps than twice its length. What follows it
is left, perhaps with blanks in front. -/
def IsReadBack (depth : Nat) (j : Json) : Prop :=
  ∀ (steps : Nat) (rest : List UInt8), 2 * (bytesOf j.print).length < steps → Ends rest →
    ∃ left, readValue steps depth (bytesOf j.print ++ rest) = .ok (j, left) ∧ skipBlank left = rest

/-- One step is enough to begin with, and most documents leave no blanks. -/
theorem isReadBack_of_eq (h : ∀ {steps rest}, 2 * (bytesOf j.print).length ≤ steps → Ends rest →
    readValue (steps + 1) depth (bytesOf j.print ++ rest) = .ok (j, rest)) : IsReadBack depth j := by
  rintro (_ | steps) rest hsteps hrest
  · exact absurd hsteps (Nat.not_lt_zero _)
  · exact ⟨rest, h (Nat.le_of_lt_succ hsteps) hrest, hrest.skipBlank_eq⟩

theorem IsReadBack.head (h : IsReadBack depth j) (hrest : Ends rest) :
    ∃ b after, skipBlank (bytesOf j.print ++ rest) = b :: after ∧ b ≠ 93 := by
  obtain ⟨left, hvalue, -⟩ := h _ rest (Nat.lt_succ_self _) hrest
  exact head_of_readValue hvalue

theorem bytesOf_printItems_nil : bytesOf (printItems []) = [93] := by rw [printItems]; rfl

theorem bytesOf_printItems_cons (item : Json) (items : List Json) :
    bytesOf (printItems (item :: items)) = 44 :: bytesOf (print item ++ printItems items) := by rw [printItems]; rfl

theorem ends_printItems (items : List Json) (rest : List UInt8) : Ends (bytesOf (printItems items) ++ rest) := by
  cases items with
  | nil => rw [bytesOf_printItems_nil]; rintro b ⟨⟩; exact .inr (.inl rfl)
  | cons item items => rw [bytesOf_printItems_cons]; rintro b ⟨⟩; exact .inl rfl

/-- **Printed items are read back**, up to the closing bracket, if each of them is. -/
theorem readItems_print (hrest : Ends rest) : ∀ {items : List Json} {item : Json} {steps : Nat},
    (∀ j ∈ item :: items, IsReadBack depth j) → 2 * (bytesOf (print item ++ printItems items)).length < steps →
      readItems steps depth (bytesOf (print item ++ printItems items) ++ rest) = .ok (item :: items, rest)
  | _, _, 0, _, hsteps => absurd hsteps (Nat.not_lt_zero _)
  | items, item, steps + 1, h, hsteps => by
    obtain ⟨hitem, hitems⟩ := List.forall_mem_cons.mp h
    rw [bytesOf_append, List.length_append] at hsteps
    rw [bytesOf_append, List.append_assoc]
    cases items with
    | nil =>
      rw [bytesOf_printItems_nil, List.length_singleton] at hsteps
      obtain ⟨left, hvalue, hleft⟩ := hitem steps _ (by omega) (ends_printItems [] rest)
      rw [bytesOf_printItems_nil] at hleft
      exact readItems_last hvalue hleft
    | cons next items =>
      rw [bytesOf_printItems_cons, List.length_cons] at hsteps
      obtain ⟨left, hvalue, hleft⟩ := hitem steps _ (by omega) (ends_printItems (next :: items) rest)
      obtain ⟨b, after, hhead, hb⟩ := (hitems next List.mem_cons_self).head (ends_printItems items rest)
      rw [← List.append_assoc, ← bytesOf_append] at hhead
      rw [bytesOf_printItems_cons] at hleft
      exact readItems_next hvalue hleft hb hhead (readItems_print hrest hitems (by omega))

theorem bytesOf_printString (s : String) :
    bytesOf (printString s) = 34 :: (bytesOf (s.toList.flatMap escape) ++ [34]) := by
  rw [printString, List.cons_append, bytesOf_cons, bytesOf_append]
  rfl

theorem readKey_print (key : String) (rest : List UInt8) :
    readKey (bytesOf (key.toList.flatMap escape) ++ 34 :: 58 :: rest) = .ok (key, rest) := by
  rw [readKey, readString_eq]
  rfl

/-- A member after its opening quote, and the members after it. -/
def printFrom (member : String × Json) (members : List (String × Json)) : List UInt8 :=
  bytesOf (member.1.toList.flatMap escape) ++ 34 :: 58 :: (bytesOf member.2.print ++ bytesOf (printMembers members))

theorem bytesOf_printMembers_nil : bytesOf (printMembers []) = [125] := by rw [printMembers]; rfl

theorem bytesOf_printMember (member : String × Json) (members : List (String × Json)) :
    bytesOf (printString member.1 ++ ':' :: (print member.2 ++ printMembers members)) =
      34 :: printFrom member members := by
  have hcolon : String.utf8EncodeChar ':' = [58] := rfl
  simp [printFrom, bytesOf_printString, hcolon]

theorem bytesOf_printMembers_cons (member : String × Json) (members : List (String × Json)) :
    bytesOf (printMembers (member :: members)) = 44 :: 34 :: printFrom member members := by
  rw [printMembers, bytesOf_cons, bytesOf_printMember]
  rfl

theorem ends_printMembers (members : List (String × Json)) (rest : List UInt8) :
    Ends (bytesOf (printMembers members) ++ rest) := by
  cases members with
  | nil => rw [bytesOf_printMembers_nil]; rintro b ⟨⟩; exact .inr (.inr rfl)
  | cons member members => rw [bytesOf_printMembers_cons]; rintro b ⟨⟩; exact .inl rfl

/-- **Printed members are read back**, up to the closing brace, if each of their values is. -/
theorem readMembers_print (hrest : Ends rest) :
    ∀ {members : List (String × Json)} {member : String × Json} {steps : Nat},
    (∀ m ∈ member :: members, IsReadBack depth m.2) → 2 * (printFrom member members).length < steps →
      readMembers steps depth (printFrom member members ++ rest) = .ok (member :: members, rest)
  | _, _, 0, _, hsteps => absurd hsteps (Nat.not_lt_zero _)
  | members, member, steps + 1, h, hsteps => by
    obtain ⟨hmember, hmembers⟩ := List.forall_mem_cons.mp h
    have hkey := readKey_print member.1 (bytesOf member.2.print ++ (bytesOf (printMembers members) ++ rest))
    simp only [printFrom, List.length_append, List.length_cons] at hsteps
    simp only [printFrom, List.append_assoc, List.cons_append]
    cases members with
    | nil =>
      rw [bytesOf_printMembers_nil, List.length_singleton] at hsteps
      obtain ⟨left, hvalue, hleft⟩ := hmember steps _ (by omega) (ends_printMembers [] rest)
      rw [bytesOf_printMembers_nil] at hleft
      exact readMembers_last hkey hvalue hleft
    | cons next members =>
      rw [bytesOf_printMembers_cons, List.length_cons, List.length_cons] at hsteps
      obtain ⟨left, hvalue, hleft⟩ := hmember steps _ (by omega) (ends_printMembers (next :: members) rest)
      rw [bytesOf_printMembers_cons] at hleft
      exact readMembers_next hkey hvalue hleft (readMembers_print hrest hmembers (by omega))

/-! ### Documents -/

theorem readValue_string {s : String} (h : readString bytes = .ok (s, rest)) :
    readValue (steps + 1) depth (34 :: bytes) = .ok (.string s, rest) := by
  have hbytes : skipBlank (34 :: bytes) = 34 :: bytes := rfl
  rw [readValue, hbytes]
  simp +decide only [↓reduceIte, h]
  rfl

theorem readValue_array {items : List Json} (h : readItems steps (depth + 1) bytes = .ok (items, rest))
    (hhead : skipBlank bytes = b :: after) (hb : b ≠ 93) :
    readValue (steps + 1) (depth + 2) (91 :: bytes) = .ok (.array items, rest) := by
  have hbytes : skipBlank (91 :: bytes) = 91 :: bytes := rfl
  have hdepth : ¬ depth + 2 ≤ 1 := by omega
  have hnext : depth + 2 - 1 = depth + 1 := rfl
  rw [readValue, hbytes]
  simp +decide only [↓reduceIte, hdepth, hnext, h]
  split
  · next hempty =>
    rw [hhead] at hempty
    exact absurd (List.cons.inj hempty).1 hb
  · rfl

theorem readValue_object {members : List (String × Json)}
    (h : readMembers steps (depth + 1) bytes = .ok (members, rest)) :
    readValue (steps + 1) (depth + 2) (123 :: 34 :: bytes) = .ok (.ofMembers members, rest) := by
  have hbytes : skipBlank (123 :: 34 :: bytes) = 123 :: 34 :: bytes := rfl
  have hquote : skipBlank (34 :: bytes) = 34 :: bytes := rfl
  have hdepth : ¬ depth + 2 ≤ 1 := by omega
  have hnext : depth + 2 - 1 = depth + 1 := rfl
  rw [readValue, hbytes]
  simp +decide only [↓reduceIte, hdepth, hnext, hquote, h]
  rfl

theorem isReadBack_array {items : List Json} (h : ∀ j ∈ items, IsReadBack (depth + 1) j) :
    IsReadBack (depth + 2) (.array items) := by
  refine isReadBack_of_eq @fun steps rest hsteps hrest => ?_
  cases items with
  | nil => rw [print]; rfl
  | cons item items =>
    have hprint : bytesOf (print (.array (item :: items))) = 91 :: bytesOf (print item ++ printItems items) := by
      rw [print]
      rfl
    rw [hprint, List.length_cons] at hsteps
    obtain ⟨b, after, hhead, hb⟩ := (h item List.mem_cons_self).head (ends_printItems items rest)
    rw [← List.append_assoc, ← bytesOf_append] at hhead
    rw [hprint]
    exact readValue_array (readItems_print hrest h (by omega)) hhead hb

theorem isReadBack_object {members : List (String × Json)} (hascending : Ascending members)
    (h : ∀ m ∈ members, IsReadBack (depth + 1) m.2) : IsReadBack (depth + 2) (.object members) := by
  refine isReadBack_of_eq @fun steps rest hsteps hrest => ?_
  cases members with
  | nil => rw [print]; rfl
  | cons member members =>
    have hprint : bytesOf (print (.object (member :: members))) = 123 :: 34 :: printFrom member members := by
      rw [print, bytesOf_cons, bytesOf_printMember]
      rfl
    rw [hprint, List.length_cons, List.length_cons] at hsteps
    rw [hprint, ← hascending.ofMembers_eq]
    exact readValue_object (readMembers_print hrest h (by omega))

/-- **A regular document is read back wherever it stands** if all its floating-point numbers are. -/
theorem Regular.isReadBack (h : Regular depth j) (hfloat : ∀ x, HasFloat x j → x.ReadsBack) :
    IsReadBack (depth + 1) j := by
  -- the reader counts one container more than there may be, so that it stops before the last of them
  induction h with
  | null depth => exact isReadBack_of_eq fun _ _ => by rw [print]; rfl
  | bool depth b => exact isReadBack_of_eq fun _ _ => by cases b <;> rw [print] <;> rfl
  | number depth h =>
    obtain ⟨x, rfl⟩ | ⟨n, rfl, hlow, hhigh⟩ := h
    · rintro (_ | steps) rest hsteps hrest
      · exact absurd hsteps (Nat.not_lt_zero _)
      · rw [print]
        exact exists_readValue_float (hfloat x .float) hrest
    · exact isReadBack_of_eq fun _ hrest => readValue_integer hrest hlow hhigh
  | string depth s =>
    refine isReadBack_of_eq @fun steps rest _ _ => ?_
    rw [print, bytesOf_printString, List.cons_append, List.append_assoc]
    exact readValue_string (readString_eq s rest)
  | array hitems ih => exact isReadBack_array fun j hj => ih j hj fun x hx => hfloat x (.item hj hx)
  | object hascending hmembers ih =>
    exact isReadBack_object hascending fun m hm => ih m hm fun x hx => hfloat x (.member hm hx)

/-- **A document is read back from its text** if it can be read at all and all its floating-point numbers are
read back. -/
theorem Regular.parseBytes_text (h : Regular 127 j) (hfloat : ∀ x, HasFloat x j → x.ReadsBack) :
    parseBytes (Text.utf8 j.text) = .ok j := by
  obtain ⟨left, hvalue, hleft⟩ := h.isReadBack hfloat (2 * (bytesOf j.print).length + 2) [] (by omega) nofun
  rw [List.append_nil] at hvalue
  rw [text, utf8_ofList]
  exact parseBytes_of_readValue hvalue hleft

/-! ### Equality -/

theorem parse_null : parse "null" = .ok .null := rfl

theorem isNaN_eq_false_of_readsBack (h : x.ReadsBack) : x.isNaN = false := by
  by_contra hnan
  have hfinite : ¬ x.isFinite = true := by
    simp [Binary64.isFinite, Binary64.isNaN] at hnan ⊢
    omega
  have htext : text (.float x) = "null" := by
    rw [text, print, printFloat, if_neg hfinite]
    rfl
  rw [Binary64.ReadsBack, htext, parse_null] at h
  cases h

mutual

/-- **A document without an undefined number is equal to itself.** -/
theorem same_self : ∀ (j : Json), (∀ x, HasFloat x j → x.isNaN = false) → j.same j = true
  | .null, _ => rfl
  | .bool b, _ => beq_self_eq_true b
  | .integer n, _ => beq_self_eq_true n
  | .float x, h => Binary64.same_self (h x .float)
  | .string s, _ => beq_self_eq_true s
  | .array items, h => sameItems_self items fun x _ hj hx => h x (.item hj hx)
  | .object members, h => sameMembers_self members fun x _ hm hx => h x (.member hm hx)

theorem sameItems_self : ∀ (items : List Json), (∀ x, ∀ j ∈ items, HasFloat x j → x.isNaN = false) →
    sameItems items items = true
  | [], _ => rfl
  | item :: items, h => by
    rw [sameItems, same_self item fun x => h x item List.mem_cons_self,
      sameItems_self items fun x j hj => h x j (List.mem_cons_of_mem item hj)]
    rfl

theorem sameMembers_self : ∀ (members : List (String × Json)),
    (∀ x, ∀ m ∈ members, HasFloat x m.2 → x.isNaN = false) → sameMembers members members = true
  | [], _ => rfl
  | (key, value) :: members, h => by
    rw [sameMembers, same_self value fun x => h x (key, value) List.mem_cons_self,
      sameMembers_self members fun x m hm => h x m (List.mem_cons_of_mem _ hm), beq_self_eq_true]
    rfl

end

end Json

end TableGateway
