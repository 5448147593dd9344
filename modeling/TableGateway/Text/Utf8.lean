/-! # Texts as bytes

The UTF-8 form of a text as a list of bytes, the number of its bytes, and where a text can be cut after a
number of bytes.

* `ofUtf8?_utf8` : a text is read back from its bytes
* `utf8_of_ofUtf8?` : bytes that are read as a text are the bytes of that text
* `lastCut` : the last place for a cut, looked for backwards
* `lastCut_le`, `le_lastCut` : it is within the bytes that were asked for, and no later place is -/

namespace TableGateway.Text

/-- The UTF-8 form of a text. -/
def utf8 (s : String) : List UInt8 := s.toUTF8.data.toList

/-- The text with the given UTF-8 form, if there is one. -/
def ofUtf8? (bytes : List UInt8) : Option String := String.fromUTF8? ⟨bytes.toArray⟩

theorem ofUtf8?_utf8 (s : String) : ofUtf8? (utf8 s) = some s := by
  simp [ofUtf8?, utf8, String.fromUTF8?, String.fromUTF8, s.isValidUTF8]

theorem utf8_of_ofUtf8? {bytes : List UInt8} {s : String} (h : ofUtf8? bytes = some s) :
    utf8 s = bytes := by
  simp only [ofUtf8?, String.fromUTF8?] at h
  split at h
  · simp only [Option.some.injEq] at h
    subst h
    simp [utf8, String.fromUTF8]
  · simp at h

/-- The number of bytes of a list of characters. -/
def byteLength : List Char → Nat
  | [] => 0
  | c :: cs => c.utf8Size + byteLength cs

@[simp] theorem byteLength_nil : byteLength [] = 0 := rfl

@[simp] theorem byteLength_cons (c : Char) (cs : List Char) :
    byteLength (c :: cs) = c.utf8Size + byteLength cs := rfl

theorem byteLength_append (cs ds : List Char) :
    byteLength (cs ++ ds) = byteLength cs + byteLength ds := by
  induction cs with
  | nil => simp
  | cons c cs ih => rw [List.cons_append, byteLength_cons, byteLength_cons, ih, Nat.add_assoc]

/-- **The last place at which a text can be cut** after at most so many bytes. A place that is out of bounds or
within a character is none, and the one before it is tried. -/
def lastCut (s : String) : Nat → s.Pos
  | 0 => s.startPos
  | n + 1 => if h : String.Pos.Raw.IsValid s ⟨n + 1⟩ then ⟨⟨n + 1⟩, h⟩ else lastCut s n

theorem lastCut_le (s : String) : ∀ n, (lastCut s n).offset.byteIdx ≤ n
  | 0 => Nat.le_refl 0
  | n + 1 => by
    unfold lastCut
    split
    · exact Nat.le_refl (n + 1)
    · exact Nat.le_succ_of_le (lastCut_le s n)

theorem le_lastCut {s : String} {k : Nat} (hk : String.Pos.Raw.IsValid s ⟨k⟩) :
    ∀ {n}, k ≤ n → k ≤ (lastCut s n).offset.byteIdx
  | 0, hle => hle
  | n + 1, hle => by
    unfold lastCut
    split
    · exact hle
    · next h =>
      -- the place that was tried is no place for a cut, so it is not `k`
      have hne : k ≠ n + 1 := fun he => h (he ▸ hk)
      exact le_lastCut hk (by omega)

end TableGateway.Text
