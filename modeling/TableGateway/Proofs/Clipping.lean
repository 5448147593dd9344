import Mathlib.Data.List.Basic
import TableGateway.Gateway.Hook

/-! # Texts cut for the log

The log shows at most so many bytes of a text. A cut must not fall within a character, so the place for it is
looked for backwards from the last byte that is allowed. What is found is the longest head of the text that fits,
and as no character has more than four bytes it is at most three bytes short of the limit.

* `LongestHead` : the longest head of a text that fits, said without the search
* `longestHead_head` : what the search finds
* `Logged` : how a text is logged, as it is or cut and marked
* `clip_eq_self_iff` : when a text reads the same in the log
* `clip_exact` : what the log shows of every text
* `markedText_unchanged` : a text that does not fit may read the same when it is cut -/

namespace TableGateway

variable {n : ℕ} {s t t' : String}

/-! ### Heads of a text -/

/-- **The longest head of a text that fits** in a number of bytes. A head is a text itself, so that it ends between
two characters. -/
structure LongestHead (n : ℕ) (s t : String) : Prop where
  isHead : ∃ rest, s = t ++ rest
  fits : t.utf8ByteSize ≤ n
  /-- No head that fits has more bytes. -/
  longest : ∀ u rest, s = u ++ rest → u.utf8ByteSize ≤ n → u.utf8ByteSize ≤ t.utf8ByteSize

namespace LongestHead

/-- There is only one longest head, as two heads with equally many bytes are the same. -/
theorem unique (h : LongestHead n s t) (h' : LongestHead n s t') : t = t' := by
  obtain ⟨rest, hrest⟩ := h.isHead
  obtain ⟨rest', hrest'⟩ := h'.isHead
  have hle := h'.longest t rest hrest h.fits
  have hge := h.longest t' rest' hrest' h'.fits
  have hbytes : t.toByteArray ++ rest.toByteArray = t'.toByteArray ++ rest'.toByteArray := by
    rw [← String.toByteArray_append, ← String.toByteArray_append, ← hrest, ← hrest']
  exact String.toByteArray_inj.mp (ByteArray.append_inj_left hbytes (Nat.le_antisymm hle hge))

/-- **At most three bytes are given up**: the next character would not have fitted, and it has at most four. -/
theorem close (h : LongestHead n s t) (hlong : n < s.utf8ByteSize) : n ≤ t.utf8ByteSize + 3 := by
  obtain ⟨rest, rfl⟩ := h.isHead
  rcases hrest : rest.toList with _ | ⟨c, cs⟩
  · have hempty : rest = "" := String.toList_eq_nil_iff.mp hrest
    have hfits := h.fits
    rw [hempty, String.append_empty] at hlong
    omega
  · have hcons : rest = String.singleton c ++ String.ofList cs := by
      rw [← String.ofList_cons, ← hrest, String.ofList_toList]
    have hsize : (t ++ String.singleton c).utf8ByteSize = t.utf8ByteSize + c.utf8Size := by
      rw [String.utf8ByteSize_append, String.utf8ByteSize_singleton]
    have hlongest := h.longest (t ++ String.singleton c) (String.ofList cs)
      (by rw [hcons, String.append_assoc])
    have hpos := c.utf8Size_pos
    have hfour := c.utf8Size_le_four
    omega

/-- What comes before the last place for a cut is the longest head, as a text can be cut after each of its heads. -/
theorem of_splits {p : s.Pos} {rest : String} (h : p.Splits t rest) (hle : p.offset.byteIdx ≤ n)
    (hlast : ∀ k ≤ n, String.Pos.Raw.IsValid s ⟨k⟩ → k ≤ p.offset.byteIdx) : LongestHead n s t := by
  have hsize : p.offset.byteIdx = t.utf8ByteSize := congrArg String.Pos.Raw.byteIdx h.offset_eq_rawEndPos
  rw [hsize] at hle hlast
  refine ⟨⟨rest, h.eq_append⟩, hle, ?_⟩
  intro u rest' hu hfits
  exact hlast u.utf8ByteSize hfits (String.Pos.Raw.isValid_iff_exists_append.mpr ⟨u, rest', hu, rfl⟩)

end LongestHead

/-- **What the search finds** is the longest head that fits, whatever the limit is. -/
theorem longestHead_head (n : ℕ) (s : String) : LongestHead n s (head n s) := by
  unfold head
  split
  · next hfits =>
    refine ⟨⟨"", String.append_empty.symm⟩, hfits, ?_⟩
    rintro u rest rfl -
    rw [String.utf8ByteSize_append]
    exact Nat.le_add_right _ _
  · exact .of_splits (Text.lastCut s n).splits (Text.lastCut_le s n) fun k hk hplace => Text.le_lastCut hplace hk

theorem head_eq_self_iff : head n s = s ↔ s.utf8ByteSize ≤ n := by
  constructor
  · intro h
    have hfits := (longestHead_head n s).fits
    rwa [h] at hfits
  · exact fun h => if_pos h

/-! ### The log -/

/-- **A text that fits**, because there is no limit or it does not have more bytes. -/
def Fits (limit : Option ℕ) (s : String) : Prop := limit = none ∨ ∃ n, limit = some n ∧ s.utf8ByteSize ≤ n

/-- **How a text is logged**: as it is if it fits, and else its longest head that fits, marked with three points. -/
inductive Logged (limit : Option ℕ) (s : String) : String → Prop
  | whole (h : Fits limit s) : Logged limit s s
  | cut {n : ℕ} {t : String} (hlimit : limit = some n) (hlong : n < s.utf8ByteSize) (ht : LongestHead n s t) :
    Logged limit s (t ++ "...")

theorem logged_iff {limit : Option ℕ} {s out : String} : Logged limit s out ↔ clip limit s = out := by
  constructor
  · intro h
    cases h with
    | whole h =>
      rcases h with rfl | ⟨n, rfl, hfits⟩
      · rfl
      · exact if_neg (Nat.not_lt.mpr hfits)
    | @cut n t hlimit hlong ht =>
      subst hlimit
      rw [ht.unique (longestHead_head n s)]
      exact if_pos hlong
  · rintro rfl
    unfold clip
    cases limit with
    | none => exact .whole (.inl rfl)
    | some n =>
      dsimp only
      split
      · next hlong => exact .cut rfl hlong (longestHead_head n s)
      · next hlong => exact .whole (.inr ⟨n, rfl, Nat.not_lt.mp hlong⟩)

theorem clip_eq_self_iff {limit : Option ℕ} :
    clip limit s = s ↔ Fits limit s ∨ ∃ n, limit = some n ∧ s = head n s ++ "..." := by
  rcases limit with _ | n
  · exact iff_of_true rfl (.inl (.inl rfl))
  rcases Nat.lt_or_ge n s.utf8ByteSize with hlong | hfits
  · have hcut : clip (some n) s = head n s ++ "..." := if_pos hlong
    rw [hcut]
    constructor
    · exact fun h => .inr ⟨n, rfl, h.symm⟩
    · rintro ((hnone | ⟨_, ⟨⟩, hfits⟩) | ⟨_, ⟨⟩, h⟩)
      · cases hnone
      · omega
      · exact h.symm
  · have hwhole : Fits (some n) s := .inr ⟨n, rfl, hfits⟩
    exact iff_of_true (logged_iff.mp (.whole hwhole)) (.inl hwhole)

/-- **What the log shows of a text.** -/
structure ClipsExactly (limit : Option ℕ) (s : String) : Prop where
  /-- Cutting gives the longest head that fits, for every number of bytes. -/
  cut : ∀ n, LongestHead n s (head n s)
  /-- Nothing is taken away just where the text fits. -/
  whole_iff : ∀ n, head n s = s ↔ s.utf8ByteSize ≤ n
  /-- At most three bytes are taken away that would have fitted. -/
  close : ∀ n, n < s.utf8ByteSize → n ≤ (head n s).utf8ByteSize + 3
  /-- The text is logged as it is just if it fits, and in any other case cut and marked. -/
  logged_iff : ∀ out, clip limit s = out ↔ Logged limit s out
  /-- Only a text whose end is taken away and is the mark reads the same although it does not fit. -/
  unchanged_iff : clip limit s = s ↔ Fits limit s ∨ ∃ n, limit = some n ∧ s = head n s ++ "..."

theorem clip_exact (limit : Option ℕ) (s : String) : ClipsExactly limit s where
  cut n := longestHead_head n s
  whole_iff _ := head_eq_self_iff
  close n := (longestHead_head n s).close
  logged_iff _ := logged_iff.symm
  unchanged_iff := clip_eq_self_iff

/-- **A text that ends like one that was cut**: it does not fit, and it reads the same when it is cut. -/
theorem markedText_unchanged : clip (some 3) "abc..." = "abc..." ∧ ¬ Fits (some 3) "abc..." := by
  refine ⟨by decide, ?_⟩
  rintro (hnone | ⟨n, hlimit, hfits⟩)
  · cases hnone
  · obtain rfl := Option.some.inj hlimit
    exact absurd hfits (by decide)

/-- A limit within a character. -/
example : clip (some 2) "héllo" = "h..." := by decide

end TableGateway
