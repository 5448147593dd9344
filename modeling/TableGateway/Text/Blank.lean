/-! # Blank characters

The characters with the Unicode property White_Space, and texts made of them.

* `dropBlank_eq_nil_iff`, `allBlank_iff` : nothing is left exactly of a blank text -/

namespace TableGateway.Text

/-- The code points with the Unicode property White_Space, as closed ranges. -/
def blankRanges : List (Nat × Nat) :=
  [(0x09, 0x0D), (0x20, 0x20), (0x85, 0x85), (0xA0, 0xA0), (0x1680, 0x1680), (0x2000, 0x200A),
    (0x2028, 0x2029), (0x202F, 0x202F), (0x205F, 0x205F), (0x3000, 0x3000)]

/-- Whether a character is blank. -/
def isBlank (c : Char) : Bool :=
  blankRanges.any fun (lo, hi) => decide (lo ≤ c.toNat) && decide (c.toNat ≤ hi)

/-- The text after its leading blanks. -/
def dropBlank (cs : List Char) : List Char := cs.dropWhile isBlank

/-- The text between its leading and its trailing blanks. -/
def trim (cs : List Char) : List Char := (dropBlank (dropBlank cs).reverse).reverse

/-- Whether nothing is left of a text without the blanks around it. -/
def allBlank (s : String) : Bool := (trim s.toList).isEmpty

theorem dropBlank_eq_nil_iff {cs : List Char} : dropBlank cs = [] ↔ cs.all isBlank = true := by
  induction cs with
  | nil => simp [dropBlank]
  | cons c cs ih =>
    simp only [dropBlank, List.dropWhile_cons, List.all_cons, Bool.and_eq_true] at ih ⊢
    by_cases h : isBlank c = true
    · simp [h, ih]
    · simp [h]

/-- What is dropped from both ends is all there is just if all of it is blank. -/
theorem allBlank_iff {s : String} : allBlank s = true ↔ ∀ c ∈ s.toList, isBlank c = true := by
  rw [allBlank, List.isEmpty_iff, trim, List.reverse_eq_nil_iff, dropBlank_eq_nil_iff, List.all_reverse,
    ← List.all_eq_true]
  constructor
  · intro h
    have hdropped : (dropBlank s.toList).all isBlank = true := h
    have hleading : (s.toList.takeWhile isBlank).all isBlank = true := List.all_takeWhile
    rw [← List.takeWhile_append_dropWhile (p := isBlank) (l := s.toList), List.all_append, Bool.and_eq_true]
    exact ⟨hleading, hdropped⟩
  · intro h
    rw [dropBlank_eq_nil_iff.mpr h, List.all_nil]

end TableGateway.Text
