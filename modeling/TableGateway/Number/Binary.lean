/-! # Binary floating point

Numbers in the binary interchange formats, as words of bits. A finite number is a significand times a
power of two; every operation works on exact quotients of natural numbers and rounds once, to the
nearest number of the format and to the even one of two that are equally near.

* `roundQuotient` : a quotient rounded to a natural number
* `Format.round` : a quotient rounded to a format
* `Binary64.ofQuotient`, `Binary64.toQuotient` : to and from exact quotients -/

namespace TableGateway.Number

/-! ### Rounding -/

/-- The natural number nearest to a quotient, the even one of two that are equally near. -/
def roundQuotient (num den : Nat) : Nat :=
  let q := num / den
  let r := num % den
  if den < 2 * r ∨ (den = 2 * r ∧ q % 2 = 1) then q + 1 else q

theorem roundQuotient_of_dvd {num den : Nat} (h : num % den = 0) :
    roundQuotient num den = num / den := by
  unfold roundQuotient
  rw [h]
  have : ¬ (den < 2 * 0 ∨ (den = 2 * 0 ∧ num / den % 2 = 1)) := by
    rintro (h' | ⟨h', h2⟩)
    · omega
    · rw [h'] at h2; simp at h2
  rw [if_neg this]

/-- A quotient divided by a power of two, as a quotient. -/
def scaleDown (num den : Nat) (e : Int) : Nat × Nat :=
  if 0 ≤ e then (num, den * Nat.pow 2 e.toNat) else (num * Nat.pow 2 (-e).toNat, den)

/-- A binary format: the bits of a significand, the exponent of the least positive number, and the
word of infinity. -/
structure Format where
  precision : Nat
  minExponent : Int
  infinity : Nat

/-- The format of 64 bits. -/
def Format.double : Format := ⟨53, -1074, 0x7FF0000000000000⟩

/-- The format of 32 bits. -/
def Format.single : Format := ⟨24, -149, 0x7F800000⟩

/-- The word, without its sign, of the number of the format that is nearest to a quotient. The
exponent is the least one at which the significand has no bit too many; a quotient beyond the format
becomes infinity. -/
def Format.round (f : Format) (num den : Nat) : Nat :=
  if num = 0 then 0
  else
    let low := (num.log2 : Int) - den.log2 - f.precision
    let (a, b) := scaleDown num den low
    let e := max f.minExponent (if b * Nat.pow 2 f.precision ≤ a then low + 1 else low)
    let (a, b) := scaleDown num den e
    min f.infinity ((e - f.minExponent).toNat * Nat.pow 2 (f.precision - 1) + roundQuotient a b)

/-- The significand and the exponent of a finite word without its sign. -/
def Format.split (f : Format) (word : Nat) : Nat × Int :=
  let unit := Nat.pow 2 (f.precision - 1)
  let field := word / unit
  if field = 0 then (word, f.minExponent)
  else (word % unit + unit, f.minExponent + field - 1)

/-- The exact value of a finite word without its sign, as a quotient. -/
def Format.quotient (f : Format) (word : Nat) : Nat × Nat :=
  let (m, e) := f.split word
  if 0 ≤ e then (m * Nat.pow 2 e.toNat, 1) else (m, Nat.pow 2 (-e).toNat)

/-! ### Numbers of 64 bits -/

/-- A number of the format of 64 bits. -/
structure Binary64 where
  bits : UInt64
  deriving DecidableEq, Repr

namespace Binary64

/-- Whether the sign bit is set. -/
def isNegative (x : Binary64) : Bool := decide (Nat.pow 2 63 ≤ x.bits.toNat)

/-- The word without its sign. -/
def magnitude (x : Binary64) : Nat := x.bits.toNat % Nat.pow 2 63

def isNaN (x : Binary64) : Bool := decide (Format.double.infinity < x.magnitude)

def isFinite (x : Binary64) : Bool := decide (x.magnitude < Format.double.infinity)

/-- The number with a sign and a word without its sign. -/
def ofParts (negative : Bool) (magnitude : Nat) : Binary64 :=
  ⟨UInt64.ofNat (magnitude + if negative then Nat.pow 2 63 else 0)⟩

/-- Equality of numbers: the two zeros are equal, and what is not a number equals nothing. -/
def same (x y : Binary64) : Bool :=
  !x.isNaN && !y.isNaN && (x.bits == y.bits || (x.magnitude == 0 && y.magnitude == 0))

/-- **The number nearest to a quotient.** -/
def ofQuotient (negative : Bool) (num den : Nat) : Binary64 :=
  ofParts negative (Format.double.round num den)

/-- The exact value of a finite number without its sign, as a quotient. -/
def toQuotient (x : Binary64) : Nat × Nat := Format.double.quotient x.magnitude

/-- The number nearest to an integer. -/
def ofInt (n : Int) : Binary64 := ofQuotient (decide (n < 0)) n.natAbs 1

def neg (x : Binary64) : Binary64 := ofParts (!x.isNegative) x.magnitude

/-- The product of two finite numbers. -/
def mul (x y : Binary64) : Binary64 :=
  let (a, b) := x.toQuotient
  let (c, d) := y.toQuotient
  ofQuotient (x.isNegative != y.isNegative) (a * c) (b * d)

/-- The quotient of two finite numbers, the second not zero. -/
def div (x y : Binary64) : Binary64 :=
  let (a, b) := x.toQuotient
  let (c, d) := y.toQuotient
  ofQuotient (x.isNegative != y.isNegative) (a * d) (b * c)

/-! ### Numbers of 32 bits -/

/-- The bits that tell why a word is not a number, and the bit that marks it as quiet. -/
def quietBit (f : Format) : Nat := Nat.pow 2 (f.precision - 2)

/-- The word of 32 bits nearest to a number. -/
def narrow (x : Binary64) : UInt32 :=
  let word :=
    if x.isNaN then
      let payload := x.magnitude % Nat.pow 2 52 / Nat.pow 2 29
      Format.single.infinity + (payload ||| quietBit .single)
    else if x.isFinite then
      let (num, den) := x.toQuotient
      Format.single.round num den
    else Format.single.infinity
  UInt32.ofNat (word + if x.isNegative then Nat.pow 2 31 else 0)

/-- The number that a word of 32 bits stands for. -/
def widen (w : UInt32) : Binary64 :=
  let negative := decide (Nat.pow 2 31 ≤ w.toNat)
  let word := w.toNat % Nat.pow 2 31
  if Format.single.infinity < word then
    let payload := word % Nat.pow 2 23 * Nat.pow 2 29
    ofParts negative (Format.double.infinity + (payload ||| quietBit .double))
  else if word = Format.single.infinity then ofParts negative Format.double.infinity
  else
    let (num, den) := Format.single.quotient word
    ofQuotient negative num den

end Binary64

end TableGateway.Number
