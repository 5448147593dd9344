import TableGateway.Number.Decimal
import TableGateway.Wire.Word

/-! # The binary form of decimals

A decimal on the wire is a header of four words of 16 bits (number of groups, weight of the first
group, sign, scale) and then its digits in groups of four. The number is the sum of the groups, the
`i`-th times `10000 ^ (weight - i)`.

* `encode` : the bytes of a decimal
* `decode?` : the decimal of some bytes, if they are one that fits -/

namespace TableGateway.Wire.Numeric

open TableGateway.Number

/-! ### Writing -/

/-- The digits of a number in base 10000, the most significant first. -/
def groups (n : Nat) : List Nat :=
  if _h : n = 0 then [] else groups (n / 10000) ++ [n % 10000]
termination_by n
decreasing_by omega

/-- A list without the zeros at its end. -/
def dropTrailingZeros (gs : List Nat) : List Nat := (gs.reverse.dropWhile (· == 0)).reverse

/-- **The bytes of a decimal.** Zero is all zeros. The fraction is filled up to whole groups, and
groups of zeros after the point are left out unless the whole number is a fraction. -/
def encode (d : Decimal) : List UInt8 :=
  if d.mantissa = 0 then word 2 0 ++ word 2 0 ++ word 2 0 ++ word 2 0
  else
    let fractionGroups := (d.scale + 3) / 4
    let all := groups (d.mantissa * Nat.pow 10 (4 * fractionGroups - d.scale))
    let weight : Int := all.length - fractionGroups - 1
    let whole := (weight + 1).toNat
    let kept := if 0 ≤ weight then all.take whole ++ dropTrailingZeros (all.drop whole) else all
    word 2 kept.length ++ signedWord 2 weight ++ word 2 (if d.negative then 0x4000 else 0) ++
      word 2 d.scale ++ kept.flatMap (word 2)

/-! ### Reading -/

/-- A header and the groups that it announces. -/
structure Packet where
  weight : Int
  sign : Nat
  scale : Nat
  groups : List Nat

/-- The first `n` groups of some bytes, if there are so many. -/
def takeGroups? : Nat → List UInt8 → Option (List Nat)
  | 0, _ => some []
  | n + 1, a :: b :: rest => (takeGroups? n rest).map (ofWord [a, b] :: ·)
  | _ + 1, _ => none

/-- The packet in some bytes; what follows the announced groups is not looked at. -/
def Packet.ofBytes? : List UInt8 → Option Packet
  | a :: b :: c :: d :: e :: f :: g :: h :: rest =>
    (takeGroups? (ofWord [a, b]) rest).map fun groups =>
      ⟨ofSignedWord [c, d], ofWord [e, f], ofWord [g, h], groups⟩
  | _ => none

/-- A mantissa and a scale cut down to 96 bits, if need be by rounding fractional digits off, a tie to
the even digit. -/
def fit? (mantissa : Nat) : Nat → Option (Nat × Nat)
  | 0 => if mantissa < Nat.pow 2 96 then some (mantissa, 0) else none
  | scale + 1 =>
    if mantissa < Nat.pow 2 96 then some (mantissa, scale + 1) else shorten 1 scale
where
  /-- The shortest cut, `n` digits off or more, that fits. -/
  shorten (n : Nat) : Nat → Option (Nat × Nat)
    | 0 =>
      let m := roundQuotient mantissa (Nat.pow 10 n)
      if m < Nat.pow 2 96 then some (m, 0) else none
    | scale + 1 =>
      let m := roundQuotient mantissa (Nat.pow 10 n)
      if m < Nat.pow 2 96 then some (m, scale + 1) else shorten (n + 1) scale

/-- The sum of `mantissa / 10 ^ scale` and `digit / 10 ^ place`, if it fits. -/
def add? (parts : Nat × Nat) (digit place : Nat) : Option (Nat × Nat) :=
  let (digit, place) := Decimal.trim digit place
  let (mantissa, scale) := parts
  let target := max scale place
  fit? (mantissa * Nat.pow 10 (target - scale) + digit * Nat.pow 10 (target - place)) target

/-- The whole part: its groups in order, then as many zero groups as the weight asks for. More than
seven of these leave the range. -/
def wholePart? (gs : List Nat) (zeros : Nat) : Option Nat := do
  let n ← gs.foldlM
    (fun n g => if n * 10000 + g < Nat.pow 2 96 then some (n * 10000 + g) else none) 0
  if zeros ≤ 7 ∧ n * Nat.pow 10 (4 * zeros) < Nat.pow 2 96 then some (n * Nat.pow 10 (4 * zeros)) else none

/-- The groups after the point, the first of them ending at the given place. Those within 28 digits
count; the next one decides the rounding. -/
def addFraction? (parts : Nat × Nat) : List Nat → Nat → Option (Nat × Nat)
  | [], _ => some parts
  | g :: gs, place =>
    if place ≤ 28 then (add? parts g place).bind fun parts => addFraction? parts gs (place + 4)
    else if place = 32 ∧ 5000 ≤ g then add? parts 1 28
    else some parts

/-- **The decimal of some bytes**, if they hold one: not cut off, neither infinite nor undefined, and
in range. -/
def decode? (bytes : List UInt8) : Option Decimal := do
  let p ← Packet.ofBytes? bytes
  if 0xC000 ≤ p.sign then none
  else
    let wholeGroups := (p.weight + 1).toNat
    let whole ← wholePart? (p.groups.take wholeGroups) (wholeGroups - p.groups.length)
    let first := 4 * ((-p.weight - 1).toNat + 1)
    let (m, s) ← addFraction? (whole, 0) (p.groups.drop wholeGroups) first
    let (m, s) := Decimal.rescale m s (min p.scale 28)
    Decimal.ofParts? (p.sign == 0x4000) m s

end TableGateway.Wire.Numeric
