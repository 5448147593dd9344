import TableGateway.Number.Binary

/-! # Shortest decimals

The shortest decimal that is read back as a given number, and of several the one nearest to it. The
reals that are read back as a number are those between the midpoints to its neighbours, the midpoints
included exactly if its significand is even. On the grid of decimals with a fixed number of digits
only the two around the number can be nearest to it, so it is enough to try these two for one digit,
two digits, and so on.

* `digits` : the digits and the exponent of the shortest decimal
* `positional` : a decimal written out
* `scientific` : a decimal with an exponent -/

namespace TableGateway.Number

/-- Digits `d₁ d₂ … dₙ` and an exponent `e`, for the decimal `d₁.d₂ … dₙ · 10 ^ e`. -/
structure Scientific where
  digits : List Char
  exponent : Int
  deriving DecidableEq, Repr

namespace Shortest

/-- The reals that are read back as one number: `low / unit` to `high / unit` around `value / unit`,
with the ends or without them. -/
structure Interval where
  low : Nat
  value : Nat
  high : Nat
  unit : Nat
  ends : Bool

/-- Whether the decimal `d · 10 ^ e` lies in the interval. -/
def Interval.holds (i : Interval) (d : Nat) (e : Int) : Bool :=
  let x := d * Nat.pow 10 e.toNat * i.unit
  let s := Nat.pow 10 (-e).toNat
  if i.ends then decide (i.low * s ≤ x) && decide (x ≤ i.high * s)
  else decide (i.low * s < x) && decide (x < i.high * s)

/-- The interval of the positive finite number with a significand and an exponent. The neighbour
below is half as far away when the significand is the least one of its exponent. -/
def interval (m : Nat) (e : Int) : Interval :=
  let below := if m = Nat.pow 2 52 ∧ Format.double.minExponent < e then 1 else 2
  let up := Nat.pow 2 e.toNat
  { low := (4 * m - below) * up, value := 4 * m * up, high := (4 * m + 2) * up
    unit := 4 * Nat.pow 2 (-e).toNat, ends := m % 2 == 0 }

/-- The least `k` with `value < 10 ^ k · unit`, found upwards from a lower bound. -/
def magnitudeFrom (i : Interval) : Nat → Int → Int
  | 0, k => k
  | steps + 1, k =>
    if i.value * Nat.pow 10 (-k).toNat < Nat.pow 10 k.toNat * i.unit then k else magnitudeFrom i steps (k + 1)

/-- The shortest decimal of an interval, tried from `n` digits on; `k` is the least power of ten above
the value. -/
def search (i : Interval) (k : Int) : Nat → Nat → Nat × Int
  | 0, n => (0, n)
  | steps + 1, n =>
    let e := k - n
    let num := i.value * Nat.pow 10 (-e).toNat
    let den := i.unit * Nat.pow 10 e.toNat
    let d := num / den
    let lower := i.holds d e
    let upper := i.holds (d + 1) e
    if lower && upper then (roundQuotient num den, e)
    else if lower then (d, e)
    else if upper then (d + 1, e)
    else search i k steps (n + 1)

/-- **The shortest decimal that is read back as a finite number**, without its sign. -/
def ofBinary (x : Binary64) : Scientific :=
  let (m, e) := Format.double.split x.magnitude
  if m = 0 then ⟨['0'], 0⟩
  else
    let i := interval m e
    let guess := ((m.log2 : Int) + e) * 30103 / 100000 - 1
    let k := magnitudeFrom i 4 guess
    let (d, p) := search i k 17 1
    let text := Nat.toDigits 10 d
    let significant := (text.reverse.dropWhile (· == '0')).reverse
    ⟨significant, p + (text.length : Int) - 1⟩

end Shortest

/-- A decimal written out, with at least one digit on each side of the point. -/
def Scientific.positional (x : Scientific) : List Char :=
  if 0 ≤ x.exponent then
    let whole := x.exponent.toNat + 1
    let fraction := x.digits.drop whole
    x.digits.take whole ++ List.replicate (whole - x.digits.length) '0' ++ ['.'] ++
      (if fraction.isEmpty then ['0'] else fraction)
  else ['0', '.'] ++ List.replicate ((-x.exponent).toNat - 1) '0' ++ x.digits

/-- A decimal with one digit before the point and its exponent, which has a sign. -/
def Scientific.withExponent (x : Scientific) : List Char :=
  let fraction := x.digits.drop 1
  x.digits.take 1 ++ (if fraction.isEmpty then [] else '.' :: fraction) ++
    ['e', if x.exponent < 0 then '-' else '+'] ++ Nat.toDigits 10 x.exponent.natAbs

end TableGateway.Number
