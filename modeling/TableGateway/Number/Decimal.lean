import TableGateway.Number.Binary

/-! # Decimals

Decimal numbers of up to 96 bits: a sign, a whole mantissa below `2 ^ 96` and a scale of at most 28, for
the number `± mantissa / 10 ^ scale`. The scale belongs to the number: `1.50` and `1.5` are equal and
are written differently.

* `ofParts?` : a decimal from its parts, if they are in range
* `ofInt64` : the decimal of an integer
* `ofBinary?` : the decimal of a binary floating-point number
* `rescale` : a decimal at another scale
* `raise`, `lower` : a decimal times a power of ten, and divided by it
* `read` : the decimal that a text spells, or what is wrong with the text -/

namespace TableGateway.Number

/-- **A decimal number.** -/
structure Decimal where
  negative : Bool
  mantissa : Nat
  scale : Nat
  mantissa_lt : mantissa < Nat.pow 2 96
  scale_le : scale ≤ 28
  deriving DecidableEq, Repr

namespace Decimal

/-- The decimal with the given parts, if they are in range. -/
def ofParts? (negative : Bool) (mantissa scale : Nat) : Option Decimal :=
  if h : mantissa < Nat.pow 2 96 ∧ scale ≤ 28 then some ⟨negative, mantissa, scale, h.1, h.2⟩ else none

/-- The decimal of an integer of 64 bits, at scale zero. -/
def ofInt64 (n : Int64) : Decimal where
  negative := decide (n.toInt < 0)
  mantissa := n.toInt.natAbs
  scale := 0
  mantissa_lt := by
    have h1 := n.le_toInt
    have h2 := n.toInt_lt
    have hpow : 9223372036854775808 < Nat.pow 2 96 := by decide
    omega
  scale_le := by omega

/-- The mantissa with its sign. -/
def signed (d : Decimal) : Int := if d.negative then -d.mantissa else d.mantissa

/-- **Equality of numbers**, whatever the scales and the sign of zero. -/
def same (d e : Decimal) : Bool := d.signed * Int.pow 10 e.scale == e.signed * Int.pow 10 d.scale

theorem same_self (d : Decimal) : d.same d = true := by simp [same]

/-! ### Scales -/

/-- A mantissa divided by ten `n` times, the last digit dropped rounded half up. -/
def dropDigits (mantissa : Nat) : Nat → Nat
  | 0 => mantissa
  | n + 1 => mantissa / Nat.pow 10 (n + 1) + if 5 ≤ mantissa / Nat.pow 10 n % 10 then 1 else 0

/-- A mantissa multiplied by ten up to `n` times, as long as it stays in range, and the number of
times left over. -/
def padDigits (mantissa : Nat) : Nat → Nat × Nat
  | 0 => (mantissa, 0)
  | n + 1 => if mantissa * 10 < Nat.pow 2 96 then padDigits (mantissa * 10) n else (mantissa, n + 1)

/-- The parts of a number at another scale: fractional digits are rounded off or padded with zeros,
and padding stops where the mantissa has no room left. -/
def rescale (mantissa scale target : Nat) : Nat × Nat :=
  if mantissa = 0 then (0, target)
  else if target ≤ scale then (dropDigits mantissa (scale - target), target)
  else
    let (m, left) := padDigits mantissa (target - scale)
    (m, target - left)

/-- The parts without trailing zeros in the fraction. -/
def trim (mantissa : Nat) : Nat → Nat × Nat
  | 0 => (mantissa, 0)
  | scale + 1 => if mantissa % 10 = 0 then trim (mantissa / 10) scale else (mantissa, scale + 1)

/-! ### From binary floating point -/

/-- `mantissa / (10 ^ scale)` for what was `mantissa / (2 ^ n * 10 ^ (scale - n))`: each factor two below
the line is completed to ten by a factor five above it. An even mantissa is halved instead, and so is one
without room for the factor, which loses its last bit. -/
def completeTwos (mantissa scale : Nat) : Nat → Nat × Nat
  | 0 => (mantissa, scale)
  | n + 1 =>
    if mantissa % 2 = 1 ∧ mantissa * 5 < Nat.pow 2 96 then completeTwos (mantissa * 5) scale n
    else completeTwos (mantissa / 2) (scale - 1) n

/-- Half of the last digit is rounded up. -/
def dropDigit (mantissa : Nat) : Nat := mantissa / 10 + if 5 ≤ mantissa % 10 then 1 else 0

/-- The fractional digits are rounded off one by one until the scale is in range and the mantissa, if
it still has a fraction, is below `2 ^ 52`. Without a digit in range the number is zero. -/
def settle (mantissa : Nat) : Nat → Nat × Nat
  | 0 => (mantissa, 0)
  | scale + 1 =>
    if 28 < scale + 1 then
      if mantissa < 10 then (0, 0) else settle (dropDigit mantissa) scale
    else if Nat.pow 2 52 ≤ mantissa then settle (dropDigit mantissa) scale
    else (mantissa, scale + 1)

/-- **The decimal of a binary floating-point number**, with the digits that such a number is good
for; none if it is not finite or too large. -/
def ofBinary? (x : Binary64) : Option Decimal :=
  if x.isFinite then
    let (m, e) := Format.double.split x.magnitude
    let (mantissa, scale) :=
      if 0 ≤ e then (m * Nat.pow 2 e.toNat, 0)
      else
        let (m, s) := completeTwos m (-e).toNat (-e).toNat
        let (m, s) := settle m s
        trim m s
    ofParts? x.isNegative mantissa scale
  else none

/-! ### Faults -/

/-- What can be wrong with the text of a decimal. -/
inductive Fault where
  | empty
  | unknownCharacter
  | secondPoint
  | leadingSeparator
  | noDigits
  | tooManyDigits
  | roundedTooLarge
  | unreadExponent
  | tooManyPlaces (places : Nat)
  | tooLarge
  deriving DecidableEq, Repr

def Fault.message : Fault → String
  | empty => "Invalid decimal: empty"
  | unknownCharacter => "Invalid decimal: unknown character"
  | secondPoint => "Invalid decimal: two decimal points"
  | leadingSeparator => "Invalid decimal: must start lead with a number"
  | noDigits => "Invalid decimal: no digits found"
  | tooManyDigits => "Invalid decimal: overflow from too many digits"
  | roundedTooLarge => "Invalid decimal: overflow from mantissa after rounding"
  | unreadExponent => "Failed to parse"
  | tooManyPlaces places =>
    "Scale exceeds the maximum precision allowed: " ++ toString places ++ " > 28"
  | tooLarge => "Number exceeds maximum value that can be represented."

/-- The decimal with the given parts; a fault if they are not in range. -/
def ofParts (negative : Bool) (mantissa scale : Nat) (fault : Fault) : Except Fault Decimal :=
  match ofParts? negative mantissa scale with
  | some d => .ok d
  | none => .error fault

/-! ### Moving the point -/

/-- **The decimal times `10 ^ n`.** Within the fraction only the scale changes; beyond the last digit
zeros are added, and what has no fraction left has scale zero. -/
def raise (d : Decimal) (n : Nat) : Except Fault Decimal :=
  if n ≤ d.scale then
    .ok { d with scale := d.scale - n, scale_le := Nat.le_trans (Nat.sub_le _ _) d.scale_le }
  else if 28 < n then .error (.tooManyPlaces n)
  else ofParts d.negative (d.mantissa * Nat.pow 10 (n - d.scale)) 0 .tooLarge

/-- **The decimal divided by `10 ^ n`.** Digits for which the scale has no room are rounded off. -/
def lower (d : Decimal) (n : Nat) : Except Fault Decimal :=
  if 28 < n then .error (.tooManyPlaces n)
  else
    let (mantissa, scale) := rescale d.mantissa d.scale (min d.scale (28 - n))
    ofParts d.negative mantissa (scale + n) .tooLarge

/-! ### Reading -/

/-- What has been read so far: the parts, whether the point was met and whether a digit was. -/
structure Reading where
  negative : Bool
  mantissa : Nat
  scale : Nat
  point : Bool
  digit : Bool

/-- The fault of a character that cannot stand where it does. -/
def strayFault (c : Char) : Fault :=
  if c = '.' then .secondPoint else if c = '_' then .leadingSeparator else .unknownCharacter

/-- The parts are all that there is to read. Zero has no sign. -/
def Reading.finish (r : Reading) : Except Fault Decimal :=
  if r.digit then ofParts (r.negative && r.mantissa != 0) r.mantissa r.scale .tooManyDigits
  else .error .noDigits

/-- The parts rounded up if the first digit without room is five or more. A mantissa that has no room to
be rounded up gives up its last digit. -/
def Reading.roundUp (r : Reading) (next : Char) : Except Fault Reading :=
  if '5' ≤ next ∧ next ≤ '9' then
    if r.mantissa + 1 < Nat.pow 2 96 then .ok { r with mantissa := r.mantissa + 1 }
    else if r.scale = 0 then .error .roundedTooLarge
    else .ok { r with mantissa := (r.mantissa + 5) / 10, scale := r.scale - 1 }
  else .ok r

/-- Whether the last digit was put to a mantissa beyond the 64 bits of a word, with some room to spare. -/
def Reading.isWide (r : Reading) : Bool := decide (Nat.pow 2 64 / 10 - 255 ≤ r.mantissa / 10)

/-- No further digit has room. The first excess character decides the rounding: in a wide number the
first that is no separator, in any other a separator counts as a zero. All of the excess has to be digits
and separators. -/
def Reading.round (r : Reading) (excess : List Char) : Except Fault Decimal := do
  let deciding := if r.isWide then excess.dropWhile (· == '_') else excess
  let rounded ← r.roundUp (deciding.headD '0')
  match excess.find? fun c => !(c.isDigit || c == '_') with
  | some c => .error (strayFault c)
  | none => rounded.finish

/-- Reads on after the sign. A separator may stand anywhere after the first digit. -/
def Reading.go (r : Reading) : List Char → Except Fault Decimal
  | [] => r.finish
  | c :: cs =>
    if r.point ∧ 28 ≤ r.scale then r.round (c :: cs)
    else if c.isDigit then
      let mantissa := r.mantissa * 10 + (c.toNat - '0'.toNat)
      if mantissa < Nat.pow 2 96 then
        { r with mantissa, scale := if r.point then r.scale + 1 else 0, digit := true }.go cs
      else if r.point then r.round (c :: cs)
      else .error .tooManyDigits
    else if c = '.' ∧ ¬ r.point then { r with point := true }.go cs
    else if c = '_' ∧ r.digit then r.go cs
    else .error (strayFault c)

/-- The decimal that a text without an exponent spells: a sign or none, and digits with at most one point
among or around them. Fractional digits beyond the range are rounded off, half up. -/
def readPlain : List Char → Except Fault Decimal
  | [] => .error .empty
  | '-' :: cs => Reading.go ⟨true, 0, 0, false, false⟩ cs
  | '+' :: cs => Reading.go ⟨false, 0, 0, false, false⟩ cs
  | cs => Reading.go ⟨false, 0, 0, false, false⟩ cs

/-- The number of places of an exponent: digits, perhaps after a plus, for a number of 32 bits. -/
def places? (cs : List Char) : Option Nat :=
  let digits := if cs.head? = some '+' then cs.drop 1 else cs
  let n := digits.foldl (fun n c => n * 10 + (c.toNat - '0'.toNat)) 0
  if !digits.isEmpty && digits.all Char.isDigit && decide (n < Nat.pow 2 32) then some n else none

/-- A decimal with the point moved as an exponent says, to the left after a minus. -/
def shift (d : Decimal) : List Char → Except Fault Decimal
  | '-' :: cs => (places? cs).elim (.error .unreadExponent) d.lower
  | cs => (places? cs).elim (.error .unreadExponent) d.raise

/-- **The decimal that a text spells**: what stands before the first letter `e`, its point moved by what
follows it. -/
def read (s : String) : Except Fault Decimal :=
  match s.toList.span fun c => c != 'e' && c != 'E' with
  | (base, []) => readPlain base
  | (base, _ :: exponent) => do (← readPlain base).shift exponent

end Decimal

end TableGateway.Number
