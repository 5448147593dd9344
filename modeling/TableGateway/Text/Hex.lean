/-! # Hexadecimal digits

Bytes as two hexadecimal digits each. They are written in lower case and read in either.

* `readHex?_hexBytes` : bytes are read back from their digits -/

namespace TableGateway.Text

/-- The lower-case hexadecimal digit of a number below sixteen. -/
def hexDigit (n : Nat) : Char := if n < 10 then Char.ofNat (48 + n) else Char.ofNat (87 + n)

/-- The two digits of a byte. -/
def hexByte (b : UInt8) : List Char := [hexDigit (b.toNat / 16), hexDigit (b.toNat % 16)]

/-- The digits of some bytes. -/
def hexBytes (bytes : List UInt8) : List Char := bytes.flatMap hexByte

/-- The value of a hexadecimal digit. -/
def hexValue? (c : Char) : Option Nat :=
  if '0' ≤ c ∧ c ≤ '9' then some (c.toNat - 48)
  else if 'a' ≤ c ∧ c ≤ 'f' then some (c.toNat - 87)
  else if 'A' ≤ c ∧ c ≤ 'F' then some (c.toNat - 55)
  else none

/-- The bytes that pairs of hexadecimal digits spell. -/
def readHex? : List Char → Option (List UInt8)
  | [] => some []
  | [_] => none
  | a :: b :: cs => do
    let x ← hexValue? a
    let y ← hexValue? b
    let bytes ← readHex? cs
    return UInt8.ofNat (16 * x + y) :: bytes

theorem hexValue?_hexDigit : ∀ n < 16, hexValue? (hexDigit n) = some n := by decide

theorem readHex?_hexBytes (bytes : List UInt8) : readHex? (hexBytes bytes) = some bytes := by
  induction bytes with
  | nil => rfl
  | cons b bytes ih =>
    have hb : b.toNat < 256 := b.toNat_lt
    have hcons : hexBytes (b :: bytes) =
        hexDigit (b.toNat / 16) :: hexDigit (b.toNat % 16) :: hexBytes bytes := rfl
    have hback : 16 * (b.toNat / 16) + b.toNat % 16 = b.toNat := by omega
    rw [hcons, readHex?, hexValue?_hexDigit _ (by omega), hexValue?_hexDigit _ (by omega), ih]
    show some (UInt8.ofNat (16 * (b.toNat / 16) + b.toNat % 16) :: bytes) = some (b :: bytes)
    rw [hback, UInt8.ofNat_toNat]

end TableGateway.Text
