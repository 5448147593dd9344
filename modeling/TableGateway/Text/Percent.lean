import TableGateway.Text.Hex
import TableGateway.Text.Utf8

/-! # Percent signs

In an address `%` and two hexadecimal digits stand for a byte. A percent sign without two digits stands
for itself.

* `percentBytes` : the bytes that a text stands for -/

namespace TableGateway.Text

/-- The byte of an escape at the head of a text. -/
def escapedByte? : List Char → Option UInt8
  | '%' :: a :: b :: _ =>
    match hexValue? a, hexValue? b with
    | some x, some y => some (UInt8.ofNat (16 * x + y))
    | _, _ => none
  | _ => none

/-- The bytes of a text whose first `skip` characters belong to an escape. -/
def percentGo : Nat → List Char → List UInt8
  | _, [] => []
  | skip + 1, _ :: cs => percentGo skip cs
  | 0, c :: cs =>
    match escapedByte? (c :: cs) with
    | some b => b :: percentGo 2 cs
    | none => utf8 (String.singleton c) ++ percentGo 0 cs

/-- **The bytes that a text stands for.** -/
def percentBytes (cs : List Char) : List UInt8 := percentGo 0 cs

/-- The text that a text stands for, if its bytes are a text. -/
def percentText? (cs : List Char) : Option String := ofUtf8? (percentBytes cs)

end TableGateway.Text
