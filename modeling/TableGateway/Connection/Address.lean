import TableGateway.Calendar.Reading
import TableGateway.Text.Hex
import TableGateway.Text.Pieces

/-! # Network addresses

An address of the old form is four numbers below 256 between points. One of the new form is eight groups
of at most four hexadecimal digits between colons; the last two may be written in the old form, and one
run of zero groups may be left out, which is shown by two colons.

* `isAddress` : whether a text is an address -/

namespace TableGateway.Connection

open TableGateway.Text

/-- A number below 256 without leading zeros. -/
def isOctet (cs : List Char) : Bool :=
  !cs.isEmpty && decide (cs.length ≤ 3) && cs.all Char.isDigit &&
    decide (Calendar.digitsValue cs < 256) && (cs.length == 1 || cs.head? != some '0')

/-- An address of the old form. -/
def isDotted (cs : List Char) : Bool :=
  let octets := pieces '.' cs
  octets.length == 4 && octets.all isOctet

/-- A group of hexadecimal digits. -/
def isGroup (cs : List Char) : Bool :=
  !cs.isEmpty && decide (cs.length ≤ 4) && cs.all fun c => (hexValue? c).isSome

/-- How many groups are written; the last one may stand for two in the old form if `dotted` says so. -/
def width? (dotted : Bool) : List (List Char) → Option Nat
  | [] => some 0
  | [g] => if isGroup g then some 1 else if dotted && isDotted g then some 2 else none
  | g :: gs => if isGroup g then (width? dotted gs).map (· + 1) else none

/-- How many groups a text is, where the empty text is none. -/
def sideWidth? (dotted : Bool) (cs : List Char) : Option Nat :=
  if cs.isEmpty then some 0 else width? dotted (pieces ':' cs)

/-- What stands before and after the first two colons in a row. -/
def aroundGap? : List Char → Option (List Char × List Char)
  | ':' :: ':' :: cs => some ([], cs)
  | c :: cs => (aroundGap? cs).map fun (before, after) => (c :: before, after)
  | [] => none

/-- An address of the new form. Groups that are left out are at least one. -/
def isGrouped (cs : List Char) : Bool :=
  match aroundGap? cs with
  | none => sideWidth? true cs == some 8
  | some (before, after) =>
    match sideWidth? false before, sideWidth? true after with
    | some m, some n => decide (m + n < 8)
    | _, _ => false

/-- **Whether a text is an address.** -/
def isAddress (cs : List Char) : Bool := isDotted cs || isGrouped cs

end TableGateway.Connection
