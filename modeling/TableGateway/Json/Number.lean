import TableGateway.Json.Basic

/-! # Numbers in documents

An integer literal within 64 bits, with or without a sign, is an integer. Any other number is a
floating-point number: its digits, up to the first that would leave 64 bits, times a power of ten. The
power is applied by one multiplication or division, or by several divisions if it is very small, and each
of these rounds.

* `readNumber` : the number at the head of some bytes after its sign, and the bytes after it -/

namespace TableGateway.Json

open TableGateway.Number

/-- What can be wrong with the text of a document. -/
inductive Cause where
  | eofInList
  | eofInObject
  | eofInString
  | eofInValue
  | expectedColon
  | expectedListEnd
  | expectedObjectEnd
  | expectedIdent
  | expectedValue
  | invalidEscape
  | invalidNumber
  | numberOutOfRange
  | invalidCodePoint
  | controlCharacter
  | keyMustBeString
  | loneSurrogate
  | trailingComma
  | trailingCharacters
  | brokenSurrogatePair
  | tooDeep
  deriving DecidableEq, Repr

/-- A cause, and the number of bytes after the place where it was noticed. -/
structure Stop where
  cause : Cause
  left : Nat
  deriving DecidableEq, Repr

def isDigit (b : UInt8) : Bool := decide (48 ≤ b.toNat) && decide (b.toNat ≤ 57)

def digitOf (b : UInt8) : Nat := b.toNat - 48

/-- Digits added to a number below `2 ^ 64` as long as it stays there, and the digits left spare. -/
def absorb (n : Nat) : List UInt8 → Nat × List UInt8
  | [] => (n, [])
  | d :: ds => if n * 10 + digitOf d < Nat.pow 2 64 then absorb (n * 10 + digitOf d) ds else (n, d :: ds)

/-- A positive number divided by ten to a power, `10 ^ 308` at a time. -/
def divideByPower (x : Binary64) (power : Nat) : Binary64 :=
  if h : power ≤ 308 then x.div (Binary64.ofQuotient false (Nat.pow 10 power) 1)
  else if x.magnitude = 0 then x
  else divideByPower (x.div (Binary64.ofQuotient false (Nat.pow 10 308) 1)) (power - 308)
termination_by power
decreasing_by omega

/-- A whole number times a power of ten, if the product is finite. -/
def scaled? (digits : Nat) (exponent : Int) : Option Binary64 :=
  let x := Binary64.ofQuotient false digits 1
  if exponent < 0 then some (divideByPower x exponent.natAbs)
  else if exponent ≤ 308 then
    let y := x.mul (Binary64.ofQuotient false (Nat.pow 10 exponent.natAbs) 1)
    if y.isFinite then some y else none
  else if digits = 0 then some x
  else none

/-- The floating-point number with the given sign, digits and exponent; `rest` is what follows it. -/
def makeFloat (negative : Bool) (digits : Nat) (exponent : Int) (rest : List UInt8) :
    Except Stop (Json × List UInt8) :=
  match scaled? digits exponent with
  | some x => .ok (.float (if negative then x.neg else x), rest)
  | none => .error ⟨.numberOutOfRange, rest.length⟩

/-- The digits of an exponent; `power` is what they have spelled so far. None if it leaves 32 bits, and
then only the bytes after the digit that did it count. -/
def readPower (power : Nat) : List UInt8 → Option Nat × List UInt8
  | [] => (some power, [])
  | d :: rest =>
    if isDigit d then
      if power * 10 + digitOf d < Nat.pow 2 31 then readPower (power * 10 + digitOf d) rest
      else (none, rest)
    else (some power, d :: rest)

/-- The number with an exponent, read from after the exponent's letter on. -/
def readExponent (negative : Bool) (digits : Nat) (start : Int) (bytes : List UInt8) :
    Except Stop (Json × List UInt8) :=
  let (down, bytes) := match bytes with
    | 43 :: rest => (false, rest)
    | 45 :: rest => (true, rest)
    | bytes => (false, bytes)
  match bytes with
  | [] => .error ⟨.eofInValue, 0⟩
  | d :: rest =>
    if isDigit d then
      match readPower (digitOf d) rest with
      | (some power, rest) =>
        makeFloat negative digits (if down then start - power else start + power) rest
      | (none, rest) =>
        if digits ≠ 0 ∧ ¬ down then .error ⟨.numberOutOfRange, rest.length⟩
        else makeFloat negative 0 0 (rest.dropWhile isDigit)
    else .error ⟨.invalidNumber, rest.length⟩

/-- Whether the next byte is the letter of an exponent. -/
def atExponent : List UInt8 → Bool
  | b :: _ => b == 101 || b == 69
  | [] => false

/-- The number with a fraction, read from after the point on. -/
def readFraction (negative : Bool) (digits : Nat) (start : Int) (bytes : List UInt8) :
    Except Stop (Json × List UInt8) :=
  let run := bytes.takeWhile isDigit
  let rest := bytes.dropWhile isDigit
  if run.isEmpty then
    match bytes with
    | [] => .error ⟨.eofInValue, 0⟩
    | _ :: after => .error ⟨.invalidNumber, after.length⟩
  else
    let (digits, spare) := absorb digits run
    let exponent := start - (run.length - spare.length : Nat)
    if atExponent rest then readExponent negative digits exponent (rest.drop 1)
    else makeFloat negative digits exponent rest

/-- The integer with the given sign and digits; a float if it leaves 64 bits, or for minus zero. -/
def makeInteger (negative : Bool) (digits : Nat) : Json :=
  if ¬ negative then .integer digits
  else if 0 < digits ∧ digits ≤ Int.pow 2 63 then .integer (-digits)
  else .float (Binary64.ofQuotient true digits 1)

/-- What follows the digits before the point, of which `spare` digits found no room. -/
def readTail (negative : Bool) (digits spare : Nat) (rest : List UInt8) :
    Except Stop (Json × List UInt8) :=
  if rest.head? = some 46 then readFraction negative digits spare (rest.drop 1)
  else if atExponent rest then readExponent negative digits spare (rest.drop 1)
  else if spare = 0 then .ok (makeInteger negative digits, rest)
  else makeFloat negative digits spare rest

/-- **The number at the head of some bytes**, after its sign, and what follows it. No zero may stand in
front of another digit. -/
def readNumber (negative : Bool) : List UInt8 → Except Stop (Json × List UInt8)
  | [] => .error ⟨.eofInValue, 0⟩
  | 48 :: rest =>
    match rest with
    | d :: after =>
      if isDigit d then .error ⟨.invalidNumber, after.length⟩ else readTail negative 0 0 rest
    | [] => readTail negative 0 0 rest
  | d :: after =>
    if isDigit d then
      let (digits, spare) := absorb 0 ((d :: after).takeWhile isDigit)
      readTail negative digits spare.length (after.dropWhile isDigit)
    else .error ⟨.invalidNumber, after.length⟩

end TableGateway.Json
