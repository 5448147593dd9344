import TableGateway.Text.Hex
import TableGateway.Text.Utf8

/-! # Universally unique identifiers

Sixteen bytes, written as hexadecimal digits in groups of 8, 4, 4, 4 and 12 between hyphens. They are read
in that form, without the hyphens, in braces, or after `urn:uuid:`, whatever the case of the letters.

* `Uuid.text` : the written form
* `Uuid.read` : the identifier that a text spells, or what is wrong with the text -/

namespace TableGateway

open TableGateway.Text

/-- **A universally unique identifier.** -/
structure Uuid where
  bytes : List UInt8
  length_eq : bytes.length = 16
  deriving DecidableEq, Repr

namespace Uuid

/-- The identifier with the given bytes, if there are sixteen. -/
def ofBytes? (bytes : List UInt8) : Option Uuid :=
  if h : bytes.length = 16 then some ⟨bytes, h⟩ else none

/-! ### Writing -/

/-- The characters of the written form. -/
def chars (u : Uuid) : List Char :=
  hexBytes (u.bytes.take 4) ++ '-' :: hexBytes ((u.bytes.drop 4).take 2) ++
    '-' :: hexBytes ((u.bytes.drop 6).take 2) ++ '-' :: hexBytes ((u.bytes.drop 8).take 2) ++
    '-' :: hexBytes (u.bytes.drop 10)

/-- **The written form.** -/
def text (u : Uuid) : String := String.ofList u.chars

/-! ### Reading -/

/-- What can be wrong with the text of an identifier. Positions and lengths are in bytes. -/
inductive Fault where
  | character (c : Char) (position : Nat)
  | length (found : Nat)
  | groupCount (found : Nat)
  | groupLength (group expected found : Nat)
  deriving DecidableEq, Repr

def Fault.message : Fault → String
  | character c position =>
    "invalid character: found " ++ String.ofList ['\x60', c, '\x60'] ++ " at " ++ toString position
  | length found => "invalid length: found " ++ toString found
  | groupCount found => "invalid group count: expected 5, found " ++ toString found
  | groupLength group expected found =>
    "invalid group length in group " ++ toString group ++ ": expected " ++ toString expected ++
      ", found " ++ toString found

/-- The identifier in five groups between hyphens. -/
def readGroups? (cs : List Char) : Option Uuid :=
  if cs[8]? = some '-' ∧ cs[13]? = some '-' ∧ cs[18]? = some '-' ∧ cs[23]? = some '-' then
    (readHex? (cs.take 8 ++ (cs.drop 9).take 4 ++ (cs.drop 14).take 4 ++ (cs.drop 19).take 4 ++
      cs.drop 24)).bind ofBytes?
  else none

/-- What stands around the digits of a text. -/
inductive Wrapping where
  | bare
  | braces
  | urn
  deriving DecidableEq

/-- The bytes in front of the digits. -/
def Wrapping.offset : Wrapping → Nat
  | bare => 0
  | braces => 1
  | urn => 9

/-- What stands around the digits of a text, and what is inside. -/
def unwrap (cs : List Char) : Wrapping × List Char :=
  if cs.head? = some '\x7b' ∧ cs.getLast? = some '\x7d' then (.braces, (cs.drop 1).dropLast)
  else if (cs.take 9).map Char.toLower = "urn:uuid:".toList then (.urn, cs.drop 9)
  else (.bare, cs)

/-- The five groups with their hyphens, as far as the length of a text and what stands around them say
that they are there: 36 bytes, in braces 38, and after `urn:uuid:` 45. -/
def groups? (cs : List Char) : Option (List Char) :=
  let total := Text.byteLength cs
  let (wrapping, inner) := unwrap cs
  if total = 36 then some cs
  else if total = 38 ∧ wrapping = .braces then some inner
  else if total = 45 ∧ wrapping = .urn then some inner
  else none

/-- The identifier of a text, if it spells one. -/
def read? (cs : List Char) : Option Uuid :=
  match groups? cs with
  | some inner => readGroups? inner
  | none => (readHex? cs).bind ofBytes?

/-- The first character that is neither a digit nor a hyphen, with its position. -/
def stray? : List Char → Nat → Option (Char × Nat)
  | [], _ => none
  | c :: cs, position =>
    if c = '-' ∨ (hexValue? c).isSome then stray? cs (position + c.utf8Size) else some (c, position)

/-- The positions of the hyphens. -/
def hyphens : List Char → Nat → List Nat
  | [], _ => []
  | c :: cs, position =>
    if c = '-' then position :: hyphens cs (position + 1) else hyphens cs (position + 1)

/-- The first of the first four groups that ends at the wrong place; else the last group. Each group is
given by its number, its start and its length. -/
def wrongGroup (total : Nat) : List Nat → List (Nat × Nat × Nat) → Fault
  | h :: hs, (group, start, expected) :: groups =>
    if h = start + expected then wrongGroup total hs groups
    else .groupLength group expected (h - start)
  | _, _ => .groupLength 4 12 (total - 24)

/-- What is wrong with the digits and hyphens of a text, which begin at a position in it. The length is that
of the text, and without hyphens it is what is wrong with a text that may have none. -/
def diagnoseGroups (cs : List Char) (position total : Nat) (plain : Bool) : Fault :=
  match stray? cs position with
  | some (c, position) => .character c position
  | none =>
    let hs := hyphens cs 0
    if hs.isEmpty && plain then .length total
    else if hs.length ≠ 4 then .groupCount (hs.length + 1)
    else wrongGroup total hs [(0, 0, 8), (1, 9, 4), (2, 14, 4), (3, 19, 4)]

/-- What is wrong with a text that spells no identifier. Where its length is right for five groups,
positions are counted from the first of them; otherwise from the beginning of the text. -/
def diagnose (cs : List Char) : Fault :=
  let total := Text.byteLength cs
  if total = 0 ∨ 45 < total then .length total
  else
    match groups? cs with
    | some inner => diagnoseGroups inner 0 (Text.byteLength inner) false
    | none =>
      let (wrapping, inner) := unwrap cs
      diagnoseGroups inner wrapping.offset total (wrapping = .bare)

/-- **The identifier that a text spells.** -/
def read (s : String) : Except Fault Uuid :=
  match read? s.toList with
  | some u => .ok u
  | none => .error (diagnose s.toList)

end Uuid

end TableGateway
