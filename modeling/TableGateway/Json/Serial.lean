import TableGateway.Json.Basic

/-! # Values that become documents

What a caller may hand over for a structured field, and the document that it becomes. Not every value has
one: an integer has to fit in 64 bits, the keys of a map have to be simple, and a value may refuse by
itself. -/

namespace TableGateway.Json

open TableGateway.Number

/-- The key of a map. -/
inductive Key where
  | integer (n : Int)
  | bool (b : Bool)
  | list (items : List Int)
  deriving DecidableEq, Repr

/-- The key of a member, if the key of a map has such a form. -/
def Key.text? : Key → Option String
  | integer n => some (toString n)
  | bool b => some (toString b)
  | list _ => none

/-- **A value that may become a document.** -/
inductive Serial where
  | document (j : Json)
  | float (x : Binary64)
  | integer (n : Int)
  | bytes (bs : List UInt8)
  | absent
  | map (entries : List (Key × Json))
  | refusing (reason : String)

/-- Why a value does not become a document. -/
inductive SerialFault where
  | numberOutOfRange
  | keyMustBeString
  | refused (reason : String)
  deriving DecidableEq, Repr

def SerialFault.message : SerialFault → String
  | numberOutOfRange => "number out of range"
  | keyMustBeString => "key must be a string"
  | refused reason => reason

/-- **The document of a value.** A number that is not finite becomes null. -/
def Serial.toJson : Serial → Except SerialFault Json
  | document j => .ok j
  | float x => .ok (if x.isFinite then .float x else .null)
  | integer n =>
    if -Int.pow 2 63 ≤ n ∧ n < Int.pow 2 64 then .ok (.integer n) else .error .numberOutOfRange
  | bytes bs => .ok (.array (bs.map fun b => .integer b.toNat))
  | absent => .ok .null
  | map entries => do
    let members ← entries.mapM fun (key, value) =>
      match key.text? with
      | some text => .ok (text, value)
      | none => .error .keyMustBeString
    return .ofMembers members
  | refusing reason => .error (.refused reason)

end TableGateway.Json
