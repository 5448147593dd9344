import TableGateway.Calendar.Timestamp
import TableGateway.Json.Parser
import TableGateway.Value
import TableGateway.Wire.Numeric

/-! # Decoding cells

The value of a cell, from its bytes and the type of its column. A type without a form of its own gives a raw
cell, and so does a decimal that has no such form here; any other bytes that make no sense at their type are
a failure.

* `decodeCell?` : the value of a cell, if its bytes make sense -/

namespace TableGateway.Wire

open TableGateway.Number TableGateway.Calendar

/-- The integer in exactly `n` bytes. -/
def decodeInt? (n : Nat) (bytes : List UInt8) : Option Int :=
  if bytes.length = n then some (ofSignedWord bytes) else none

/-- The number without a sign in exactly `n` bytes. -/
def decodeWord? (n : Nat) (bytes : List UInt8) : Option Nat :=
  if bytes.length = n then some (ofWord bytes) else none

/-- The value of an integer cell of `n` bytes. -/
def decodeIntValue? (n : Nat) (bytes : List UInt8) : Option Value :=
  (decodeInt? n bytes).map fun x => .int (Int64.ofInt x)

/-- The bytes after the one that gives the version of a format, if that is the first version. -/
def dropVersion? : List UInt8 → Option (List UInt8)
  | 1 :: rest => some rest
  | _ => none

/-- The value of a cell with a document. -/
def decodeJson? (bytes : List UInt8) : Option Value :=
  match Json.parseBytes bytes with
  | .ok j => some (.json j)
  | .error _ => none

/-- The value of a cell that is not null. -/
def decodeBytes? (type : SqlType) (bytes : List UInt8) : Option Value :=
  match type with
  | .bool =>
    match bytes with
    | [b] => some (.bool (b != 0))
    | _ => none
  | .int2 => decodeIntValue? 2 bytes
  | .int4 => decodeIntValue? 4 bytes
  | .int8 => decodeIntValue? 8 bytes
  | .float4 => (decodeWord? 4 bytes).map fun w => .float (Binary64.widen (UInt32.ofNat w))
  | .float8 => (decodeWord? 8 bytes).map fun w => .float ⟨UInt64.ofNat w⟩
  | .numeric =>
    match Numeric.decode? bytes with
    | some d => some (.decimal d)
    | none => some (.raw ⟨.numeric, bytes⟩)
  | .uuid => (Uuid.ofBytes? bytes).map .uuid
  | .timestamp | .timestamptz =>
    ((decodeInt? 8 bytes).bind Timestamp.ofMicros?).map .timestamp
  | .date => ((decodeInt? 4 bytes).bind Date.ofDay?).map .date
  | .time => (decodeInt? 8 bytes).map fun x => .time (Time.ofMicros x)
  | .bytea => some (.bytes bytes)
  | .json => decodeJson? bytes
  | .jsonb => (dropVersion? bytes).bind decodeJson?
  | type =>
    if type.isTextual then (Text.ofUtf8? bytes).map .text
    else if type.isVersionedText then ((dropVersion? bytes).bind Text.ofUtf8?).map .text
    else some (.raw ⟨type, bytes⟩)

/-- **The value of a cell**: null, or what its bytes mean at the type of the column. -/
def decodeCell? (type : SqlType) (cell : Option (List UInt8)) : Option Value :=
  match cell with
  | none => some .null
  | some bytes => decodeBytes? type bytes

end TableGateway.Wire
