import TableGateway.Calendar.Reading
import TableGateway.Json.Printer
import TableGateway.Value
import TableGateway.Wire.Numeric

/-! # Binding values

The bytes that a value is sent as depend on the type that the server gave the placeholder. A value takes the
types that can hold it, numbers and texts several of them, and the null value takes any.

* `Value.bind` : the bytes of a value at a type, none for null, or why it cannot be sent -/

namespace TableGateway

open TableGateway.Number TableGateway.Calendar TableGateway.Wire

/-- Why a value cannot be sent at a type. -/
inductive BindFault where
  | wrongType
  | tooLarge
  | tooSmall
  | uuid (fault : Uuid.Fault)
  | decimal (fault : Decimal.Fault)
  | noDecimal
  | calendar (fault : Calendar.Fault)
  | rawType (type parameter : SqlType)
  deriving DecidableEq, Repr

def BindFault.message : BindFault → String
  | wrongType => "wrong type"
  | tooLarge => "number too large to fit in target type"
  | tooSmall => "number too small to fit in target type"
  | uuid fault => fault.message
  | decimal fault => fault.message
  | noDecimal => "Error while converting to Decimal"
  | calendar fault => fault.message
  | rawType type parameter =>
    "cannot bind a raw '" ++ type.label ++ "' value to a '" ++ parameter.label ++ "' parameter"

/-- The bytes of a text at a type. -/
def bindText (s : String) (type : SqlType) : Except BindFault (List UInt8) :=
  if type.isTextual then .ok (Text.utf8 s)
  else if type.isVersionedText then .ok (1 :: Text.utf8 s)
  else .error .wrongType

/-- The bytes of an integer in `n` bytes, if it fits. -/
def bindInt (n : Nat) (x : Int) : Except BindFault (List UInt8) :=
  if Int.pow 256 n ≤ 2 * x then .error .tooLarge
  else if 2 * x < -Int.pow 256 n then .error .tooSmall
  else .ok (signedWord n x)

/-- The bytes of a date: the days since 1 January 2000. -/
def bindDate (d : Date) : List UInt8 := signedWord 4 d.day

/-- The bytes of a time: the microseconds since midnight. -/
def bindTime (t : Time) : List UInt8 := signedWord 8 t.micros

/-- The bytes of a point in time: the microseconds since 1 January 2000. -/
def bindTimestamp (t : Timestamp) : List UInt8 := signedWord 8 t.micros

/-- The bytes of a floating-point number. -/
def bindFloat (x : Binary64) : List UInt8 := word 8 x.bits.toNat

namespace Value

/-- The bytes of a value that is not null. -/
def bindBytes (v : Value) (type : SqlType) : Except BindFault (List UInt8) :=
  match v with
  | null => .error .wrongType
  | bool b =>
    match type with
    | .bool => .ok [if b then 1 else 0]
    | _ => .error .wrongType
  | int n =>
    match type with
    | .int2 => bindInt 2 n.toInt
    | .int4 => bindInt 4 n.toInt
    | .int8 => bindInt 8 n.toInt
    | .float8 => .ok (bindFloat (Binary64.ofInt n.toInt))
    | .numeric => .ok (Numeric.encode (Decimal.ofInt64 n))
    | _ => .error .wrongType
  | float x =>
    match type with
    | .float4 => .ok (word 4 x.narrow.toNat)
    | .float8 => .ok (bindFloat x)
    | .numeric =>
      match Decimal.ofBinary? x with
      | some d => .ok (Numeric.encode d)
      | none => .error .noDecimal
    | _ => .error .wrongType
  | text s =>
    match type with
    | .uuid => ((Uuid.read s).map Uuid.bytes).mapError .uuid
    | .numeric => ((Decimal.read s).map Numeric.encode).mapError .decimal
    | .date => ((readDate s).map bindDate).mapError .calendar
    | .time => ((readTime s).map bindTime).mapError .calendar
    | type => bindText s type
  | uuid u =>
    match type with
    | .uuid => .ok u.bytes
    | type => bindText u.text type
  | timestamp t =>
    match type with
    | .timestamp | .timestamptz => .ok (bindTimestamp t)
    | .date => .ok (bindDate t.date)
    | _ => .error .wrongType
  | decimal d =>
    match type with
    | .numeric => .ok (Numeric.encode d)
    | _ => .error .wrongType
  | date d =>
    match type with
    | .date => .ok (bindDate d)
    | _ => .error .wrongType
  | time t =>
    match type with
    | .time => .ok (bindTime t)
    | _ => .error .wrongType
  | bytes bs =>
    match type with
    | .bytea => .ok bs
    | _ => .error .wrongType
  | json j =>
    match type with
    | .json => .ok (Text.utf8 j.text)
    | .jsonb => .ok (1 :: Text.utf8 j.text)
    | _ => .error .wrongType
  | raw c => if c.type = type then .ok c.bytes else .error (.rawType c.type type)

/-- **The bytes of a value at a type**; none for null. -/
def bind (v : Value) (type : SqlType) : Except BindFault (Option (List UInt8)) :=
  if v.isNull then .ok none else (v.bindBytes type).map some

end Value

end TableGateway
