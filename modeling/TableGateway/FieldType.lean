import TableGateway.Json.Schema
import TableGateway.Value

/-! # Types of record fields

What a field of a record holds, and how a cell is read as such. Reading a cell gives the value in the
form of the field's type: an identifier held as a `uuid` cell becomes a text in a text field, a whole
number becomes a floating-point number in a floating-point field.

* `FieldType.read` : the value of a field, or why the cell does not fit -/

namespace TableGateway

open TableGateway.Number TableGateway.Calendar

/-- The widths of integer fields. -/
inductive IntWidth where
  | i16
  | i32
  | i64
  | u64
  deriving DecidableEq, Repr

namespace IntWidth

def label : IntWidth → String
  | i16 => "i16"
  | i32 => "i32"
  | i64 => "i64"
  | u64 => "u64"

/-- The least integer of a width. -/
def least : IntWidth → Int
  | i16 => -Int.pow 2 15
  | i32 => -Int.pow 2 31
  | i64 => -Int.pow 2 63
  | u64 => 0

/-- The greatest integer of a width. -/
def greatest : IntWidth → Int
  | i16 => Int.pow 2 15 - 1
  | i32 => Int.pow 2 31 - 1
  | i64 => Int.pow 2 63 - 1
  | u64 => Int.pow 2 64 - 1

/-- Whether an integer has a width. -/
def holds (w : IntWidth) (n : Int) : Bool := decide (w.least ≤ n) && decide (n ≤ w.greatest)

end IntWidth

/-- **The type of a record field.** -/
inductive FieldType where
  | any
  | bool
  | int (width : IntWidth)
  | float
  | text
  | uuid
  | timestamp
  | decimal
  | date
  | time
  | bytes
  | raw
  | json
  | document (schema : Json.Schema)
  | optional (item : FieldType)

/-- Why a cell does not fit a field. -/
inductive Mismatch where
  | kind (expected found : String)
  | rawType (expected : String) (type : SqlType)
  | range (n : Int64) (width : IntWidth)
  | uuid (fault : Uuid.Fault)
  | decimal (fault : Decimal.Fault)
  | document (mismatch : Json.Mismatch)
  deriving DecidableEq, Repr

def Mismatch.message : Mismatch → String
  | kind expected found => "expected " ++ expected ++ ", got " ++ found
  | rawType expected type =>
    "expected " ++ expected ++ ", got unsupported column type '" ++ type.label ++ "'"
  | range n width => "value " ++ toString n.toInt ++ " out of range for " ++ width.label
  | uuid fault => fault.message
  | decimal fault => fault.message
  | document mismatch => mismatch.message

/-- A value is not of the expected kind. -/
def Value.unexpected (v : Value) (expected : String) : Mismatch :=
  match v with
  | .raw c => .rawType expected c.type
  | v => .kind expected v.kindName

namespace FieldType

/-- **The value of a field.** -/
def read : FieldType → Value → Except Mismatch Value
  | any, v => .ok v
  | bool, v =>
    match v with
    | .bool b => .ok (.bool b)
    | v => .error (v.unexpected "bool")
  | int width, v =>
    match v with
    | .int n => if width.holds n.toInt then .ok (.int n) else .error (.range n width)
    | v => .error (v.unexpected "int")
  | float, v =>
    match v with
    | .float x => .ok (.float x)
    | .int n => .ok (.float (Binary64.ofInt n.toInt))
    | v => .error (v.unexpected "float")
  | text, v =>
    match v with
    | .text s => .ok (.text s)
    | .uuid u => .ok (.text u.text)
    | v => .error (v.unexpected "text")
  | uuid, v =>
    match v with
    | .uuid u => .ok (.uuid u)
    | .text s => ((Uuid.read s).map .uuid).mapError .uuid
    | v => .error (v.unexpected "uuid")
  | timestamp, v =>
    match v with
    | .timestamp t => .ok (.timestamp t)
    | v => .error (v.unexpected "timestamp")
  | decimal, v =>
    match v with
    | .decimal d => .ok (.decimal d)
    | .int n => .ok (.decimal (Decimal.ofInt64 n))
    | .text s => ((Decimal.read s).map .decimal).mapError .decimal
    | v => .error (v.unexpected "numeric")
  | date, v =>
    match v with
    | .date d => .ok (.date d)
    | v => .error (v.unexpected "date")
  | time, v =>
    match v with
    | .time t => .ok (.time t)
    | v => .error (v.unexpected "time")
  | bytes, v =>
    match v with
    | .bytes bs => .ok (.bytes bs)
    | v => .error (v.unexpected "bytea")
  | raw, v =>
    match v with
    | .raw c => .ok (.raw c)
    | v => .error (v.unexpected "raw cell")
  | json, v =>
    match v with
    | .json j => .ok (.json j)
    | v => .error (v.unexpected "json")
  | document schema, v =>
    match v with
    | .json j => ((schema.read j).map .json).mapError .document
    | v => .error (v.unexpected "json")
  | optional item, v =>
    match v with
    | .null => .ok .null
    | v => read item v

end FieldType

end TableGateway
