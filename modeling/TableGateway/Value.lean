import TableGateway.Calendar.Timestamp
import TableGateway.Json.Basic
import TableGateway.Number.Decimal
import TableGateway.SqlType
import TableGateway.Uuid

/-! # Values

What is bound to a placeholder of a statement and what a cell of a row holds. A cell of a type without a
form of its own is kept raw: its type and its bytes.

* `Value.same` : equality of values, numbers by what they stand for
* `Value.kindName` : what a value is called in messages -/

namespace TableGateway

open TableGateway.Number TableGateway.Calendar

/-- A cell that was not decoded. -/
structure RawCell where
  type : SqlType
  bytes : List UInt8
  deriving DecidableEq, Repr

/-- **A value.** -/
inductive Value where
  | null
  | bool (b : Bool)
  | int (n : Int64)
  | float (x : Binary64)
  | text (s : String)
  | uuid (u : Uuid)
  | timestamp (t : Timestamp)
  | decimal (d : Decimal)
  | date (d : Date)
  | time (t : Time)
  | bytes (bs : List UInt8)
  | json (j : Json)
  | raw (c : RawCell)

namespace Value

/-- What a value is called in messages. -/
def kindName : Value → String
  | null => "null"
  | bool _ => "bool"
  | int _ => "int"
  | float _ => "float"
  | text _ => "text"
  | uuid _ => "uuid"
  | timestamp _ => "timestamp"
  | decimal _ => "numeric"
  | date _ => "date"
  | time _ => "time"
  | bytes _ => "bytea"
  | json _ => "json"
  | raw _ => "raw"

def isNull : Value → Bool
  | null => true
  | _ => false

/-- **Equality of values.** Values of different kinds are never equal. -/
def same : Value → Value → Bool
  | null, null => true
  | bool a, bool b => a == b
  | int m, int n => m == n
  | float x, float y => x.same y
  | text s, text t => s == t
  | uuid u, uuid v => u == v
  | timestamp t, timestamp u => t == u
  | decimal d, decimal e => d.same e
  | date d, date e => d == e
  | time t, time u => t == u
  | bytes as, bytes bs => as == bs
  | json a, json b => a.same b
  | raw a, raw b => a == b
  | _, _ => false

theorem isNull_iff {v : Value} : v.isNull = true ↔ v = null := by
  cases v <;> simp [isNull]

end Value

end TableGateway
