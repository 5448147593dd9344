/-! # Types of the server

The types that get a treatment of their own, and all others by name. Every type has one form: what
`SqlType.ofName` makes of its name.

* `SqlType.ofName` : the type with a name
* `SqlType.isTextual`, `SqlType.isVersionedText` : the types whose cells are texts -/

namespace TableGateway

/-- **A type of the server.** -/
inductive SqlType where
  | bool
  | int2
  | int4
  | int8
  | float4
  | float8
  | numeric
  | text
  | varchar
  | bpchar
  | name
  | unknown
  | uuid
  | timestamp
  | timestamptz
  | date
  | time
  | bytea
  | json
  | jsonb
  | other (name : String)
  deriving DecidableEq, Repr

namespace SqlType

/-- The name of a type. -/
def label : SqlType → String
  | bool => "bool"
  | int2 => "int2"
  | int4 => "int4"
  | int8 => "int8"
  | float4 => "float4"
  | float8 => "float8"
  | numeric => "numeric"
  | text => "text"
  | varchar => "varchar"
  | bpchar => "bpchar"
  | name => "name"
  | unknown => "unknown"
  | uuid => "uuid"
  | timestamp => "timestamp"
  | timestamptz => "timestamptz"
  | date => "date"
  | time => "time"
  | bytea => "bytea"
  | json => "json"
  | jsonb => "jsonb"
  | other s => s

/-- The types with a form of their own. -/
def builtin : List SqlType :=
  [bool, int2, int4, int8, float4, float8, numeric, text, varchar, bpchar, name, unknown, uuid,
    timestamp, timestamptz, date, time, bytea, json, jsonb]

/-- The type with a name. -/
def ofName (s : String) : SqlType := (builtin.find? (·.label == s)).getD (other s)

/-- Texts that are sent as they are. -/
def isTextual : SqlType → Bool
  | text | varchar | bpchar | name | unknown => true
  | other s => s == "citext"
  | _ => false

/-- Texts that are sent after a byte that gives the version of their format. -/
def isVersionedText : SqlType → Bool
  | other s => s == "ltree" || s == "lquery" || s == "ltxtquery"
  | _ => false

end SqlType

end TableGateway
