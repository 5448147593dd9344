import TableGateway.Json.Printer
import TableGateway.Text.Quoted

/-! # Typed documents

A schema says which documents a typed field takes. A record is read from an object, where keys that it
does not declare are ignored, or from an array, where the items stand in the order of the declaration. A
field with a default may be left out. Reading gives the document back in full form: every declared field
and nothing else.

* `Schema.read` : the full form of a document, or why it does not fit -/

namespace TableGateway.Json

/-- **The shape of a typed document.** A field of a record has a key, a schema and perhaps a default. -/
inductive Schema where
  | any
  | string
  | integer
  | optional (item : Schema)
  | list (item : Schema)
  | record (name : String) (fields : List (String × Schema × Option Json))

/-- Why a document does not fit a schema. -/
inductive Mismatch where
  | type (found expected : String)
  | value (found expected : String)
  | missing (field : String)
  | length (found : Nat) (expected : String)
  deriving DecidableEq, Repr

def Mismatch.message : Mismatch → String
  | type found expected => "invalid type: " ++ found ++ ", expected " ++ expected
  | value found expected => "invalid value: " ++ found ++ ", expected " ++ expected
  | missing field => "missing field \x60" ++ field ++ "\x60"
  | length found expected => "invalid length " ++ toString found ++ ", expected " ++ expected

/-- What a document is, for a message. -/
def describe : Json → String
  | null => "null"
  | bool b => "boolean \x60" ++ toString b ++ "\x60"
  | integer n => "integer \x60" ++ toString n ++ "\x60"
  | float x => "floating point \x60" ++ String.ofList (printFloat x) ++ "\x60"
  | string s => "string " ++ Text.quoted s
  | array _ => "sequence"
  | object _ => "map"

/-- What a field of a record was found to be: absent, or read with or without success. -/
structure FieldReading where
  key : String
  found : Option (Except Mismatch Json)
  default : Option Json

/-- The value of a field: what was read, or else the default. -/
def FieldReading.value (f : FieldReading) : Except Mismatch (String × Json) :=
  match f.found, f.default with
  | some (.ok v), _ => .ok (f.key, v)
  | some (.error e), _ => .error e
  | none, some v => .ok (f.key, v)
  | none, none => .error (.missing f.key)

/-- The first mismatch in the order of an object's keys. -/
def firstMismatch (fields : List FieldReading) (members : List (String × Json)) : Option Mismatch :=
  members.findSome? fun m =>
    match fields.find? (·.key == m.1) with
    | some ⟨_, some (.error e), _⟩ => some e
    | _ => none

/-- What a record of `size` fields is called where its array is too short. -/
def recordText (name : String) (size : Nat) : String :=
  "struct " ++ name ++ " with " ++ toString size ++ " elements"

namespace Schema

mutual

/-- **The full form of a document.** -/
def read : Schema → Json → Except Mismatch Json
  | any, j => .ok j
  | string, j =>
    match j with
    | .string s => .ok (.string s)
    | j => .error (.type j.describe "a string")
  | integer, j =>
    match j with
    | .integer n =>
      if -Int.pow 2 63 ≤ n ∧ n < Int.pow 2 63 then .ok (.integer n) else .error (.value j.describe "i64")
    | j => .error (.type j.describe "i64")
  | optional item, j =>
    match j with
    | .null => .ok .null
    | j => read item j
  | list item, j =>
    match j with
    | .array items => (items.mapM (read item)).map .array
    | j => .error (.type j.describe "a sequence")
  | record name fields, j =>
    match j with
    | .object members =>
      let found := readFields fields members
      match firstMismatch found members with
      | some e => .error e
      | none => (found.mapM FieldReading.value).map .ofMembers
    | .array items => do
      let (members, rest) ← readItems name fields.length fields 0 items
      if rest.isEmpty then return .ofMembers members
      else throw (.length items.length "fewer elements in array")
    | j => .error (.type j.describe ("struct " ++ name))

/-- The declared fields, each with what an object holds for it. -/
def readFields : List (String × Schema × Option Json) → List (String × Json) → List FieldReading
  | [], _ => []
  | (key, schema, default) :: fields, members =>
    ⟨key, (members.lookup key).map (read schema), default⟩ :: readFields fields members

/-- The declared fields, each with the item at its place, and the items left over. -/
def readItems (name : String) (size : Nat) :
    List (String × Schema × Option Json) → Nat → List Json →
      Except Mismatch (List (String × Json) × List Json)
  | [], _, items => .ok ([], items)
  | (key, schema, _) :: fields, n, item :: items => do
    let value ← read schema item
    let (members, rest) ← readItems name size fields (n + 1) items
    return ((key, value) :: members, rest)
  | (key, _, some default) :: fields, n, [] => do
    let (members, rest) ← readItems name size fields (n + 1) []
    return ((key, default) :: members, rest)
  | (_, _, none) :: _, n, [] => .error (.length n (recordText name size))

end

end Schema

end TableGateway.Json
