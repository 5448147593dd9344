import TableGateway.Fault
import TableGateway.Input.Entries

/-! # Inputs of a call

What a caller gives: the condition on the rows, the new values of an update, the values of a new record,
the order of a list and the part of it to fetch. Each of them is checked against the record before it is
used.

* `Entries.put`, `Entries.putDocument` : how inputs are given their columns
* `Predicate.offence?`, `Update.offence?`, `Create.offence?`, `OrderBy.offence?` : the first thing in an
  input that does not fit a record -/

namespace TableGateway

/-- The ascending or the descending order. -/
inductive Direction where
  | ascending
  | descending
  deriving DecidableEq, Repr

/-- Columns that have to equal values. -/
abbrev Predicate := Entries Value

/-- New values of columns. -/
abbrev Update := Entries Value

/-- The values of a new record. -/
abbrev Create := Entries Value

/-- The columns to sort by, the first one first. -/
abbrev OrderBy := Entries Direction

/-- The part of a list to fetch: at most how many rows, and after how many. -/
structure Page where
  limit : Option UInt64
  offset : Option UInt64
  deriving DecidableEq, Repr

/-- An input without anything to object to. -/
def passes (offence : Option Invalid) : Except Fault Unit :=
  match offence with
  | none => .ok ()
  | some cause => .error (.validation cause)

/-! ### Conditions -/

/-- The condition that a row has an identifier. -/
def Predicate.ofId (r : Record) (id : Value) : Predicate := Entries.empty.put r.idColumn id

/-- What is wrong with comparing a column. -/
def comparisonOffence? (r : Record) (field : String) : Option Invalid :=
  match r.column? field with
  | none => some (.unknownField field r.table)
  | some c => if c.kind.isComparable then none else some (.notComparable field)

/-- **The first column of a condition that cannot be compared.** -/
def Predicate.offence? (r : Record) (p : Predicate) : Option Invalid :=
  p.keys.findSome? (comparisonOffence? r)

/-! ### New values -/

/-- **The document of a value**, as a value of its own. Not every value has one. -/
def Value.ofSerial (x : Json.Serial) : Except Fault Value :=
  match x.toJson with
  | .ok j => .ok (.json j)
  | .error cause => .error (.serialization (.value cause))

/-- The entries with the document of a value under a key. -/
def Entries.putDocument (es : Entries Value) (key : String) (x : Json.Serial) :
    Except Fault (Entries Value) :=
  (Value.ofSerial x).map (es.put key)

/-- What is wrong with setting a column. -/
def assignmentOffence? (r : Record) (field : String) : Option Invalid :=
  match r.column? field with
  | none => some (.unknownField field r.table)
  | some c => if c.kind.isWritable then none else some (.notWritable field c.kind)

/-- **The first column that cannot be set.** -/
def Update.offence? (r : Record) (u : Update) : Option Invalid :=
  u.keys.findSome? (assignmentOffence? r)

/-- The columns that a new record has to set and does not. -/
def Create.missing (r : Record) (c : Create) : List String :=
  (r.columns.filter fun col => col.isRequired && !c.keys.contains col.name).map Column.name

/-- **The first column that cannot be set, or else all those that are missing.** -/
def Create.offence? (r : Record) (c : Create) : Option Invalid :=
  match c.keys.findSome? (assignmentOffence? r) with
  | some cause => some cause
  | none =>
    match Create.missing r c with
    | [] => none
    | fields => some (.missingFields r.table fields)

/-! ### Order and page -/

/-- **The first column to sort by that there is not.** -/
def OrderBy.offence? (r : Record) (o : OrderBy) : Option Invalid :=
  o.keys.findSome? fun field =>
    if (r.column? field).isSome then none else some (.unknownField field r.table)

namespace Page

/-- The whole list. -/
def whole : Page := ⟨none, none⟩

/-- A page by its number, counted from one, and its size. Where the offset leaves 64 bits it stays at the
greatest number that has so many. -/
def ofNumber (number size : UInt64) : Except Fault Page :=
  if number = 0 then .error (.validation (.page number))
  else
    let offset := min ((number.toNat - 1) * size.toNat) (Nat.pow 2 64 - 1)
    .ok ⟨some size, some (UInt64.ofNat offset)⟩

def isWhole (p : Page) : Bool := p.limit.isNone && p.offset.isNone

/-- A number of rows as a value; at most the greatest number that a value can hold. -/
def rows (n : UInt64) : Value := .int (Int64.ofNat (min n.toNat (Nat.pow 2 63 - 1)))

end Page

end TableGateway
