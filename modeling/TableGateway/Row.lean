import TableGateway.Fault

/-! # Rows

A row of a result: its columns in order, each with a value. A name may be repeated; a look-up takes the
first.

* `Row.get?` : the value of a column
* `Row.read` : the value of a column in the form of a field's type
* `Record.read` : the fields of a record, in order, or the first fault -/

namespace TableGateway

/-- **A row.** -/
structure Row where
  cells : List (String × Value)

namespace Row

/-- The value of a column. -/
def get? (row : Row) (column : String) : Option Value := row.cells.lookup column

/-- The value of a column in the form of a field's type. -/
def read (row : Row) (column : String) (type : FieldType) : Except Fault Value :=
  match row.get? column with
  | none => .error (.decode column .absent)
  | some v => (type.read v).mapError fun cause => .decode column (.mismatch cause)

/-- The text in a column. -/
def readText (row : Row) (column : String) : Except Fault String :=
  match row.read column .text with
  | .ok (.text s) => .ok s
  | .ok v => .error (.decode column (.mismatch (v.unexpected "text")))
  | .error fault => .error fault

/-- The number of things that a column gives. -/
def readCount (row : Row) (column : String) : Except Fault Nat :=
  match row.read column (.int .u64) with
  | .ok (.int n) => .ok n.toInt.toNat
  | .ok v => .error (.decode column (.mismatch (v.unexpected "int")))
  | .error fault => .error fault

/-- A row with one more column. -/
def push (row : Row) (column : String) (value : Value) : Row := ⟨row.cells ++ [(column, value)]⟩

end Row

/-- **A record**: its fields in order, each with its value. -/
abbrev Entry := List (String × Value)

/-- The fields of a record, read from a row in the order of their declaration. -/
def Record.read (r : Record) (row : Row) : Except Fault Entry :=
  r.fields.mapM fun f => (row.read f.column f.type).map (f.name, ·)

end TableGateway
