import TableGateway.FieldType

/-! # Records

A record is the shape of one table: its name, a description of every column, and how a row is read into
the fields of the record. Columns are looked up by name; where a name is repeated the first one counts.

* `Record.column?` : the description of a column
* `Record.idColumn` : the column that identifies a row -/

namespace TableGateway

/-- What a column is for. -/
inductive Kind where
  | identifier
  | scalar
  | structured
  | timestamp
  deriving DecidableEq, Repr

namespace Kind

def label : Kind → String
  | identifier => "Identifier"
  | scalar => "Scalar"
  | structured => "Structured"
  | timestamp => "Timestamp"

/-- Whether a condition may compare the column: nested data cannot be compared. -/
def isComparable : Kind → Bool
  | structured => false
  | _ => true

/-- Whether a caller may set the column: identifiers and timestamps belong to the server. -/
def isWritable : Kind → Bool
  | scalar | structured => true
  | _ => false

end Kind

/-- The description of a column. -/
structure Column where
  name : String
  kind : Kind
  nullable : Bool
  deriving DecidableEq, Repr

/-- Whether a new record has to set the column. -/
def Column.isRequired (c : Column) : Bool := c.kind.isWritable && !c.nullable

/-- A field of a record: the column that it is read from, and its type. -/
structure Field where
  name : String
  column : String
  type : FieldType

/-- **The shape of a table.** -/
structure Record where
  table : String
  columns : List Column
  fields : List Field

namespace Record

/-- The description of a column. -/
def column? (r : Record) (name : String) : Option Column := r.columns.find? (·.name == name)

/-- The column that identifies a row: the first identifier, or `id` if there is none. -/
def idColumn (r : Record) : String :=
  match r.columns.find? (·.kind == .identifier) with
  | some c => c.name
  | none => "id"

theorem exists_idColumn_eq {r : Record} (h : ∃ c ∈ r.columns, c.kind = .identifier) :
    ∃ c ∈ r.columns, c.kind = .identifier ∧ r.idColumn = c.name := by
  obtain ⟨c, hc, hkind⟩ := h
  rcases hfind : r.columns.find? (·.kind == .identifier) with _ | first
  · exact absurd (beq_iff_eq.mpr hkind) (List.find?_eq_none.mp hfind c hc)
  · refine ⟨first, List.mem_of_find?_eq_some hfind, by simpa using List.find?_some hfind, ?_⟩
    rw [idColumn, hfind]

theorem idColumn_eq_id {r : Record} (h : ∀ c ∈ r.columns, c.kind ≠ .identifier) : r.idColumn = "id" := by
  have hnone : r.columns.find? (·.kind == .identifier) = none :=
    List.find?_eq_none.mpr fun c hc hkind => h c hc (beq_iff_eq.mp hkind)
  rw [idColumn, hnone]

end Record

end TableGateway
