import TableGateway.Declaration.Attribute
import TableGateway.Declaration.TypeExpr
import TableGateway.Text.Upper

/-! # Layouts

A declaration of a record, and the layout that it makes: the table, one column for every field, and a
constant for the name of every column. A declaration without a layout has a first fault: in its own
attributes, in its shape, in its fields one after the other, and last in the columns together.

* `Declaration.layout` : the layout of a declaration, or what is wrong with it
* `Layout.record` : the record of a layout -/

namespace TableGateway

namespace Declaration

/-- What is declared: a structure with named, with unnamed or without fields, or something else. -/
inductive Shape where
  | named
  | positional
  | unit
  | enumeration
  | union
  deriving DecidableEq, Repr

/-- A field as it is declared. -/
structure FieldDecl where
  name : String
  type : TypeExpr
  attributes : List Attribute

end Declaration

/-- **The declaration of a record.** -/
structure Declaration where
  name : String
  shape : Declaration.Shape
  attributes : List Declaration.Attribute
  fields : List Declaration.FieldDecl

/-- A field and the column that it is read from. -/
structure Member where
  field : String
  column : Column
  deriving DecidableEq, Repr

/-- **What a declaration makes**: the table, and its members in the order of the declaration. -/
structure Layout where
  name : String
  table : String
  members : List Member
  deriving DecidableEq, Repr

namespace Declaration

/-! ### Fields -/

/-- The name that an identifier stands for: `r#type` is `type`, spelled so because it is a word of the
language. -/
def plainName (ident : String) : String :=
  match ident.toList with
  | 'r' :: '#' :: cs => String.ofList cs
  | _ => ident

/-- The kind of a column without a mark, from the type without its option and from the name. -/
def usualKind (type : TypeExpr) (column : String) : Kind :=
  if type.isDocument then .structured
  else if column = "id" then .identifier
  else if column = "created_at" ∨ column = "updated_at" then .timestamp
  else .scalar

/-- **The member of a field.** -/
def FieldDecl.member (f : FieldDecl) : Except Fault Member := do
  let items ← fieldItems f.attributes
  let marked ← markedKind items
  let column := (namedColumn? items).getD (plainName f.name)
  let kind := marked.getD (usualKind (f.type.optionOf?.getD f.type) column)
  return ⟨f.name, ⟨column, kind, f.type.optionOf?.isSome⟩⟩

/-! ### The whole -/

/-- The first name in a list that was there before. -/
def firstRepeat? (seen : List String) : List String → Option String
  | [] => none
  | name :: names => if name ∈ seen then some name else firstRepeat? (name :: seen) names

/-- What is wrong with members together: two identifiers, or two columns of one name. -/
def conflict? (members : List Member) : Option Fault :=
  if 1 < (members.filter (·.column.kind == .identifier)).length then some .identifiers
  else (firstRepeat? [] (members.map (·.column.name))).map .duplicate

/-- Only a structure with named fields can be mapped. -/
def Shape.offence? : Shape → Option Fault
  | named => none
  | positional | unit => some .unnamedFields
  | enumeration | union => some .notRecord

/-- Nothing if there is no fault. -/
def passes : Option Fault → Except Fault Unit
  | none => .ok ()
  | some fault => .error fault

/-- **The layout of a declaration**, or what is wrong with it. -/
def layout (d : Declaration) : Except Fault Layout := do
  let table ← tableName d.attributes
  passes d.shape.offence?
  let members ← d.fields.mapM FieldDecl.member
  passes (conflict? members)
  return ⟨d.name, table, members⟩

theorem firstRepeat?_eq_none_iff {seen names : List String} :
    firstRepeat? seen names = none ↔ names.Nodup ∧ ∀ name ∈ names, name ∉ seen := by
  induction names generalizing seen with
  | nil => simp [firstRepeat?]
  | cons name names ih =>
    unfold firstRepeat?
    split
    · next h => simp [h]
    · next h =>
      rw [ih, List.nodup_cons]
      simp only [List.mem_cons, not_or, forall_eq_or_imp]
      constructor
      · rintro ⟨hn, hs⟩
        exact ⟨⟨fun hm => (hs _ hm).1 rfl, hn⟩, h, fun m hm => (hs m hm).2⟩
      · rintro ⟨⟨hm, hn⟩, -, hs⟩
        exact ⟨hn, fun m hm' => ⟨fun he => hm (he ▸ hm'), hs m hm'⟩⟩

end Declaration

namespace Layout

/-- The descriptions of the columns. -/
def columns (l : Layout) : List Column := l.members.map (·.column)

/-- Every field with the column that it is read from. -/
def reads (l : Layout) : List (String × String) := l.members.map fun m => (m.field, m.column.name)

/-- The name of the constant for a field. -/
def constantName (field : String) : String := "COL_" ++ Text.upper (Declaration.plainName field)

/-- The constants, each with the column that it names. -/
def constants (l : Layout) : List (String × String) :=
  l.members.map fun m => (constantName m.field, m.column.name)

/-- **The record of a layout**, whose fields are read as the given types. -/
def record (l : Layout) (typeOf : String → FieldType) : Record where
  table := l.table
  columns := l.columns
  fields := l.members.map fun m => ⟨m.field, m.column.name, typeOf m.field⟩

end Layout

end TableGateway
