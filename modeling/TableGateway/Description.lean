import TableGateway.Gateway.Session
import TableGateway.Text.Quoted

/-! # Descriptions

Inputs and gateways as a developer sees them: the name of the thing and its parts in braces. Texts are
quoted; what a thing does not show stands as two points.

* `Entries.describe` : the description of a condition, of new values or of an order
* `Page.describe` : the description of a page
* `Table.describe` : the description of the gateway to a table -/

namespace TableGateway

/-- A name and its parts in braces. -/
def describeParts (name : String) (parts : List String) : String :=
  name ++ " \x7b " ++ String.intercalate ", " parts ++ " \x7d"

/-- A name and one part in parentheses. -/
def describeCase (name part : String) : String := name ++ "(" ++ part ++ ")"

/-- **The description of a value.** Of numbers with a fraction, of points in time and of bytes only the
kind is shown. -/
def Value.describe : Value → String
  | null => "Null"
  | bool b => describeCase "Bool" (if b then "true" else "false")
  | int n => describeCase "Int" (toString n.toInt)
  | text s => describeCase "Text" (Text.quoted s)
  | float _ => describeCase "Float" ".."
  | uuid _ => describeCase "Uuid" ".."
  | timestamp _ => describeCase "Timestamp" ".."
  | decimal _ => describeCase "Decimal" ".."
  | date _ => describeCase "Date" ".."
  | time _ => describeCase "Time" ".."
  | bytes _ => describeCase "Bytes" ".."
  | json _ => describeCase "Json" ".."
  | raw _ => describeCase "Raw" ".."

def Direction.describe : Direction → String
  | ascending => "Asc"
  | descending => "Desc"

/-- An entry: its key and its value. -/
def describeEntry {α : Type} (describe : α → String) (e : String × α) : String :=
  describeCase "" (Text.quoted e.1 ++ ", " ++ describe e.2)

/-- **The description of entries** under the name of what they are. -/
def Entries.describe {α : Type} (es : Entries α) (name : String) (describe : α → String) : String :=
  describeParts name
    ["entries: [" ++ String.intercalate ", " (es.toList.map (describeEntry describe)) ++ "]"]

/-- A number that may be missing. -/
def describeNumber : Option UInt64 → String
  | none => "None"
  | some n => describeCase "Some" (toString n.toNat)

/-- **The description of a page.** -/
def Page.describe (p : Page) : String :=
  describeParts "Pagination"
    ["limit: " ++ describeNumber p.limit, "offset: " ++ describeNumber p.offset]

/-- **The description of the gateway to a table.** Its executor and its hook are not shown. -/
def Table.describe (t : Table) : String :=
  describeParts "Repository" ["table: " ++ Text.quoted t.name, ".."]

/-- The description of what gateways are opened on, of which nothing is shown. -/
def describeDatabase : String := describeParts "Database" [".."]

end TableGateway
