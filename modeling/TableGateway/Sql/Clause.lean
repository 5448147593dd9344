import TableGateway.Input.Basic
import TableGateway.Sql.Fragment

/-! # Clauses

The fragments that inputs become. Every name is quoted, every value is a parameter, and an input that says
nothing becomes nothing.

* `whereClause`, `orderClause`, `pageClause` : which rows, in which order, which part
* `setClause`, `valuesClause` : new values -/

namespace TableGateway.Sql

/-- Items pushed one after the other, with a separator between them. -/
def pushSeparated {α : Type} (separator : String) (push : Fragment → α → Fragment) :
    Fragment → List α → Fragment
  | f, [] => f
  | f, [a] => push f a
  | f, a :: as => pushSeparated separator push ((push f a).push separator) as

/-- `"column" = $n` -/
def pushAssignment (f : Fragment) (e : String × Value) : Fragment :=
  ((f.pushIdent e.1).push " = ").pushValue e.2

/-- The keyword of a direction. -/
def directionWord : Direction → String
  | .ascending => "ASC"
  | .descending => "DESC"

/-- `"column" ASC` -/
def pushSortKey (f : Fragment) (e : String × Direction) : Fragment :=
  ((f.pushIdent e.1).push " ").push (directionWord e.2)

/-- ` WHERE "a" = $1 AND "b" = $2`, or nothing for a condition without columns. -/
def whereClause (p : Predicate) : Fragment :=
  if p.isEmpty then .empty
  else pushSeparated " AND " pushAssignment (.ofText " WHERE ") p.toList

/-- ` ORDER BY "a" ASC, "b" DESC`, or nothing without columns to sort by. -/
def orderClause (o : Option OrderBy) : Fragment :=
  match o with
  | none => .empty
  | some o =>
    if o.isEmpty then .empty
    else pushSeparated ", " pushSortKey (.ofText " ORDER BY ") o.toList

/-- ` LIMIT $1 OFFSET $2`, each part only if it is given. -/
def pageClause (p : Option Page) : Fragment :=
  match p with
  | none => .empty
  | some p =>
    let f := match p.limit with
      | none => .empty
      | some n => (Fragment.ofText " LIMIT ").pushValue (Page.rows n)
    match p.offset with
    | none => f
    | some n => (f.push " OFFSET ").pushValue (Page.rows n)

/-- ` SET "a" = $1, "b" = $2`, or nothing for an update without columns. -/
def setClause (u : Update) : Fragment :=
  if u.isEmpty then .empty
  else pushSeparated ", " pushAssignment (.ofText " SET ") u.toList

/-- ` ("a", "b") VALUES ($1, $2)`, or ` DEFAULT VALUES` for a new record without values. -/
def valuesClause (c : Create) : Fragment :=
  if c.isEmpty then .ofText " DEFAULT VALUES"
  else
    let names := pushSeparated ", " Fragment.pushIdent (.ofText " (") (c.toList.map Prod.fst)
    let values :=
      pushSeparated ", " Fragment.pushValue (names.push ") VALUES (") (c.toList.map Prod.snd)
    values.push ")"

end TableGateway.Sql
