import TableGateway.Row
import TableGateway.Sql.Clause

/-! # Calls on a table

The six calls on a table, the statement that each of them runs, and what it makes of the rows that come
back.

| call | statement |
| --- | --- |
| get by identifier | `SELECT * FROM "t" WHERE "id" = $1 LIMIT 1` |
| list | `SELECT * FROM "t"` and the condition, the order and the page |
| count | `SELECT COUNT(*) AS "count" FROM "t"` and the condition |
| create | `INSERT INTO "t"`, the values and `RETURNING "id"` |
| update | `UPDATE "t"`, the new values, the condition and `RETURNING "id"` |
| remove | `DELETE FROM "t"`, the condition and `RETURNING "id"` |

* `Table.statement` : the statement of a call, or why there is none
* `Table.answer` : the answer to a call, from the rows of its statement -/

namespace TableGateway

open TableGateway.Sql

/-- The kinds of calls. -/
inductive Operation where
  | getById
  | list
  | count
  | create
  | update
  | remove
  deriving DecidableEq, Repr

def Operation.label : Operation → String
  | getById => "get_by_id"
  | list => "list"
  | count => "count"
  | create => "create"
  | update => "update"
  | remove => "remove"

/-- **A call.** -/
inductive Call where
  | getById (id : String)
  | list (filter : Predicate) (page : Option Page) (order : Option OrderBy)
  | count (filter : Predicate)
  | create (values : Create)
  | update (changes : Update) (filter : Predicate)
  | remove (filter : Predicate)

def Call.operation : Call → Operation
  | getById _ => .getById
  | list _ _ _ => .list
  | count _ => .count
  | create _ => .create
  | update _ _ => .update
  | remove _ => .remove

/-- **The answer to a call.** -/
inductive Answer where
  | entry (found : Option Entry)
  | entries (found : List Entry)
  | number (n : Nat)
  | id (id : String)
  | ids (ids : List String)

/-- A table with the shape of a record, under the record's name for it or another one. -/
structure Table where
  record : Record
  name : String

/-- The table that a record declares. -/
def Record.home (r : Record) : Table := ⟨r, r.table⟩

namespace Table

variable (t : Table)

/-! ### Statements -/

/-- ` RETURNING "id"` -/
def returning : Fragment := (Fragment.ofText " RETURNING ").pushIdent t.record.idColumn

/-- The row with an identifier. -/
def getByIdStatement (id : String) : Statement :=
  let filter := (((Fragment.ofText " WHERE ").pushIdent t.record.idColumn).push " = ").pushValue
    (.text id)
  (Fragment.ofText "SELECT * FROM " ++ .ofIdent t.name ++ filter.push " LIMIT 1").statement

/-- The rows of a list. The condition is checked first, then the order. -/
def listStatement (filter : Predicate) (page : Option Page) (order : Option OrderBy) :
    Except Fault Statement := do
  passes (filter.offence? t.record)
  passes (order.bind (OrderBy.offence? t.record))
  return (Fragment.ofText "SELECT * FROM " ++ .ofIdent t.name ++ whereClause filter ++
    orderClause order ++ pageClause page).statement

/-- The number of rows. -/
def countStatement (filter : Predicate) : Except Fault Statement := do
  passes (filter.offence? t.record)
  return (Fragment.ofText "SELECT COUNT(*) AS \"count\" FROM " ++ .ofIdent t.name ++
    whereClause filter).statement

/-- A new row. -/
def createStatement (values : Create) : Except Fault Statement := do
  passes (Create.offence? t.record values)
  return (Fragment.ofText "INSERT INTO " ++ .ofIdent t.name ++ valuesClause values ++
    t.returning).statement

/-- New values in rows, or no statement if there are none. The new values are checked first, then the
condition. -/
def updateStatement (changes : Update) (filter : Predicate) :
    Except Fault (Option Statement) := do
  passes (Update.offence? t.record changes)
  passes (filter.offence? t.record)
  if changes.isEmpty then return none
  else
    return some (Fragment.ofText "UPDATE " ++ .ofIdent t.name ++ setClause changes ++
      whereClause filter ++ t.returning).statement

/-- Rows to delete. -/
def removeStatement (filter : Predicate) : Except Fault Statement := do
  passes (filter.offence? t.record)
  return (Fragment.ofText "DELETE FROM " ++ .ofIdent t.name ++ whereClause filter ++
    t.returning).statement

/-- **The statement of a call**, or none if there is nothing to run. -/
def statement : Call → Except Fault (Option Statement)
  | .getById id => .ok (some (t.getByIdStatement id))
  | .list filter page order => (t.listStatement filter page order).map some
  | .count filter => (t.countStatement filter).map some
  | .create values => (t.createStatement values).map some
  | .update changes filter => t.updateStatement changes filter
  | .remove filter => (t.removeStatement filter).map some

/-! ### Answers -/

/-- The only row. -/
def onlyRow (rows : List Row) : Except Fault Row :=
  match rows with
  | [row] => .ok row
  | rows => .error (.rowCount 1 rows.length)

/-- The identifiers of rows. -/
def readIds (rows : List Row) : Except Fault (List String) :=
  rows.mapM fun row => row.readText t.record.idColumn

/-- **The answer to a call**, from the rows of its statement. -/
def answer (call : Call) (rows : List Row) : Except Fault Answer :=
  match call with
  | .getById _ =>
    match rows with
    | [] => .ok (.entry none)
    | row :: _ => (t.record.read row).map fun e => .entry (some e)
  | .list _ _ _ => (rows.mapM t.record.read).map .entries
  | .count _ => do
    let row ← onlyRow rows
    return .number (← row.readCount "count")
  | .create _ => do
    let row ← onlyRow rows
    return .id (← row.readText t.record.idColumn)
  | .update _ _ | .remove _ => (t.readIds rows).map .ids

end Table

end TableGateway
