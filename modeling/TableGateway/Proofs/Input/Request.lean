import TableGateway.Gateway.Call
import TableGateway.Proofs.Input.Entries

/-! # Requests

A call as its caller writes it: columns and values that are set one after the other, where a column may come
again. What the statement has to bind is said of the pairs, without the entries that they become.

* `Request.call` : the call
* `Request.bound` : the parameters that its statement has to have
* `Request.changed`, `Request.compared`, `Request.inserted` : the columns, each with the value set last -/

namespace TableGateway

/-- **A call as it is written.** The condition on an identifier is a pair like any other. -/
inductive Request where
  | getById (id : String)
  | list (filter : List (String × Value)) (page : Option Page)
      (order : Option (List (String × Direction)))
  | count (filter : List (String × Value))
  | create (values : List (String × Value))
  | update (changes filter : List (String × Value))
  | remove (filter : List (String × Value))

namespace Request

/-- The call of a request. -/
def call : Request → Call
  | getById id => .getById id
  | list filter page order => .list (.ofList filter) page (order.map .ofList)
  | count filter => .count (.ofList filter)
  | create values => .create (.ofList values)
  | update changes filter => .update (.ofList changes) (.ofList filter)
  | remove filter => .remove (.ofList filter)

/-- **What the placeholders stand for**, in order: the identifier; the values of a condition and then the
limit and the offset that are given; the values of a new row; the new values and then those of the condition. -/
def bound : Request → List Value
  | getById id => [.text id]
  | list filter page _ =>
    (lastSet filter).map Prod.snd ++ ((page.bind Page.limit).map Page.rows).toList ++
      ((page.bind Page.offset).map Page.rows).toList
  | count filter => (lastSet filter).map Prod.snd
  | create values => (lastSet values).map Prod.snd
  | update changes filter => (lastSet changes).map Prod.snd ++ (lastSet filter).map Prod.snd
  | remove filter => (lastSet filter).map Prod.snd

/-- The columns that an update sets. -/
def changed : Request → List (String × Value)
  | update changes _ => lastSet changes
  | _ => []

/-- The columns that are compared. -/
def compared (t : Table) : Request → List (String × Value)
  | getById id => [(t.record.idColumn, .text id)]
  | list filter _ _ | count filter | update _ filter | remove filter => lastSet filter
  | create _ => []

/-- The columns of a new row. -/
def inserted : Request → List (String × Value)
  | create values => lastSet values
  | _ => []

end Request

end TableGateway
