import TableGateway.Number.Binary

/-! # JSON documents

A document is a tree. A number is an integer or a binary floating-point number, and the two are never
equal. The members of an object have distinct keys in ascending order; a later member with the same key
replaces an earlier one.

* `Json.same` : equality of documents
* `Json.ofMembers` : the object of some members, in any order -/

namespace TableGateway

open TableGateway.Number

/-- **A JSON document.** -/
inductive Json where
  | null
  | bool (b : Bool)
  | integer (n : Int)
  | float (x : Binary64)
  | string (s : String)
  | array (items : List Json)
  | object (members : List (String × Json))

namespace Json

/-! ### Equality -/

mutual

/-- **Equality of documents.** -/
def same : Json → Json → Bool
  | null, null => true
  | bool a, bool b => a == b
  | integer m, integer n => m == n
  | float x, float y => x.same y
  | string s, string t => s == t
  | array as, array bs => sameItems as bs
  | object as, object bs => sameMembers as bs
  | _, _ => false

def sameItems : List Json → List Json → Bool
  | [], [] => true
  | a :: as, b :: bs => same a b && sameItems as bs
  | _, _ => false

def sameMembers : List (String × Json) → List (String × Json) → Bool
  | [], [] => true
  | (k, a) :: as, (l, b) :: bs => k == l && same a b && sameMembers as bs
  | _, _ => false

end

/-! ### Members -/

/-- The members with one more, at its place in the order of the keys. -/
def put (key : String) (value : Json) : List (String × Json) → List (String × Json)
  | [] => [(key, value)]
  | (k, v) :: ms =>
    if key < k then (key, value) :: (k, v) :: ms
    else if key = k then (key, value) :: ms
    else (k, v) :: put key value ms

/-- The object with the given members, the last one of each key. -/
def ofMembers (members : List (String × Json)) : Json :=
  object (members.foldl (fun ms m => put m.1 m.2 ms) [])

end Json

end TableGateway
