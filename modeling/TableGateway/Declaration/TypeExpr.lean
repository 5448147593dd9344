/-! # Type expressions

The type of a declared field as it is written. Only two things are read off it: whether it is an option,
and whether it holds a document. Both are decided by the last name of a path, so a type in parentheses
or behind a reference is neither.

* `TypeExpr.optionOf?` : the type of which a type is an option
* `TypeExpr.isDocument` : whether a type holds a document -/

namespace TableGateway.Declaration

mutual

/-- **A type as it is written**: a path from the root or not, with the arguments of its last name, or
another type. -/
inductive TypeExpr where
  | path (rooted : Bool) (names : List String) (arguments : List Argument)
  | reference (target : TypeExpr)
  | paren (inner : TypeExpr)
  | slice (item : TypeExpr)
  | tuple (items : List TypeExpr)

/-- What stands between the angle brackets after a name. -/
inductive Argument where
  | type (type : TypeExpr)
  | lifetime (name : String)

end

namespace TypeExpr

/-- The type that is a single name. -/
def name (s : String) : TypeExpr := path false [s] []

/-- **The type of which a type is an option**: the only argument of a path that ends in `Option`. -/
def optionOf? : TypeExpr → Option TypeExpr
  | path _ names [.type inner] => if names.getLast? = some "Option" then some inner else none
  | _ => none

/-- **Whether a type holds a document**: a path that ends in `Json` or `JsonValue`, or in
`serde_json::Value`. -/
def isDocument : TypeExpr → Bool
  | path _ names _ =>
    match names.reverse with
    | [] => false
    | last :: before =>
      last == "Json" || last == "JsonValue" ||
        (last == "Value" && before.head? == some "serde_json")
  | _ => false

theorem optionOf?_eq_some_iff {t inner : TypeExpr} :
    t.optionOf? = some inner ↔
      ∃ rooted names, t = path rooted names [.type inner] ∧ names.getLast? = some "Option" := by
  constructor
  · intro h
    match t, h with
    | path rooted names [.type u], h =>
      simp only [optionOf?] at h
      split at h
      · next hl =>
        cases h
        exact ⟨rooted, names, rfl, hl⟩
      · cases h
    | path _ _ [], h => simp [optionOf?] at h
    | path _ _ [.lifetime _], h => simp [optionOf?] at h
    | path _ _ (_ :: _ :: _), h => simp [optionOf?] at h
    | reference _, h => simp [optionOf?] at h
    | paren _, h => simp [optionOf?] at h
    | slice _, h => simp [optionOf?] at h
    | tuple _, h => simp [optionOf?] at h
  · rintro ⟨rooted, names, rfl, h⟩
    simp [optionOf?, h]

end TypeExpr

end TableGateway.Declaration
