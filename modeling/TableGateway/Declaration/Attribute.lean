import TableGateway.Record

/-! # Attributes of a declaration

A declaration says how it is mapped in attributes of the name `orm`; all other attributes are left alone.
On the declaration itself an item names the table; on a field an item marks what the column is for, or
names the column.

* `tableNames` : the tables that the attributes of a declaration name
* `fieldItems` : what the attributes of a field say
* `markedKind` : what a field is marked as -/

namespace TableGateway.Declaration

/-- The value of an item: a text, or a literal of another type. -/
inductive Literal where
  | text (s : String)
  | other
  deriving DecidableEq, Repr

/-- One item between the parentheses of an attribute. -/
structure Item where
  name : String
  value : Option Literal
  deriving DecidableEq, Repr

/-- What follows the name of an attribute: nothing, a value, or items in parentheses. -/
inductive Body where
  | bare
  | value
  | items (items : List Item)
  deriving DecidableEq, Repr

/-- **An attribute.** -/
structure Attribute where
  name : String
  body : Body
  deriving DecidableEq, Repr

/-- Why a declaration has no mapping. -/
inductive Fault where
  | bareAttribute
  | valueAttribute
  | noValue
  | notText
  | markerValue
  | unknownItem
  | unknownFieldItem
  | markers
  | noTable
  | unnamedFields
  | notRecord
  | identifiers
  | duplicate (column : String)
  deriving DecidableEq, Repr

def Fault.message : Fault → String
  | bareAttribute => "expected attribute arguments in parentheses: #[orm(...)]"
  | valueAttribute => "expected parentheses: #[orm(...)]"
  | noValue => "expected `=`"
  | notText => "expected string literal"
  | markerValue => "expected `,`"
  | unknownItem => "unsupported struct attribute, expected `table = \"...\"`"
  | unknownFieldItem =>
    "unsupported field attribute, expected `id`, `timestamp`, `structured` or `column = \"...\"`"
  | markers => "at most one of `id`, `timestamp`, `structured` may be given"
  | noTable => "Record requires #[orm(table = \"table_name\")] attribute"
  | unnamedFields => "Record can only be derived for structs with named fields"
  | notRecord => "Record can only be derived for structs"
  | identifiers => "Record may have at most one identifier field"
  | duplicate column => "duplicate column name '" ++ column ++ "'"

/-- The items of an attribute, as far as it is about the mapping. -/
def Attribute.mappingItems (a : Attribute) : Except Fault (List Item) :=
  if a.name = "orm" then
    match a.body with
    | .bare => .error .bareAttribute
    | .value => .error .valueAttribute
    | .items items => .ok items
  else .ok []

/-- The text that an item has for its value. -/
def Item.text (item : Item) : Except Fault String :=
  match item.value with
  | none => .error .noValue
  | some .other => .error .notText
  | some (.text s) => .ok s

/-- The items of attributes, each one read; the first fault counts. -/
def readItems {α : Type} (read : Item → Except Fault α) (attributes : List Attribute) :
    Except Fault (List α) := do
  let groups ← attributes.mapM fun a => do
    let items ← a.mappingItems
    items.mapM read
  return groups.flatten

/-! ### The declaration -/

/-- The table that an item names. -/
def readTable (item : Item) : Except Fault String :=
  if item.name = "table" then item.text else .error .unknownItem

/-- **The tables that attributes name**, in order. -/
def tableNames (attributes : List Attribute) : Except Fault (List String) :=
  readItems readTable attributes

/-- The table that attributes name last. It needs a name that is not empty. -/
def tableName (attributes : List Attribute) : Except Fault String := do
  let names ← tableNames attributes
  match names.getLast? with
  | some name => if name.isEmpty then throw .noTable else return name
  | none => throw .noTable

/-! ### The fields -/

/-- What an item says about a field. -/
inductive FieldItem where
  | kind (kind : Kind)
  | column (name : String)
  deriving DecidableEq, Repr

/-- The kind that a word marks. -/
def markerKind? (word : String) : Option Kind :=
  if word = "id" then some .identifier
  else if word = "timestamp" then some .timestamp
  else if word = "structured" then some .structured
  else none

/-- What an item says about a field. A marker stands alone. -/
def readFieldItem (item : Item) : Except Fault FieldItem :=
  match markerKind? item.name with
  | some kind => if item.value.isSome then .error .markerValue else .ok (.kind kind)
  | none =>
    if item.name = "column" then item.text.map .column else .error .unknownFieldItem

/-- **What attributes say about a field**, in order. -/
def fieldItems (attributes : List Attribute) : Except Fault (List FieldItem) :=
  readItems readFieldItem attributes

def FieldItem.kind? : FieldItem → Option Kind
  | kind k => some k
  | column _ => none

def FieldItem.column? : FieldItem → Option String
  | kind _ => none
  | column name => some name

/-- **What a field is marked as**, if it is. Two different marks contradict each other. -/
def markedKind (items : List FieldItem) : Except Fault (Option Kind) :=
  match items.filterMap FieldItem.kind? with
  | [] => .ok none
  | k :: ks => if ks.all (· == k) then .ok (some k) else .error .markers

/-- The column that a field names last, if any. -/
def namedColumn? (items : List FieldItem) : Option String :=
  (items.filterMap FieldItem.column?).getLast?

theorem markedKind_eq_none_iff {items : List FieldItem} :
    markedKind items = .ok none ↔ ∀ item ∈ items, item.kind? = none := by
  rw [markedKind, ← List.filterMap_eq_nil_iff]
  cases h : items.filterMap FieldItem.kind? with
  | nil => simp
  | cons k ks => by_cases hk : (ks.all (· == k)) = true <;> simp [hk]

theorem markedKind_eq_some_iff {items : List FieldItem} {k : Kind} :
    markedKind items = .ok (some k) ↔
      items.filterMap FieldItem.kind? ≠ [] ∧ ∀ l ∈ items.filterMap FieldItem.kind?, l = k := by
  rw [markedKind]
  cases h : items.filterMap FieldItem.kind? with
  | nil => simp
  | cons l ks =>
    by_cases hk : (ks.all (· == l)) = true
    · simp only [hk, if_true, Except.ok.injEq, Option.some.injEq]
      rw [List.all_eq_true] at hk
      constructor
      · rintro rfl
        exact ⟨by simp, fun m hm => (List.mem_cons.1 hm).elim id fun hm => by simpa using hk m hm⟩
      · rintro ⟨-, hl⟩
        exact hl l (by simp)
    · simp only [hk, if_false, reduceCtorEq, false_iff, not_and]
      intro _ hl
      refine hk (List.all_eq_true.2 fun m hm => ?_)
      rw [hl l (by simp), hl m (by simp [hm])]
      simp

end TableGateway.Declaration
