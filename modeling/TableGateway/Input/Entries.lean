/-! # Ordered entries

Entries under distinct keys, in the order in which the keys were first set. Setting a key again changes
its value and not its place.

* `Entries.keys_put` : the keys after an entry is put
* `Entries.get?_put` : the values after an entry is put -/

namespace TableGateway

/-- A list of entries with one more: in place of the entry with its key, or at the end. -/
def upsert {α : Type} (key : String) (value : α) : List (String × α) → List (String × α)
  | [] => [(key, value)]
  | (k, v) :: es => if k = key then (k, value) :: es else (k, v) :: upsert key value es

theorem keys_upsert {α : Type} (key : String) (value : α) (es : List (String × α)) :
    (upsert key value es).map Prod.fst =
      if key ∈ es.map Prod.fst then es.map Prod.fst else es.map Prod.fst ++ [key] := by
  induction es with
  | nil => simp [upsert]
  | cons e es ih =>
    obtain ⟨k, v⟩ := e
    unfold upsert
    split
    · next h => subst h; simp
    · next h =>
      have hk : ¬ key = k := fun h' => h h'.symm
      rw [List.map_cons, ih]
      by_cases hm : key ∈ es.map Prod.fst
      · rw [if_pos hm, List.map_cons, if_pos (List.mem_cons_of_mem _ hm)]
      · rw [if_neg hm, List.map_cons, if_neg (by simp only [List.mem_cons, not_or]; exact ⟨hk, hm⟩)]
        rfl

theorem lookup_upsert {α : Type} (key k : String) (value : α) (es : List (String × α)) :
    (upsert key value es).lookup k = if k = key then some value else es.lookup k := by
  induction es with
  | nil =>
    unfold upsert
    by_cases h : k = key
    · simp [h]
    · rw [if_neg h, List.lookup_cons, beq_eq_false_iff_ne.2 h]
  | cons e es ih =>
    obtain ⟨l, v⟩ := e
    unfold upsert
    split
    · next h =>
      subst h
      by_cases h' : k = l
      · simp [h']
      · rw [List.lookup_cons, beq_eq_false_iff_ne.2 h', if_neg h', List.lookup_cons,
          beq_eq_false_iff_ne.2 h']
    · next h =>
      rw [List.lookup_cons, List.lookup_cons, ih]
      by_cases h' : k = l
      · subst h'
        simp [h]
      · rw [beq_eq_false_iff_ne.2 h']

/-- **Entries under distinct keys**, in the order in which the keys were first set. -/
structure Entries (α : Type) where
  toList : List (String × α)
  nodup_keys : (toList.map Prod.fst).Nodup

namespace Entries

variable {α : Type}

/-- No entries. -/
def empty : Entries α := ⟨[], List.nodup_nil⟩

/-- The keys, in order. -/
def keys (es : Entries α) : List String := es.toList.map Prod.fst

/-- The value of a key. -/
def get? (es : Entries α) (key : String) : Option α := es.toList.lookup key

/-- The entries with one more; a key that is there keeps its place and gets the new value. -/
def put (es : Entries α) (key : String) (value : α) : Entries α where
  toList := upsert key value es.toList
  nodup_keys := by
    rw [keys_upsert]
    split
    · exact es.nodup_keys
    · next h =>
      refine List.nodup_append.2 ⟨es.nodup_keys, by simp, ?_⟩
      rintro a ha b hb rfl
      exact h ((List.mem_singleton.1 hb) ▸ ha)

/-- The entries of some pairs, put one after the other. -/
def ofList (pairs : List (String × α)) : Entries α :=
  pairs.foldl (fun es p => es.put p.1 p.2) empty

def length (es : Entries α) : Nat := es.toList.length

def isEmpty (es : Entries α) : Bool := es.toList.isEmpty

theorem keys_put (es : Entries α) (key : String) (value : α) :
    (es.put key value).keys = if key ∈ es.keys then es.keys else es.keys ++ [key] :=
  keys_upsert key value es.toList

theorem get?_put (es : Entries α) (key k : String) (value : α) :
    (es.put key value).get? k = if k = key then some value else es.get? k :=
  lookup_upsert key k value es.toList

end Entries

end TableGateway
