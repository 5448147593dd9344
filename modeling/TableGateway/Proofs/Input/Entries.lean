import Mathlib.Data.List.Basic
import TableGateway.Input.Entries

/-! # Entries from pairs

What is left of pairs that are put one after the other: every key once, in the order in which the keys were
first put, with the value that was put last.

* `Entries.keys_ofList` : the keys
* `Entries.get?_ofList` : the value of a key
* `Entries.toList_ofList` : both at once -/

namespace TableGateway

variable {α β : Type}

/-- The value that is put last for a key. -/
def lastOf (pairs : List (String × α)) (key : String) : Option α := pairs.reverse.lookup key

/-- **What is left of pairs**: their keys in the order in which they were first put, each with the value that
was put last. -/
def lastSet (pairs : List (String × α)) : List (String × α) :=
  (pairs.map Prod.fst).eraseDups.filterMap fun k => (lastOf pairs k).map (k, ·)

theorem lastOf_cons (key k : String) (v : α) (pairs : List (String × α)) :
    lastOf ((k, v) :: pairs) key = (lastOf pairs key).or (if key = k then some v else none) := by
  unfold lastOf
  rw [List.reverse_cons, List.lookup_append]
  by_cases h : key = k
  · simp [h]
  · rw [if_neg h, List.lookup_cons, beq_eq_false_iff_ne.2 h]
    rfl

namespace Entries

theorem keys_foldl_put : ∀ (pairs : List (String × α)) (es : Entries α),
    (pairs.foldl (fun es p => es.put p.1 p.2) es).keys =
      es.keys ++ ((pairs.map Prod.fst).filter (· ∉ es.keys)).eraseDups
  | [], es => by simp
  | (k, v) :: pairs, es => by
    rw [List.foldl_cons, keys_foldl_put pairs (es.put k v), keys_put, List.map_cons]
    by_cases hk : k ∈ es.keys
    · rw [if_pos hk, List.filter_cons_of_neg (by simpa using hk)]
    · -- a new key comes after the old ones, and is left out of those that come after it
      have hfilter : (pairs.map Prod.fst).filter (· ∉ es.keys ++ [k]) =
          ((pairs.map Prod.fst).filter (· ∉ es.keys)).filter (fun b => !b == k) := by
        rw [List.filter_filter]
        refine List.filter_congr fun b _ => ?_
        by_cases hb : b = k <;> simp [hb]
      rw [if_neg hk, List.filter_cons_of_pos (by simpa using hk), List.eraseDups_cons, hfilter]
      simp

theorem keys_ofList (pairs : List (String × α)) :
    (ofList pairs).keys = (pairs.map Prod.fst).eraseDups := by
  have hall : (pairs.map Prod.fst).filter (· ∉ (empty : Entries α).keys) = pairs.map Prod.fst :=
    List.filter_eq_self.mpr fun _ _ => by simp [empty, keys]
  rw [ofList, keys_foldl_put, hall]
  rfl

theorem exists_keys_iff (names : List String) (value : α) :
    ∃ entries : Entries α, ∀ key, key ∈ entries.keys ↔ key ∈ names := by
  refine ⟨.ofList (names.map fun name => (name, value)), fun key => ?_⟩
  have hfst : Prod.fst ∘ (fun name : String => (name, value)) = id := rfl
  rw [keys_ofList, List.mem_eraseDups, List.map_map, hfst, List.map_id]

theorem get?_foldl_put (key : String) : ∀ (pairs : List (String × α)) (es : Entries α),
    (pairs.foldl (fun es p => es.put p.1 p.2) es).get? key = (lastOf pairs key).or (es.get? key)
  | [], es => rfl
  | (k, v) :: pairs, es => by
    rw [List.foldl_cons, get?_foldl_put key pairs (es.put k v), get?_put, lastOf_cons, Option.or_assoc]
    by_cases h : key = k
    · simp [h]
    · simp [h]

theorem get?_ofList (pairs : List (String × α)) (key : String) :
    (ofList pairs).get? key = lastOf pairs key := by
  rw [ofList, get?_foldl_put]
  exact Option.or_none

theorem filterMap_lookup : ∀ {es : List (String × α)}, (es.map Prod.fst).Nodup →
    (es.map Prod.fst).filterMap (fun k => (es.lookup k).map (k, ·)) = es
  | [], _ => rfl
  | (k, v) :: es, h => by
    obtain ⟨hk, hes⟩ := List.nodup_cons.mp h
    have hlookup : ∀ l ∈ es.map Prod.fst, ((k, v) :: es).lookup l = es.lookup l := by
      intro l hl
      have hlk : l ≠ k := fun he => hk (he ▸ hl)
      rw [List.lookup_cons, beq_eq_false_iff_ne.2 hlk]
    have hrest : (es.map Prod.fst).filterMap (fun l => (((k, v) :: es).lookup l).map (l, ·)) = es := by
      rw [List.filterMap_congr fun l hl => by rw [hlookup l hl]]
      exact filterMap_lookup hes
    rw [List.map_cons, List.filterMap_cons, List.lookup_cons_self, hrest]
    rfl

/-- **The entries of pairs** are what is left of them. -/
theorem toList_ofList (pairs : List (String × α)) : (ofList pairs).toList = lastSet pairs := by
  have hget : ∀ k, (ofList pairs).toList.lookup k = lastOf pairs k := get?_ofList pairs
  have hkeys : (ofList pairs).toList.map Prod.fst = (pairs.map Prod.fst).eraseDups := keys_ofList pairs
  have hentries := filterMap_lookup (ofList pairs).nodup_keys
  rw [hkeys] at hentries
  simp only [hget] at hentries
  exact hentries.symm

end Entries

end TableGateway
