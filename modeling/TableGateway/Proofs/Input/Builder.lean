import Mathlib.Data.List.Forall2
import TableGateway.Proofs.Input.Entries
import TableGateway.Proofs.Traversal
import TableGateway.Sql.Clause

/-! # Inputs built by calls

An input is built by one call after the other, each of which gives a column something: a value, the document of a
value, a direction. Whatever the calls are, the input is what was given as a map in the order of insertion: every
column once, in the order in which the columns were first mentioned, with what was given to it last. Nothing else of
the calls is left, so that calls that give the same in this sense build the same input and the same clause.

* `GivenLast` : what was given last to a column, said of the calls
* `Collects` : the map in the order of insertion
* `Builder`, `Ledger` : how an input is built, and what is given on the way
* `Ledger.Books` : each call puts what it gives; `Books.run_eq`, `Books.exists_records` carry it to all calls
* `inputs_insertionOrdered` : conditions, updates, new records and orders -/

namespace TableGateway

variable {σ κ α : Type} {given given' : List (String × α)} {es es' : Entries α} {key : String} {v : α}

/-! ### What is given -/

/-- **What was given last** under a key: nothing is given under it later. -/
def GivenLast (given : List (String × α)) (key : String) (v : α) : Prop :=
  ∃ before after, given = before ++ (key, v) :: after ∧ key ∉ after.map Prod.fst

/-- **Gifts that come to the same**: the keys are first mentioned in the same order, and the same was given last. -/
structure SameGifts (given given' : List (String × α)) : Prop where
  mentioned : (given.map Prod.fst).eraseDups = (given'.map Prod.fst).eraseDups
  last : ∀ key v, GivenLast given key v ↔ GivenLast given' key v

/-- **A map in the order of insertion** of what was given. -/
structure Collects (given : List (String × α)) (es : Entries α) : Prop where
  /-- Its keys are those that were mentioned, in the order in which they were first. -/
  keys_eq : es.keys = (given.map Prod.fst).eraseDups
  nodup : es.keys.Nodup
  /-- Each key has what was given last. -/
  mem_iff : ∀ key v, (key, v) ∈ es.toList ↔ GivenLast given key v
  length_eq : es.length = (given.map Prod.fst).eraseDups.length

theorem lastOf_eq_some_iff : lastOf given key = some v ↔ GivenLast given key v := by
  unfold lastOf GivenLast
  rw [List.lookup_eq_some_iff]
  constructor
  · rintro ⟨after, before, hreverse, hafter⟩
    refine ⟨before.reverse, after.reverse, ?_, ?_⟩
    · rw [← List.reverse_reverse given, hreverse]
      simp
    · rintro hmem
      obtain ⟨e, he, hkey⟩ := List.mem_map.mp hmem
      have hne := hafter e (List.mem_reverse.mp he)
      rw [hkey, bne_self_eq_false] at hne
      cases hne
  · rintro ⟨before, after, rfl, hafter⟩
    refine ⟨after.reverse, before.reverse, by simp, fun e he => ?_⟩
    rw [bne_iff_ne]
    rintro rfl
    exact hafter (List.mem_map_of_mem (List.mem_reverse.mp he))

theorem upsert_eq_self : ∀ {l : List (String × α)}, l.lookup key = some v → upsert key v l = l
  | [], h => nomatch h
  | (k, w) :: l, h => by
    unfold upsert
    split
    · next hkey =>
      subst hkey
      rw [List.lookup_cons_self] at h
      rw [Option.some.inj h]
    · next hkey =>
      rw [List.lookup_cons, beq_eq_false_iff_ne.mpr fun he => hkey he.symm] at h
      rw [upsert_eq_self h]

namespace Entries

theorem mem_toList_iff (es : Entries α) : (key, v) ∈ es.toList ↔ es.get? key = some v := by
  constructor
  · intro hmem
    obtain ⟨before, after, hes⟩ := List.append_of_mem hmem
    have hnodup := es.nodup_keys
    rw [hes, List.map_append, List.map_cons, List.nodup_append] at hnodup
    unfold get?
    rw [List.lookup_eq_some_iff]
    refine ⟨before, after, hes, fun e he => ?_⟩
    rw [bne_iff_ne]
    exact fun hkey => hnodup.2.2 e.1 (List.mem_map_of_mem he) key List.mem_cons_self hkey.symm
  · intro hget
    obtain ⟨before, after, hes, -⟩ := List.lookup_eq_some_iff.mp hget
    rw [hes]
    exact List.mem_append_right before List.mem_cons_self

theorem eq_of_toList_eq (h : es.toList = es'.toList) : es = es' := by
  obtain ⟨toList, _⟩ := es
  obtain ⟨toList', _⟩ := es'
  obtain rfl : toList = toList' := h
  rfl

theorem put_eq_self (h : es.get? key = some v) : es.put key v = es := eq_of_toList_eq (upsert_eq_self h)

/-- **What is put one after the other is collected.** -/
theorem collects_ofList (given : List (String × α)) : Collects given (ofList given) where
  keys_eq := keys_ofList given
  nodup := (ofList given).nodup_keys
  mem_iff key v := by rw [mem_toList_iff, get?_ofList, lastOf_eq_some_iff]
  length_eq := by
    have hlength : (ofList given).length = (ofList given).keys.length := (List.length_map Prod.fst).symm
    rw [hlength, keys_ofList]

theorem ofList_eq_of_sameGifts (h : SameGifts given given') : ofList given = ofList given' := by
  have hlast : lastOf given = lastOf given' := by
    funext key
    refine Option.ext fun v => ?_
    rw [lastOf_eq_some_iff, lastOf_eq_some_iff]
    exact h.last key v
  refine eq_of_toList_eq ?_
  rw [toList_ofList, toList_ofList, lastSet, lastSet, h.mentioned, hlast]

theorem ofList_append (given pairs : List (String × α)) :
    ofList (given ++ pairs) = pairs.foldl (fun es e => es.put e.1 e.2) (ofList given) := List.foldl_append

theorem isEmpty_ofList_iff : (ofList given).isEmpty = true ↔ given = [] := by
  have hkeys : (ofList given).isEmpty = true ↔ (ofList given).keys = [] := by
    rw [keys, List.map_eq_nil_iff, isEmpty, List.isEmpty_iff]
  rw [hkeys, keys_ofList, List.eq_nil_iff_forall_not_mem]
  simp only [List.mem_eraseDups]
  rw [← List.eq_nil_iff_forall_not_mem, List.map_eq_nil_iff]

end Entries

/-! ### Building -/

/-- **How an input is built**: from what it begins with, call after call. A call may fail. -/
structure Builder (σ κ α : Type) where
  start : σ → Entries α
  call : Entries α → κ → Except Fault (Entries α)

/-- **What is given** in the beginning and by each call. -/
structure Ledger (σ κ α : Type) where
  begins : σ → List (String × α)
  gives : κ → String × α → Prop

namespace Builder

/-- The input after calls. There is none after one that failed. -/
def runFrom (b : Builder σ κ α) : Entries α → List κ → Except Fault (Entries α)
  | es, [] => .ok es
  | es, c :: calls => (b.call es c).bind fun es => b.runFrom es calls

/-- **The input that calls build.** -/
def run (b : Builder σ κ α) (s : σ) (calls : List κ) : Except Fault (Entries α) := b.runFrom (b.start s) calls

theorem runFrom_append (b : Builder σ κ α) : ∀ (es : Entries α) (calls calls' : List κ),
    b.runFrom es (calls ++ calls') = (b.runFrom es calls).bind fun es => b.runFrom es calls'
  | _, [], _ => rfl
  | es, c :: calls, calls' => by
    rw [List.cons_append, runFrom, runFrom]
    rcases b.call es c with fault | es
    · rfl
    · exact b.runFrom_append es calls calls'

end Builder

namespace Ledger

/-- **All that is given** in the beginning and by calls, in order. -/
def Records (l : Ledger σ κ α) (s : σ) (calls : List κ) (given : List (String × α)) : Prop :=
  ∃ pairs, List.Forall₂ l.gives calls pairs ∧ given = l.begins s ++ pairs

/-- **A ledger of a builder**: a call puts what it gives, and fails if it gives nothing. -/
structure Books (l : Ledger σ κ α) (b : Builder σ κ α) : Prop where
  start_eq : ∀ s, b.start s = .ofList (l.begins s)
  call_iff : ∀ es c es', b.call es c = .ok es' ↔ ∃ e, l.gives c e ∧ es' = es.put e.1 e.2

namespace Books

variable {l : Ledger σ κ α} {b : Builder σ κ α} {s s' : σ} {calls calls' : List κ}

/-- Calls put what they give, one after the other. -/
theorem runFrom_eq_ok_iff (h : l.Books b) : ∀ {calls : List κ} {es es' : Entries α},
    b.runFrom es calls = .ok es' ↔
      ∃ pairs, List.Forall₂ l.gives calls pairs ∧ es' = pairs.foldl (fun es e => es.put e.1 e.2) es
  | [], es, es' => by
    simp only [Builder.runFrom, List.forall₂_nil_left_iff, exists_eq_left, List.foldl_nil, Except.ok.injEq]
    exact eq_comm
  | c :: calls, es, es' => by
    simp only [Builder.runFrom, bind_eq_ok_iff, h.call_iff, h.runFrom_eq_ok_iff, List.forall₂_cons_left_iff]
    constructor
    · rintro ⟨_, ⟨e, he, rfl⟩, pairs, hpairs, rfl⟩
      exact ⟨e :: pairs, ⟨e, pairs, he, hpairs, rfl⟩, rfl⟩
    · rintro ⟨_, ⟨e, pairs, he, hpairs, rfl⟩, rfl⟩
      exact ⟨es.put e.1 e.2, ⟨e, he, rfl⟩, pairs, hpairs, rfl⟩

/-- **The input is what was given**, and there is one just if every call gives something. -/
theorem run_eq_ok_iff (h : l.Books b) :
    b.run s calls = .ok es ↔ ∃ given, l.Records s calls given ∧ es = .ofList given := by
  unfold Builder.run Records
  rw [h.runFrom_eq_ok_iff, h.start_eq]
  constructor
  · rintro ⟨pairs, hpairs, rfl⟩
    exact ⟨_, ⟨pairs, hpairs, rfl⟩, (Entries.ofList_append _ pairs).symm⟩
  · rintro ⟨_, ⟨pairs, hpairs, rfl⟩, rfl⟩
    exact ⟨pairs, hpairs, Entries.ofList_append _ pairs⟩

theorem eq_ofList (h : l.Books b) (hrun : b.run s calls = .ok es) (hgiven : l.Records s calls given) :
    es = .ofList given :=
  Except.ok.inj (hrun.symm.trans (h.run_eq_ok_iff.mpr ⟨given, hgiven, rfl⟩))

end Books

end Ledger

/-! ### The inputs of a call -/

/-- Calls that put what they name and cannot fail. -/
def Builder.putting (start : σ → Entries α) (entry : κ → String × α) : Builder σ κ α where
  start := start
  call es c := .ok (es.put (entry c).1 (entry c).2)

/-- Calls of a builder that puts what they name give what they name. -/
def Ledger.putting (begins : σ → List (String × α)) (entry : κ → String × α) : Ledger σ κ α where
  begins := begins
  gives c e := entry c = e

/-- A condition begins without columns, or with an identifier, and each call compares a column. -/
def conditions (r : Record) : Builder (Option Value) (String × Value) Value :=
  .putting (fun id => id.elim .empty (Predicate.ofId r)) id

def givenConditions (r : Record) : Ledger (Option Value) (String × Value) Value :=
  .putting (fun id => id.elim [] fun id => [(r.idColumn, id)]) id

/-- **A call that sets a column**, to a value or to the document of one. -/
inductive Setter where
  | value (column : String) (v : Value)
  | document (column : String) (x : Json.Serial)

/-- **What it gives**: of a value without document nothing. -/
inductive Setter.Gives : Setter → String × Value → Prop
  | value (column : String) (v : Value) : Gives (.value column v) (column, v)
  | document {column : String} {x : Json.Serial} {j : Json} (h : x.toJson = .ok j) :
    Gives (.document column x) (column, .json j)

/-- An update or a new record begins without columns, and each call sets one. -/
def assignments : Builder Unit Setter Value where
  start _ := .empty
  call es
    | .value column v => .ok (es.put column v)
    | .document column x => es.putDocument column x

def givenAssignments : Ledger Unit Setter Value where
  begins _ := []
  gives := Setter.Gives

/-- **A call that sorts by a column**, in a direction that it names or stands for. -/
inductive Sorter where
  | along (column : String) (direction : Direction)
  | ascending (column : String)
  | descending (column : String)

/-- The column and its direction. -/
def Sorter.entry : Sorter → String × Direction
  | along column direction => (column, direction)
  | ascending column => (column, .ascending)
  | descending column => (column, .descending)

/-- An order begins without columns, and each call adds one to sort by. -/
def orders : Builder Unit Sorter Direction := .putting (fun _ => .empty) Sorter.entry

def givenOrders : Ledger Unit Sorter Direction := .putting (fun _ => []) Sorter.entry

theorem books_putting {start : σ → Entries α} {begins : σ → List (String × α)} (entry : κ → String × α)
    (hstart : ∀ s, start s = .ofList (begins s)) : (Ledger.putting begins entry).Books (.putting start entry) where
  start_eq := hstart
  call_iff es c es' := by
    constructor
    · intro h
      exact ⟨entry c, rfl, (Except.ok.inj h).symm⟩
    · rintro ⟨e, rfl, rfl⟩
      rfl

theorem books_conditions (r : Record) : (givenConditions r).Books (conditions r) :=
  books_putting id fun start => by cases start <;> rfl

theorem books_orders : givenOrders.Books orders := books_putting Sorter.entry fun _ => rfl

theorem books_assignments : givenAssignments.Books assignments where
  start_eq _ := rfl
  call_iff es c es' := by
    constructor
    · intro h
      cases c with
      | value column v => exact ⟨(column, v), .value column v, (Except.ok.inj h).symm⟩
      | document column x =>
        obtain ⟨v, hv, rfl⟩ := (map_eq_ok_iff _ _ _).mp h
        unfold Value.ofSerial at hv
        rcases hx : x.toJson with cause | j <;> rw [hx] at hv <;> cases hv
        exact ⟨(column, .json j), .document hx, rfl⟩
    · rintro ⟨e, he, rfl⟩
      cases he with
      | value column v => rfl
      | @document column x j h =>
        have hv : Value.ofSerial x = .ok (.json j) := by rw [Value.ofSerial, h]
        exact (map_eq_ok_iff _ _ _).mpr ⟨_, hv, rfl⟩

/-- **Inputs that are maps in the order of insertion**, and the clause that they become. -/
structure InsertionOrdered (b : Builder σ κ α) (l : Ledger σ κ α) (clause : Entries α → Sql.Fragment) : Prop where
  /-- Calls build an input just if each of them gives something. -/
  built_iff : ∀ s calls, (∃ es, b.run s calls = .ok es) ↔ ∀ c ∈ calls, ∃ e, l.gives c e
  /-- An input collects what its calls give. -/
  collects : ∀ s calls es, b.run s calls = .ok es → ∃ given, l.Records s calls given ∧ Collects given es
  /-- An input is empty just if nothing is given in the beginning and there is no call. -/
  isEmpty_iff : ∀ s calls es, b.run s calls = .ok es → (es.isEmpty = true ↔ l.begins s = [] ∧ calls = [])
  /-- Calls that give the same build the same input and the same clause. -/
  clause_eq : ∀ s s' calls calls' given given' es es', b.run s calls = .ok es → b.run s' calls' = .ok es' →
    l.Records s calls given → l.Records s' calls' given' → SameGifts given given' → es = es' ∧ clause es = clause es'
  /-- A call that gives a column what it has changes nothing. -/
  again : ∀ s calls given es c key v, b.run s calls = .ok es → l.Records s calls given → l.gives c (key, v) →
    GivenLast given key v → b.run s (calls ++ [c]) = .ok es

theorem Ledger.Books.insertionOrdered {b : Builder σ κ α} {l : Ledger σ κ α} (h : l.Books b)
    (clause : Entries α → Sql.Fragment) : InsertionOrdered b l clause where
  built_iff s calls := by
    constructor
    · rintro ⟨es, hrun⟩ c hc
      obtain ⟨_, ⟨pairs, hpairs, -⟩, -⟩ := h.run_eq_ok_iff.mp hrun
      obtain ⟨e, -, he⟩ := exists_mem_of_forall₂ hpairs c hc
      exact ⟨e, he⟩
    · intro hgives
      obtain ⟨pairs, hpairs⟩ := exists_forall₂_of_forall hgives
      exact ⟨_, h.run_eq_ok_iff.mpr ⟨_, ⟨pairs, hpairs, rfl⟩, rfl⟩⟩
  collects s calls es hrun := by
    obtain ⟨given, hgiven, rfl⟩ := h.run_eq_ok_iff.mp hrun
    exact ⟨given, hgiven, Entries.collects_ofList given⟩
  isEmpty_iff s calls es hrun := by
    obtain ⟨_, ⟨pairs, hpairs, rfl⟩, rfl⟩ := h.run_eq_ok_iff.mp hrun
    have hnil : pairs = [] ↔ calls = [] := by
      rw [← List.length_eq_zero_iff, ← List.length_eq_zero_iff, hpairs.length_eq]
    rw [Entries.isEmpty_ofList_iff, List.append_eq_nil_iff, hnil]
  clause_eq s s' calls calls' given given' es es' hrun hrun' hgiven hgiven' hsame := by
    have hes : es = es' := by
      rw [h.eq_ofList hrun hgiven, h.eq_ofList hrun' hgiven', Entries.ofList_eq_of_sameGifts hsame]
    exact ⟨hes, congrArg clause hes⟩
  again s calls given es c key v hrun hgiven hgives hlast := by
    have hget : es.get? key = some v := by
      rw [h.eq_ofList hrun hgiven, Entries.get?_ofList, lastOf_eq_some_iff]
      exact hlast
    have hcall : b.call es c = .ok es := (h.call_iff es c es).mpr ⟨(key, v), hgives, (Entries.put_eq_self hget).symm⟩
    have hmore : b.run s (calls ++ [c]) = (b.run s calls).bind fun es => b.runFrom es [c] :=
      b.runFrom_append (b.start s) calls [c]
    rw [hmore, hrun, Except.bind, Builder.runFrom, hcall]
    rfl

/-- **Conditions, updates, new records and orders are maps in the order of insertion**, a condition also where it
begins with an identifier. -/
theorem inputs_insertionOrdered (r : Record) :
    InsertionOrdered (conditions r) (givenConditions r) Sql.whereClause ∧
      InsertionOrdered assignments givenAssignments Sql.setClause ∧
      InsertionOrdered assignments givenAssignments Sql.valuesClause ∧
      InsertionOrdered orders givenOrders fun order => Sql.orderClause (some order) :=
  ⟨(books_conditions r).insertionOrdered _, books_assignments.insertionOrdered _,
    books_assignments.insertionOrdered _, books_orders.insertionOrdered _⟩

end TableGateway
