import TableGateway.Input.Basic
import TableGateway.Proofs.Input.Entries

/-! # Checks of inputs

Every check is exact: it lets an input through just if all its columns obey the rule of the input, and else it
objects to the first column that does not, in the order in which the columns were first given. The rules speak
of declarations and not of lookups; where a name is declared twice, the first declaration counts.

* `Record.comparison`, `Record.assignment`, `Record.sorting` : the rules for conditions, for values and for the
  columns to sort by
* `Rule.EnforcedBy.exact_passes` : a check that goes through the columns one after the other is exact
* `Record.exactCreate` : the check of a new record, which must not leave out a required column -/

namespace TableGateway

variable {α : Type}

/-! ### Declarations -/

namespace Record

variable {r : Record} {name : String} {c : Column}

/-- **The declaration that counts for a name**: no column before it is called so. -/
structure Declares (r : Record) (name : String) (c : Column) : Prop where
  name_eq : c.name = name
  first : ∃ before after, r.columns = before ++ c :: after ∧ ∀ b ∈ before, b.name ≠ name

/-- No column is called so. -/
def Lacks (r : Record) (name : String) : Prop := ∀ c ∈ r.columns, c.name ≠ name

theorem column?_eq_some_iff : r.column? name = some c ↔ r.Declares name c := by
  rw [column?, List.find?_eq_some_iff_append]
  simp only [beq_iff_eq, Bool.not_eq_true', beq_eq_false_iff_ne]
  constructor
  · rintro ⟨hname, hfirst⟩
    exact ⟨hname, hfirst⟩
  · rintro ⟨hname, hfirst⟩
    exact ⟨hname, hfirst⟩

theorem column?_eq_none_iff : r.column? name = none ↔ r.Lacks name := by
  rw [column?, List.find?_eq_none]
  simp only [beq_iff_eq, Lacks, ne_eq]

theorem Declares.mem (h : r.Declares name c) : c ∈ r.columns := by
  obtain ⟨before, after, hcolumns, -⟩ := h.first
  rw [hcolumns]
  exact List.mem_append_right before List.mem_cons_self

theorem Declares.not_lacks (h : r.Declares name c) : ¬ r.Lacks name := fun hlacks =>
  hlacks c h.mem h.name_eq

theorem Declares.unique {c' : Column} (h : r.Declares name c) (h' : r.Declares name c') : c = c' :=
  Option.some.inj ((column?_eq_some_iff.mpr h).symm.trans (column?_eq_some_iff.mpr h'))

theorem Declares.of_mem (hdistinct : (r.columns.map Column.name).Nodup) (hc : c ∈ r.columns) :
    r.Declares c.name c := by
  obtain ⟨before, after, hcolumns⟩ := List.append_of_mem hc
  refine ⟨rfl, before, after, hcolumns, fun b hb hname => ?_⟩
  rw [hcolumns, List.map_append, List.map_cons, List.nodup_append] at hdistinct
  exact hdistinct.2.2 b.name (List.mem_map_of_mem hb) c.name List.mem_cons_self hname

end Record

/-! ### Rules -/

/-- **A rule for the columns of an input**: which of them may be in it, and what the caller is told of one that
may not. -/
structure Rule where
  Allows : String → Prop
  Tells : String → String → Prop

namespace Record

/-- What the caller is told of a column that is not declared. -/
def TellsUnknown (r : Record) (name text : String) : Prop :=
  r.Lacks name ∧ text = "unknown field '" ++ name ++ "' on record '" ++ r.table ++ "'"

/-- **What may be compared**: declared columns that are not structured. -/
def comparison (r : Record) : Rule where
  Allows name := ∃ c, r.Declares name c ∧ c.kind ≠ .structured
  Tells name text := r.TellsUnknown name text ∨
    (∃ c, r.Declares name c ∧ c.kind = .structured) ∧
      text = "field '" ++ name ++ "' is structured and cannot be used in a predicate"

/-- **What may be set**: declared columns that are scalar or structured. -/
def assignment (r : Record) : Rule where
  Allows name := ∃ c, r.Declares name c ∧ (c.kind = .scalar ∨ c.kind = .structured)
  Tells name text := r.TellsUnknown name text ∨
    (∃ c, r.Declares name c ∧ c.kind = .identifier) ∧
      text = "field '" ++ name ++ "' is " ++ "Identifier" ++ " and is not client-writable" ∨
    (∃ c, r.Declares name c ∧ c.kind = .timestamp) ∧
      text = "field '" ++ name ++ "' is " ++ "Timestamp" ++ " and is not client-writable"

/-- **What may be sorted by**: declared columns. -/
def sorting (r : Record) : Rule where
  Allows name := ∃ c, r.Declares name c
  Tells name text := r.TellsUnknown name text

end Record

/-- **A rule that is enforced** by what a check objects to in a column. -/
structure Rule.EnforcedBy (rule : Rule) (offence? : String → Option Invalid) : Prop where
  allows : ∀ name, offence? name = none ↔ rule.Allows name
  tells : ∀ name cause, offence? name = some cause → rule.Tells name cause.message

namespace Record

variable {r : Record} {name : String} {c : Column}

theorem tellsUnknown (h : r.column? name = none) :
    r.TellsUnknown name (Invalid.unknownField name r.table).message :=
  ⟨column?_eq_none_iff.mp h, rfl⟩

theorem exists_declares_iff (h : r.column? name = some c) (p : Column → Prop) :
    (∃ d, r.Declares name d ∧ p d) ↔ p c := by
  have hc := column?_eq_some_iff.mp h
  constructor
  · rintro ⟨d, hd, hp⟩
    rwa [hc.unique hd]
  · exact fun hp => ⟨c, hc, hp⟩

theorem not_exists_declares (h : r.column? name = none) (p : Column → Prop) :
    ¬ ∃ d, r.Declares name d ∧ p d := by
  rintro ⟨d, hd, -⟩
  exact hd.not_lacks (column?_eq_none_iff.mp h)

theorem enforced_comparison (r : Record) : r.comparison.EnforcedBy (comparisonOffence? r) where
  allows name := by
    unfold comparisonOffence? comparison
    rcases h : r.column? name with _ | c
    · simp only [reduceCtorEq, false_iff]
      exact not_exists_declares h _
    · simp only [exists_declares_iff h]
      cases c.kind <;> simp [Kind.isComparable]
  tells name cause hcause := by
    unfold comparisonOffence? at hcause
    rcases h : r.column? name with _ | c <;> simp only [h] at hcause
    · rw [← Option.some.inj hcause]
      exact .inl (tellsUnknown h)
    · refine .inr ⟨⟨c, column?_eq_some_iff.mp h, ?_⟩, ?_⟩
      · cases hkind : c.kind <;> simp [hkind, Kind.isComparable] at hcause ⊢
      · split at hcause
        · cases hcause
        · rw [← Option.some.inj hcause]
          rfl

theorem enforced_assignment (r : Record) : r.assignment.EnforcedBy (assignmentOffence? r) where
  allows name := by
    unfold assignmentOffence? assignment
    rcases h : r.column? name with _ | c
    · simp only [reduceCtorEq, false_iff]
      exact not_exists_declares h _
    · simp only [exists_declares_iff h]
      cases c.kind <;> simp [Kind.isWritable]
  tells name cause hcause := by
    unfold assignmentOffence? at hcause
    rcases h : r.column? name with _ | c <;> simp only [h] at hcause
    · rw [← Option.some.inj hcause]
      exact .inl (tellsUnknown h)
    · have hc := column?_eq_some_iff.mp h
      refine .inr ?_
      cases hkind : c.kind <;> simp only [hkind, Kind.isWritable, if_true] at hcause
      · rw [← Option.some.inj hcause]
        exact .inl ⟨⟨c, hc, hkind⟩, rfl⟩
      · cases hcause
      · cases hcause
      · rw [← Option.some.inj hcause]
        exact .inr ⟨⟨c, hc, hkind⟩, rfl⟩

theorem enforced_sorting (r : Record) : r.sorting.EnforcedBy
    (fun name => if (r.column? name).isSome then none else some (.unknownField name r.table)) where
  allows name := by
    unfold sorting
    rcases h : r.column? name with _ | c
    · simpa using not_exists_declares h fun _ => True
    · simpa using ⟨c, column?_eq_some_iff.mp h⟩
  tells name cause hcause := by
    rcases h : r.column? name with _ | c <;> simp [h] at hcause
    rw [← hcause]
    exact tellsUnknown h

end Record

/-! ### Exact checks -/

theorem findSome?_eraseDups (f : String → Option α) :
    ∀ names : List String, names.eraseDups.findSome? f = names.findSome? f
  | [] => rfl
  | name :: names => by
    rw [List.eraseDups_cons, List.findSome?_cons, List.findSome?_cons]
    rcases hname : f name with _ | a
    · -- the repetitions are no more to be found than the name itself
      have hfilter : ∀ l : List String, (l.filter fun b => !b == name).findSome? f = l.findSome? f := by
        intro l
        induction l with
        | nil => rfl
        | cons b l ih =>
          by_cases hb : b = name
          · rw [List.filter_cons_of_neg (by simpa using hb), ih, List.findSome?_cons, hb, hname]
          · rw [List.filter_cons_of_pos (by simpa using hb), List.findSome?_cons, List.findSome?_cons, ih]
      have ih := findSome?_eraseDups f (names.filter fun b => !b == name)
      exact ih.trans (hfilter names)
    · rfl
termination_by names => names.length
decreasing_by exact Nat.lt_succ_of_le (List.length_filter_le _ _)

/-- A text that tells of **the first column that breaks a rule**. -/
def Rule.Objects (rule : Rule) (names : List String) (text : String) : Prop :=
  ∃ before name after, names = before ++ name :: after ∧ (∀ b ∈ before, rule.Allows b) ∧
    ¬ rule.Allows name ∧ rule.Tells name text

/-- **A verdict on columns that is exact**: they pass just if the rule allows them all, and else the fault is
one of validation that tells of the first one that the rule does not allow. -/
structure Rule.Exact (rule : Rule) (names : List String) (verdict : Except Fault Unit) : Prop where
  passes_iff : verdict = .ok () ↔ ∀ name ∈ names, rule.Allows name
  fault : ∀ fault, verdict = .error fault →
    ∃ cause, fault = .validation cause ∧ rule.Objects names cause.message

theorem passes_eq_ok_iff {offence : Option Invalid} : passes offence = .ok () ↔ offence = none := by
  cases offence <;> simp [passes]

theorem passes_eq_error_iff {offence : Option Invalid} {fault : Fault} :
    passes offence = .error fault ↔ ∃ cause, offence = some cause ∧ fault = .validation cause := by
  cases offence <;> simp [passes, eq_comm]

namespace Rule.EnforcedBy

variable {rule : Rule} {offence? : String → Option Invalid}

theorem findSome?_eq_none_iff (h : rule.EnforcedBy offence?) (names : List String) :
    names.findSome? offence? = none ↔ ∀ name ∈ names, rule.Allows name := by
  rw [List.findSome?_eq_none_iff]
  exact forall₂_congr fun name _ => h.allows name

theorem objects (h : rule.EnforcedBy offence?) {names : List String} {cause : Invalid}
    (hcause : names.findSome? offence? = some cause) : rule.Objects names cause.message := by
  obtain ⟨before, name, after, hnames, hname, hbefore⟩ := List.findSome?_eq_some_iff.mp hcause
  refine ⟨before, name, after, hnames, fun b hb => (h.allows b).mp (hbefore b hb), ?_, h.tells name cause hname⟩
  intro hallows
  rw [(h.allows name).mpr hallows] at hname
  cases hname

/-- **A check that goes through the columns one after the other is exact**, also on the pairs that they were
given in. -/
theorem exact_passes (h : rule.EnforcedBy offence?) (pairs : List (String × α)) :
    rule.Exact (pairs.map Prod.fst) (passes ((Entries.ofList pairs).keys.findSome? offence?)) := by
  rw [Entries.keys_ofList, findSome?_eraseDups]
  refine ⟨passes_eq_ok_iff.trans (h.findSome?_eq_none_iff _), fun fault hfault => ?_⟩
  obtain ⟨cause, hcause, rfl⟩ := passes_eq_error_iff.mp hfault
  exact ⟨cause, rfl, h.objects hcause⟩

end Rule.EnforcedBy

/-! ### New records -/

namespace Record

/-- **A column that a new record must have**: a scalar or structured one that may not be null. -/
def Requires (c : Column) : Prop := (c.kind = .scalar ∨ c.kind = .structured) ∧ c.nullable = false

instance : DecidablePred Requires := fun _ => instDecidableAnd

/-- The required columns that are not among the given ones, in the order of their declarations. -/
def absent (r : Record) (names : List String) : List String :=
  (r.columns.filter fun c => Requires c ∧ c.name ∉ names).map Column.name

/-- **A verdict on a new record that is exact**: no column in it may break the rule, and no required one may be
left out. Those that are left out are named, all of them, if there is nothing else to object to. -/
structure ExactCreate (r : Record) (names : List String) (verdict : Except Fault Unit) : Prop where
  passes_iff : verdict = .ok () ↔ (∀ name ∈ names, r.assignment.Allows name) ∧
    ∀ c ∈ r.columns, Requires c → c.name ∈ names
  fault : ∀ fault, verdict = .error fault → ∃ cause, fault = .validation cause ∧
    (r.assignment.Objects names cause.message ∨
      (∀ name ∈ names, r.assignment.Allows name) ∧ r.absent names ≠ [] ∧
        cause.message = "missing required field(s) for '" ++ r.table ++ "': " ++
          String.intercalate ", " (r.absent names))

theorem isRequired_iff (c : Column) : c.isRequired = true ↔ Requires c := by
  unfold Column.isRequired Requires
  cases c.kind <;> simp [Kind.isWritable]

theorem missing_eq_absent (r : Record) (values : Create) : Create.missing r values = r.absent values.keys := by
  unfold Create.missing absent
  refine congrArg (List.map Column.name) (List.filter_congr fun c _ => ?_)
  rw [Bool.eq_iff_iff, Bool.and_eq_true, isRequired_iff, Bool.not_eq_true', ← Bool.not_eq_true,
    List.contains_iff_mem, decide_eq_true_iff]

theorem absent_eq_nil_iff (r : Record) (names : List String) :
    r.absent names = [] ↔ ∀ c ∈ r.columns, Requires c → c.name ∈ names := by
  rw [absent, List.map_eq_nil_iff, List.filter_eq_nil_iff]
  refine forall₂_congr fun c _ => ?_
  rw [decide_eq_true_iff, not_and, not_not]

theorem absent_eraseDups (r : Record) (names : List String) : r.absent names.eraseDups = r.absent names := by
  unfold absent
  simp only [List.mem_eraseDups]

theorem create_offence?_eq_none_iff (r : Record) (values : Create) :
    Create.offence? r values = none ↔ (∀ name ∈ values.keys, r.assignment.Allows name) ∧
      ∀ c ∈ r.columns, Requires c → c.name ∈ values.keys := by
  rw [← r.enforced_assignment.findSome?_eq_none_iff, ← absent_eq_nil_iff, ← missing_eq_absent]
  unfold Create.offence?
  rcases values.keys.findSome? (assignmentOffence? r) with _ | cause
  · rcases Create.missing r values with _ | ⟨name, names⟩ <;> simp
  · simp

/-- **The check of a new record is exact.** -/
theorem exactCreate (r : Record) (pairs : List (String × Value)) :
    r.ExactCreate (pairs.map Prod.fst) (passes (Create.offence? r (.ofList pairs))) where
  passes_iff := by
    rw [passes_eq_ok_iff, create_offence?_eq_none_iff, Entries.keys_ofList]
    simp only [List.mem_eraseDups]
  fault fault hfault := by
    obtain ⟨cause, hcause, rfl⟩ := passes_eq_error_iff.mp hfault
    refine ⟨cause, rfl, ?_⟩
    have henforced := r.enforced_assignment
    unfold Create.offence? at hcause
    rw [Entries.keys_ofList, findSome?_eraseDups, missing_eq_absent, Entries.keys_ofList,
      absent_eraseDups] at hcause
    -- what is missing is looked for only where no column is objected to
    rcases hoffence : (pairs.map Prod.fst).findSome? (assignmentOffence? r) with _ | offence
    · rw [hoffence] at hcause
      have hallows := (henforced.findSome?_eq_none_iff _).mp hoffence
      rcases habsent : r.absent (pairs.map Prod.fst) with _ | ⟨name, names⟩
      · rw [habsent] at hcause
        cases hcause
      · rw [habsent] at hcause
        rw [← Option.some.inj hcause]
        exact .inr ⟨hallows, List.cons_ne_nil _ _, rfl⟩
    · rw [hoffence] at hcause
      rw [← Option.some.inj hcause]
      exact .inl (henforced.objects hoffence)

end Record

end TableGateway
