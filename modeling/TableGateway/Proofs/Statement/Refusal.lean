import TableGateway.Proofs.Input.Check
import TableGateway.Proofs.Statement.Outline

/-! # Refusals

A call is refused for the first of its inputs that does not pass its check; the statement is made after all of
them have passed. The condition of a list is checked before its order, and the new values of an update before its
condition, also where there are no new values and so nothing to run.

* `Table.isSome_statement`, `Table.exists_statement_eq` : when a call has a statement, and why not
* `Table.checks_exact` : what the checks let through, what they object to, and in which order -/

namespace TableGateway

open TableGateway.Sql

/-- Whether a call has nothing to run. -/
def Call.isIdle : Call → Bool
  | update changes _ => changes.isEmpty
  | _ => false

namespace Table

variable {t : Table} {call : Call}

/-- **What a call is refused for**, if for anything. -/
def refusal? (t : Table) : Call → Option Invalid
  | .getById _ => none
  | .list filter _ order => (filter.offence? t.record).or (order.bind (OrderBy.offence? t.record))
  | .count filter => filter.offence? t.record
  | .create values => Create.offence? t.record values
  | .update changes filter => (Update.offence? t.record changes).or (filter.offence? t.record)
  | .remove filter => filter.offence? t.record

theorem isSome_statement (t : Table) (call : Call) :
    (t.statement call).map Option.isSome =
      (t.refusal? call).elim (.ok !call.isIdle) fun cause => .error (.validation cause) := by
  cases call with
  | getById id => rfl
  | list filter page order =>
    simp only [statement, listStatement, passes_bind, refusal?]
    rcases Predicate.offence? t.record filter with _ | _ <;>
      rcases order.bind (OrderBy.offence? t.record) with _ | _ <;> rfl
  | count filter =>
    simp only [statement, countStatement, passes_bind, refusal?]
    rcases Predicate.offence? t.record filter with _ | _ <;> rfl
  | create values =>
    simp only [statement, createStatement, passes_bind, refusal?]
    rcases Create.offence? t.record values with _ | _ <;> rfl
  | update changes filter =>
    simp only [statement, updateStatement, passes_bind, refusal?, Call.isIdle]
    rcases Update.offence? t.record changes with _ | _ <;>
      rcases Predicate.offence? t.record filter with _ | _ <;>
      rcases changes.isEmpty with _ | _ <;> rfl
  | remove filter =>
    simp only [statement, removeStatement, passes_bind, refusal?]
    rcases Predicate.offence? t.record filter with _ | _ <;> rfl

/-- **What comes of a call**: a fault if it is refused, nothing if it is idle, and else a statement. -/
theorem exists_statement_eq (t : Table) (call : Call) :
    ∃ s : Statement, t.statement call =
      (t.refusal? call).elim (.ok (if call.isIdle then none else some s)) fun cause =>
        .error (.validation cause) := by
  have hsome := t.isSome_statement call
  rcases hr : t.refusal? call with _ | cause <;> rcases hst : t.statement call with fault | (_ | s) <;>
    rw [hr, hst] at hsome
  · cases hsome
  · have hidle : call.isIdle = true := by simpa using (Except.ok.inj hsome).symm
    exact ⟨⟨"", []⟩, by rw [hidle]; rfl⟩
  · have hidle : call.isIdle = false := by simpa using (Except.ok.inj hsome).symm
    exact ⟨s, by rw [hidle]; rfl⟩
  · exact ⟨⟨"", []⟩, congrArg Except.error (Except.error.inj hsome)⟩
  · cases hsome
  · cases hsome

theorem statement_of_refusal {cause : Invalid} (h : t.refusal? call = some cause) :
    t.statement call = .error (.validation cause) := by
  obtain ⟨s, hs⟩ := t.exists_statement_eq call
  rw [hs, h]
  rfl

theorem exists_statement (h : t.refusal? call = none) (hidle : call.isIdle = false) :
    ∃ s, t.statement call = .ok (some s) := by
  obtain ⟨s, hs⟩ := t.exists_statement_eq call
  rw [h, hidle] at hs
  exact ⟨s, hs⟩

theorem statement_of_isIdle (h : t.refusal? call = none) (hidle : call.isIdle = true) :
    t.statement call = .ok none := by
  obtain ⟨s, hs⟩ := t.exists_statement_eq call
  rw [hs, h, hidle]
  rfl

theorem refusal?_of_statement {s : Statement} (h : t.statement call = .ok (some s)) :
    t.refusal? call = none ∧ call.isIdle = false := by
  obtain ⟨s', hs⟩ := t.exists_statement_eq call
  rw [h] at hs
  rcases hr : t.refusal? call with _ | cause <;> rw [hr] at hs
  · cases hidle : call.isIdle
    · exact ⟨rfl, rfl⟩
    · rw [hidle] at hs
      cases hs
  · cases hs

/-- **Checks that are exact**, and take place in order. -/
structure ChecksExact (t : Table) : Prop where
  filter : ∀ pairs : List (String × Value),
    t.record.comparison.Exact (pairs.map Prod.fst) (passes (Predicate.offence? t.record (.ofList pairs)))
  changes : ∀ pairs : List (String × Value),
    t.record.assignment.Exact (pairs.map Prod.fst) (passes (Update.offence? t.record (.ofList pairs)))
  values : ∀ pairs : List (String × Value),
    t.record.ExactCreate (pairs.map Prod.fst) (passes (Create.offence? t.record (.ofList pairs)))
  order : ∀ pairs : List (String × Direction),
    t.record.sorting.Exact (pairs.map Prod.fst) (passes (OrderBy.offence? t.record (.ofList pairs)))
  /-- A list is refused for its condition, whatever its order is. -/
  list_filter : ∀ filter page order fault, passes (Predicate.offence? t.record filter) = .error fault →
    t.statement (.list filter page order) = .error fault
  /-- A list with a condition that passes is refused for its order, and for nothing else. -/
  list_order : ∀ filter page order fault, passes (Predicate.offence? t.record filter) = .ok () →
    passes (OrderBy.offence? t.record order) = .error fault →
    t.statement (.list filter page (some order)) = .error fault
  list_passes : ∀ filter page order, passes (Predicate.offence? t.record filter) = .ok () →
    (∀ o, order = some o → passes (OrderBy.offence? t.record o) = .ok ()) →
    ∃ s, t.statement (.list filter page order) = .ok (some s)
  /-- An update is refused for its new values, whatever its condition is. -/
  update_changes : ∀ changes filter fault, passes (Update.offence? t.record changes) = .error fault →
    t.statement (.update changes filter) = .error fault
  /-- An update with new values that pass is refused for its condition, and for nothing else. -/
  update_filter : ∀ changes filter fault, passes (Update.offence? t.record changes) = .ok () →
    passes (Predicate.offence? t.record filter) = .error fault →
    t.statement (.update changes filter) = .error fault
  update_passes : ∀ changes filter, passes (Update.offence? t.record changes) = .ok () →
    passes (Predicate.offence? t.record filter) = .ok () → changes.isEmpty = false →
    ∃ s, t.statement (.update changes filter) = .ok (some s)
  /-- An update without new values is refused for its condition as well, and has no statement if that passes. -/
  empty_filter : ∀ filter fault, passes (Predicate.offence? t.record filter) = .error fault →
    t.statement (.update .empty filter) = .error fault
  empty_passes : ∀ filter, passes (Predicate.offence? t.record filter) = .ok () →
    t.statement (.update .empty filter) = .ok none

/-- **All checks are exact**, whatever columns a record has. -/
theorem checks_exact (t : Table) : t.ChecksExact where
  filter pairs := t.record.enforced_comparison.exact_passes pairs
  changes pairs := t.record.enforced_assignment.exact_passes pairs
  values pairs := t.record.exactCreate pairs
  order pairs := t.record.enforced_sorting.exact_passes pairs
  list_filter filter page order fault h := by
    obtain ⟨cause, hcause, rfl⟩ := passes_eq_error_iff.mp h
    exact statement_of_refusal (by rw [refusal?, hcause, Option.some_or])
  list_order filter page order fault hfilter h := by
    obtain ⟨cause, hcause, rfl⟩ := passes_eq_error_iff.mp h
    refine statement_of_refusal ?_
    rw [refusal?, passes_eq_ok_iff.mp hfilter, Option.none_or]
    exact hcause
  list_passes filter page order hfilter horder := by
    refine exists_statement ?_ rfl
    rw [refusal?, passes_eq_ok_iff.mp hfilter, Option.none_or]
    rcases order with _ | o
    · rfl
    · exact passes_eq_ok_iff.mp (horder o rfl)
  update_changes changes filter fault h := by
    obtain ⟨cause, hcause, rfl⟩ := passes_eq_error_iff.mp h
    exact statement_of_refusal (by rw [refusal?, hcause, Option.some_or])
  update_filter changes filter fault hchanges h := by
    obtain ⟨cause, hcause, rfl⟩ := passes_eq_error_iff.mp h
    exact statement_of_refusal (by rw [refusal?, passes_eq_ok_iff.mp hchanges, Option.none_or, hcause])
  update_passes changes filter hchanges hfilter hempty := by
    refine exists_statement ?_ hempty
    rw [refusal?, passes_eq_ok_iff.mp hchanges, passes_eq_ok_iff.mp hfilter, Option.none_or]
  empty_filter filter fault h := by
    obtain ⟨cause, hcause, rfl⟩ := passes_eq_error_iff.mp h
    have hempty : Update.offence? t.record .empty = none := rfl
    exact statement_of_refusal (by rw [refusal?, hempty, Option.none_or, hcause])
  empty_passes filter h := by
    have hempty : Update.offence? t.record .empty = none := rfl
    exact statement_of_isIdle (by rw [refusal?, hempty, Option.none_or, passes_eq_ok_iff.mp h]) rfl

end Table

end TableGateway
