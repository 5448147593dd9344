import TableGateway.Proofs.Input.Request
import TableGateway.Proofs.Statement.Columns

/-! # Placeholders

The placeholders of a statement are numbered from one on without a gap, and each of them stands for the value
that was set last for the column at its side.

* `Statement.bindings_numbered` : what consecutive placeholders stand for
* `Table.aligned_of_statement` : the placeholders of the statement of a call -/

namespace TableGateway

open TableGateway.Sql TableGateway.Sql.Lexeme

variable {α : Type}

namespace Outline

/-! ### What the placeholders stand for -/

/-- The columns that are set, and after them those that are compared, bind the first parameters. -/
theorem values_eq_sets (o : Outline α) :
    ∃ rest, o.values = o.sets.map Prod.snd ++ o.conditions.map Prod.snd ++ rest := by
  cases o with
  | getById t k a => exact ⟨[], rfl⟩
  | list t es o l m => exact ⟨l.toList ++ m.toList, by simp [values, sets, conditions]⟩
  | count t es => exact ⟨[], by simp [values, sets, conditions]⟩
  | create t es k => exact ⟨es.map Prod.snd, rfl⟩
  | update t es fs k => exact ⟨[], by simp [values, sets, conditions]⟩
  | remove t es k => exact ⟨[], by simp [values, sets, conditions]⟩

/-- The columns of a new row bind the first parameters. -/
theorem values_eq_columns (o : Outline α) : ∃ rest, o.values = o.columns.map Prod.snd ++ rest := by
  cases o with
  | create t es k => exact ⟨[], by simp [values, columns]⟩
  | getById | list | count | update | remove => exact ⟨_, rfl⟩

end Outline

namespace Sql.Statement

/-- **What a placeholder stands for**: its number counts the parameters from one on. -/
def value? (s : Statement) (digits : String) : Option Value :=
  match Nat.ofDigitChars 10 digits.toList 0 with
  | 0 => none
  | n + 1 => s.params[n]?

/-- Columns with placeholders, and what these stand for. -/
def bindings (s : Statement) (columns : List (String × String)) : List (String × Option Value) :=
  columns.map fun e => (e.1, s.value? e.2)

theorem value?_toString (s : Statement) (n : ℕ) : s.value? (toString (n + 1)) = s.params[n]? := by
  have hdigits : Nat.ofDigitChars 10 (toString (n + 1)).toList 0 = n + 1 := by
    rw [Nat.toString_eq_repr, Nat.toList_repr, Nat.ofDigitChars_ten_toDigits]
  rw [value?, hdigits]

/-- **Consecutive placeholders stand for consecutive parameters.** -/
theorem bindings_numbered {s : Statement} : ∀ (es : List (String × Value)) (before after : List Value),
    s.params = before ++ es.map Prod.snd ++ after →
      s.bindings (numbered before.length es) = mapEntries some es
  | [], _, _, _ => rfl
  | e :: es, before, after, h => by
    have hfirst : s.params[before.length]? = some e.2 := by
      rw [h]
      simp
    have hrest : s.params = (before ++ [e.2]) ++ es.map Prod.snd ++ after := by
      rw [h]
      simp
    have ih := bindings_numbered es (before ++ [e.2]) after hrest
    rw [List.length_append, List.length_singleton] at ih
    rw [numbered, bindings, List.map_cons, value?_toString, hfirst]
    exact congrArg (_ :: ·) ih

end Sql.Statement

/-! ### Requests -/

namespace Request

variable (t : Table) (q : Request)

theorem sets_outline : (t.outline q.call).sets = q.changed := by
  cases q <;> first | rfl | exact Entries.toList_ofList _

theorem conditions_outline : (t.outline q.call).conditions = q.compared t := by
  cases q <;> first | rfl | exact Entries.toList_ofList _

theorem columns_outline : (t.outline q.call).columns = q.inserted := by
  cases q <;> first | rfl | exact Entries.toList_ofList _

theorem values_outline : (t.outline q.call).values = q.bound := by
  cases q <;> simp [call, Table.outline, Outline.values, bound, Entries.toList_ofList]

/-- **A statement whose placeholders fit its parameters**, and the parameters what the caller has set. -/
structure Aligned (s : Statement) : Prop where
  /-- The placeholders are `$1`, `$2`, … up to the number of parameters. -/
  numbers : placeholders (scan s.text) = (List.range' 1 s.params.length).map toString
  params : s.params = q.bound
  changed : s.bindings (assigned (cut " WHERE " (scan s.text)).1) = mapEntries some q.changed
  compared : s.bindings (assigned (cut " WHERE " (scan s.text)).2) = mapEntries some (q.compared t)
  inserted : s.bindings (listed (scan s.text)) = mapEntries some q.inserted

end Request

/-- **The placeholders of every statement fit its parameters**, whatever the names in it are. -/
theorem Table.aligned_of_statement {t : Table} {q : Request} {s : Statement}
    (h : t.statement q.call = .ok (some s)) : q.Aligned t s := by
  have hparams := params_of_statement h
  obtain ⟨hsets, hconditions⟩ := (t.outline q.call).assigned_cut
  obtain ⟨rest, hvalues⟩ := (t.outline q.call).values_eq_sets
  obtain ⟨others, hcolumns⟩ := (t.outline q.call).values_eq_columns
  rw [← hparams] at hvalues hcolumns
  refine ⟨?_, ?_, ?_, ?_, ?_⟩
  · rw [scan_text h, placeholders_tokens, Outline.slots_lexemes, ← hparams]
  · rw [hparams, q.values_outline]
  · rw [List.append_assoc] at hvalues
    rw [scan_text h, hsets, ← q.sets_outline t]
    exact Statement.bindings_numbered _ [] _ hvalues
  · have hbind := Statement.bindings_numbered _ _ rest hvalues
    rw [List.length_map] at hbind
    rw [scan_text h, hconditions, ← q.conditions_outline t]
    exact hbind
  · rw [scan_text h, Outline.listed_lexemes, ← q.columns_outline t]
    exact Statement.bindings_numbered _ [] others hcolumns

/-- A record whose columns are called like placeholders and assignments. -/
def dollarRecord : Record where
  table := "$1"
  columns := [⟨"$1", .scalar, false⟩, ⟨"\" = $1 WHERE \"", .scalar, false⟩]
  fields := []

/-- An update that sets one of the columns twice. -/
def dollarUpdate : Request :=
  .update [("$1", .int 1), ("\" = $1 WHERE \"", .null), ("$1", .int 2)] [("$1", .bool true)]

theorem dollarUpdate_aligned : ∃ s, dollarRecord.home.statement dollarUpdate.call = .ok (some s) ∧
    dollarUpdate.Aligned dollarRecord.home s ∧ placeholders (scan s.text) = ["1", "2", "3"] := by
  obtain ⟨s, hs⟩ : ∃ s, dollarRecord.home.statement dollarUpdate.call = .ok (some s) := ⟨_, rfl⟩
  have haligned := Table.aligned_of_statement hs
  have hlength : s.params.length = 3 := by
    rw [haligned.params]
    rfl
  refine ⟨s, hs, haligned, ?_⟩
  rw [haligned.numbers, hlength]
  rfl

end TableGateway
