import TableGateway.Gateway.Call
import TableGateway.Proofs.Statement.Lexeme

/-! # Outlines

What the statement of a call says: the operation, the table, the columns with what they are compared with or
set to, the order, the page and the column that is returned. A call has an outline whether or not its checks
pass, and every statement that a call has is its outline written out as lexemes.

* `Table.spelled_of_statement` : the statement of a call is the outline of the call written out
* `Table.toList_text_of_statement`, `Table.params_of_statement` : its text and its parameters
* `Outline.lexemes_map` : what the parameters are leaves no trace but in the slots -/

namespace TableGateway

open TableGateway.Sql TableGateway.Sql.Lexeme

variable {α β : Type}

/-- **What a statement says**, with an `α` wherever it has a parameter. -/
inductive Outline (α : Type) where
  | getById (table idColumn : String) (id : α)
  | list (table : String) (conditions : List (String × α)) (order : List (String × Direction))
      (limit offset : Option α)
  | count (table : String) (conditions : List (String × α))
  | create (table : String) (columns : List (String × α)) (returning : String)
  | update (table : String) (columns conditions : List (String × α)) (returning : String)
  | remove (table : String) (conditions : List (String × α)) (returning : String)
  deriving DecidableEq, Repr

/-- Entries with something else for each value. -/
def mapEntries (f : α → β) (es : List (String × α)) : List (String × β) := es.map fun e => (e.1, f e.2)

namespace Outline

/-- The same outline with other parameters. -/
def map (f : α → β) : Outline α → Outline β
  | getById t k a => getById t k (f a)
  | list t es o l m => list t (mapEntries f es) o (l.map f) (m.map f)
  | count t es => count t (mapEntries f es)
  | create t es k => create t (mapEntries f es) k
  | update t es fs k => update t (mapEntries f es) (mapEntries f fs) k
  | remove t es k => remove t (mapEntries f es) k

/-- **The shape of a statement**: its outline without what the parameters are. -/
def shape (o : Outline α) : Outline Unit := o.map fun _ => ()

/-- The parameters, in order. -/
def values : Outline α → List α
  | getById _ _ a => [a]
  | list _ es _ l m => es.map Prod.snd ++ l.toList ++ m.toList
  | count _ es => es.map Prod.snd
  | create _ es _ => es.map Prod.snd
  | update _ es fs _ => es.map Prod.snd ++ fs.map Prod.snd
  | remove _ es _ => es.map Prod.snd

/-! ### Outlines as lexemes -/

/-- A clause: its keyword and its items, or nothing without items. -/
def clause (keyword separator : String) (item : β → List (Lexeme α)) : List β → List (Lexeme α)
  | [] => []
  | b :: bs => .text keyword :: separated separator item (b :: bs)

/-- `"column" = $n` -/
def assignment (e : String × α) : List (Lexeme α) := [.name e.1, .text " = ", .slot e.2]

/-- `"column" ASC` -/
def sortKey (e : String × Direction) : List (Lexeme α) :=
  [.name e.1, .text " ", .text (directionWord e.2)]

/-- ` WHERE "a" = $1 AND "b" = $2` -/
def whereLexemes : List (String × α) → List (Lexeme α) := clause " WHERE " " AND " assignment

/-- ` SET "a" = $1, "b" = $2` -/
def setLexemes : List (String × α) → List (Lexeme α) := clause " SET " ", " assignment

/-- ` ORDER BY "a" ASC, "b" DESC` -/
def orderLexemes : List (String × Direction) → List (Lexeme α) := clause " ORDER BY " ", " sortKey

/-- A keyword and its parameter, or nothing. -/
def boundLexemes (keyword : String) : Option α → List (Lexeme α)
  | none => []
  | some a => [.text keyword, .slot a]

/-- ` LIMIT $1 OFFSET $2` -/
def pageLexemes (limit offset : Option α) : List (Lexeme α) :=
  boundLexemes " LIMIT " limit ++ boundLexemes " OFFSET " offset

/-- `"column"` in the list of columns -/
def columnName (e : String × α) : List (Lexeme α) := [.name e.1]

/-- `$n` in the list of values -/
def columnValue (e : String × α) : List (Lexeme α) := [.slot e.2]

/-- ` ("a", "b") VALUES ($1, $2)` -/
def valuesLexemes : List (String × α) → List (Lexeme α)
  | [] => [.text " DEFAULT VALUES"]
  | e :: es =>
    .text " (" :: separated ", " columnName (e :: es) ++
      .text ") VALUES (" :: separated ", " columnValue (e :: es) ++ [.text ")"]

/-- ` RETURNING "id"` -/
def returningLexemes (column : String) : List (Lexeme α) := [.text " RETURNING ", .name column]

/-- **An outline written out.** -/
def lexemes : Outline α → List (Lexeme α)
  | getById t k a =>
    [.text "SELECT * FROM ", .name t] ++ whereLexemes [(k, a)] ++ [.text " LIMIT 1"]
  | list t es o l m =>
    [.text "SELECT * FROM ", .name t] ++ whereLexemes es ++ orderLexemes o ++ pageLexemes l m
  | count t es =>
    [.text "SELECT COUNT(*) AS ", .name "count", .text " FROM ", .name t] ++ whereLexemes es
  | create t es k => [.text "INSERT INTO ", .name t] ++ valuesLexemes es ++ returningLexemes k
  | update t es fs k =>
    [.text "UPDATE ", .name t] ++ setLexemes es ++ whereLexemes fs ++ returningLexemes k
  | remove t es k => [.text "DELETE FROM ", .name t] ++ whereLexemes es ++ returningLexemes k

/-! ### Slots -/

theorem slots_separated (separator : String) (item : β → List (Lexeme α)) :
    ∀ bs, slots (separated separator item bs) = bs.flatMap fun b => slots (item b)
  | [] => rfl
  | [b] => by simp [separated]
  | b :: c :: bs => by
    rw [separated_cons_cons, slots_append, slots, slots_separated separator item (c :: bs)]
    rfl

theorem slots_clause (keyword separator : String) (item : β → List (Lexeme α)) (bs : List β) :
    slots (clause keyword separator item bs) = bs.flatMap fun b => slots (item b) := by
  cases bs with
  | nil => rfl
  | cons b bs => exact slots_separated separator item (b :: bs)

@[simp] theorem slots_whereLexemes (es : List (String × α)) :
    slots (whereLexemes es) = es.map Prod.snd :=
  (slots_clause _ _ _ es).trans List.map_eq_flatMap.symm

@[simp] theorem slots_setLexemes (es : List (String × α)) :
    slots (setLexemes es) = es.map Prod.snd :=
  (slots_clause _ _ _ es).trans List.map_eq_flatMap.symm

@[simp] theorem slots_orderLexemes (o : List (String × Direction)) :
    slots (orderLexemes o : List (Lexeme α)) = [] := by
  rw [orderLexemes, slots_clause]
  simp [sortKey, slots]

@[simp] theorem slots_boundLexemes (keyword : String) (a : Option α) :
    slots (boundLexemes keyword a) = a.toList := by
  cases a <;> rfl

@[simp] theorem slots_columnNames (es : List (String × α)) :
    slots (separated ", " columnName es) = [] := by
  rw [slots_separated]
  exact List.flatMap_eq_nil_iff.mpr fun _ _ => rfl

@[simp] theorem slots_columnValues (es : List (String × α)) :
    slots (separated ", " columnValue es) = es.map Prod.snd := by
  rw [slots_separated, List.map_eq_flatMap]
  rfl

@[simp] theorem slots_valuesLexemes (es : List (String × α)) :
    slots (valuesLexemes es) = es.map Prod.snd := by
  cases es with
  | nil => rfl
  | cons e es => simp [valuesLexemes, slots]

/-- **The slots of an outline hold its parameters**, in order. -/
theorem slots_lexemes (o : Outline α) : slots o.lexemes = o.values := by
  cases o <;> simp [lexemes, values, slots, pageLexemes, returningLexemes]

/-! ### Other parameters -/

theorem map_clause {γ : Type} (f : α → β) (keyword separator : String)
    (item : γ → List (Lexeme α)) (item' : γ → List (Lexeme β))
    (hitem : ∀ c, (item c).map (Lexeme.map f) = item' c) (cs : List γ) :
    (clause keyword separator item cs).map (Lexeme.map f) = clause keyword separator item' cs := by
  cases cs with
  | nil => rfl
  | cons c cs => exact congrArg (_ :: ·) (map_separated f item' separator item hitem (c :: cs))

theorem map_assignment (f : α → β) (e : String × α) :
    (assignment e).map (Lexeme.map f) = assignment (e.1, f e.2) := rfl

theorem clause_mapEntries (keyword separator : String) (f : α → β) (item : String × β → List (Lexeme β))
    (es : List (String × α)) :
    clause keyword separator item (mapEntries f es) =
      clause keyword separator (fun e => item (e.1, f e.2)) es := by
  cases es with
  | nil => rfl
  | cons e es =>
    exact congrArg (_ :: ·) (separated_map separator item (fun e : String × α => (e.1, f e.2)) (e :: es))

theorem map_assignments (f : α → β) (keyword separator : String) (es : List (String × α)) :
    (clause keyword separator assignment es).map (Lexeme.map f) =
      clause keyword separator assignment (mapEntries f es) := by
  rw [clause_mapEntries]
  exact map_clause f keyword separator assignment _ (map_assignment f) es

theorem map_orderLexemes (f : α → β) (o : List (String × Direction)) :
    (orderLexemes o).map (Lexeme.map f) = orderLexemes o :=
  map_clause f _ _ sortKey sortKey (fun _ => rfl) o

theorem map_boundLexemes (f : α → β) (keyword : String) (a : Option α) :
    (boundLexemes keyword a).map (Lexeme.map f) = boundLexemes keyword (a.map f) := by
  cases a <;> rfl

theorem map_valuesLexemes (f : α → β) (es : List (String × α)) :
    (valuesLexemes es).map (Lexeme.map f) = valuesLexemes (mapEntries f es) := by
  cases es with
  | nil => rfl
  | cons e es =>
    have hnames : (separated ", " columnName (e :: es)).map (Lexeme.map f) =
        separated ", " columnName (mapEntries f (e :: es)) := by
      rw [mapEntries, separated_map]
      exact map_separated f _ _ _ (fun _ => rfl) _
    have hvalues : (separated ", " columnValue (e :: es)).map (Lexeme.map f) =
        separated ", " columnValue (mapEntries f (e :: es)) := by
      rw [mapEntries, separated_map]
      exact map_separated f _ _ _ (fun _ => rfl) _
    simp only [valuesLexemes, List.map_append, List.map_cons, List.map_nil, hnames, hvalues]
    rfl

/-- **Other parameters change the slots and nothing else.** -/
theorem lexemes_map (f : α → β) (o : Outline α) : (o.map f).lexemes = o.lexemes.map (Lexeme.map f) := by
  cases o <;>
    simp [map, lexemes, whereLexemes, setLexemes, pageLexemes, returningLexemes, map_assignments,
      map_orderLexemes, map_boundLexemes, map_valuesLexemes, Lexeme.map, mapEntries]

theorem values_map (f : α → β) (o : Outline α) : (o.map f).values = o.values.map f := by
  rw [← slots_lexemes, lexemes_map, slots_map, slots_lexemes]

/-- **The characters of an outline are those of its shape.** -/
theorem spell_shape (o : Outline α) : spell 0 o.shape.lexemes = spell 0 o.lexemes := by
  rw [shape, lexemes_map, spell_map]

end Outline

/-! ### The outline of a call -/

/-- **The outline of a call on a table.** -/
def Table.outline (t : Table) : Call → Outline Value
  | .getById id => .getById t.name t.record.idColumn (.text id)
  | .list filter page order =>
    .list t.name filter.toList ((order.map Entries.toList).getD [])
      ((page.bind Page.limit).map Page.rows) ((page.bind Page.offset).map Page.rows)
  | .count filter => .count t.name filter.toList
  | .create values => .create t.name values.toList t.record.idColumn
  | .update changes filter => .update t.name changes.toList filter.toList t.record.idColumn
  | .remove filter => .remove t.name filter.toList t.record.idColumn

/-! ### Clauses as lexemes -/

namespace Sql

open Outline

variable {f : Fragment} {ls : List (Lexeme Value)}

theorem spelled_pushAssignment (f : Fragment) (ls : List (Lexeme Value)) (e : String × Value)
    (h : Spelled f ls) : Spelled (pushAssignment f e) (ls ++ assignment e) := by
  have he : Spelled (pushAssignment f e) _ := ((h.pushIdent e.1).push " = ").pushValue e.2
  simpa [assignment] using he

theorem spelled_pushSortKey (f : Fragment) (ls : List (Lexeme Value)) (e : String × Direction)
    (h : Spelled f ls) : Spelled (pushSortKey f e) (ls ++ sortKey e) := by
  have he : Spelled (pushSortKey f e) _ := ((h.pushIdent e.1).push " ").push (directionWord e.2)
  simpa [sortKey] using he

theorem spelled_clause {keyword separator : String} {push : Fragment → β → Fragment}
    {item : β → List (Lexeme Value)}
    (hpush : ∀ f ls b, Spelled f ls → Spelled (push f b) (ls ++ item b)) (bs : List β) :
    Spelled (if bs.isEmpty then .empty else pushSeparated separator push (.ofText keyword) bs)
      (clause keyword separator item bs) := by
  cases bs with
  | nil => exact Spelled.empty
  | cons b bs => exact Spelled.pushSeparated separator hpush (b :: bs) (Spelled.ofText keyword)

theorem spelled_whereClause (p : Predicate) : Spelled (whereClause p) (whereLexemes p.toList) :=
  spelled_clause spelled_pushAssignment p.toList

theorem spelled_setClause (u : Update) : Spelled (setClause u) (setLexemes u.toList) :=
  spelled_clause spelled_pushAssignment u.toList

theorem spelled_orderClause (o : Option OrderBy) :
    Spelled (orderClause o) (orderLexemes ((o.map Entries.toList).getD [])) := by
  cases o with
  | none => exact Spelled.empty
  | some o => exact spelled_clause spelled_pushSortKey o.toList

theorem spelled_pageClause (p : Option Page) :
    Spelled (pageClause p)
      (pageLexemes ((p.bind Page.limit).map Page.rows) ((p.bind Page.offset).map Page.rows)) := by
  obtain _ | ⟨_ | l, _ | m⟩ := p
  · exact Spelled.empty
  · exact Spelled.empty
  · exact (Spelled.empty.push " OFFSET ").pushValue (Page.rows m)
  · exact (Spelled.ofText " LIMIT ").pushValue (Page.rows l)
  · exact (((Spelled.ofText " LIMIT ").pushValue (Page.rows l)).push " OFFSET ").pushValue (Page.rows m)

theorem spelled_valuesClause (c : Create) : Spelled (valuesClause c) (valuesLexemes c.toList) := by
  have hnames : ∀ f ls (k : String), Spelled f ls → Spelled (f.pushIdent k) (ls ++ [.name k]) :=
    fun _ _ k h => h.pushIdent k
  have hvalues : ∀ f ls (v : Value), Spelled f ls → Spelled (f.pushValue v) (ls ++ [.slot v]) :=
    fun _ _ v h => h.pushValue v
  obtain ⟨_ | ⟨e, es⟩, hes⟩ := c
  · exact Spelled.ofText " DEFAULT VALUES"
  · have hn := Spelled.pushSeparated ", " hnames ((e :: es).map Prod.fst)
      (Spelled.ofText " (")
    have hv := Spelled.pushSeparated ", " hvalues ((e :: es).map Prod.snd)
      (hn.push ") VALUES (")
    have h : Spelled (valuesClause ⟨e :: es, hes⟩) _ := hv.push ")"
    rw [separated_map, separated_map, List.append_assoc, List.append_assoc] at h
    rw [valuesLexemes, List.append_assoc]
    exact h

end Sql

/-! ### The statement of a call -/

theorem passes_bind (offence : Option Invalid) (k : Except Fault α) :
    (passes offence >>= fun _ => k) = offence.elim k fun cause => .error (.validation cause) := by
  cases offence <;> rfl

theorem elim_eq_ok_iff {offence : Option Invalid} {k : Except Fault α} {a : α} :
    (offence.elim k fun cause => .error (.validation cause)) = .ok a ↔ offence = none ∧ k = .ok a := by
  cases offence <;> simp

theorem map_some_eq_ok_iff {x : Except Fault α} {a : α} : x.map some = .ok (some a) ↔ x = .ok a := by
  cases x <;> simp [Except.map]

namespace Table

open Outline

variable {t : Table} {call : Call} {s : Statement}

theorem spelled_returning (t : Table) : Spelled t.returning (returningLexemes t.record.idColumn) :=
  (Spelled.ofText " RETURNING ").pushIdent t.record.idColumn

theorem spelled_head (t : Table) (s : String) :
    Spelled (Fragment.ofText s ++ .ofIdent t.name) [.text s, .name t.name] :=
  (Spelled.ofText s).append (Spelled.ofIdent t.name)

/-- The only text of a template that has a name inside. -/
theorem spelled_countHead : Spelled (.ofText "SELECT COUNT(*) AS \"count\" FROM ")
    [.text "SELECT COUNT(*) AS ", .name "count", .text " FROM "] where
  text n := by
    rw [(Spelled.ofText _).text n]
    simp only [spell]
    decide
  params := rfl
  count := rfl

/-- **The statement of a call is the outline of the call written out.** -/
theorem spelled_of_statement (h : t.statement call = .ok (some s)) :
    ∃ f : Fragment, Spelled f (t.outline call).lexemes ∧ s = f.statement := by
  cases call with
  | getById id =>
    simp only [statement, Except.ok.injEq, Option.some.injEq] at h
    have hw := ((((Spelled.ofText " WHERE ").pushIdent t.record.idColumn).push " = ").pushValue
      (.text id)).push " LIMIT 1"
    exact ⟨_, (t.spelled_head "SELECT * FROM ").append hw, h.symm⟩
  | list filter page order =>
    simp only [statement, listStatement, passes_bind, map_some_eq_ok_iff, elim_eq_ok_iff] at h
    obtain ⟨-, -, h⟩ := h
    have hs := (((t.spelled_head "SELECT * FROM ").append (spelled_whereClause filter)).append
      (spelled_orderClause order)).append (spelled_pageClause page)
    exact ⟨_, hs, (Except.ok.inj h).symm⟩
  | count filter =>
    simp only [statement, countStatement, passes_bind, map_some_eq_ok_iff, elim_eq_ok_iff] at h
    obtain ⟨-, h⟩ := h
    have hs := (spelled_countHead.append (Spelled.ofIdent t.name)).append (spelled_whereClause filter)
    exact ⟨_, hs, (Except.ok.inj h).symm⟩
  | create values =>
    simp only [statement, createStatement, passes_bind, map_some_eq_ok_iff, elim_eq_ok_iff] at h
    obtain ⟨-, h⟩ := h
    have hs := ((t.spelled_head "INSERT INTO ").append (spelled_valuesClause values)).append
      t.spelled_returning
    exact ⟨_, hs, (Except.ok.inj h).symm⟩
  | update changes filter =>
    simp only [statement, updateStatement, passes_bind, elim_eq_ok_iff] at h
    obtain ⟨-, -, h⟩ := h
    have hs := (((t.spelled_head "UPDATE ").append (spelled_setClause changes)).append
      (spelled_whereClause filter)).append t.spelled_returning
    split at h
    · cases h
    · exact ⟨_, hs, (Option.some.inj (Except.ok.inj h)).symm⟩
  | remove filter =>
    simp only [statement, removeStatement, passes_bind, map_some_eq_ok_iff, elim_eq_ok_iff] at h
    obtain ⟨-, h⟩ := h
    have hs := ((t.spelled_head "DELETE FROM ").append (spelled_whereClause filter)).append
      t.spelled_returning
    exact ⟨_, hs, (Except.ok.inj h).symm⟩

theorem toList_text_of_statement (h : t.statement call = .ok (some s)) :
    s.text.toList = spell 0 (t.outline call).lexemes := by
  obtain ⟨f, hf, rfl⟩ := spelled_of_statement h
  exact hf.toList_text

theorem params_of_statement (h : t.statement call = .ok (some s)) :
    s.params = (t.outline call).values := by
  obtain ⟨f, hf, rfl⟩ := spelled_of_statement h
  rw [← slots_lexemes]
  exact hf.params

end Table

end TableGateway
