import TableGateway.Proofs.Statement.Keyword

/-! # Columns and placeholders

Which column a placeholder of a statement belongs to, as it is found in the text itself: in a condition and in
the new values of an update a placeholder comes after its column and an equals sign, in a new row it has the
position of its column in another list.

* `placeholders_tokens` : the placeholders are numbered in order
* `Outline.assigned_cut` : the columns that are set and those that are compared, with their placeholders
* `Outline.listed_lexemes` : the columns of a new row, with their placeholders -/

namespace TableGateway

open TableGateway.Sql TableGateway.Sql.Lexeme

variable {α β : Type}

namespace Sql

/-! ### What is read of the tokens -/

namespace Token

/-- The digits of a placeholder. -/
def digits? : Token → Option String
  | placeholder digits => some digits
  | _ => none

/-- The name of an identifier. -/
def name? : Token → Option String
  | name s => some s
  | _ => none

end Token

/-- The digits of all placeholders. -/
def placeholders (ts : List Token) : List String := ts.filterMap Token.digits?

/-- The names of all identifiers. -/
def names (ts : List Token) : List String := ts.filterMap Token.name?

/-- The placeholder after an equals sign. -/
def attached : List Token → Option String
  | .char ' ' :: .char '=' :: .char ' ' :: .placeholder digits :: _ => some digits
  | _ => none

/-- **The names that have a placeholder after an equals sign**, each with the digits of the placeholder. -/
def assigned : List Token → List (String × String)
  | [] => []
  | .name s :: ts => ((attached ts).map (s, ·)).toList ++ assigned ts
  | .char _ :: ts => assigned ts
  | .placeholder _ :: ts => assigned ts
  | .unclosed _ :: ts => assigned ts

/-- **The names of a list of columns**, each with the digits of the placeholder at its position in the list of
values. -/
def listed (ts : List Token) : List (String × String) :=
  (names (cut " (" (cut ") VALUES (" ts).1).2).zip (placeholders (cut ")" (cut ") VALUES (" ts).2).1)

/-! ### Placeholders in order -/

theorem placeholders_append (ts us : List Token) :
    placeholders (ts ++ us) = placeholders ts ++ placeholders us := List.filterMap_append

theorem placeholders_chars (s : String) : placeholders (chars s) = [] := by
  rw [placeholders, chars, List.filterMap_map]
  exact List.filterMap_eq_nil_iff.mpr fun _ _ => rfl

/-- **The placeholders of lexemes are numbered in order.** -/
theorem placeholders_tokens : ∀ (n : ℕ) (ls : List (Lexeme α)),
    placeholders (tokens n ls) = (List.range' (n + 1) (slots ls).length).map toString
  | _, [] => rfl
  | n, .text s :: ls => by
    rw [tokens, placeholders_append, placeholders_chars, placeholders_tokens n ls]
    rfl
  | n, .name _ :: ls => placeholders_tokens n ls
  | n, .slot _ :: ls => by
    have ih := placeholders_tokens (n + 1) ls
    rw [slots, List.length_cons, List.range'_succ, List.map_cons, ← ih]
    rfl

/-- Entries with the numbers of consecutive placeholders, from after `n` on. -/
def numbered : ℕ → List (String × α) → List (String × String)
  | _, [] => []
  | n, e :: es => (e.1, toString (n + 1)) :: numbered (n + 1) es

theorem numbered_eq_zip : ∀ (n : ℕ) (es : List (String × α)),
    numbered n es = (es.map Prod.fst).zip ((List.range' (n + 1) es.length).map toString)
  | _, [] => rfl
  | n, e :: es => by
    rw [numbered, numbered_eq_zip (n + 1) es, List.length_cons, List.range'_succ]
    rfl

/-! ### Assignments -/

theorem assigned_chars (s : String) (ts : List Token) : assigned (chars s ++ ts) = assigned ts := by
  unfold chars
  induction s.toList with
  | nil => rfl
  | cons c cs ih => exact ih

theorem assigned_name {ts : List Token} (h : attached ts = none) (s : String) :
    assigned (.name s :: ts) = assigned ts := by
  rw [assigned, h]
  rfl

/-- Tokens that give no name a placeholder, neither one of theirs nor one before them. -/
structure Quiet (ts : List Token) : Prop where
  attached : attached ts = none
  assigned : assigned ts = []

end Sql

namespace Outline

/-! ### Clauses -/

theorem assigned_assignments (separator : String) : ∀ (n : ℕ) (es : List (String × α)) (ts : List Token),
    assigned (tokens n (separated separator assignment es) ++ ts) = numbered n es ++ assigned ts
  | _, [], _ => rfl
  | n, [e], ts => rfl
  | n, e :: f :: es, ts => by
    have ih := assigned_assignments separator (n + 1) (f :: es) ts
    have hitem : ∀ us, assigned (tokens n (assignment e) ++ us) =
        (e.1, toString (n + 1)) :: assigned us := fun _ => rfl
    have hslots : n + (slots (assignment e)).length = n + 1 := rfl
    rw [separated_cons_cons, tokens_append, hslots, tokens, List.append_assoc, List.append_assoc, hitem,
      assigned_chars, ih]
    rfl

theorem assigned_clause (keyword separator : String) (n : ℕ) (es : List (String × α)) (ts : List Token) :
    assigned (tokens n (clause keyword separator assignment es) ++ ts) = numbered n es ++ assigned ts := by
  cases es with
  | nil => rfl
  | cons e es =>
    rw [clause, tokens, List.append_assoc, assigned_chars, assigned_assignments]

/-- **A loop whose items give no name a placeholder** gives none, if none comes right after it. -/
theorem assigned_separated {item : β → List (Lexeme α)}
    (hitem : ∀ n b ts, attached ts = none → assigned (tokens n (item b) ++ ts) = assigned ts) :
    ∀ (n : ℕ) (bs : List β) (ts : List Token), attached ts = none →
      assigned (tokens n (separated ", " item bs) ++ ts) = assigned ts
  | _, [], _, _ => rfl
  | n, [b], ts, h => hitem n b ts h
  | n, b :: d :: bs, ts, h => by
    have hseparator : ∀ us, attached (chars ", " ++ us) = none := fun _ => rfl
    rw [separated_cons_cons, tokens_append, tokens, List.append_assoc, List.append_assoc,
      hitem _ _ _ (hseparator _), assigned_chars, assigned_separated hitem _ (d :: bs) ts h]

theorem assigned_sortKey (n : ℕ) (e : String × Direction) (ts : List Token) :
    assigned (tokens n (sortKey e : List (Lexeme α)) ++ ts) = assigned ts := by
  have hname : attached (chars " " ++ (chars (directionWord e.2) ++ ts)) = none := by
    cases e.2 <;> simp [chars, directionWord, attached]
  have htokens : tokens n (sortKey e : List (Lexeme α)) ++ ts =
      .name e.1 :: (chars " " ++ (chars (directionWord e.2) ++ ts)) := by
    simp [sortKey, tokens]
  rw [htokens, assigned_name hname, assigned_chars, assigned_chars]

theorem quiet_page (n : ℕ) (limit offset : Option α) : Quiet (tokens n (pageLexemes limit offset)) := by
  cases limit <;> cases offset <;> exact ⟨rfl, rfl⟩

theorem quiet_order_page (n : ℕ) (o : List (String × Direction)) (limit offset : Option α) :
    Quiet (tokens n (orderLexemes o ++ pageLexemes limit offset)) := by
  cases o with
  | nil => exact quiet_page n limit offset
  | cons e o =>
    refine ⟨rfl, ?_⟩
    have hpage := quiet_page (n + (slots (separated ", " sortKey (e :: o) : List (Lexeme α))).length)
      limit offset
    rw [orderLexemes, clause, List.cons_append, tokens, assigned_chars, tokens_append,
      assigned_separated (fun n e ts _ => assigned_sortKey n e ts) _ _ _ hpage.attached]
    exact hpage.assigned

theorem quiet_returning (n : ℕ) (k : String) : Quiet (tokens n (returningLexemes k : List (Lexeme α))) :=
  ⟨rfl, rfl⟩

/-! ### The columns of an outline -/

/-- The columns that are set to something else. -/
def sets : Outline α → List (String × α)
  | update _ es _ _ => es
  | _ => []

/-- The columns that are compared. -/
def conditions : Outline α → List (String × α)
  | getById _ k a => [(k, a)]
  | list _ es _ _ _ | count _ es | update _ _ es _ | remove _ es _ => es
  | create _ _ _ => []

/-- The columns of a new row. -/
def columns : Outline α → List (String × α)
  | create _ es _ => es
  | _ => []

/-- **The condition of an outline is cut off at its keyword.** -/
theorem assigned_cut_where {head tail : List (Lexeme α)} (es fs : List (String × α))
    (hhead : Without 'W' head) (htail : Without 'W' tail) (hquiet : ∀ n, Quiet (tokens n tail))
    (hsets : ∀ ts, attached ts = none → assigned (tokens 0 head ++ ts) = numbered 0 es ++ assigned ts) :
    assigned (cut " WHERE " (tokens 0 (head ++ whereLexemes fs ++ tail))).1 = numbered 0 es ∧
      assigned (cut " WHERE " (tokens 0 (head ++ whereLexemes fs ++ tail))).2 =
        numbered (slots head).length fs := by
  have hw : " WHERE ".toList = [' '] ++ 'W' :: "HERE ".toList := rfl
  cases fs with
  | nil =>
    have hno : .char 'W' ∉ tokens 0 (head ++ whereLexemes [] ++ tail) :=
      not_mem_tokens 0 (without_append (without_append hhead trivial) htail)
    rw [cut_of_not_mem hw hno]
    refine ⟨?_, rfl⟩
    rw [whereLexemes, clause, List.append_nil, tokens_append, hsets _ (hquiet _).attached,
      (hquiet _).assigned, List.append_nil]
  | cons f fs =>
    have hno : .char 'W' ∉ tokens 0 head := not_mem_tokens 0 hhead
    rw [List.append_assoc, tokens_append, whereLexemes, clause, List.cons_append, tokens,
      cut_append hw (by decide) _ hno]
    refine ⟨?_, ?_⟩
    · have hall := hsets [] rfl
      rwa [List.append_nil, assigned, List.append_nil] at hall
    · rw [tokens_append, assigned_assignments, (hquiet _).assigned, List.append_nil, Nat.zero_add]

theorem assigned_head {s t : String} {n : ℕ} {ts : List Token} (h : attached ts = none) :
    assigned (tokens n ([.text s, .name t] : List (Lexeme α)) ++ ts) = assigned ts := by
  have htokens : tokens n ([.text s, .name t] : List (Lexeme α)) ++ ts = chars s ++ .name t :: ts := by
    simp [tokens]
  rw [htokens, assigned_chars, assigned_name h]

/-- The columns and the values of a new row are apart, so that no column has a placeholder at its side. -/
theorem assigned_valuesLexemes (n : ℕ) (es : List (String × α)) (ts : List Token) :
    assigned (tokens n (valuesLexemes es) ++ ts) = assigned ts := by
  cases es with
  | nil => exact assigned_chars " DEFAULT VALUES" ts
  | cons e es =>
    have hname : ∀ n (e : String × α) us, attached us = none →
        assigned (tokens n (columnName e) ++ us) = assigned us := fun _ e _ h => assigned_name h e.1
    have hvalue : ∀ n (e : String × α) us, attached us = none →
        assigned (tokens n (columnValue e) ++ us) = assigned us := fun _ _ _ _ => rfl
    have hmiddle : ∀ us, attached (chars ") VALUES (" ++ us) = none := fun _ => rfl
    have hclose : ∀ us, attached (chars ")" ++ us) = none := fun _ => rfl
    simp only [valuesLexemes, List.cons_append, tokens, tokens_append, List.append_assoc, assigned_chars,
      List.append_nil]
    rw [assigned_separated hname _ _ _ (hmiddle _), assigned_chars,
      assigned_separated hvalue _ _ _ (hclose _), assigned_chars]

theorem attached_setLexemes {ts : List Token} (h : attached ts = none) (n : ℕ) (es : List (String × α)) :
    attached (tokens n (setLexemes es) ++ ts) = none := by
  cases es with
  | nil => exact h
  | cons e es => rfl

theorem attached_valuesLexemes (n : ℕ) (es : List (String × α)) (ts : List Token) :
    attached (tokens n (valuesLexemes es) ++ ts) = none := by
  cases es <;> rfl

/-! ### The columns at the side of the placeholders -/

/-- **The columns that are set and those that are compared have the placeholders in order.** -/
theorem assigned_cut (o : Outline α) :
    assigned (cut " WHERE " (tokens 0 o.lexemes)).1 = numbered 0 o.sets ∧
      assigned (cut " WHERE " (tokens 0 o.lexemes)).2 = numbered o.sets.length o.conditions := by
  cases o with
  | getById t k a =>
    have htail : Without 'W' ([.text " LIMIT 1"] : List (Lexeme α)) := ⟨by decide, trivial⟩
    exact assigned_cut_where [] [(k, a)] (without_head (by decide) t) htail (fun _ => ⟨rfl, rfl⟩)
      fun _ h => assigned_head h
  | list t es o l m =>
    have htail := without_append (without_order (.inr rfl) o) (without_page (.inr rfl) l m)
    rw [lexemes, List.append_assoc]
    exact assigned_cut_where [] es (without_head (by decide) t) htail
      (fun n => quiet_order_page n o l m) fun _ h => assigned_head h
  | count t es =>
    have hhead : Without 'W' ([.text "SELECT COUNT(*) AS ", .name "count"] ++ [.text " FROM ", .name t] :
        List (Lexeme α)) := without_append (without_head (by decide) _) (without_head (by decide) t)
    have hcount := assigned_cut_where [] es hhead (show Without 'W' [] from trivial)
      (fun _ => ⟨rfl, rfl⟩) fun ts h => by
        rw [tokens_append, List.append_assoc, assigned_head (by rfl), assigned_head h]
        rfl
    rwa [List.append_nil] at hcount
  | create t es k =>
    have hall : Without 'W' ([.text "INSERT INTO ", .name t] ++ valuesLexemes es ++ returningLexemes k) :=
      without_append (without_append (without_head (by decide) t) (without_values es))
        (without_returning (.inr rfl) k)
    have hcreate := assigned_cut_where [] [] hall (show Without 'W' [] from trivial)
      (fun _ => ⟨rfl, rfl⟩) fun ts h => by
        rw [tokens_append, tokens_append, List.append_assoc, List.append_assoc,
          assigned_head (attached_valuesLexemes _ _ _), assigned_valuesLexemes]
        exact (assigned_chars " RETURNING " _).trans (assigned_name h k)
    rw [whereLexemes, clause, List.append_nil, List.append_nil] at hcreate
    exact ⟨hcreate.1, hcreate.2⟩
  | update t es fs k =>
    have hhead : Without 'W' ([.text "UPDATE ", .name t] ++ setLexemes es) :=
      without_append (without_head (by decide) t) (without_set (.inr rfl) es)
    have hslots : (slots ([.text "UPDATE ", .name t] ++ setLexemes es)).length = es.length := by
      simp [slots]
    have hupdate := assigned_cut_where es fs hhead (without_returning (.inr rfl) k)
      (fun n => quiet_returning n k) fun ts h => by
        rw [tokens_append, List.append_assoc, assigned_head (attached_setLexemes h _ _)]
        exact assigned_clause _ _ _ es ts
    rwa [hslots] at hupdate
  | remove t es k =>
    exact assigned_cut_where [] es (without_head (by decide) t) (without_returning (.inr rfl) k)
      (fun n => quiet_returning n k) fun _ h => assigned_head h

theorem names_columnNames (n : ℕ) : ∀ es : List (String × α),
    names (tokens n (separated ", " columnName es)) = es.map Prod.fst
  | [] => rfl
  | [e] => rfl
  | e :: f :: es => by
    have ih := names_columnNames n (f :: es)
    rw [separated_cons_cons, columnName, List.singleton_append, tokens, tokens, List.map_cons, ← ih]
    rfl

theorem listed_of_without {ls : List (Lexeme α)} (h : Without 'V' ls) : listed (tokens 0 ls) = [] := by
  have hw : ") VALUES (".toList = [')', ' '] ++ 'V' :: "ALUES (".toList := rfl
  rw [listed, cut_of_not_mem hw (not_mem_tokens 0 h)]
  exact List.zip_nil_right

theorem cut_columns {s : String} (hs : '(' ∉ s.toList) (t : String) (es : List (String × α)) :
    cut " (" (tokens 0 ([.text s, .name t] ++ .text " (" :: separated ", " columnName es)) =
      (tokens 0 ([.text s, .name t] : List (Lexeme α)), tokens 0 (separated ", " columnName es)) := by
  have hw : " (".toList = [' '] ++ '(' :: [] := rfl
  rw [tokens_append, tokens]
  exact cut_append hw (by decide) _ (not_mem_tokens 0 (without_head hs t))

theorem cut_values (es : List (String × α)) (ts : List Token) :
    cut ")" (tokens 0 (separated ", " columnValue es) ++ (chars ")" ++ ts)) =
      (tokens 0 (separated ", " columnValue es), ts) := by
  have hw : ")".toList = [] ++ ')' :: [] := rfl
  exact cut_append hw List.not_mem_nil ts (not_mem_tokens 0 (without_columnValues (by decide) es))

/-- **The columns of a new row have the placeholders in order.** -/
theorem listed_lexemes (o : Outline α) : listed (tokens 0 o.lexemes) = numbered 0 o.columns := by
  cases o with
  | create t es k =>
    cases es with
    | nil =>
      have hw : ") VALUES (".toList = [] ++ ')' :: " VALUES (".toList := rfl
      have hall : Without ')' ([.text "INSERT INTO ", .name t] ++ valuesLexemes ([] : List (String × α)) ++
          returningLexemes k) := ⟨by decide, by decide, by decide, trivial⟩
      rw [listed, lexemes, cut_of_not_mem hw (not_mem_tokens 0 hall)]
      exact List.zip_nil_right
    | cons e es =>
      obtain ⟨ts, hts⟩ : ∃ ts, tokens 0 (create t (e :: es) k).lexemes =
          tokens 0 ([.text "INSERT INTO ", .name t] ++ .text " (" :: separated ", " columnName (e :: es)) ++
            (chars ") VALUES (" ++
              (tokens 0 (separated ", " columnValue (e :: es)) ++ (chars ")" ++ ts))) := by
        simp [lexemes, valuesLexemes, tokens_append, tokens, slots_columnNames]
      have hw : ") VALUES (".toList = [')', ' '] ++ 'V' :: "ALUES (".toList := rfl
      have hhead : Without 'V' ([.text "INSERT INTO ", .name t] ++
          .text " (" :: separated ", " columnName (e :: es)) :=
        without_append (without_head (by decide) t) ⟨by decide, without_columnNames (by decide) _⟩
      have hcut := cut_append hw (by decide)
        (tokens 0 (separated ", " columnValue (e :: es)) ++ (chars ")" ++ ts)) (not_mem_tokens 0 hhead)
      rw [hts, listed, hcut, cut_columns (by decide), cut_values, names_columnNames, placeholders_tokens,
        slots_columnValues, List.length_map, columns, numbered_eq_zip]
  | getById t k a =>
    exact listed_of_without (without_append (without_append (without_head (by decide) t) (without_where _))
      ⟨by decide, trivial⟩)
  | list t es o l m =>
    exact listed_of_without (without_append (without_append (without_append (without_head (by decide) t)
      (without_where es)) (without_order (.inl rfl) o)) (without_page (.inl rfl) l m))
  | count t es =>
    have hhead : Without 'V' ([.text "SELECT COUNT(*) AS ", .name "count"] ++ [.text " FROM ", .name t] :
        List (Lexeme α)) := without_append (without_head (by decide) _) (without_head (by decide) t)
    exact listed_of_without (without_append hhead (without_where es))
  | update t es fs k =>
    exact listed_of_without (without_append (without_append (without_append (without_head (by decide) t)
      (without_set (.inl rfl) es)) (without_where fs)) (without_returning (.inl rfl) k))
  | remove t es k =>
    exact listed_of_without (without_append (without_append (without_head (by decide) t) (without_where es))
      (without_returning (.inl rfl) k))

end Outline

end TableGateway
