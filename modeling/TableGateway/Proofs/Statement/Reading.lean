import TableGateway.Proofs.Statement.Scanner

/-! # Unique reading of statements

The text of a statement determines everything that the statement says, up to the values of its parameters:
whatever the table and the columns are called, no statement reads as another one. The tokens of every clause
are prefix-free, as long as what follows does not begin with the keyword or the separator of the clause; the
names stand in tokens of their own and cannot get in the way.

* `Outline.eq_of_tokens_eq` : the tokens of a shape determine the shape
* `Table.text_eq_iff_shape_eq` : two statements have the same text exactly if their shapes are the same -/

namespace TableGateway

open TableGateway.Sql TableGateway.Sql.Lexeme

variable {α β : Type}

namespace Sql

theorem tokens_map (f : α → β) : ∀ (n : ℕ) (ls : List (Lexeme α)),
    tokens n (ls.map (Lexeme.map f)) = tokens n ls
  | _, [] => rfl
  | n, .text s :: ls => by simp [tokens, Lexeme.map, tokens_map f n ls]
  | n, .name s :: ls => by simp [tokens, Lexeme.map, tokens_map f n ls]
  | n, .slot a :: ls => by simp [tokens, Lexeme.map, tokens_map f (n + 1) ls]

/-! ### Loops -/

/-- **Prefix-free items**: tokens that begin with those of an item determine the item and what is left. -/
def PrefixFree (item : β → List (Lexeme α)) : Prop :=
  ∀ (n : ℕ) (a b : β) (x y : List Token),
    tokens n (item a) ++ x = tokens n (item b) ++ y → a = b ∧ x = y

theorem tokens_separated (n : ℕ) (separator : String) (item : β → List (Lexeme α)) (b c : β)
    (bs : List β) (x : List Token) :
    tokens n (separated separator item (b :: c :: bs)) ++ x =
      tokens n (item b) ++ (chars separator ++
        (tokens (n + (slots (item b)).length) (separated separator item (c :: bs)) ++ x)) := by
  rw [separated_cons_cons, tokens_append, tokens, List.append_assoc, List.append_assoc]

/-- **A loop over prefix-free items is prefix-free**, as long as no separator follows it. -/
theorem separated_prefix {separator : String} {item : β → List (Lexeme α)} (hitem : PrefixFree item) :
    ∀ (as bs : List β) (n : ℕ) (x y : List Token), as ≠ [] → bs ≠ [] →
      ¬ chars separator <+: x → ¬ chars separator <+: y →
      tokens n (separated separator item as) ++ x = tokens n (separated separator item bs) ++ y →
      as = bs ∧ x = y
  | [], _, _, _, _, ha, _, _, _, _ => absurd rfl ha
  | _ :: _, [], _, _, _, _, hb, _, _, _ => absurd rfl hb
  | [a], [b], n, x, y, _, _, _, _, h => by
    obtain ⟨rfl, rfl⟩ := hitem n a b x y h
    exact ⟨rfl, rfl⟩
  | [a], b :: c :: bs, n, x, y, _, _, hx, _, h => by
    rw [tokens_separated] at h
    obtain ⟨-, rfl⟩ := hitem n a b _ _ h
    exact absurd (List.prefix_append _ _) hx
  | a :: c :: as, [b], n, x, y, _, _, _, hy, h => by
    rw [tokens_separated] at h
    obtain ⟨-, rfl⟩ := hitem n a b _ _ h
    exact absurd (List.prefix_append _ _) hy
  | a :: c :: as, b :: d :: bs, n, x, y, _, _, hx, hy, h => by
    rw [tokens_separated, tokens_separated] at h
    obtain ⟨rfl, h⟩ := hitem n a b _ _ h
    obtain ⟨hcd, rfl⟩ := separated_prefix hitem (c :: as) (d :: bs) _ x y (by simp) (by simp) hx hy
      (List.append_cancel_left h)
    exact ⟨congrArg (a :: ·) hcd, rfl⟩

end Sql

namespace Outline

/-! ### Clauses -/

/-- The tokens that are left begin with neither the keyword nor the separator of a clause. -/
structure Ends (keyword separator : String) (x : List Token) : Prop where
  keyword : ¬ chars keyword <+: x
  separator : ¬ chars separator <+: x

theorem clause_prefix {keyword separator : String} {item : β → List (Lexeme α)}
    (hitem : PrefixFree item) {as bs : List β} {n : ℕ} {x y : List Token}
    (hx : Ends keyword separator x) (hy : Ends keyword separator y)
    (h : tokens n (clause keyword separator item as) ++ x =
      tokens n (clause keyword separator item bs) ++ y) : as = bs ∧ x = y := by
  rcases as with _ | ⟨a, as⟩ <;> rcases bs with _ | ⟨b, bs⟩
  · exact ⟨rfl, h⟩
  · rw [clause, clause, tokens, tokens, List.append_assoc, List.nil_append] at h
    exact absurd (h ▸ List.prefix_append _ _) hx.keyword
  · rw [clause, clause, tokens, tokens, List.append_assoc, List.nil_append] at h
    exact absurd (h ▸ List.prefix_append _ _) hy.keyword
  · rw [clause, clause, tokens, tokens, List.append_assoc, List.append_assoc] at h
    exact separated_prefix hitem _ _ n x y (by simp) (by simp) hx.separator hy.separator
      (List.append_cancel_left h)

theorem prefixFree_assignment : PrefixFree (assignment : String × Unit → List (Lexeme Unit)) := by
  rintro n ⟨a, _⟩ ⟨b, _⟩ x y h
  simp only [assignment, tokens, List.cons_append, List.append_assoc, List.cons.injEq, Token.name.injEq,
    List.append_cancel_left_eq, List.nil_append, true_and] at h
  exact ⟨by rw [h.1], h.2⟩

theorem prefixFree_columnName : PrefixFree (columnName : String × Unit → List (Lexeme Unit)) := by
  rintro n ⟨a, _⟩ ⟨b, _⟩ x y h
  simp only [columnName, tokens, List.cons_append, List.cons.injEq, Token.name.injEq,
    List.nil_append] at h
  exact ⟨by rw [h.1], h.2⟩

theorem prefixFree_sortKey : PrefixFree (sortKey : String × Direction → List (Lexeme Unit)) := by
  rintro n ⟨a, d⟩ ⟨b, e⟩ x y h
  simp only [sortKey, tokens, List.cons_append, List.append_assoc, List.cons.injEq, Token.name.injEq,
    List.append_cancel_left_eq, List.nil_append] at h
  obtain ⟨rfl, h⟩ := h
  cases d <;> cases e <;> simp [directionWord, chars] at h ⊢ <;> exact h

theorem page_injective {n : ℕ} {l l' m m' : Option Unit}
    (h : tokens n (pageLexemes l m) = tokens n (pageLexemes l' m')) : l = l' ∧ m = m' := by
  rcases l with _ | _ <;> rcases l' with _ | _ <;> rcases m with _ | _ <;> rcases m' with _ | _ <;>
    simp [pageLexemes, boundLexemes, tokens, chars] at h ⊢

theorem returning_injective {n : ℕ} {k k' : String}
    (h : tokens n (returningLexemes k : List (Lexeme Unit)) = tokens n (returningLexemes k' : List (Lexeme Unit))) :
    k = k' := by
  simpa [returningLexemes, tokens] using h

theorem values_prefix {es fs : List (String × Unit)} {n : ℕ} {x y : List Token}
    (h : tokens n (valuesLexemes es) ++ x = tokens n (valuesLexemes fs) ++ y) : es = fs ∧ x = y := by
  rcases es with _ | ⟨e, es⟩ <;> rcases fs with _ | ⟨f, fs⟩
  · exact ⟨rfl, List.append_cancel_left h⟩
  · simp [valuesLexemes, tokens, chars] at h
  · simp [valuesLexemes, tokens, chars] at h
  · have hends : ∀ z, ¬ chars ", " <+: chars ") VALUES (" ++ z := fun z => by simp [chars]
    simp only [valuesLexemes, tokens, tokens_append, List.cons_append, List.append_assoc] at h
    obtain ⟨hes, h⟩ := separated_prefix prefixFree_columnName _ _ n _ _ (by simp) (by simp) (hends _)
      (hends _) (List.append_cancel_left h)
    rw [hes] at h
    simp only [List.append_cancel_left_eq] at h
    exact ⟨hes, h⟩

/-! ### What follows a clause -/

theorem ends_where_returning (n : ℕ) (k : String) :
    Ends " WHERE " " AND " (tokens n (returningLexemes k : List (Lexeme Unit))) :=
  ⟨by simp [returningLexemes, tokens, chars], by simp [returningLexemes, tokens, chars]⟩

theorem ends_where_order (n m : ℕ) (o : List (String × Direction)) (l l' : Option Unit) :
    Ends " WHERE " " AND "
      (tokens n (orderLexemes o : List (Lexeme Unit)) ++ tokens m (pageLexemes l l')) := by
  rcases o with _ | ⟨k, o⟩ <;> rcases l with _ | _ <;> rcases l' with _ | _ <;>
    exact ⟨by simp [orderLexemes, clause, pageLexemes, boundLexemes, tokens, chars],
      by simp [orderLexemes, clause, pageLexemes, boundLexemes, tokens, chars]⟩

theorem ends_order_page (n : ℕ) (l l' : Option Unit) :
    Ends " ORDER BY " ", " (tokens n (pageLexemes l l')) := by
  rcases l with _ | _ <;> rcases l' with _ | _ <;>
    exact ⟨by simp [pageLexemes, boundLexemes, tokens, chars],
      by simp [pageLexemes, boundLexemes, tokens, chars]⟩

theorem ends_set_where (n m : ℕ) (fs : List (String × Unit)) (k : String) :
    Ends " SET " ", "
      (tokens n (whereLexemes fs) ++ tokens m (returningLexemes k : List (Lexeme Unit))) := by
  rcases fs with _ | ⟨f, fs⟩ <;>
    exact ⟨by simp [whereLexemes, clause, returningLexemes, tokens, chars],
      by simp [whereLexemes, clause, returningLexemes, tokens, chars]⟩

/-! ### Shapes -/

/-- A statement for one row is not the list of rows with the same condition: where the one has a number, the
other has a placeholder or nothing. -/
theorem limit_ne_page {n m : ℕ} {o : List (String × Direction)} {l l' : Option Unit} :
    chars " LIMIT 1" ≠ tokens n (orderLexemes o : List (Lexeme Unit)) ++ tokens m (pageLexemes l l') := by
  rcases o with _ | ⟨e, o⟩ <;> rcases l with _ | _ <;> rcases l' with _ | _ <;>
    simp [orderLexemes, clause, pageLexemes, boundLexemes, tokens, chars]

theorem ends_where_limit : Ends " WHERE " " AND " (chars " LIMIT 1") := ⟨by decide, by decide⟩

theorem where_prefix {es fs : List (String × Unit)} {n : ℕ} {x y : List Token}
    (hx : Ends " WHERE " " AND " x) (hy : Ends " WHERE " " AND " y)
    (h : tokens n (whereLexemes es) ++ x = tokens n (whereLexemes fs) ++ y) : es = fs ∧ x = y :=
  clause_prefix prefixFree_assignment hx hy h

theorem getById_ne_list {t t' k : String} {u : Unit} {es : List (String × Unit)}
    {o : List (String × Direction)} {l m : Option Unit} :
    tokens 0 (getById t k u).lexemes ≠ tokens 0 (list t' es o l m).lexemes := by
  intro h
  simp only [lexemes, tokens, tokens_append, List.cons_append, List.append_assoc, List.nil_append,
    List.append_cancel_left_eq, List.cons.injEq] at h
  obtain ⟨-, h⟩ := where_prefix ends_where_limit (ends_where_order _ _ o l m) h.2
  exact limit_ne_page h

/-- **The tokens of a shape determine the shape.** -/
theorem eq_of_tokens_eq : ∀ o p : Outline Unit, tokens 0 o.lexemes = tokens 0 p.lexemes → o = p
  | .getById t k _, p, h => by
    cases p with
    | getById t' k' _ =>
      simp only [lexemes, tokens, tokens_append, List.cons_append, List.nil_append,
        List.append_cancel_left_eq, List.cons.injEq, Token.name.injEq] at h
      obtain ⟨rfl, h⟩ := h
      obtain ⟨hk, -⟩ := where_prefix ends_where_limit ends_where_limit h
      obtain ⟨rfl, -⟩ := Prod.mk.inj (List.singleton_inj.mp hk)
      rfl
    | list t' es o l m => exact absurd h getById_ne_list
    | _ => simp [lexemes, tokens, chars] at h
  | .list t es o l m, p, h => by
    cases p with
    | getById t' k' _ => exact absurd h.symm getById_ne_list
    | list t' es' o' l' m' =>
      simp only [lexemes, tokens, tokens_append, List.cons_append, List.append_assoc, List.nil_append,
        List.append_cancel_left_eq, List.cons.injEq, Token.name.injEq] at h
      obtain ⟨rfl, h⟩ := h
      obtain ⟨rfl, h⟩ := where_prefix (ends_where_order _ _ o l m) (ends_where_order _ _ o' l' m') h
      obtain ⟨rfl, h⟩ := clause_prefix prefixFree_sortKey (ends_order_page _ l m)
        (ends_order_page _ l' m') h
      obtain ⟨rfl, rfl⟩ := page_injective h
      rfl
    | _ => simp [lexemes, tokens, chars] at h
  | .count t es, p, h => by
    cases p with
    | count t' es' =>
      simp only [lexemes, tokens, List.cons_append, List.nil_append, List.append_cancel_left_eq,
        List.cons.injEq, Token.name.injEq] at h
      obtain ⟨-, rfl, h⟩ := h
      have hnil : Ends " WHERE " " AND " [] := ⟨by decide, by decide⟩
      obtain ⟨rfl, -⟩ := where_prefix hnil hnil (congrArg (· ++ []) h)
      rfl
    | _ => simp [lexemes, tokens, chars] at h
  | .create t es k, p, h => by
    cases p with
    | create t' es' k' =>
      simp only [lexemes, tokens, tokens_append, List.cons_append, List.nil_append,
        List.append_cancel_left_eq, List.cons.injEq, Token.name.injEq] at h
      obtain ⟨rfl, h⟩ := h
      obtain ⟨rfl, h⟩ := values_prefix h
      rw [returning_injective h]
    | _ => simp [lexemes, tokens, chars] at h
  | .update t es fs k, p, h => by
    cases p with
    | update t' es' fs' k' =>
      simp only [lexemes, tokens, tokens_append, List.cons_append, List.append_assoc, List.nil_append,
        List.append_cancel_left_eq, List.cons.injEq, Token.name.injEq] at h
      obtain ⟨rfl, h⟩ := h
      obtain ⟨rfl, h⟩ := clause_prefix prefixFree_assignment (ends_set_where _ _ fs k)
        (ends_set_where _ _ fs' k') h
      obtain ⟨rfl, h⟩ := where_prefix (ends_where_returning _ k) (ends_where_returning _ k') h
      rw [returning_injective h]
    | _ => simp [lexemes, tokens, chars] at h
  | .remove t es k, p, h => by
    cases p with
    | remove t' es' k' =>
      simp only [lexemes, tokens, tokens_append, List.cons_append, List.nil_append,
        List.append_cancel_left_eq, List.cons.injEq, Token.name.injEq] at h
      obtain ⟨rfl, h⟩ := h
      obtain ⟨rfl, h⟩ := where_prefix (ends_where_returning _ k) (ends_where_returning _ k') h
      rw [returning_injective h]
    | _ => simp [lexemes, tokens, chars] at h

end Outline

/-- **Two statements have the same text exactly if they have the same shape**: the same operation on the same
table, with the same columns compared, set, sorted by and returned, in the same order. -/
theorem Table.text_eq_iff_shape_eq {t t' : Table} {call call' : Call} {s s' : Statement}
    (h : t.statement call = .ok (some s)) (h' : t'.statement call' = .ok (some s')) :
    s.text = s'.text ↔ (t.outline call).shape = (t'.outline call').shape := by
  constructor
  · intro htext
    have htokens := (scan_text h).symm.trans ((congrArg scan htext).trans (scan_text h'))
    refine Outline.eq_of_tokens_eq _ _ ?_
    rw [Outline.shape, Outline.shape, Outline.lexemes_map, Outline.lexemes_map, tokens_map, tokens_map]
    exact htokens
  · intro hshape
    refine String.toList_injective ?_
    rw [toList_text_of_statement h, toList_text_of_statement h', ← Outline.spell_shape, hshape,
      Outline.spell_shape]

/-- A record whose table and one of whose columns are called like parts of statements. -/
def hostileRecord : Record where
  table := "t\" WHERE \"a\" = $1; --"
  columns := [⟨"a", .scalar, false⟩, ⟨"b", .scalar, false⟩, ⟨"a\" = $1 AND \"b", .scalar, false⟩]
  fields := []

/-- A condition on two columns of the record. -/
def twoColumns : Call := .count (.ofList [("a", .null), ("b", .null)])

/-- A condition on the one column whose name is written like the condition on the two. -/
def oneColumn : Call := .count (.ofList [("a\" = $1 AND \"b", .null)])

theorem oneColumn_text_ne : ∃ s s', hostileRecord.home.statement twoColumns = .ok (some s) ∧
    hostileRecord.home.statement oneColumn = .ok (some s') ∧ s.text ≠ s'.text := by
  obtain ⟨s, hs⟩ : ∃ s, hostileRecord.home.statement twoColumns = .ok (some s) := ⟨_, rfl⟩
  obtain ⟨s', hs'⟩ : ∃ s', hostileRecord.home.statement oneColumn = .ok (some s') := ⟨_, rfl⟩
  refine ⟨s, s', hs, hs', fun htext => ?_⟩
  exact absurd ((Table.text_eq_iff_shape_eq hs hs').mp htext) (by decide)

end TableGateway
