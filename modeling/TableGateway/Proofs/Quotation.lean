import TableGateway.Sql.Ident

/-! # Reading identifiers back

Between the quotes of an identifier quotes come in pairs. A text that begins with a quote can therefore be read in
one way only: pairs and other characters, up to a quote that stands alone. If that is the last character the text
is the identifier of one name, and the name is read back; if something follows it, or if there is none, the text
is no identifier at all.

* `Paired` : characters in which quotes come in pairs
* `Misquoted` : the ways in which a text is no identifier
* `unquote?_exact` : reading is exactly the reverse of quoting, and refuses just what is misquoted -/

namespace TableGateway.Sql

variable {cs : List Char}

/-! ### Pairs of quotes -/

/-- **Characters in which quotes come in pairs.** -/
inductive Paired : List Char → Prop
  | nil : Paired []
  | pair {cs : List Char} (h : Paired cs) : Paired ('"' :: '"' :: cs)
  | other {c : Char} {cs : List Char} (hc : c ≠ '"') (h : Paired cs) : Paired (c :: cs)

/-- A quote that stands alone after pairs and other characters, with something else after it. -/
def Broken (cs : List Char) : Prop :=
  ∃ before c rest, Paired before ∧ c ≠ '"' ∧ cs = before ++ '"' :: c :: rest

theorem paired_doubled : ∀ cs : List Char, Paired (doubled cs)
  | [] => .nil
  | c :: cs => by
    unfold doubled
    split
    · exact .pair (paired_doubled cs)
    · next hc => exact .other hc (paired_doubled cs)

/-- Quotes come in pairs just where a name was written. -/
theorem paired_iff : Paired cs ↔ ∃ name, cs = doubled name := by
  constructor
  · intro h
    induction h with
    | nil => exact ⟨[], rfl⟩
    | pair _ ih =>
      obtain ⟨name, rfl⟩ := ih
      exact ⟨'"' :: name, rfl⟩
    | @other c _ hc _ ih =>
      obtain ⟨name, rfl⟩ := ih
      exact ⟨c :: name, by rw [doubled, if_neg hc]⟩
  · rintro ⟨name, rfl⟩
    exact paired_doubled name

theorem Broken.pair (h : Broken cs) : Broken ('"' :: '"' :: cs) := by
  obtain ⟨before, c, rest, hbefore, hc, rfl⟩ := h
  exact ⟨_, c, rest, hbefore.pair, hc, rfl⟩

theorem Broken.other {c : Char} (hc : c ≠ '"') (h : Broken cs) : Broken (c :: cs) := by
  obtain ⟨before, d, rest, hbefore, hd, rfl⟩ := h
  exact ⟨_, d, rest, .other hc hbefore, hd, rfl⟩

/-! ### What is refused -/

theorem unquoteTail?_eq_none_iff : unquoteTail? cs = none ↔ Paired cs ∨ Broken cs := by
  constructor
  · intro h
    fun_induction unquoteTail? cs with
    | case1 => exact .inl .nil
    | case2 => cases h
    | case3 cs ih => exact (ih (Option.map_eq_none_iff.mp h)).imp .pair .pair
    | case4 cs hlast hpair =>
      -- the quote is neither the last character nor the first of a pair
      obtain _ | ⟨c, rest⟩ := cs
      · exact absurd rfl (hlast rfl)
      · exact .inr ⟨[], c, rest, .nil, fun hc => hpair rest rfl (by rw [hc]), rfl⟩
    | case5 c cs _ _ hc ih => exact (ih (Option.map_eq_none_iff.mp h)).imp (.other hc) (.other hc)
  · rintro (h | ⟨before, c, rest, hbefore, hc, rfl⟩)
    · obtain ⟨name, rfl⟩ := paired_iff.mp h
      rw [← List.append_nil (doubled name), unquoteTail?_doubled_append]
      rfl
    · obtain ⟨name, rfl⟩ := paired_iff.mp hbefore
      have hstop : unquoteTail? ('"' :: c :: rest) = none := by
        rw [unquoteTail?, if_pos rfl]
        · exact fun _ h => List.cons_ne_nil _ _ h
        · exact fun _ _ h => hc (List.cons.inj h).1
      rw [unquoteTail?_doubled_append, hstop]
      rfl

/-- **A text that is no identifier**, by its characters. -/
inductive Misquoted : List Char → Prop
  /-- It does not begin with a quote. -/
  | unopened {cs : List Char} (h : cs.head? ≠ some '"') : Misquoted cs
  /-- No quote after the first one stands alone. -/
  | unclosed {cs : List Char} (h : Paired cs) : Misquoted ('"' :: cs)
  /-- Something follows the first quote that stands alone: the quote is inside and not doubled, or the identifier was
  over before the end. -/
  | broken {cs : List Char} (h : Broken cs) : Misquoted ('"' :: cs)

theorem unquote?_eq_none_iff {s : String} : unquote? s = none ↔ Misquoted s.toList := by
  unfold unquote?
  split
  · next cs hcs =>
    rw [Option.map_eq_none_iff, unquoteTail?_eq_none_iff, hcs]
    constructor
    · rintro (h | h)
      · exact .unclosed h
      · exact .broken h
    · intro h
      cases h with
      | unopened h => exact absurd rfl h
      | unclosed h => exact .inl h
      | broken h => exact .inr h
  · next hopen =>
    refine iff_of_true rfl (.unopened fun h => ?_)
    obtain ⟨cs, hcs⟩ := List.head?_eq_some_iff.mp h
    exact hopen cs hcs

/-! ### What is read -/

theorem unquote?_quote (name : String) : unquote? (quote name) = some name := by
  have hquote : (quote name).toList = '"' :: (doubled name.toList ++ ['"']) := by
    rw [quote, String.toList_ofList, List.cons_append]
  have htail : unquoteTail? (doubled name.toList ++ ['"']) = some name.toList := by
    rw [unquoteTail?_doubled_append, unquoteTail?, Option.map_some, List.append_nil]
  simp only [unquote?, hquote, htail, Option.map_some, String.ofList_toList]

theorem eq_quote_of_unquote? {s name : String} (h : unquote? s = some name) : s = quote name := by
  unfold unquote? at h
  split at h
  · next cs hcs =>
    obtain ⟨inner, hinner, rfl⟩ := Option.map_eq_some_iff.mp h
    rw [eq_doubled_of_unquoteTail? hinner] at hcs
    have hs : s = String.ofList s.toList := String.ofList_toList.symm
    rw [hs, hcs, quote, String.toList_ofList, List.cons_append]
  · cases h

/-- **Reading is exactly the reverse of quoting**: the identifier of a name is what the name is read from. So
different names have different identifiers, every name is read back, and what is refused is misquoted. -/
theorem unquote?_exact : (∀ s name, unquote? s = some name ↔ s = quote name) ∧
    (∀ name name', quote name = quote name' → name = name') ∧
    (∀ name, unquote? (quote name) = some name) ∧ ∀ s, unquote? s = none ↔ Misquoted s.toList := by
  refine ⟨fun s name => ⟨eq_quote_of_unquote?, fun h => h ▸ unquote?_quote name⟩, fun name name' h => ?_,
    unquote?_quote, fun s => unquote?_eq_none_iff⟩
  have hread := unquote?_quote name
  rw [h, unquote?_quote name'] at hread
  exact (Option.some.inj hread).symm

end TableGateway.Sql
