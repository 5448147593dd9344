import Mathlib.Data.List.Basic
import TableGateway.Proofs.Fragment.Program

/-! # Blank fragments

A fragment is told to be blank from its parts and its parameters, and not from its text. Of fragments that programs
build the two say the same, as every parameter has a slot and a slot is written with a `$`. So a fragment made of two
is blank just if both are, and a clause is blank just if its input says nothing: a keyword is not blank, and neither
is the identifier of any name, because of its quotes.

* `Text.WhiteSpace` : the characters that are blank
* `Fragment.isBlank_iff` : when a fragment is blank, symbol by symbol
* `Fragment.Tidy.isBlank_iff_text` : when its text is
* `isBlank_pushSeparated` : a loop over items that are not blank
* `Program.blankness_matches_text` : blank fragments and blank clauses -/

namespace TableGateway

/-! ### White space -/

/-- **The characters with the Unicode property White_Space.** -/
def Text.WhiteSpace (c : Char) : Prop :=
  c.toNat ∈ [0x09, 0x0A, 0x0B, 0x0C, 0x0D, 0x20, 0x85, 0xA0, 0x1680, 0x2000, 0x2001, 0x2002, 0x2003, 0x2004, 0x2005,
    0x2006, 0x2007, 0x2008, 0x2009, 0x200A, 0x2028, 0x2029, 0x202F, 0x205F, 0x3000]

theorem Text.isBlank_iff {c : Char} : isBlank c = true ↔ WhiteSpace c := by
  unfold isBlank blankRanges WhiteSpace
  simp only [List.any_cons, List.any_nil, Bool.or_eq_true, Bool.and_eq_true, decide_eq_true_eq, Bool.or_false,
    List.mem_cons, List.not_mem_nil, or_false]
  omega

namespace Sql

open Text

/-! ### Symbols -/

/-- A symbol that is a blank character. -/
def Symbol.Blank : Symbol → Prop
  | char c => WhiteSpace c
  | slot => False

variable {f g : Fragment}

theorem allBlank_iff_letters {s : String} : allBlank s = true ↔ ∀ x ∈ letters s, x.Blank := by
  rw [allBlank_iff, letters, List.forall_mem_map]
  exact forall₂_congr fun c _ => isBlank_iff

/-- A part that is blank. -/
def Part.Blank : Part → Prop
  | raw s => allBlank s = true
  | slot => False

theorem forall_blank_iff : ∀ ps : List Part, (∀ p ∈ ps, p.Blank) ↔ ∀ x ∈ symbols ps, x.Blank
  | [] => by simp [symbols]
  | .raw s :: ps => by
    rw [List.forall_mem_cons, forall_blank_iff ps, symbols, List.forall_mem_append, ← allBlank_iff_letters]
    rfl
  | .slot :: ps => by simp [symbols, Part.Blank, Symbol.Blank]

namespace Fragment

/-- **A fragment is blank** if it has no parameters and its symbols are blank. -/
theorem isBlank_iff : f.isBlank = true ↔ f.params = [] ∧ ∀ x ∈ f.content.symbols, x.Blank := by
  have hpart : ∀ p : Part, (match p with
      | .raw s => allBlank s
      | .slot => false) = true ↔ p.Blank := by
    rintro (s | _) <;> simp [Part.Blank]
  unfold isBlank content
  rw [Bool.and_eq_true, List.isEmpty_iff, List.all_eq_true, ← forall_blank_iff]
  exact and_congr_right fun _ => forall₂_congr fun p _ => hpart p

theorem isBlank_append_iff : (f ++ g).isBlank = true ↔ f.isBlank = true ∧ g.isBlank = true := by
  have hparams : (f ++ g).params = f.params ++ g.params := rfl
  rw [isBlank_iff, isBlank_iff, isBlank_iff, content_append, Content.symbols_append, List.forall_mem_append, hparams,
    List.append_eq_nil_iff]
  exact and_and_and_comm

theorem isBlank_push_iff {s : String} : (f.push s).isBlank = true ↔ f.isBlank = true ∧ allBlank s = true := by
  have hparams : (f.push s).params = f.params := rfl
  rw [isBlank_iff, isBlank_iff, content_push, Content.symbols_append, Content.symbols_ofText, List.forall_mem_append,
    hparams, allBlank_iff_letters, and_assoc]

theorem isBlank_push (h : f.isBlank = false) (s : String) : (f.push s).isBlank = false := by
  rw [← Bool.not_eq_true] at h ⊢
  exact fun hpush => h (isBlank_push_iff.mp hpush).1

/-- The quotes of an identifier are not blank, whatever is between them. -/
theorem isBlank_pushIdent (f : Fragment) (name : String) : (f.pushIdent name).isBlank = false := by
  rw [← Bool.not_eq_true, pushIdent, isBlank_push_iff, allBlank_iff]
  rintro ⟨-, hquote⟩
  have hmem : '"' ∈ (quote name).toList := by simp [quote]
  exact absurd (hquote '"' hmem) (by decide)

theorem isBlank_pushValue (f : Fragment) (v : Value) : (f.pushValue v).isBlank = false := by
  rw [← Bool.not_eq_true, isBlank_iff]
  rintro ⟨hparams, -⟩
  exact List.append_ne_nil_of_right_ne_nil f.params (List.cons_ne_nil v []) hparams

end Fragment

/-- **The characters that symbols are written with** are blank just if the symbols are. -/
theorem forall_write_iff : ∀ (n : ℕ) (xs : List Symbol), (∀ c ∈ write n xs, WhiteSpace c) ↔ ∀ x ∈ xs, x.Blank
  | _, [] => by simp [write]
  | n, .char c :: xs => by
    rw [write, List.forall_mem_cons, List.forall_mem_cons, forall_write_iff n xs]
    rfl
  | n, .slot :: xs => by
    refine iff_of_false (fun h => ?_) fun h => h .slot List.mem_cons_self
    have hdollar : WhiteSpace '$' := h '$' List.mem_cons_self
    revert hdollar
    unfold WhiteSpace
    decide

/-- **A fragment in normal form is blank just if its text is.** -/
theorem Fragment.Tidy.isBlank_iff_text (h : f.Tidy) : f.isBlank = true ↔ ∀ c ∈ f.text.toList, WhiteSpace c := by
  have htext : f.text.toList = write 0 f.content.symbols := toList_render 0 f.parts
  rw [Fragment.isBlank_iff, htext, forall_write_iff]
  refine and_iff_right_of_imp fun hblank => ?_
  -- a parameter has a slot, and a slot is no blank symbol
  have hcount : (symbols f.parts).count .slot = 0 := List.count_eq_zero.mpr fun hslot => hblank .slot hslot
  rw [count_symbols, h.count] at hcount
  exact List.length_eq_zero_iff.mp hcount

/-! ### Clauses -/

/-- **A loop over items** whose pushing leaves something that is not blank. -/
theorem isBlank_pushSeparated {α : Type} (separator : String) {push : Fragment → α → Fragment}
    (hpush : ∀ f a, (push f a).isBlank = false) :
    ∀ {as : List α} (f : Fragment), as ≠ [] → (pushSeparated separator push f as).isBlank = false
  | [a], f, _ => hpush f a
  | a :: b :: bs, f, _ => by
    have hrest := isBlank_pushSeparated separator hpush ((push f a).push separator) (List.cons_ne_nil b bs)
    exact hrest

theorem isBlank_pushAssignment (f : Fragment) (e : String × Value) : (pushAssignment f e).isBlank = false :=
  Fragment.isBlank_pushValue _ e.2

theorem isBlank_pushSortKey (f : Fragment) (e : String × Direction) : (pushSortKey f e).isBlank = false :=
  Fragment.isBlank_push (Fragment.isBlank_push (Fragment.isBlank_pushIdent f e.1) " ") _

/-- A clause that is nothing for an input without entries, and else a loop over them. -/
theorem isBlank_ite_iff {α : Type} {es : Entries α} {clause : Fragment}
    (h : es.toList ≠ [] → clause.isBlank = false) :
    (if es.isEmpty then Fragment.empty else clause).isBlank = true ↔ es.toList = [] := by
  unfold Entries.isEmpty
  split
  · next hempty => exact iff_of_true rfl (List.isEmpty_iff.mp hempty)
  · next hentries =>
    have hne : es.toList ≠ [] := fun hnil => hentries (List.isEmpty_iff.mpr hnil)
    rw [h hne]
    exact iff_of_false Bool.false_ne_true hne

theorem isBlank_whereClause_iff (filter : Predicate) :
    (whereClause filter).isBlank = true ↔ filter.toList = [] :=
  isBlank_ite_iff (isBlank_pushSeparated " AND " isBlank_pushAssignment _)

theorem isBlank_setClause_iff (changes : Update) : (setClause changes).isBlank = true ↔ changes.toList = [] :=
  isBlank_ite_iff (isBlank_pushSeparated ", " isBlank_pushAssignment _)

theorem isBlank_orderClause_iff (order : Option OrderBy) :
    (orderClause order).isBlank = true ↔ ∀ keys, order = some keys → keys.toList = [] := by
  cases order with
  | none => exact iff_of_true rfl nofun
  | some keys =>
    have hkeys : (orderClause (some keys)).isBlank = true ↔ keys.toList = [] :=
      isBlank_ite_iff (isBlank_pushSeparated ", " isBlank_pushSortKey _)
    simpa using hkeys

theorem isBlank_pageClause_iff (page : Option Page) : (pageClause page).isBlank = true ↔
    ∀ part, page = some part → part.limit = none ∧ part.offset = none := by
  rcases page with _ | ⟨limit, _ | offset⟩
  · exact iff_of_true rfl nofun
  · cases limit with
    | none => exact iff_of_true rfl (by rintro _ ⟨⟩; exact ⟨rfl, rfl⟩)
    | some n =>
      have hlimit : (pageClause (some ⟨some n, none⟩)).isBlank = false := Fragment.isBlank_pushValue _ _
      rw [hlimit]
      exact iff_of_false Bool.false_ne_true fun h => nomatch (h _ rfl).1
  · have hoffset : (pageClause (some ⟨limit, some offset⟩)).isBlank = false := Fragment.isBlank_pushValue _ _
    rw [hoffset]
    exact iff_of_false Bool.false_ne_true fun h => nomatch (h _ rfl).2

/-- A new record says something even without values. -/
theorem isBlank_valuesClause (values : Create) : (valuesClause values).isBlank = false := by
  rw [← Bool.not_eq_true]
  unfold valuesClause
  split
  · decide
  · intro hblank
    have hclosing : allBlank ")" = true := (Fragment.isBlank_push_iff.mp hblank).2
    exact absurd hclosing (by decide)

/-! ### What programs build -/

/-- **Blankness of fragments** in registers `r` and `s` of two programs. -/
structure Program.Blankness (p q : Program) (r s : ℕ) : Prop where
  /-- A fragment is blank just if its text is. -/
  text_iff : (p.fragment r).isBlank = true ↔ ∀ c ∈ (p.fragment r).text.toList, WhiteSpace c
  /-- A fragment with a parameter is not blank. -/
  bound : (p.fragment r).params ≠ [] → (p.fragment r).isBlank = false
  /-- One fragment after another is blank just if both are. -/
  append_iff : (p.fragment r ++ q.fragment s).isBlank = true ↔
    (p.fragment r).isBlank = true ∧ (q.fragment s).isBlank = true

/-- **Blankness of clauses**, of whatever names their inputs have. -/
structure ClauseBlankness (filter : Predicate) (changes : Update) (values : Create) (order : Option OrderBy)
    (page : Option Page) : Prop where
  filter_iff : (whereClause filter).isBlank = true ↔ filter.toList = []
  changes_iff : (setClause changes).isBlank = true ↔ changes.toList = []
  order_iff : (orderClause order).isBlank = true ↔ ∀ keys, order = some keys → keys.toList = []
  page_iff : (pageClause page).isBlank = true ↔ ∀ part, page = some part → part.limit = none ∧ part.offset = none
  values : (valuesClause values).isBlank = false

/-- **A fragment is blank just if it is written with blanks, and a clause just if its input says nothing.** -/
theorem Program.blankness_matches_text (p q : Program) (r s : ℕ) (filter : Predicate) (changes : Update)
    (values : Create) (order : Option OrderBy) (page : Option Page) :
    Blankness p q r s ∧ ClauseBlankness filter changes values order page := by
  refine ⟨⟨(p.fragment_tidy r).isBlank_iff_text, fun hbound => ?_, Fragment.isBlank_append_iff⟩, ?_⟩
  · rw [← Bool.not_eq_true, Fragment.isBlank_iff]
    exact fun hblank => hbound hblank.1
  · exact ⟨isBlank_whereClause_iff filter, isBlank_setClause_iff changes, isBlank_orderClause_iff order,
      isBlank_pageClause_iff page, isBlank_valuesClause values⟩

end Sql

end TableGateway
