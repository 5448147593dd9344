import TableGateway.Proofs.Statement.Outline

/-! # Reading a statement

A scanner that knows nothing of the templates. Outside double quotes it hands on every character, except
that a dollar sign takes all digits after it for the number of a placeholder; between double quotes it reads
a name, in which two quotes stand for one. An identifier directly after an identifier and a digit directly
after a placeholder would be misread, so the lexemes must be `Spaced`: of two neighbours one is a text, and
a text is not empty, has no quote or dollar sign in it and does not begin with a digit.

* `scan_spell` : spaced lexemes are read back one by one, whatever the names are
* `Table.scan_text` : the statement of a call is read back as the lexemes of its outline -/

namespace TableGateway

namespace Sql

open Lexeme

variable {α β : Type}

/-! ### The scanner -/

/-- What is read: a character outside identifiers, a name, a placeholder with its digits, or a name whose
closing quote is missing. -/
inductive Token where
  | char (c : Char)
  | name (s : String)
  | placeholder (digits : String)
  | unclosed (s : String)
  deriving DecidableEq, Repr

/-- Where the scanner is: outside, inside an identifier, after a quote inside an identifier (which ends it,
or is the first of two), or after a dollar sign. -/
inductive Mode where
  | outside
  | inside (read : List Char)
  | quote (read : List Char)
  | dollar (digits : List Char)
  deriving DecidableEq, Repr

namespace Mode

/-- A character outside identifiers. -/
def enter (c : Char) : Mode × List Token :=
  if c = '"' then (inside [], []) else if c = '$' then (dollar [], []) else (outside, [.char c])

/-- One character. -/
def step : Mode → Char → Mode × List Token
  | outside, c => enter c
  | inside read, c => if c = '"' then (quote read, []) else (inside (read ++ [c]), [])
  | quote read, c =>
    if c = '"' then (inside (read ++ ['"']), [])
    else ((enter c).1, .name (String.ofList read) :: (enter c).2)
  | dollar digits, c =>
    if c.isDigit then (dollar (digits ++ [c]), [])
    else ((enter c).1, .placeholder (String.ofList digits) :: (enter c).2)

/-- The end of the text. -/
def finish : Mode → List Token
  | outside => []
  | inside read => [.unclosed (String.ofList read)]
  | quote read => [.name (String.ofList read)]
  | dollar digits => [.placeholder (String.ofList digits)]

/-- The tokens of the characters that are left. -/
def run : Mode → List Char → List Token
  | m, [] => m.finish
  | m, c :: cs => (m.step c).2 ++ run (m.step c).1 cs

end Mode

/-- **The tokens of a text.** -/
def scan (text : String) : List Token := Mode.outside.run text.toList

namespace Mode

theorem enter_of_plain {c : Char} (hq : c ≠ '"') (hd : c ≠ '$') : enter c = (outside, [.char c]) := by
  rw [enter, if_neg hq, if_neg hd]

theorem run_text : ∀ (cs rest : List Char), (∀ c ∈ cs, c ≠ '"' ∧ c ≠ '$') →
    outside.run (cs ++ rest) = cs.map .char ++ outside.run rest
  | [], _, _ => rfl
  | c :: cs, rest, h => by
    obtain ⟨hq, hd⟩ := h c List.mem_cons_self
    have ih := run_text cs rest fun c hc => h c (List.mem_cons_of_mem _ hc)
    rw [List.cons_append, run, step, enter_of_plain hq hd, ih]
    rfl

/-- Inside an identifier the scanner comes to the closing quote of the name, whatever the name is. -/
theorem run_doubled : ∀ (cs read rest : List Char),
    (inside read).run (doubled cs ++ '"' :: rest) = (quote (read ++ cs)).run rest
  | [], read, rest => by simp [doubled, run, step]
  | c :: cs, read, rest => by
    by_cases h : c = '"'
    · have ih := run_doubled cs (read ++ ['"']) rest
      simp only [doubled, if_pos h, List.cons_append, run, step, if_true, List.nil_append, ih]
      simp [h]
    · have ih := run_doubled cs (read ++ [c]) rest
      simp only [doubled, if_neg h, List.cons_append, run, step, List.nil_append, ih]
      simp

theorem run_quote {rest : List Char} (h : ∀ c ∈ rest.head?, c ≠ '"') (read : List Char) :
    (quote read).run rest = .name (String.ofList read) :: outside.run rest := by
  cases rest with
  | nil => rfl
  | cons c cs =>
    have hc : c ≠ '"' := h c rfl
    simp only [run, step, if_neg hc, List.cons_append]

theorem run_digits : ∀ (ds digits rest : List Char), (∀ d ∈ ds, d.isDigit = true) →
    (dollar digits).run (ds ++ rest) = (dollar (digits ++ ds)).run rest
  | [], digits, _, _ => by simp
  | d :: ds, digits, rest, h => by
    have hd := h d List.mem_cons_self
    have ih := run_digits ds (digits ++ [d]) rest fun d hd => h d (List.mem_cons_of_mem _ hd)
    simp only [List.cons_append, run, step, if_pos hd, List.nil_append, ih]
    simp

theorem run_dollar {rest : List Char} (h : ∀ c ∈ rest.head?, c.isDigit = false) (digits : List Char) :
    (dollar digits).run rest = .placeholder (String.ofList digits) :: outside.run rest := by
  cases rest with
  | nil => rfl
  | cons c cs =>
    have hc : c.isDigit = false := h c rfl
    simp [run, step, hc]

end Mode

/-! ### Tokens of lexemes -/

/-- The tokens of a text of a template. -/
def chars (s : String) : List Token := s.toList.map .char

/-- The tokens of the lexemes, their slots numbered from after `n` on. -/
def tokens : ℕ → List (Lexeme α) → List Token
  | _, [] => []
  | n, .text s :: ls => chars s ++ tokens n ls
  | n, .name s :: ls => .name s :: tokens n ls
  | n, .slot _ :: ls => .placeholder (toString (n + 1)) :: tokens (n + 1) ls

theorem tokens_append : ∀ (n : ℕ) (ls ms : List (Lexeme α)),
    tokens n (ls ++ ms) = tokens n ls ++ tokens (n + (slots ls).length) ms
  | _, [], _ => rfl
  | n, .text s :: ls, ms => by simp [tokens, slots, tokens_append n ls ms]
  | n, .name s :: ls, ms => by simp [tokens, slots, tokens_append n ls ms]
  | n, .slot a :: ls, ms => by
    have h : n + ((slots ls).length + 1) = n + 1 + (slots ls).length := by omega
    simp [tokens, slots, tokens_append (n + 1) ls ms, h]

/-- A text of a template that cannot be taken for a part of its neighbours. -/
def Plain (s : String) : Prop :=
  s.toList ≠ [] ∧ (∀ c ∈ s.toList, c ≠ '"' ∧ c ≠ '$') ∧ ∀ c ∈ s.toList.head?, c.isDigit = false

-- the characters of the text are gone through, not all characters that there are
instance (s : String) : Decidable (Plain s) :=
  decidable_of_iff (s.toList ≠ [] ∧ s.toList.all (fun c => c ≠ '"' ∧ c ≠ '$') = true ∧
    s.toList.head?.all (fun c => !c.isDigit) = true) <| by
      unfold Plain
      refine and_congr Iff.rfl (and_congr ?_ ?_)
      · simp only [List.all_eq_true, decide_eq_true_eq]
      · cases s.toList.head? <;> simp

/-- The lexemes are none, or begin with a text. -/
def BeginsWithText : List (Lexeme α) → Prop
  | [] => True
  | .text _ :: _ => True
  | _ => False

/-- **Lexemes that can be told apart**: texts are plain, and no two others stand side by side. -/
def Spaced : List (Lexeme α) → Prop
  | [] => True
  | .text s :: ls => Plain s ∧ Spaced ls
  | .name _ :: ls => BeginsWithText ls ∧ Spaced ls
  | .slot _ :: ls => BeginsWithText ls ∧ Spaced ls

theorem head_spell {n : ℕ} {ls : List (Lexeme α)} (hb : BeginsWithText ls) (hs : Spaced ls) :
    ∀ c ∈ (spell n ls).head?, c ≠ '"' ∧ c.isDigit = false := by
  rcases ls with _ | ⟨s | s | a, ls⟩
  · simp [spell]
  · obtain ⟨⟨hne, hq, hd⟩, -⟩ := hs
    obtain ⟨c, cs, hcs⟩ := List.exists_cons_of_ne_nil hne
    rw [hcs] at hq hd
    intro c' hc'
    simp only [spell, hcs, List.cons_append, List.head?_cons, Option.mem_some_iff] at hc'
    subst hc'
    exact ⟨(hq c List.mem_cons_self).1, hd c rfl⟩
  · exact hb.elim
  · exact hb.elim

theorem isDigit_of_mem_toString {n : ℕ} {c : Char} (h : c ∈ (toString n).toList) : c.isDigit = true := by
  rw [Nat.toString_eq_repr, Nat.toList_repr] at h
  exact Nat.isDigit_of_mem_toDigits (by omega) (by omega) h

/-- **Spaced lexemes are read back one by one.** -/
theorem scan_spell : ∀ (n : ℕ) (ls : List (Lexeme α)), Spaced ls →
    Mode.outside.run (spell n ls) = tokens n ls
  | _, [], _ => rfl
  | n, .text s :: ls, ⟨⟨_, hq, _⟩, hs⟩ => by
    rw [spell, Mode.run_text _ _ hq, scan_spell n ls hs]
    rfl
  | n, .name s :: ls, ⟨hb, hs⟩ => by
    have hrest : ∀ c ∈ (spell n ls).head?, c ≠ '"' := fun c hc => (head_spell hb hs c hc).1
    have hq : (quote s).toList ++ spell n ls = '"' :: (doubled s.toList ++ '"' :: spell n ls) := by
      simp [quote]
    have hstep : Mode.outside.step '"' = (.inside [], []) := rfl
    rw [spell, hq, Mode.run, hstep, Mode.run_doubled, Mode.run_quote hrest, scan_spell n ls hs]
    simp [tokens]
  | n, .slot a :: ls, ⟨hb, hs⟩ => by
    have hrest : ∀ c ∈ (spell (n + 1) ls).head?, c.isDigit = false :=
      fun c hc => (head_spell hb hs c hc).2
    have hstep : Mode.outside.step '$' = (.dollar [], []) := rfl
    rw [spell, List.cons_append, Mode.run, hstep,
      Mode.run_digits _ _ _ fun d hd => isDigit_of_mem_toString hd, Mode.run_dollar hrest,
      scan_spell (n + 1) ls hs]
    simp only [List.nil_append, String.ofList_toList, tokens]

/-- A name that is written like the end of a condition is a name. -/
example : scan "\"a\"\" = $1\" = $12" =
    [.name "a\" = $1", .char ' ', .char '=', .char ' ', .placeholder "12"] := by decide

/-! ### Outlines are spaced -/

theorem beginsWithText_append {ls ms : List (Lexeme α)} (hl : BeginsWithText ls)
    (hm : BeginsWithText ms) : BeginsWithText (ls ++ ms) := by
  rcases ls with _ | ⟨s | s | a, ls⟩
  · exact hm
  · trivial
  · exact hl.elim
  · exact hl.elim

theorem spaced_append : ∀ {ls ms : List (Lexeme α)}, Spaced ls → Spaced ms → BeginsWithText ms →
    Spaced (ls ++ ms)
  | [], _, _, hm, _ => hm
  | .text _ :: _, _, ⟨hp, hl⟩, hm, hb => ⟨hp, spaced_append hl hm hb⟩
  | .name _ :: _, _, ⟨ht, hl⟩, hm, hb => ⟨beginsWithText_append ht hb, spaced_append hl hm hb⟩
  | .slot _ :: _, _, ⟨ht, hl⟩, hm, hb => ⟨beginsWithText_append ht hb, spaced_append hl hm hb⟩

theorem spaced_separated {separator : String} {item : β → List (Lexeme α)} (hsep : Plain separator)
    (hitem : ∀ b, Spaced (item b)) : ∀ bs, Spaced (separated separator item bs)
  | [] => trivial
  | [b] => hitem b
  | b :: c :: bs => by
    rw [separated_cons_cons]
    exact spaced_append (hitem b) ⟨hsep, spaced_separated hsep hitem (c :: bs)⟩ trivial

/-- A list of lexemes that can be put after anything. -/
structure Follows (ls : List (Lexeme α)) : Prop where
  spaced : Spaced ls
  begins : BeginsWithText ls

namespace Follows

variable {ls ms : List (Lexeme α)}

theorem append (hl : Follows ls) (hm : Follows ms) : Follows (ls ++ ms) :=
  ⟨spaced_append hl.spaced hm.spaced hm.begins, beginsWithText_append hl.begins hm.begins⟩

theorem clause {keyword separator : String} {item : β → List (Lexeme α)} (hk : Plain keyword)
    (hsep : Plain separator) (hitem : ∀ b, Spaced (item b)) (bs : List β) :
    Follows (Outline.clause keyword separator item bs) := by
  cases bs with
  | nil => exact ⟨trivial, trivial⟩
  | cons b bs => exact ⟨⟨hk, spaced_separated hsep hitem (b :: bs)⟩, trivial⟩

end Follows

end Sql

open Sql Sql.Lexeme

namespace Outline

variable {α : Type}

theorem spaced_assignment (e : String × α) : Spaced (assignment e) :=
  ⟨trivial, by decide, trivial, trivial⟩

theorem spaced_sortKey (e : String × Direction) : Spaced (sortKey e : List (Lexeme α)) := by
  have hword : ∀ d : Direction, Plain (directionWord d) := by
    rintro (_ | _) <;> decide
  exact ⟨trivial, by decide, hword e.2, trivial⟩

theorem spaced_columnName (e : String × α) : Spaced (columnName e) := ⟨trivial, trivial⟩

theorem spaced_columnValue (e : String × α) : Spaced (columnValue e) := ⟨trivial, trivial⟩

theorem follows_whereLexemes (es : List (String × α)) : Follows (whereLexemes es) :=
  Follows.clause (by decide) (by decide) spaced_assignment es

theorem follows_setLexemes (es : List (String × α)) : Follows (setLexemes es) :=
  Follows.clause (by decide) (by decide) spaced_assignment es

theorem follows_orderLexemes (o : List (String × Direction)) :
    Follows (orderLexemes o : List (Lexeme α)) :=
  Follows.clause (by decide) (by decide) spaced_sortKey o

theorem follows_boundLexemes {keyword : String} (hk : Plain keyword) (a : Option α) :
    Follows (boundLexemes keyword a) := by
  cases a with
  | none => exact ⟨trivial, trivial⟩
  | some a => exact ⟨⟨hk, trivial, trivial⟩, trivial⟩

theorem follows_pageLexemes (limit offset : Option α) : Follows (pageLexemes limit offset) :=
  (follows_boundLexemes (by decide) limit).append (follows_boundLexemes (by decide) offset)

theorem follows_valuesLexemes (es : List (String × α)) : Follows (valuesLexemes es) := by
  cases es with
  | nil => exact ⟨⟨by decide, trivial⟩, trivial⟩
  | cons e es =>
    have hopen : Follows (.text " (" :: separated ", " columnName (e :: es)) :=
      ⟨⟨by decide, spaced_separated (by decide) spaced_columnName (e :: es)⟩, trivial⟩
    have hmiddle : Follows (.text ") VALUES (" :: separated ", " columnValue (e :: es)) :=
      ⟨⟨by decide, spaced_separated (by decide) spaced_columnValue (e :: es)⟩, trivial⟩
    have hclose : Follows ([.text ")"] : List (Lexeme α)) := ⟨⟨by decide, trivial⟩, trivial⟩
    exact (hopen.append hmiddle).append hclose

theorem follows_returningLexemes (k : String) : Follows (returningLexemes k : List (Lexeme α)) :=
  ⟨⟨by decide, trivial, trivial⟩, trivial⟩

theorem follows_head {s : String} (hs : Plain s) (t : String) :
    Follows ([.text s, .name t] : List (Lexeme α)) :=
  ⟨⟨hs, trivial, trivial⟩, trivial⟩

/-- **The lexemes of an outline can be told apart.** -/
theorem spaced_lexemes (o : Outline α) : Spaced o.lexemes := by
  cases o with
  | getById t k a =>
    have hlast : Follows ([.text " LIMIT 1"] : List (Lexeme α)) := ⟨⟨by decide, trivial⟩, trivial⟩
    exact (((follows_head (by decide) t).append (follows_whereLexemes _)).append hlast).spaced
  | list t es o l m =>
    exact ((((follows_head (by decide) t).append (follows_whereLexemes es)).append
      (follows_orderLexemes o)).append (follows_pageLexemes l m)).spaced
  | count t es =>
    have hhead : Follows ([.text "SELECT COUNT(*) AS ", .name "count", .text " FROM ", .name t] :
        List (Lexeme α)) := ⟨⟨by decide, trivial, by decide, trivial, trivial⟩, trivial⟩
    exact (hhead.append (follows_whereLexemes es)).spaced
  | create t es k =>
    exact (((follows_head (by decide) t).append (follows_valuesLexemes es)).append
      (follows_returningLexemes k)).spaced
  | update t es fs k =>
    exact ((((follows_head (by decide) t).append (follows_setLexemes es)).append
      (follows_whereLexemes fs)).append (follows_returningLexemes k)).spaced
  | remove t es k =>
    exact (((follows_head (by decide) t).append (follows_whereLexemes es)).append
      (follows_returningLexemes k)).spaced

end Outline

/-- **The statement of a call is read back as the outline of the call**, whatever the names are. -/
theorem Table.scan_text {t : Table} {call : Call} {s : Statement}
    (h : t.statement call = .ok (some s)) : scan s.text = tokens 0 (t.outline call).lexemes := by
  rw [scan, toList_text_of_statement h, scan_spell 0 _ (Outline.spaced_lexemes _)]

end TableGateway
