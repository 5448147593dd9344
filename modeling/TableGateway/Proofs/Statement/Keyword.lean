import TableGateway.Proofs.Statement.Scanner

/-! # Keywords

A clause of a statement is found where its keyword stands first. No name can contain a keyword, since a name is
one token; and the other clauses do not contain it because a letter of it is in none of their texts.

* `cut_append`, `cut_of_not_mem` : the tokens are cut where a word stands first, or not at all
* `Without` : a character that is in no text of some lexemes -/

namespace TableGateway

open TableGateway.Sql TableGateway.Sql.Lexeme

variable {α β : Type}

namespace Sql

/-! ### Finding a word -/

/-- The tokens before the first place where a word stands, and those after it. -/
def cut (word : String) : List Token → List Token × List Token
  | [] => ([], [])
  | t :: ts =>
    if chars word <+: t :: ts then ([], (t :: ts).drop (chars word).length)
    else (t :: (cut word ts).1, (cut word ts).2)

section Cut

variable {word : String} {u v : List Char} {c : Char} {xs ys : List Token}

theorem not_prefix_append (hw : word.toList = u ++ c :: v) (hne : xs ≠ []) (hx : .char c ∉ xs)
    (hy : ∀ i < u.length, ys[i]? ≠ some (.char c)) : ¬ chars word <+: xs ++ ys := by
  rintro ⟨rest, hrest⟩
  have hc : (xs ++ ys)[u.length]? = some (.char c) := by
    rw [← hrest, chars, hw]
    simp
  have hpos : 0 < xs.length := List.length_pos_iff.mpr hne
  by_cases hlt : u.length < xs.length
  · rw [List.getElem?_append_left hlt] at hc
    exact hx (List.mem_of_getElem? hc)
  · rw [List.getElem?_append_right (by omega)] at hc
    -- the character would stand in the word itself, before its first place there
    by_cases hu : 0 < u.length
    · exact hy _ (by omega) hc
    · omega

theorem cut_of_not_mem (hw : word.toList = u ++ c :: v) : ∀ {xs : List Token}, .char c ∉ xs →
    cut word xs = (xs, [])
  | [], _ => rfl
  | x :: xs, hx => by
    have hno : ¬ chars word <+: x :: xs ++ [] :=
      not_prefix_append hw (List.cons_ne_nil x xs) hx fun _ _ => by simp
    rw [List.append_nil] at hno
    rw [cut, if_neg hno, cut_of_not_mem hw fun hc => hx (List.mem_cons_of_mem _ hc)]

/-- **The tokens are cut where the word stands first.** -/
theorem cut_append (hw : word.toList = u ++ c :: v) (hu : c ∉ u) (ys : List Token) :
    ∀ {xs : List Token}, .char c ∉ xs → cut word (xs ++ (chars word ++ ys)) = (xs, ys)
  | [], _ => by
    obtain ⟨t, ts, hts⟩ : ∃ t ts, chars word = t :: ts := by
      rw [chars, hw]
      exact List.exists_cons_of_ne_nil (by simp)
    have hprefix : chars word <+: t :: (ts ++ ys) := ⟨ys, by rw [hts]; rfl⟩
    rw [List.nil_append, hts, List.cons_append, cut, if_pos hprefix, hts, ← List.cons_append,
      List.drop_left]
  | x :: xs, hx => by
    have hy : ∀ i < u.length, (chars word ++ ys)[i]? ≠ some (.char c) := by
      intro i hi hc
      rw [chars, hw, List.map_append, List.append_assoc, List.getElem?_append_left (by simpa using hi)]
        at hc
      obtain ⟨d, hd, hdc⟩ := List.mem_map.mp (List.mem_of_getElem? hc)
      cases hdc
      exact hu hd
    have hno := not_prefix_append hw (List.cons_ne_nil x xs) hx hy
    rw [List.cons_append] at hno
    rw [List.cons_append, cut, if_neg hno, cut_append hw hu ys fun hc => hx (List.mem_cons_of_mem _ hc)]

end Cut

/-! ### Characters that do not occur -/

/-- No text of the lexemes has the character in it. -/
def Without (c : Char) : List (Lexeme α) → Prop
  | [] => True
  | .text s :: ls => c ∉ s.toList ∧ Without c ls
  | .name _ :: ls => Without c ls
  | .slot _ :: ls => Without c ls

section Without

variable {c : Char}

theorem not_mem_tokens : ∀ (n : ℕ) {ls : List (Lexeme α)}, Without c ls → .char c ∉ tokens n ls
  | _, [], _ => List.not_mem_nil
  | n, .text s :: ls, ⟨hs, hl⟩ => by
    simpa [tokens, chars] using ⟨hs, not_mem_tokens n hl⟩
  | n, .name s :: ls, hl => by
    have ih : .char c ∉ tokens n ls := not_mem_tokens n hl
    simpa [tokens] using ih
  | n, .slot a :: ls, hl => by
    have ih : .char c ∉ tokens (n + 1) ls := not_mem_tokens (n + 1) hl
    simpa [tokens] using ih

theorem without_append : ∀ {ls ms : List (Lexeme α)}, Without c ls → Without c ms → Without c (ls ++ ms)
  | [], _, _, hm => hm
  | .text _ :: _, _, ⟨hs, hl⟩, hm => ⟨hs, without_append hl hm⟩
  | .name _ :: ls, ms, hl, hm => by
    have ih : Without c (ls ++ ms) := without_append hl hm
    exact ih
  | .slot _ :: ls, ms, hl, hm => by
    have ih : Without c (ls ++ ms) := without_append hl hm
    exact ih

theorem without_separated {separator : String} {item : β → List (Lexeme α)} (hsep : c ∉ separator.toList)
    (hitem : ∀ b, Without c (item b)) : ∀ bs, Without c (separated separator item bs)
  | [] => trivial
  | [b] => hitem b
  | b :: d :: bs => by
    rw [separated_cons_cons]
    exact without_append (hitem b) ⟨hsep, without_separated hsep hitem (d :: bs)⟩

theorem without_clause {keyword separator : String} {item : β → List (Lexeme α)}
    (hk : c ∉ keyword.toList) (hsep : c ∉ separator.toList) (hitem : ∀ b, Without c (item b))
    (bs : List β) : Without c (Outline.clause keyword separator item bs) := by
  cases bs with
  | nil => trivial
  | cons b bs => exact ⟨hk, without_separated hsep hitem (b :: bs)⟩

end Without

end Sql

namespace Outline

/-! ### The keywords that are looked for

`WHERE` is known by its `W` and `VALUES` by its `V`, which the other clauses do not have. -/

section Keywords

variable {c : Char}

theorem without_assignment (hc : c ∉ " = ".toList) (e : String × α) : Without c (assignment e) :=
  ⟨hc, trivial⟩

theorem without_sortKey (hspace : c ∉ " ".toList) (hword : ∀ d, c ∉ (directionWord d).toList)
    (e : String × Direction) : Without c (sortKey e : List (Lexeme α)) := ⟨hspace, hword e.2, trivial⟩

theorem without_set (hc : c = 'V' ∨ c = 'W') (es : List (String × α)) : Without c (setLexemes es) := by
  rcases hc with rfl | rfl <;>
    exact without_clause (by decide) (by decide) (without_assignment (by decide)) es

theorem without_where (es : List (String × α)) : Without 'V' (whereLexemes es) :=
  without_clause (by decide) (by decide) (without_assignment (by decide)) es

theorem without_order (hc : c = 'V' ∨ c = 'W') (o : List (String × Direction)) :
    Without c (orderLexemes o : List (Lexeme α)) := by
  have hword : ∀ d, c ∉ (directionWord d).toList := by
    rcases hc with rfl | rfl <;> rintro (_ | _) <;> decide
  rcases hc with rfl | rfl <;>
    exact without_clause (by decide) (by decide) (without_sortKey (by decide) hword) o

theorem without_page (hc : c = 'V' ∨ c = 'W') (limit offset : Option α) :
    Without c (pageLexemes limit offset) := by
  rcases hc with rfl | rfl <;> rcases limit with _ | _ <;> rcases offset with _ | _ <;>
    simp [pageLexemes, boundLexemes, Without]

theorem without_returning (hc : c = 'V' ∨ c = 'W') (k : String) :
    Without c (returningLexemes k : List (Lexeme α)) := by
  rcases hc with rfl | rfl <;> exact ⟨by decide, trivial⟩

theorem without_columnNames (hc : c ∉ ", ".toList) (es : List (String × α)) :
    Without c (separated ", " columnName es) := by
  have hitem : ∀ e : String × α, Without c (columnName e) := fun _ => trivial
  exact without_separated hc hitem es

theorem without_columnValues (hc : c ∉ ", ".toList) (es : List (String × α)) :
    Without c (separated ", " columnValue es) := by
  have hitem : ∀ e : String × α, Without c (columnValue e) := fun _ => trivial
  exact without_separated hc hitem es

theorem without_values (es : List (String × α)) : Without 'W' (valuesLexemes es) := by
  cases es with
  | nil => exact ⟨by decide, trivial⟩
  | cons e es =>
    have hopen : Without 'W' (.text " (" :: separated ", " columnName (e :: es)) :=
      ⟨by decide, without_columnNames (by decide) _⟩
    have hmiddle : Without 'W' (.text ") VALUES (" :: separated ", " columnValue (e :: es)) :=
      ⟨by decide, without_columnValues (by decide) _⟩
    have hclose : Without 'W' ([.text ")"] : List (Lexeme α)) := ⟨by decide, trivial⟩
    exact without_append (without_append hopen hmiddle) hclose

theorem without_head {s : String} (hs : c ∉ s.toList) (t : String) :
    Without c ([.text s, .name t] : List (Lexeme α)) := ⟨hs, trivial⟩

end Keywords

end Outline

end TableGateway
