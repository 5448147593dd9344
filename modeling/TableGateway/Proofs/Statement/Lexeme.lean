import Mathlib.Data.List.Basic
import TableGateway.Sql.Clause

/-! # Lexemes

A statement as a list of texts of its template, names and slots. The text of a fragment runs such a list
together: the quoted names stand inside the raw text, and only the slots are still apart. `Spelled f ls`
says that the fragment `f` is the list `ls` run together, from whatever number its slots are counted.

* `Spelled.push`, `Spelled.pushIdent`, `Spelled.pushValue`, `Spelled.append` : each operation on fragments
  puts lexemes at the end of the list
* `Spelled.pushSeparated` : so does each loop of a clause, with a separator between its items -/

namespace TableGateway.Sql

/-- A text of the template, a name, or a slot with what is bound to it. -/
inductive Lexeme (α : Type) where
  | text (s : String)
  | name (s : String)
  | slot (a : α)
  deriving DecidableEq, Repr

variable {α β : Type}

namespace Lexeme

/-- The same lexeme with something else in its slot. -/
def map (f : α → β) : Lexeme α → Lexeme β
  | text s => text s
  | name s => name s
  | slot a => slot (f a)

/-- What is bound to the slots, in order. -/
def slots : List (Lexeme α) → List α
  | [] => []
  | text _ :: ls => slots ls
  | name _ :: ls => slots ls
  | slot a :: ls => a :: slots ls

/-- The characters of the lexemes, their slots numbered from after `n` on. -/
def spell : ℕ → List (Lexeme α) → List Char
  | _, [] => []
  | n, text s :: ls => s.toList ++ spell n ls
  | n, name s :: ls => (quote s).toList ++ spell n ls
  | n, slot _ :: ls => '$' :: (toString (n + 1)).toList ++ spell (n + 1) ls

@[simp] theorem slots_append : ∀ ls ms : List (Lexeme α), slots (ls ++ ms) = slots ls ++ slots ms
  | [], _ => rfl
  | text _ :: ls, ms => slots_append ls ms
  | name _ :: ls, ms => slots_append ls ms
  | slot a :: ls, ms => congrArg (a :: ·) (slots_append ls ms)

theorem slots_map (f : α → β) : ∀ ls : List (Lexeme α), slots (ls.map (map f)) = (slots ls).map f
  | [] => rfl
  | text _ :: ls => slots_map f ls
  | name _ :: ls => slots_map f ls
  | slot a :: ls => congrArg (f a :: ·) (slots_map f ls)

theorem spell_append : ∀ (n : ℕ) (ls ms : List (Lexeme α)),
    spell n (ls ++ ms) = spell n ls ++ spell (n + (slots ls).length) ms
  | _, [], _ => rfl
  | n, text s :: ls, ms => by simp [spell, slots, spell_append n ls ms]
  | n, name s :: ls, ms => by simp [spell, slots, spell_append n ls ms]
  | n, slot a :: ls, ms => by
    have h : n + ((slots ls).length + 1) = n + 1 + (slots ls).length := by omega
    simp [spell, slots, spell_append (n + 1) ls ms, h]

theorem spell_map (f : α → β) : ∀ (n : ℕ) (ls : List (Lexeme α)), spell n (ls.map (map f)) = spell n ls
  | _, [] => rfl
  | n, text s :: ls => by simp [spell, map, spell_map f n ls]
  | n, name s :: ls => by simp [spell, map, spell_map f n ls]
  | n, slot a :: ls => by simp [spell, map, spell_map f (n + 1) ls]

end Lexeme

open Lexeme

/-! ### Parts -/

theorem render_append : ∀ (n : ℕ) (ps qs : List Part),
    render n (ps ++ qs) = render n ps ++ render (n + ps.count .slot) qs
  | _, [], _ => by rw [render, String.empty_append]; rfl
  | n, .raw s :: ps, qs => by simp [render, render_append n ps qs, String.append_assoc]
  | n, .slot :: ps, qs => by
    have h : n + (ps.count .slot + 1) = n + 1 + ps.count .slot := by omega
    simp [render, render_append (n + 1) ps qs, h, String.append_assoc]

/-- Pushed text comes after the text of the parts, whether or not it becomes a part of its own. -/
theorem render_pushText (n : ℕ) (ps : List Part) (s : String) :
    render n (pushText ps s) = render n ps ++ s := by
  fun_induction pushText ps s generalizing n with
  | case1 ps h => rw [h, String.append_empty]
  | case2 h => simp [render]
  | case3 s' h => simp [render]
  | case4 h p ps hp ih =>
    cases p with
    | raw t => simp [render, ih, String.append_assoc]
    | slot => simp [render, ih, String.append_assoc]

theorem count_pushText (ps : List Part) (s : String) :
    (pushText ps s).count .slot = ps.count .slot := by
  fun_induction pushText ps s with
  | case1 ps h => rfl
  | case2 h => rfl
  | case3 s' h => rfl
  | case4 h p ps hp ih => simp [List.count_cons, ih]

theorem count_pushParts : ∀ ps qs : List Part,
    (pushParts ps qs).count .slot = ps.count .slot + qs.count .slot
  | ps, [] => rfl
  | ps, .raw s :: qs => by
    have h := count_pushParts (pushText ps s) qs
    simpa [pushParts, count_pushText] using h
  | ps, .slot :: qs => by
    have h := count_pushParts (ps ++ [.slot]) qs
    simp only [pushParts, List.foldl_cons, List.count_append] at h ⊢
    simp only [h, List.count_cons, List.count_nil, beq_self_eq_true, if_true]
    omega

theorem render_pushParts : ∀ (n : ℕ) (ps qs : List Part),
    render n (pushParts ps qs) = render n ps ++ render (n + ps.count .slot) qs
  | n, ps, [] => by simp [pushParts, render]
  | n, ps, .raw s :: qs => by
    have h := render_pushParts n (pushText ps s) qs
    simp only [pushParts, List.foldl_cons] at h ⊢
    rw [h, render_pushText, count_pushText, render, String.append_assoc]
  | n, ps, .slot :: qs => by
    have h := render_pushParts n (ps ++ [.slot]) qs
    simp only [pushParts, List.foldl_cons] at h ⊢
    rw [h, render_append]
    simp [render, String.append_assoc, Nat.add_assoc]

/-! ### Fragments -/

/-- **A fragment that is a list of lexemes run together.** The number from which the slots are counted is
free, since a fragment does not know what it will be put after. -/
structure Spelled (f : Fragment) (ls : List (Lexeme Value)) : Prop where
  text : ∀ n, (render n f.parts).toList = spell n ls
  params : f.params = slots ls
  count : f.parts.count .slot = (slots ls).length

namespace Spelled

variable {f g : Fragment} {ls ms : List (Lexeme Value)}

theorem empty : Spelled .empty [] := ⟨fun _ => rfl, rfl, rfl⟩

theorem push (h : Spelled f ls) (s : String) : Spelled (f.push s) (ls ++ [.text s]) where
  text n := by
    rw [Fragment.push, render_pushText, String.toList_append, h.text, spell_append]
    simp [spell]
  params := by simp [Fragment.push, h.params, slots]
  count := by simp [Fragment.push, count_pushText, h.count, slots]

theorem pushIdent (h : Spelled f ls) (k : String) : Spelled (f.pushIdent k) (ls ++ [.name k]) where
  text n := by
    rw [Fragment.pushIdent, Fragment.push, render_pushText, String.toList_append, h.text, spell_append]
    simp [spell]
  params := by simp [Fragment.pushIdent, Fragment.push, h.params, slots]
  count := by simp [Fragment.pushIdent, Fragment.push, count_pushText, h.count, slots]

theorem pushValue (h : Spelled f ls) (v : Value) : Spelled (f.pushValue v) (ls ++ [.slot v]) where
  text n := by
    rw [Fragment.pushValue, render_append, String.toList_append, h.text, spell_append, h.count]
    simp [render, spell]
  params := by simp [Fragment.pushValue, h.params, slots]
  count := by simp [Fragment.pushValue, h.count, slots]

theorem append (hf : Spelled f ls) (hg : Spelled g ms) : Spelled (f ++ g) (ls ++ ms) where
  text n := by
    change (render n (pushParts f.parts g.parts)).toList = _
    rw [render_pushParts, String.toList_append, hf.text, hg.text, spell_append, hf.count]
  params := by
    change f.params ++ g.params = _
    rw [hf.params, hg.params, slots_append]
  count := by
    change (pushParts f.parts g.parts).count .slot = _
    rw [count_pushParts, hf.count, hg.count, slots_append, List.length_append]

theorem ofText (s : String) : Spelled (.ofText s) [.text s] := empty.push s

theorem ofIdent (k : String) : Spelled (.ofIdent k) [.name k] := empty.pushIdent k

theorem toList_text (h : Spelled f ls) : f.statement.text.toList = spell 0 ls := h.text 0

end Spelled

/-! ### Loops -/

/-- The lexemes of items with a separator between them. -/
def separated (separator : String) (item : β → List (Lexeme α)) : List β → List (Lexeme α)
  | [] => []
  | [b] => item b
  | b :: bs => item b ++ .text separator :: separated separator item bs

theorem separated_cons_cons (separator : String) (item : β → List (Lexeme α)) (b c : β) (bs : List β) :
    separated separator item (b :: c :: bs) =
      item b ++ .text separator :: separated separator item (c :: bs) := rfl

theorem separated_map {γ : Type} (separator : String) (item : β → List (Lexeme α)) (g : γ → β) :
    ∀ cs : List γ, separated separator item (cs.map g) = separated separator (fun c => item (g c)) cs
  | [] => rfl
  | [c] => rfl
  | c :: d :: cs => by
    have ih := separated_map separator item g (d :: cs)
    rw [List.map_cons] at ih
    rw [List.map_cons, List.map_cons, separated_cons_cons, separated_cons_cons, ih]

/-- **A loop of a clause** puts its items at the end, as soon as its body puts each item there. -/
theorem Spelled.pushSeparated (separator : String) {push : Fragment → β → Fragment}
    {item : β → List (Lexeme Value)}
    (hpush : ∀ f ls b, Spelled f ls → Spelled (push f b) (ls ++ item b)) :
    ∀ (bs : List β) {f : Fragment} {ls : List (Lexeme Value)}, Spelled f ls →
      Spelled (pushSeparated separator push f bs) (ls ++ separated separator item bs)
  | [], f, ls, h => by rw [separated, List.append_nil]; exact h
  | [b], f, ls, h => hpush f ls b h
  | b :: c :: bs, f, ls, h => by
    have hb := (hpush f ls b h).push separator
    have hbs : Spelled (Sql.pushSeparated separator push f (b :: c :: bs)) _ :=
      Spelled.pushSeparated separator hpush (c :: bs) hb
    rw [separated_cons_cons]
    simpa using hbs

theorem map_separated {γ : Type} (f : α → γ) (g : β → List (Lexeme γ)) (separator : String)
    (item : β → List (Lexeme α)) (hg : ∀ b, (item b).map (Lexeme.map f) = g b) :
    ∀ bs, (separated separator item bs).map (Lexeme.map f) = separated separator g bs
  | [] => rfl
  | [b] => hg b
  | b :: c :: bs => by
    rw [separated_cons_cons, separated_cons_cons, List.map_append, hg, List.map_cons,
      map_separated f g separator item hg (c :: bs)]
    rfl

end TableGateway.Sql
