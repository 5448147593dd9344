import Mathlib.Data.List.Basic
import Mathlib.Data.List.Chain
import TableGateway.Proofs.Statement.Lexeme

/-! # Symbols of a fragment

What a fragment says, symbol by symbol: the characters of its text and the slots of its parameters, without
how the text was cut into pieces. The pieces of a fragment are in normal form (`Merged`), so the symbols
determine them.

* `symbols_pushText`, `symbols_pushParts` : operations on parts put symbols at the end
* `toList_render` : the text of some parts is that of their symbols
* `Merged.pushText`, `Merged.pushParts` : they keep the normal form
* `Merged.eq_of_symbols_eq` : parts in normal form with the same symbols are the same -/

namespace TableGateway.Sql

/-- A character of the text, or the slot of a parameter. -/
inductive Symbol where
  | char (c : Char)
  | slot
  deriving DecidableEq, Repr

/-- The symbols of a text. -/
def letters (s : String) : List Symbol := s.toList.map .char

/-- **The symbols of some parts**, in order. -/
def symbols : List Part → List Symbol
  | [] => []
  | .raw s :: ps => letters s ++ symbols ps
  | .slot :: ps => .slot :: symbols ps

@[simp] theorem letters_empty : letters "" = [] := rfl

@[simp] theorem letters_append (s t : String) : letters (s ++ t) = letters s ++ letters t := by
  simp [letters]

@[simp] theorem count_letters (s : String) : (letters s).count .slot = 0 := by
  refine List.count_eq_zero.mpr fun h => ?_
  obtain ⟨c, -, hc⟩ := List.mem_map.mp h
  cases hc

theorem symbols_append : ∀ ps qs : List Part, symbols (ps ++ qs) = symbols ps ++ symbols qs
  | [], _ => rfl
  | .raw s :: ps, qs => by rw [List.cons_append, symbols, symbols, symbols_append ps qs, List.append_assoc]
  | .slot :: ps, qs => congrArg (Symbol.slot :: ·) (symbols_append ps qs)

/-- Pushed text comes after the symbols of the parts, whether or not it becomes a part of its own. -/
theorem symbols_pushText (ps : List Part) (s : String) :
    symbols (pushText ps s) = symbols ps ++ letters s := by
  fun_induction pushText ps s with
  | case1 ps h => rw [h, letters_empty, List.append_nil]
  | case2 h => simp [symbols]
  | case3 h t => simp [symbols]
  | case4 h p ps hp ih => cases p <;> simp [symbols, ih]

theorem symbols_pushParts : ∀ ps qs : List Part, symbols (pushParts ps qs) = symbols ps ++ symbols qs
  | ps, [] => (List.append_nil _).symm
  | ps, .raw s :: qs => by
    have ih := symbols_pushParts (pushText ps s) qs
    rw [symbols_pushText, List.append_assoc] at ih
    exact ih
  | ps, .slot :: qs => by
    have ih := symbols_pushParts (ps ++ [.slot]) qs
    rw [symbols_append, List.append_assoc] at ih
    exact ih

theorem count_symbols : ∀ ps : List Part, (symbols ps).count .slot = ps.count .slot
  | [] => rfl
  | .raw s :: ps => by simp [symbols, count_symbols ps]
  | .slot :: ps => by simp [symbols, count_symbols ps]

/-- The characters of some symbols, their slots numbered from after `n` on. -/
def write : ℕ → List Symbol → List Char
  | _, [] => []
  | n, .char c :: xs => c :: write n xs
  | n, .slot :: xs => '$' :: ((toString (n + 1)).toList ++ write (n + 1) xs)

theorem write_map_char (n : ℕ) (xs : List Symbol) : ∀ cs : List Char,
    write n (cs.map .char ++ xs) = cs ++ write n xs
  | [] => rfl
  | c :: cs => congrArg (c :: ·) (write_map_char n xs cs)

/-- **The text of some parts is that of their symbols.** -/
theorem toList_render : ∀ (n : ℕ) (ps : List Part), (render n ps).toList = write n (symbols ps)
  | _, [] => rfl
  | n, .raw s :: ps => by
    rw [render, String.toList_append, toList_render n ps, symbols, letters, write_map_char]
  | n, .slot :: ps => by
    rw [render, String.toList_append, String.toList_append, toList_render (n + 1) ps]
    rfl

/-! ### The normal form -/

/-- **Parts in normal form**: no raw text is empty, and no two stand side by side. -/
structure Merged (ps : List Part) : Prop where
  nonempty : Part.raw "" ∉ ps
  apart : ps.IsChain fun p q => p = .slot ∨ q = .slot

namespace Merged

variable {ps qs : List Part} {p : Part} {s t : String}

theorem nil : Merged [] := ⟨List.not_mem_nil, .nil⟩

theorem tail (h : Merged (p :: ps)) : Merged ps :=
  ⟨fun hs => h.nonempty (List.mem_cons_of_mem _ hs), h.apart.tail⟩

theorem text_ne (h : Merged (.raw s :: ps)) : s ≠ "" := by
  rintro rfl
  exact h.nonempty List.mem_cons_self

theorem head_eq_slot (h : Merged (.raw s :: ps)) : ∀ q ∈ ps.head?, q = .slot := by
  intro q hq
  have hpair : Part.raw s = .slot ∨ q = .slot := (List.isChain_cons.mp h.apart).1 q hq
  exact hpair.resolve_left Part.noConfusion

theorem cons_slot (h : Merged ps) : Merged (.slot :: ps) := by
  refine ⟨?_, List.isChain_cons.mpr ⟨fun _ _ => .inl rfl, h.apart⟩⟩
  simpa using h.nonempty

theorem cons_raw (hs : s ≠ "") (h : Merged ps) (hp : ∀ q ∈ ps.head?, q = .slot) :
    Merged (.raw s :: ps) := by
  refine ⟨?_, List.isChain_cons.mpr ⟨fun q hq => .inr (hp q hq), h.apart⟩⟩
  simpa [Ne.symm hs] using h.nonempty

theorem head_pushText (h : ∀ q ∈ ps.head?, q = .slot) (hne : ps ≠ []) (s : String) :
    ∀ q ∈ (Sql.pushText ps s).head?, q = .slot := by
  obtain ⟨q, qs, rfl⟩ := List.exists_cons_of_ne_nil hne
  obtain rfl : q = .slot := h q rfl
  unfold Sql.pushText
  split <;> simp

theorem pushText (h : Merged ps) (s : String) : Merged (Sql.pushText ps s) := by
  fun_induction Sql.pushText ps s with
  | case1 ps hs => exact h
  | case2 hs => exact cons_raw hs nil (by simp)
  | case3 hs t =>
    refine cons_raw (fun ht => hs ?_) nil (by simp)
    exact (String.append_eq_empty_iff.mp ht).2
  | case4 hs p ps hp ih =>
    cases p with
    | slot => exact (ih h.tail).cons_slot
    | raw t =>
      have hne : ps ≠ [] := by
        rintro rfl
        exact hp t rfl rfl
      exact cons_raw h.text_ne (ih h.tail) (head_pushText h.head_eq_slot hne _)

theorem concat_slot (h : Merged ps) : Merged (ps ++ [.slot]) := by
  refine ⟨?_, h.apart.append (List.isChain_singleton _) ?_⟩
  · simpa using h.nonempty
  · simp

theorem pushParts : ∀ (qs : List Part) {ps : List Part}, Merged ps → Merged (Sql.pushParts ps qs)
  | [], _, h => h
  | .raw s :: qs, _, h => pushParts qs (h.pushText s)
  | .slot :: qs, _, h => pushParts qs h.concat_slot

/-! ### The symbols determine the parts -/

theorem head_symbols (h : Merged (.raw s :: ps)) : ∀ x ∈ (symbols ps).head?, x = .slot := by
  cases ps with
  | nil => simp [symbols]
  | cons q ps =>
    obtain rfl : q = .slot := h.head_eq_slot q rfl
    simp [symbols]

theorem symbols_raw_ne_slot (h : Merged (.raw s :: ps)) (xs : List Symbol) :
    symbols (.raw s :: ps) ≠ .slot :: xs := by
  obtain ⟨c, cs, hcs⟩ := List.exists_cons_of_ne_nil fun hs => h.text_ne (String.toList_eq_nil_iff.mp hs)
  simp [symbols, letters, hcs]

theorem symbols_raw_ne_nil (h : Merged (.raw s :: ps)) : symbols (.raw s :: ps) ≠ [] := by
  obtain ⟨c, cs, hcs⟩ := List.exists_cons_of_ne_nil fun hs => h.text_ne (String.toList_eq_nil_iff.mp hs)
  simp [symbols, letters, hcs]

/-- A text before a slot, or before nothing, ends where its characters do. -/
theorem map_char_prefix : ∀ {cs ds : List Char} {xs ys : List Symbol}, (∀ x ∈ xs.head?, x = .slot) →
    (∀ y ∈ ys.head?, y = .slot) → cs.map .char ++ xs = ds.map .char ++ ys → cs = ds ∧ xs = ys
  | [], [], _, _, _, _, h => ⟨rfl, h⟩
  | [], d :: ds, xs, ys, hx, _, h => by
    have hd : xs = .char d :: (ds.map .char ++ ys) := h
    have hslot : Symbol.char d = .slot := hx _ (by rw [hd]; rfl)
    cases hslot
  | c :: cs, [], xs, ys, _, hy, h => by
    have hc : ys = .char c :: (cs.map .char ++ xs) := h.symm
    have hslot : Symbol.char c = .slot := hy _ (by rw [hc]; rfl)
    cases hslot
  | c :: cs, d :: ds, xs, ys, hx, hy, h => by
    simp only [List.map_cons, List.cons_append, List.cons.injEq, Symbol.char.injEq] at h
    obtain ⟨rfl, h⟩ := h
    obtain ⟨rfl, rfl⟩ := map_char_prefix hx hy h
    exact ⟨rfl, rfl⟩

/-- **Parts in normal form with the same symbols are the same**, however their texts were pushed. -/
theorem eq_of_symbols_eq : ∀ {ps qs : List Part}, Merged ps → Merged qs → symbols ps = symbols qs → ps = qs
  | [], [], _, _, _ => rfl
  | [], .raw _ :: _, _, hq, h => absurd h.symm hq.symbols_raw_ne_nil
  | .raw _ :: _, [], hp, _, h => absurd h hp.symbols_raw_ne_nil
  | .raw _ :: _, .slot :: _, hp, _, h => absurd h (hp.symbols_raw_ne_slot _)
  | .slot :: _, .raw _ :: _, _, hq, h => absurd h.symm (hq.symbols_raw_ne_slot _)
  | .slot :: ps, .slot :: qs, hp, hq, h => by
    rw [eq_of_symbols_eq hp.tail hq.tail (List.cons.inj h).2]
  | .raw s :: ps, .raw t :: qs, hp, hq, h => by
    obtain ⟨hst, hrest⟩ := map_char_prefix hp.head_symbols hq.head_symbols h
    rw [String.toList_injective hst, eq_of_symbols_eq hp.tail hq.tail hrest]

end Merged

end TableGateway.Sql
