import TableGateway.Proofs.Fragment.Program
import TableGateway.Proofs.Statement.Columns

/-! # Seams

A placeholder ends where its digits do, so that a digit pushed right after a parameter is read as one of them.
Nothing else that is pushed can do this: where no digit comes right after a slot, the placeholders of a text
count its parameters, whatever the text was put together from.

* `Legible` : symbols from bare texts, quoted names and slots
* `Legible.reads` : the placeholders that are read in them, each with the digits after its slot
* `Program.placeholders_iff` : the placeholders count the parameters just if no digit is after a slot -/

namespace TableGateway.Sql

/-! ### What is read -/

/-- The digits that some symbols begin with. -/
def digits : List Symbol → List Char
  | [] => []
  | .char c :: xs => if c.isDigit then c :: digits xs else []
  | .slot :: _ => []

/-- **The placeholders that are read**, slots numbered from after `n` on: each has the digits of its number and
those that come right after it. -/
def numerals : ℕ → List Symbol → List String
  | _, [] => []
  | n, .char _ :: xs => numerals n xs
  | n, .slot :: xs => String.ofList ((toString (n + 1)).toList ++ digits xs) :: numerals (n + 1) xs

theorem numerals_map_char (n : ℕ) (xs : List Symbol) : ∀ cs : List Char,
    numerals n (cs.map .char ++ xs) = numerals n xs
  | [] => rfl
  | _ :: cs => numerals_map_char n xs cs

/-- A text that can be told from names and placeholders. -/
def Bare (s : String) : Prop := ∀ c ∈ s.toList, c ≠ '"' ∧ c ≠ '$'

-- the characters of the text are gone through, not all characters that there are
instance (s : String) : Decidable (Bare s) :=
  decidable_of_iff (s.toList.all (fun c => c ≠ '"' ∧ c ≠ '$') = true) <| by
    simp only [Bare, List.all_eq_true, decide_eq_true_eq]

/-- **Symbols put together from bare texts, quoted names and slots.** -/
inductive Legible : List Symbol → Prop
  | nil : Legible []
  | char {c : Char} {xs : List Symbol} (hq : c ≠ '"') (hd : c ≠ '$') (h : Legible xs) : Legible (.char c :: xs)
  | name (s : String) {xs : List Symbol} (h : Legible xs) : Legible (letters (quote s) ++ xs)
  | slot {xs : List Symbol} (h : Legible xs) : Legible (.slot :: xs)

/-- What is read in some symbols, by where the scanner is before them: outside, after a quote that may close a
name, or after the digits `ds` of a placeholder. -/
structure Reads (n : ℕ) (xs : List Symbol) : Prop where
  outside : placeholders (Mode.outside.run (write n xs)) = numerals n xs
  quote : ∀ read, placeholders ((Mode.quote read).run (write n xs)) = numerals n xs
  dollar : ∀ ds, placeholders ((Mode.dollar ds).run (write n xs)) =
    String.ofList (ds ++ digits xs) :: numerals n xs

namespace Reads

variable {n : ℕ} {xs : List Symbol} {c : Char}

theorem nil : Reads n [] where
  outside := rfl
  quote _ := rfl
  dollar ds := by rw [digits, List.append_nil]; rfl

theorem char (hq : c ≠ '"') (hd : c ≠ '$') (h : Reads n xs) : Reads n (.char c :: xs) where
  outside := by
    have hrun : placeholders (Mode.outside.run (c :: write n xs)) =
        placeholders (Mode.outside.run (write n xs)) := by
      rw [Mode.run, Mode.step, Mode.enter_of_plain hq hd]
      rfl
    exact hrun.trans h.outside
  quote read := by
    have hrun : placeholders ((Mode.quote read).run (c :: write n xs)) =
        placeholders (Mode.outside.run (write n xs)) := by
      rw [Mode.run, Mode.step, if_neg hq, Mode.enter_of_plain hq hd]
      rfl
    exact hrun.trans h.outside
  dollar ds := by
    by_cases hc : c.isDigit
    · have hrun : (Mode.dollar ds).run (c :: write n xs) = (Mode.dollar (ds ++ [c])).run (write n xs) := by
        rw [Mode.run, Mode.step, if_pos hc]
        rfl
      rw [write, hrun, h.dollar, digits, if_pos hc, List.append_assoc, numerals]
      rfl
    · have hrun : placeholders ((Mode.dollar ds).run (c :: write n xs)) =
          String.ofList ds :: placeholders (Mode.outside.run (write n xs)) := by
        rw [Mode.run, Mode.step, if_neg hc, Mode.enter_of_plain hq hd]
        rfl
      rw [write, hrun, h.outside, digits, if_neg hc, List.append_nil, numerals]

theorem write_name (n : ℕ) (s : String) (xs : List Symbol) :
    write n (letters (Sql.quote s) ++ xs) = '"' :: (doubled s.toList ++ '"' :: write n xs) := by
  rw [letters, write_map_char]
  simp [Sql.quote]

theorem name (s : String) (h : Reads n xs) : Reads n (letters (Sql.quote s) ++ xs) where
  outside := by
    have hstep : Mode.outside.step '"' = (.inside [], []) := rfl
    rw [write_name, Mode.run, hstep, Mode.run_doubled, List.nil_append, h.quote, letters, numerals_map_char]
  quote read := by
    -- the quote that opens a name right after another one is the second of two
    have hstep : (Mode.quote read).step '"' = (.inside (read ++ ['"']), []) := rfl
    rw [write_name, Mode.run, hstep, Mode.run_doubled, List.nil_append, h.quote, letters, numerals_map_char]
  dollar ds := by
    have hstep : (Mode.dollar ds).step '"' = (.inside [], [.placeholder (String.ofList ds)]) := rfl
    have hdigits : digits (letters (Sql.quote s) ++ xs) = [] := by
      simp [letters, Sql.quote, digits]
    rw [write_name, Mode.run, hstep, Mode.run_doubled, placeholders_append, h.quote, hdigits, List.append_nil,
      letters, numerals_map_char]
    rfl

theorem slot (h : Reads (n + 1) xs) : Reads n (.slot :: xs) := by
  have hdigits : ∀ d ∈ (toString (n + 1)).toList, d.isDigit = true := fun d hd => isDigit_of_mem_toString hd
  have hnumber : (Mode.dollar []).run ((toString (n + 1)).toList ++ write (n + 1) xs) =
      (Mode.dollar (toString (n + 1)).toList).run (write (n + 1) xs) := Mode.run_digits _ _ _ hdigits
  refine ⟨?_, fun read => ?_, fun ds => ?_⟩
  · have hstep : Mode.outside.step '$' = (.dollar [], []) := rfl
    rw [write, Mode.run, hstep, hnumber, List.nil_append, h.dollar, numerals]
  · have hstep : (Mode.quote read).step '$' = (.dollar [], [.name (String.ofList read)]) := rfl
    rw [write, Mode.run, hstep, hnumber, placeholders_append, h.dollar, numerals]
    rfl
  · have hstep : (Mode.dollar ds).step '$' = (.dollar [], [.placeholder (String.ofList ds)]) := rfl
    have hend : digits (.slot :: xs) = [] := rfl
    rw [write, Mode.run, hstep, hnumber, placeholders_append, h.dollar, hend, List.append_nil, numerals]
    rfl

end Reads

namespace Legible

variable {xs ys : List Symbol}

theorem append (hx : Legible xs) (hy : Legible ys) : Legible (xs ++ ys) := by
  induction hx with
  | nil => exact hy
  | char hq hd _ ih => exact ih.char hq hd
  | name s _ ih =>
    rw [List.append_assoc]
    exact ih.name s
  | slot _ ih => exact ih.slot

theorem map_char : ∀ {cs : List Char}, (∀ c ∈ cs, c ≠ '"' ∧ c ≠ '$') → Legible (cs.map .char)
  | [], _ => .nil
  | c :: _, h => .char (h c List.mem_cons_self).1 (h c List.mem_cons_self).2
    (map_char fun d hd => h d (List.mem_cons_of_mem _ hd))

theorem ofBare {s : String} (h : Bare s) : Legible (letters s) := map_char h

theorem ofName (s : String) : Legible (letters (quote s)) := by
  have h : Legible (letters (quote s) ++ []) := nil.name s
  rwa [List.append_nil] at h

/-- **The placeholders of legible symbols** are read where their slots are, and nowhere else. -/
theorem reads (h : Legible xs) : ∀ n, Reads n xs := by
  induction h with
  | nil => exact fun _ => .nil
  | char hq hd _ ih => exact fun n => (ih n).char hq hd
  | name s _ ih => exact fun n => (ih n).name s
  | slot _ ih => exact fun n => (ih (n + 1)).slot

end Legible

/-! ### Digits after slots -/

theorem digits_eq_nil_iff {xs : List Symbol} :
    digits xs = [] ↔ ∀ c : Char, c.isDigit = true → ¬ [Symbol.char c] <+: xs := by
  rcases xs with _ | ⟨c | _, xs⟩
  · simp [digits]
  · by_cases hc : c.isDigit
    · simp [digits, hc]
    · simp [digits, hc]
      rintro d hd rfl
      exact hc hd
  · simp [digits]

/-- **The placeholders that are read count the slots** just if no digit comes right after a slot. -/
theorem numerals_eq_iff : ∀ (n : ℕ) (xs : List Symbol),
    numerals n xs = (List.range' (n + 1) (xs.count .slot)).map toString ↔
      ∀ c : Char, c.isDigit = true → ¬ [.slot, .char c] <:+: xs
  | n, [] => by simp [numerals]
  | n, .char d :: xs => by
    have ih := numerals_eq_iff n xs
    simpa [numerals, List.infix_cons_iff] using ih
  | n, .slot :: xs => by
    have ih := numerals_eq_iff (n + 1) xs
    have hfirst : String.ofList ((toString (n + 1)).toList ++ digits xs) = toString (n + 1) ↔ digits xs = [] := by
      rw [← String.toList_inj, String.toList_ofList, List.append_right_eq_self]
    rw [numerals, List.count_cons_self, List.range'_succ, List.map_cons, List.cons.injEq, hfirst, ih,
      digits_eq_nil_iff]
    simp only [List.infix_cons_iff, List.cons_prefix_cons, true_and, not_or, forall_and]

/-! ### Programs -/

/-- An operation whose text, if it has one, is bare. Names and values may be anything. -/
def Edit.Bare : Edit → Prop
  | text _ s | push _ s => Sql.Bare s
  | _ => True

instance (e : Edit) : Decidable e.Bare :=
  match e with
  | .text _ s | .push _ s => inferInstanceAs (Decidable (Sql.Bare s))
  | .empty _ | .ident _ _ | .value _ _ | .pushIdent _ _ | .pushValue _ _ | .pushFragment _ _
  | .append _ _ _ | .copy _ _ => isTrue trivial

theorem Edit.legible_meaning {e : Edit} (he : e.Bare) {said : ℕ → Content}
    (h : ∀ r, Legible (said r).symbols) : Legible (e.meaning said).symbols := by
  have hname : ∀ name, Legible (Content.ofText (quote name)).symbols := fun name => by
    rw [Content.symbols_ofText]
    exact .ofName name
  cases e with
  | empty r => exact .nil
  | text r s => exact .ofBare he
  | ident r name => exact hname name
  | value r v => exact Legible.nil.slot
  | push r s => exact (h r).append (.ofBare he)
  | pushIdent r name =>
    rw [meaning, Content.symbols_append]
    exact (h r).append (hname name)
  | pushValue r v => exact (h r).append Legible.nil.slot
  | pushFragment r a => exact (h r).append (h a)
  | append r a b => exact (h a).append (h b)
  | copy r a => exact h a

namespace Program

variable {p : Program}

theorem legible_content (hp : ∀ e ∈ p, e.Bare) (r : ℕ) : Legible (p.content r).symbols :=
  forall_run (P := fun c : Content => Legible c.symbols) p
    (fun e he _ h => Edit.legible_meaning (hp e he) h) (fun _ => .nil) r

theorem placeholders_fragment (hp : ∀ e ∈ p, e.Bare) (r : ℕ) :
    placeholders (scan (p.fragment r).text) = numerals 0 (symbols (p.fragment r).parts) := by
  have hlegible : Legible (p.fragment r).content.symbols := by
    rw [content_fragment]
    exact legible_content hp r
  rw [scan, Fragment.text, toList_render]
  exact (hlegible.reads 0).outside

/-- **The placeholders count the parameters just if no digit comes right after a slot**, whatever fragments,
names and values the text is put together from. -/
theorem placeholders_iff (hp : ∀ e ∈ p, e.Bare) (r : ℕ) :
    placeholders (scan (p.fragment r).text) = (List.range' 1 (p.fragment r).params.length).map toString ↔
      ∀ c : Char, c.isDigit = true → ¬ [.slot, .char c] <:+: symbols (p.fragment r).parts := by
  rw [placeholders_fragment hp, ← (p.fragment_tidy r).count, ← count_symbols]
  exact numerals_eq_iff 0 _

end Program

/-- Parameters next to each other and next to names that are written like placeholders. -/
def crowded : Program :=
  [.value 0 .null, .ident 1 "$1", .pushFragment 0 1, .pushIdent 0 "0\"", .pushValue 0 (.int 5), .pushFragment 0 0,
    .push 0 " 0"]

theorem crowded_placeholders : (∀ e ∈ crowded, e.Bare) ∧
    placeholders (scan (crowded.fragment 0).text) = ["1", "2", "3", "4"] ∧
      ∀ c : Char, c.isDigit = true → ¬ [.slot, .char c] <:+: symbols (crowded.fragment 0).parts := by
  have hbare : ∀ e ∈ crowded, e.Bare := by decide
  have hread : placeholders (scan (crowded.fragment 0).text) = ["1", "2", "3", "4"] := by decide
  exact ⟨hbare, hread, (Program.placeholders_iff hbare 0).mp hread⟩

/-- A parameter, and after it a text that begins with a digit. -/
def tenfold : Program := [.value 0 (.bool true), .text 1 "0", .append 2 0 1]

/-- **A digit after a parameter is read as one of its placeholder's**, which then counts no parameter. -/
theorem tenfold_misread : (∀ e ∈ tenfold, e.Bare) ∧
    placeholders (scan (tenfold.fragment 2).text) = ["10"] ∧
      placeholders (scan (tenfold.fragment 2).text) ≠
        (List.range' 1 (tenfold.fragment 2).params.length).map toString := by
  decide

end TableGateway.Sql
