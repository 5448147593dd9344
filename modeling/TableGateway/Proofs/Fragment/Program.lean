import Mathlib.Data.List.Forall2
import Mathlib.Logic.Function.Basic
import TableGateway.Proofs.Fragment.Symbols

/-! # Programs of fragment operations

Fragments are kept in registers, and a program builds new ones from them. Whatever it does, every fragment
that it builds is in normal form, so that a fragment is determined by its symbols and its values. Operations
on fragments are then operations on symbols and values: a program may be run on these instead, and what it
says does not depend on how it was cut into operations.

* `Fragment.Tidy` : the normal form of a fragment, kept by every operation
* `Fragment.Tidy.eq_of_content_eq` : a fragment is determined by its content
* `Program.fragment_tidy`, `Program.content_fragment` : what a program builds
* `Program.fragment_algebra` : the laws of what programs build -/

namespace TableGateway.Sql

/-! ### Contents -/

/-- What a fragment says: its symbols, and the values of its slots. -/
structure Content where
  symbols : List Symbol
  values : List Value

namespace Content

def empty : Content := ⟨[], []⟩

def ofText (s : String) : Content := ⟨letters s, []⟩

def ofValue (v : Value) : Content := ⟨[.slot], [v]⟩

/-- What is said by one thing after another. -/
instance : Append Content := ⟨fun a b => ⟨a.symbols ++ b.symbols, a.values ++ b.values⟩⟩

theorem symbols_ofText (s : String) : (ofText s).symbols = letters s := rfl

theorem symbols_append (a b : Content) : (a ++ b).symbols = a.symbols ++ b.symbols := rfl

theorem append_assoc (a b c : Content) : a ++ b ++ c = a ++ (b ++ c) :=
  congrArg₂ mk (List.append_assoc _ _ _) (List.append_assoc _ _ _)

theorem append_empty (a : Content) : a ++ empty = a :=
  congrArg₂ mk (List.append_nil _) (List.append_nil _)

theorem empty_append (a : Content) : empty ++ a = a := rfl

end Content

namespace Fragment

variable {f g : Fragment}

/-- **What a fragment says.** -/
def content (f : Fragment) : Content := ⟨symbols f.parts, f.params⟩

theorem content_empty : empty.content = .empty := rfl

theorem content_push (f : Fragment) (s : String) : (f.push s).content = f.content ++ .ofText s :=
  congrArg₂ Content.mk (symbols_pushText f.parts s) (List.append_nil _).symm

theorem content_pushIdent (f : Fragment) (name : String) :
    (f.pushIdent name).content = f.content ++ .ofText (quote name) := content_push f (quote name)

theorem content_pushValue (f : Fragment) (v : Value) :
    (f.pushValue v).content = f.content ++ .ofValue v :=
  congrArg₂ Content.mk (symbols_append f.parts [.slot]) rfl

theorem content_ofText (s : String) : (ofText s).content = .ofText s :=
  (content_push .empty s).trans (Content.empty_append _)

theorem content_ofIdent (name : String) : (ofIdent name).content = .ofText (quote name) :=
  content_ofText (quote name)

theorem content_ofValue (v : Value) : (ofValue v).content = .ofValue v :=
  (content_pushValue .empty v).trans (Content.empty_append _)

theorem content_append (f g : Fragment) : (f ++ g).content = f.content ++ g.content :=
  congrArg₂ Content.mk (symbols_pushParts f.parts g.parts) rfl

/-! ### The normal form of a fragment -/

/-- **A fragment in normal form**, with a slot for every parameter. -/
structure Tidy (f : Fragment) : Prop where
  merged : Merged f.parts
  count : f.parts.count .slot = f.params.length

namespace Tidy

theorem empty : Tidy .empty := ⟨.nil, rfl⟩

theorem push (h : Tidy f) (s : String) : Tidy (f.push s) :=
  ⟨h.merged.pushText s, (count_pushText f.parts s).trans h.count⟩

theorem pushIdent (h : Tidy f) (name : String) : Tidy (f.pushIdent name) := h.push (quote name)

theorem pushValue (h : Tidy f) (v : Value) : Tidy (f.pushValue v) := by
  refine ⟨h.merged.concat_slot, ?_⟩
  simp [Fragment.pushValue, h.count]

theorem append (hf : Tidy f) (hg : Tidy g) : Tidy (f ++ g) := by
  refine ⟨Merged.pushParts g.parts hf.merged, ?_⟩
  calc (pushParts f.parts g.parts).count .slot
      = f.parts.count .slot + g.parts.count .slot := count_pushParts f.parts g.parts
    _ = f.params.length + g.params.length := by rw [hf.count, hg.count]
    _ = (f.params ++ g.params).length := List.length_append.symm

theorem parts_eq_iff (hf : Tidy f) (hg : Tidy g) :
    f.parts = g.parts ↔ f.content.symbols = g.content.symbols :=
  ⟨congrArg symbols, hf.merged.eq_of_symbols_eq hg.merged⟩

/-- **A fragment in normal form is determined by what it says.** -/
theorem eq_of_content_eq (hf : Tidy f) (hg : Tidy g) (h : f.content = g.content) : f = g := by
  have hparts : f.parts = g.parts := (hf.parts_eq_iff hg).mpr (congrArg Content.symbols h)
  have hparams : f.params = g.params := congrArg Content.values h
  exact congrArg₂ Fragment.mk hparts hparams

/-- The comparison of fragments looks at what they say, and at nothing else. -/
theorem same_iff (hf : Tidy f) (hg : Tidy g) : f.same g = true ↔
    f.content.symbols = g.content.symbols ∧ List.Forall₂ (fun v w => v.same w = true) f.params g.params := by
  rw [← hf.parts_eq_iff hg, List.forall₂_iff_zip, same]
  simp only [Bool.and_eq_true, beq_iff_eq, List.all_eq_true, Prod.forall, and_assoc]

end Tidy

end Fragment

/-! ### Numbers of placeholders -/

/-- A piece of a finished text: raw text, or a placeholder with its number. -/
inductive Piece where
  | raw (s : String)
  | placeholder (n : ℕ)

namespace Piece

def text : Piece → String
  | raw s => s
  | placeholder n => "$" ++ toString n

/-- The piece with a number that is greater by `k`. -/
def renumber (k : ℕ) : Piece → Piece
  | raw s => raw s
  | placeholder n => placeholder (k + n)

/-- The text of some pieces. -/
def spell : List Piece → String
  | [] => ""
  | p :: ps => p.text ++ spell ps

end Piece

/-- **The pieces of the text of some parts**, their slots numbered from after `n` on. -/
def pieces : ℕ → List Part → List Piece
  | _, [] => []
  | n, .raw s :: ps => .raw s :: pieces n ps
  | n, .slot :: ps => .placeholder (n + 1) :: pieces (n + 1) ps

theorem render_eq_spell : ∀ (n : ℕ) (ps : List Part), render n ps = Piece.spell (pieces n ps)
  | _, [] => rfl
  | n, .raw s :: ps => congrArg (s ++ ·) (render_eq_spell n ps)
  | n, .slot :: ps => by rw [render, render_eq_spell (n + 1) ps]; rfl

theorem pieces_add (k : ℕ) : ∀ (n : ℕ) (ps : List Part),
    pieces (k + n) ps = (pieces n ps).map (Piece.renumber k)
  | _, [] => rfl
  | n, .raw s :: ps => congrArg (Piece.raw s :: ·) (pieces_add k n ps)
  | n, .slot :: ps => congrArg (Piece.placeholder (k + n + 1) :: ·) (pieces_add k (n + 1) ps)

/-- **The text of a fragment after another one** has its slots numbered on. -/
theorem Fragment.Tidy.text_append {f : Fragment} (hf : f.Tidy) (g : Fragment) :
    (f ++ g).text = f.text ++ Piece.spell ((pieces 0 g.parts).map (Piece.renumber f.params.length)) := by
  have hrender : (f ++ g).text = f.text ++ render (0 + f.parts.count .slot) g.parts :=
    render_pushParts 0 f.parts g.parts
  rw [hrender, hf.count, Nat.zero_add, render_eq_spell, ← pieces_add, Nat.add_zero]

/-! ### Programs -/

/-- **One operation** on fragments in registers; its result goes to register `r`. -/
inductive Edit where
  | empty (r : ℕ)
  | text (r : ℕ) (s : String)
  | ident (r : ℕ) (name : String)
  | value (r : ℕ) (v : Value)
  | push (r : ℕ) (s : String)
  | pushIdent (r : ℕ) (name : String)
  | pushValue (r : ℕ) (v : Value)
  | pushFragment (r a : ℕ)
  | append (r a b : ℕ)
  | copy (r a : ℕ)

/-- Operations one after the other. -/
abbrev Program := List Edit

namespace Edit

/-- The register that the result goes to. -/
def target : Edit → ℕ
  | empty r | text r _ | ident r _ | value r _ => r
  | push r _ | pushIdent r _ | pushValue r _ | pushFragment r _ => r
  | append r _ _ | copy r _ => r

/-- **The result of an operation.** -/
def result (regs : ℕ → Fragment) : Edit → Fragment
  | empty _ => .empty
  | text _ s => .ofText s
  | ident _ name => .ofIdent name
  | value _ v => .ofValue v
  | push r s => (regs r).push s
  | pushIdent r name => (regs r).pushIdent name
  | pushValue r v => (regs r).pushValue v
  | pushFragment r a => regs r ++ regs a
  | append _ a b => regs a ++ regs b
  | copy _ a => regs a

/-- **What the result says**, put together from what is said in the registers. -/
def meaning (said : ℕ → Content) : Edit → Content
  | empty _ => .empty
  | text _ s => .ofText s
  | ident _ name => .ofText (quote name)
  | value _ v => .ofValue v
  | push r s => said r ++ .ofText s
  | pushIdent r name => said r ++ .ofText (quote name)
  | pushValue r v => said r ++ .ofValue v
  | pushFragment r a => said r ++ said a
  | append _ a b => said a ++ said b
  | copy _ a => said a

theorem content_result (regs : ℕ → Fragment) (e : Edit) :
    (e.result regs).content = e.meaning fun r => (regs r).content := by
  cases e with
  | empty r => rfl
  | text r s => exact Fragment.content_ofText s
  | ident r name => exact Fragment.content_ofIdent name
  | value r v => exact Fragment.content_ofValue v
  | push r s => exact Fragment.content_push _ _
  | pushIdent r name => exact Fragment.content_pushIdent _ _
  | pushValue r v => exact Fragment.content_pushValue _ _
  | pushFragment r a => exact Fragment.content_append _ _
  | append r a b => exact Fragment.content_append _ _
  | copy r a => rfl

theorem tidy_result {regs : ℕ → Fragment} (h : ∀ r, (regs r).Tidy) (e : Edit) : (e.result regs).Tidy := by
  cases e with
  | empty r => exact .empty
  | text r s => exact Fragment.Tidy.empty.push s
  | ident r name => exact Fragment.Tidy.empty.pushIdent name
  | value r v => exact Fragment.Tidy.empty.pushValue v
  | push r s => exact (h r).push s
  | pushIdent r name => exact (h r).pushIdent name
  | pushValue r v => exact (h r).pushValue v
  | pushFragment r a => exact (h r).append (h a)
  | append r a b => exact (h a).append (h b)
  | copy r a => exact h a

end Edit

/-- A program run on registers that hold a `γ` each, where `result` says what an operation makes of them. -/
def run {γ : Type} (result : (ℕ → γ) → Edit → γ) : Program → (ℕ → γ) → ℕ → γ
  | [], regs => regs
  | e :: p, regs => run result p (Function.update regs e.target (result regs e))

section Run

variable {γ δ : Type} {result : (ℕ → γ) → Edit → γ}

/-- What every operation of a program keeps for all registers, the program keeps. -/
theorem forall_run {P : γ → Prop} : ∀ (p : Program) {regs : ℕ → γ},
    (∀ e ∈ p, ∀ regs, (∀ r, P (regs r)) → P (result regs e)) → (∀ r, P (regs r)) →
      ∀ r, P (run result p regs r)
  | [], _, _, h => h
  | e :: p, regs, hstep, h => by
    refine forall_run p (fun e he => hstep e (List.mem_cons_of_mem _ he)) fun r => ?_
    by_cases hr : r = e.target
    · rw [hr, Function.update_self]
      exact hstep e List.mem_cons_self regs h
    · rw [Function.update_of_ne hr]
      exact h r

/-- A program may be run on the images of what is in the registers, if every operation may. -/
theorem map_run {result' : (ℕ → δ) → Edit → δ} {φ : γ → δ}
    (hstep : ∀ regs e, φ (result regs e) = result' (fun r => φ (regs r)) e) :
    ∀ (p : Program) (regs : ℕ → γ) (r : ℕ), φ (run result p regs r) = run result' p (fun r => φ (regs r)) r
  | [], _, _ => rfl
  | e :: p, regs, r => by
    have hupdate : (fun r => φ (Function.update regs e.target (result regs e) r)) =
        Function.update (fun r => φ (regs r)) e.target (result' (fun r => φ (regs r)) e) := by
      funext r
      by_cases hr : r = e.target
      · rw [hr, Function.update_self, Function.update_self, hstep]
      · rw [Function.update_of_ne hr, Function.update_of_ne hr]
    rw [run, map_run hstep p, hupdate, run]

end Run

namespace Program

/-- **The fragment in register `r`** after a program that begins with empty fragments. -/
def fragment (p : Program) (r : ℕ) : Fragment := run Edit.result p (fun _ => .empty) r

/-- **What is said in register `r`** after the program. -/
def content (p : Program) (r : ℕ) : Content := run Edit.meaning p (fun _ => .empty) r

/-- **Every fragment that a program builds is in normal form.** -/
theorem fragment_tidy (p : Program) (r : ℕ) : (p.fragment r).Tidy :=
  forall_run p (fun e _ _ h => e.tidy_result h) (fun _ => .empty) r

/-- **A fragment says what its program put together**, however it was cut. -/
theorem content_fragment (p : Program) (r : ℕ) : (p.fragment r).content = p.content r :=
  map_run Edit.content_result p (fun _ => .empty) r

/-- **The laws of fragments**, for those in registers `r`, `s` and `t` of three programs. -/
structure Algebra (p q u : Program) (r s t : ℕ) : Prop where
  tidy : (p.fragment r).Tidy
  content : (p.fragment r).content = p.content r
  /-- Fragments have the same parts if they say the same, whatever operations they come from. -/
  parts_eq_iff : (p.fragment r).parts = (q.fragment s).parts ↔ (p.content r).symbols = (q.content s).symbols
  same_iff : (p.fragment r).same (q.fragment s) = true ↔
    (p.content r).symbols = (q.content s).symbols ∧
      List.Forall₂ (fun v w => v.same w = true) (p.content r).values (q.content s).values
  append_assoc : p.fragment r ++ q.fragment s ++ u.fragment t = p.fragment r ++ (q.fragment s ++ u.fragment t)
  empty_append : .empty ++ p.fragment r = p.fragment r
  append_empty : p.fragment r ++ .empty = p.fragment r
  /-- The text of one after the other is the text of each, the slots of the latter numbered on. -/
  text : (q.fragment s).text = Piece.spell (pieces 0 (q.fragment s).parts)
  text_append : (p.fragment r ++ q.fragment s).text = (p.fragment r).text ++
    Piece.spell ((pieces 0 (q.fragment s).parts).map (Piece.renumber (p.fragment r).params.length))

/-- **Fragments that programs build form a monoid**, and are determined by what they say. -/
theorem fragment_algebra (p q u : Program) (r s t : ℕ) : Algebra p q u r s t := by
  have hp := p.fragment_tidy r
  have hq := q.fragment_tidy s
  have hu := u.fragment_tidy t
  have hparams : ∀ (p : Program) r, (p.fragment r).params = (p.content r).values := fun p r =>
    congrArg Content.values (p.content_fragment r)
  refine ⟨hp, p.content_fragment r, ?_, ?_, ?_, ?_, ?_, render_eq_spell 0 _, hp.text_append _⟩
  · rw [hp.parts_eq_iff hq, content_fragment, content_fragment]
  · rw [hp.same_iff hq, content_fragment, content_fragment, hparams, hparams]
  · refine ((hp.append hq).append hu).eq_of_content_eq (hp.append (hq.append hu)) ?_
    simp only [Fragment.content_append, Content.append_assoc]
  · refine (Fragment.Tidy.empty.append hp).eq_of_content_eq hp ?_
    rw [Fragment.content_append, Fragment.content_empty, Content.empty_append]
  · refine (hp.append .empty).eq_of_content_eq hp ?_
    rw [Fragment.content_append, Fragment.content_empty, Content.append_empty]

end Program

end TableGateway.Sql
