import TableGateway.Sql.Ident
import TableGateway.Text.Blank
import TableGateway.Value

/-! # Fragments of statements

A fragment keeps its text and the slots of its parameters apart, and the placeholders `$1`, `$2`, … get
their numbers only when the fragment becomes a statement. So fragments can be put together in any order
and every placeholder still stands for its own parameter. No piece of raw text is empty and no two stand
side by side, so that a fragment does not show how its text was cut.

* `Fragment.text` : the text with numbered placeholders
* `Fragment.statement` : the finished statement -/

namespace TableGateway.Sql

/-- A piece of raw text, or the slot of a parameter. -/
inductive Part where
  | raw (text : String)
  | slot
  deriving DecidableEq, Repr

/-- **A fragment of a statement.** -/
structure Fragment where
  parts : List Part
  params : List Value

/-- A finished statement: a text with placeholders, and the values that they stand for. -/
structure Statement where
  text : String
  params : List Value

/-- The parts followed by a text, which becomes one with raw text at their end. -/
def pushText (parts : List Part) (text : String) : List Part :=
  if text = "" then parts
  else
    match parts with
    | [] => [.raw text]
    | [.raw s] => [.raw (s ++ text)]
    | p :: ps => p :: pushText ps text

/-- The parts followed by other parts. -/
def pushParts (parts others : List Part) : List Part :=
  others.foldl (fun ps p => match p with
    | .raw s => pushText ps s
    | .slot => ps ++ [.slot]) parts

/-- The text of some parts, their slots numbered from after `n` on. -/
def render : Nat → List Part → String
  | _, [] => ""
  | n, .raw s :: ps => s ++ render n ps
  | n, .slot :: ps => "$" ++ toString (n + 1) ++ render (n + 1) ps

namespace Fragment

/-- The fragment without text or parameters. -/
def empty : Fragment := ⟨[], []⟩

/-- A fragment followed by a text. -/
def push (f : Fragment) (text : String) : Fragment := ⟨pushText f.parts text, f.params⟩

/-- A fragment followed by the identifier of a name. -/
def pushIdent (f : Fragment) (name : String) : Fragment := f.push (quote name)

/-- A fragment followed by a parameter. -/
def pushValue (f : Fragment) (value : Value) : Fragment :=
  ⟨f.parts ++ [.slot], f.params ++ [value]⟩

/-- A fragment followed by another one. -/
def append (f g : Fragment) : Fragment := ⟨pushParts f.parts g.parts, f.params ++ g.params⟩

instance : Append Fragment := ⟨append⟩

/-- The fragment of a text. -/
def ofText (text : String) : Fragment := empty.push text

/-- The fragment of an identifier. -/
def ofIdent (name : String) : Fragment := empty.pushIdent name

/-- The fragment of a parameter. -/
def ofValue (value : Value) : Fragment := empty.pushValue value

/-- Whether a fragment has neither parameters nor text other than blanks. -/
def isBlank (f : Fragment) : Bool :=
  f.params.isEmpty && f.parts.all fun p => match p with
    | .raw s => Text.allBlank s
    | .slot => false

/-- **The text of a fragment**, its placeholders numbered from one on. -/
def text (f : Fragment) : String := render 0 f.parts

/-- **The statement of a fragment.** -/
def statement (f : Fragment) : Statement := ⟨f.text, f.params⟩

/-- Equality of fragments: the same parts and equal parameters. -/
def same (f g : Fragment) : Bool :=
  f.parts == g.parts && f.params.length == g.params.length &&
    (f.params.zip g.params).all fun (v, w) => v.same w

end Fragment

end TableGateway.Sql
