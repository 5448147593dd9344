import TableGateway.Json.Basic
import TableGateway.Number.Shortest

/-! # Printing documents

A document is printed without blanks. In a string only the quote, the backslash and the controls are
escaped. A floating-point number is printed by its shortest decimal, written out if its exponent is
between -5 and 15 and with an exponent otherwise, and it always shows that it is no integer. -/

namespace TableGateway.Json

open TableGateway.Number

/-- One character as it stands in a printed string. -/
def escape (c : Char) : List Char :=
  if c = '"' then ['\\', '"']
  else if c = '\\' then ['\\', '\\']
  else if c.toNat = 0x08 then ['\\', 'b']
  else if c.toNat = 0x0C then ['\\', 'f']
  else if c = '\n' then ['\\', 'n']
  else if c = '\r' then ['\\', 'r']
  else if c = '\t' then ['\\', 't']
  else if c.toNat < 0x20 then
    ['\\', 'u', '0', '0', Nat.digitChar (c.toNat / 16), Nat.digitChar (c.toNat % 16)]
  else [c]

/-- A string with its quotes. -/
def printString (s : String) : List Char := '"' :: s.toList.flatMap escape ++ ['"']

/-- A floating-point number. -/
def printFloat (x : Binary64) : List Char :=
  if x.isFinite then
    let d := Shortest.ofBinary x
    (if x.isNegative then ['-'] else []) ++
      if -5 ≤ d.exponent ∧ d.exponent ≤ 15 then d.positional else d.withExponent
  else "null".toList

mutual

/-- The characters of a document. -/
def print : Json → List Char
  | null => "null".toList
  | bool b => (toString b).toList
  | integer n => (toString n).toList
  | float x => printFloat x
  | string s => printString s
  | array [] => ['[', ']']
  | array (item :: items) => '[' :: (print item ++ printItems items)
  | object [] => ['\x7b', '\x7d']
  | object ((key, value) :: members) =>
    '\x7b' :: (printString key ++ ':' :: (print value ++ printMembers members))

/-- The items after the first one, and the closing bracket. -/
def printItems : List Json → List Char
  | [] => [']']
  | item :: items => ',' :: (print item ++ printItems items)

/-- The members after the first one, and the closing brace. -/
def printMembers : List (String × Json) → List Char
  | [] => ['\x7d']
  | (key, value) :: members =>
    ',' :: (printString key ++ ':' :: (print value ++ printMembers members))

end

/-- **The text of a document.** -/
def text (j : Json) : String := String.ofList j.print

end TableGateway.Json
