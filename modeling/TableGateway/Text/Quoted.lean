import TableGateway.Text.Unprintable

/-! # Quoted texts

A text in double quotes in which every character can be seen: the quote and the backslash are
escaped, four controls have letters of their own, and an unprintable character is shown by its code
point in braces (`\u{200b}`). -/

namespace TableGateway.Text

/-- The digits of a number in base sixteen, in lower case and without leading zeros. -/
def hex (n : Nat) : List Char := Nat.toDigits 16 n

/-- One character as it stands in a quoted text. -/
def quotedChar (c : Char) : List Char :=
  if c = '"' then ['\\', '"']
  else if c = '\\' then ['\\', '\\']
  else if c.toNat = 0 then ['\\', '0']
  else if c = '\t' then ['\\', 't']
  else if c = '\n' then ['\\', 'n']
  else if c = '\r' then ['\\', 'r']
  else if isUnprintable c then ['\\', 'u', '\x7b'] ++ hex c.toNat ++ ['\x7d']
  else [c]

/-- **The quoted form of a text.** -/
def quoted (s : String) : String :=
  String.ofList ('"' :: s.toList.flatMap quotedChar ++ ['"'])

end TableGateway.Text
