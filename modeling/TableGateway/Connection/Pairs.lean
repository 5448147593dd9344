import TableGateway.Connection.Setting
import TableGateway.Text.Blank

/-! # Settings as pairs

A connection spelled as `key=value` pairs between blanks. Blanks may stand around the equals sign. A value
in single quotes may hold blanks; a backslash takes the character after it as it is.

* `readPairs?` : the settings that a text spells -/

namespace TableGateway.Connection

open TableGateway.Text

/-- A value up to the next blank, and the rest. -/
def bareValue : List Char → List Char × List Char
  | [] => ([], [])
  | ['\\'] => ([], [])
  | '\\' :: c :: cs => let (value, rest) := bareValue cs; (c :: value, rest)
  | c :: cs =>
    if isBlank c then ([], c :: cs) else let (value, rest) := bareValue cs; (c :: value, rest)

/-- A value up to the closing quote, and the rest. -/
def quotedValue? : List Char → Option (List Char × List Char)
  | [] => none
  | ['\\'] => none
  | '\\' :: c :: cs => (quotedValue? cs).map fun (value, rest) => (c :: value, rest)
  | c :: cs =>
    if c = '\'' then some ([], cs)
    else (quotedValue? cs).map fun (value, rest) => (c :: value, rest)

/-- A value, and the rest. A value without quotes is not empty. -/
def readValue? : List Char → Option (List Char × List Char)
  | '\'' :: cs => quotedValue? cs
  | cs =>
    match bareValue cs with
    | ([], _) => none
    | (value, rest) => some (value, rest)

/-- Whether a character belongs to a key. -/
def isKeyChar (c : Char) : Bool := !isBlank c && c != '='

/-- What follows a key. -/
def readSetting? (cs : List Char) : Option (Setting × List Char) :=
  let key := cs.takeWhile isKeyChar
  match dropBlank (cs.dropWhile isKeyChar) with
  | '=' :: rest =>
    (readValue? (dropBlank rest)).map fun (value, rest) =>
      (⟨String.ofList key, String.ofList value⟩, rest)
  | _ => none

/-- The settings, with at most `n` of them read. Where no key stands, the text is left. -/
def readSettings? : Nat → List Char → Option (List Setting)
  | 0, _ => some []
  | n + 1, cs =>
    let cs := dropBlank cs
    if (cs.takeWhile isKeyChar).isEmpty then some []
    else do
      let (setting, rest) ← readSetting? cs
      let settings ← readSettings? n rest
      return setting :: settings

/-- **The settings that a text spells.** Each one takes a character at least. -/
def readPairs? (cs : List Char) : Option (List Setting) := readSettings? (cs.length + 1) cs

end TableGateway.Connection
