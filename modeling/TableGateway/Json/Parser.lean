import TableGateway.Json.Number
import TableGateway.Text.Utf8
import TableGateway.Wire.Word

/-! # Reading documents

A document is read from bytes, so that a fault can be placed by line and column, both counted from one in
bytes. Blanks may stand between the parts of a document, nothing may follow it, and no more than 127
containers may be nested.

* `parseBytes` : the document that some bytes spell, or what is wrong with them and where
* `parse` : the same for a text -/

namespace TableGateway.Json

/-! ### Faults -/

def Cause.message : Cause → String
  | eofInList => "EOF while parsing a list"
  | eofInObject => "EOF while parsing an object"
  | eofInString => "EOF while parsing a string"
  | eofInValue => "EOF while parsing a value"
  | expectedColon => "expected \x60:\x60"
  | expectedListEnd => "expected \x60,\x60 or \x60]\x60"
  | expectedObjectEnd => "expected \x60,\x60 or \x60\x7d\x60"
  | expectedIdent => "expected ident"
  | expectedValue => "expected value"
  | invalidEscape => "invalid escape"
  | invalidNumber => "invalid number"
  | numberOutOfRange => "number out of range"
  | invalidCodePoint => "invalid unicode code point"
  | controlCharacter => "control character (\\u0000-\\u001F) found while parsing a string"
  | keyMustBeString => "key must be a string"
  | loneSurrogate => "lone leading surrogate in hex escape"
  | trailingComma => "trailing comma"
  | trailingCharacters => "trailing characters"
  | brokenSurrogatePair => "unexpected end of hex escape"
  | tooDeep => "recursion limit exceeded"

/-- A cause and its place. -/
structure Fault where
  cause : Cause
  line : Nat
  column : Nat
  deriving DecidableEq, Repr

def Fault.message (f : Fault) : String :=
  f.cause.message ++ " at line " ++ toString f.line ++ " column " ++ toString f.column

/-- The line and the column after some bytes. -/
def place (bytes : List UInt8) : Nat × Nat :=
  bytes.foldl
    (fun (p : Nat × Nat) b => if b = 10 then (p.1 + 1, 0) else (p.1, p.2 + 1)) (1, 0)

/-- The fault of a reading that stopped. -/
def Stop.fault (stop : Stop) (bytes : List UInt8) : Fault :=
  let (line, column) := place (bytes.take (bytes.length - stop.left))
  ⟨stop.cause, line, column⟩

/-! ### Strings -/

/-- The number that four hexadecimal digits spell. -/
def hexValue? (digits : List UInt8) : Option Nat :=
  digits.foldlM (fun n b =>
    if isDigit b then some (n * 16 + digitOf b)
    else if 97 ≤ b.toNat ∧ b.toNat ≤ 102 then some (n * 16 + (b.toNat - 87))
    else if 65 ≤ b.toNat ∧ b.toNat ≤ 70 then some (n * 16 + (b.toNat - 55))
    else none) 0

/-- Four hexadecimal digits, and what follows them. -/
def readHex (bytes : List UInt8) : Except Stop (Nat × List UInt8) :=
  match Wire.takeBytes 4 bytes with
  | none => .error ⟨.eofInString, 0⟩
  | some (digits, rest) =>
    match hexValue? digits with
    | some n => .ok (n, rest)
    | none => .error ⟨.invalidEscape, rest.length⟩

/-- One byte that has to come next in a pair of surrogates. -/
def readPairMark (mark : UInt8) : List UInt8 → Except Stop (List UInt8)
  | [] => .error ⟨.eofInString, 0⟩
  | b :: rest => if b = mark then .ok rest else .error ⟨.brokenSurrogatePair, rest.length⟩

/-- The bytes of a character given by its code point, read from after the letter `u` on. A character
beyond the basic plane takes a pair of surrogates. -/
def readCodePoint (bytes : List UInt8) : Except Stop (List UInt8 × List UInt8) := do
  let (n, rest) ← readHex bytes
  if 0xDC00 ≤ n ∧ n ≤ 0xDFFF then throw ⟨.loneSurrogate, rest.length⟩
  if n < 0xD800 ∨ 0xDBFF < n then
    return (Text.utf8 (String.singleton (Char.ofNat n)), rest)
  let rest ← readPairMark 92 rest
  let rest ← readPairMark 117 rest
  let (m, rest) ← readHex rest
  if m < 0xDC00 ∨ 0xDFFF < m then throw ⟨.loneSurrogate, rest.length⟩
  let c := Char.ofNat ((n - 0xD800) * 0x400 + (m - 0xDC00) + 0x10000)
  return (Text.utf8 (String.singleton c), rest)

/-- The bytes that an escape stands for, read from after the backslash on, and what follows it. -/
def readEscape : List UInt8 → Except Stop (List UInt8 × List UInt8)
  | [] => .error ⟨.eofInString, 0⟩
  | b :: rest =>
    if b = 34 ∨ b = 92 ∨ b = 47 then .ok ([b], rest)
    else if b = 98 then .ok ([8], rest)
    else if b = 102 then .ok ([12], rest)
    else if b = 110 then .ok ([10], rest)
    else if b = 114 then .ok ([13], rest)
    else if b = 116 then .ok ([9], rest)
    else if b = 117 then readCodePoint rest
    else .error ⟨.invalidEscape, rest.length⟩

/-- The bytes of a string up to its closing quote, in reverse, and what follows it. -/
def readStringBytes : Nat → List UInt8 → List UInt8 → Except Stop (List UInt8 × List UInt8)
  | 0, _, _ => .error ⟨.eofInString, 0⟩
  | _ + 1, _, [] => .error ⟨.eofInString, 0⟩
  | steps + 1, read, b :: rest =>
    if b = 34 then .ok (read, rest)
    else if b = 92 then do
      let (bytes, rest) ← readEscape rest
      readStringBytes steps (bytes.reverse ++ read) rest
    else if b.toNat < 32 then .error ⟨.controlCharacter, rest.length⟩
    else readStringBytes steps (b :: read) rest

/-- The string whose opening quote was read, and what follows it. -/
def readString (bytes : List UInt8) : Except Stop (String × List UInt8) := do
  let (read, rest) ← readStringBytes (bytes.length + 1) [] bytes
  match Text.ofUtf8? read.reverse with
  | some s => return (s, rest)
  | none => throw ⟨.invalidCodePoint, rest.length⟩

/-! ### Documents -/

def isBlank (b : UInt8) : Bool := b == 32 || b == 10 || b == 9 || b == 13

def skipBlank (bytes : List UInt8) : List UInt8 := bytes.dropWhile isBlank

/-- The bytes after a word of which the first letter was read. -/
def readWord : List UInt8 → List UInt8 → Except Stop (List UInt8)
  | [], bytes => .ok bytes
  | _ :: _, [] => .error ⟨.eofInValue, 0⟩
  | w :: ws, b :: rest => if b = w then readWord ws rest else .error ⟨.expectedIdent, rest.length⟩

/-- The key of a member and the bytes after its colon; the opening quote was read. -/
def readKey (bytes : List UInt8) : Except Stop (String × List UInt8) := do
  let (key, rest) ← readString bytes
  match skipBlank rest with
  | [] => throw ⟨.eofInObject, 0⟩
  | b :: rest => if b = 58 then return (key, rest) else throw ⟨.expectedColon, rest.length⟩

mutual

/-- One document, and what follows it. `depth` more containers may be nested, the last of them not. -/
def readValue : Nat → Nat → List UInt8 → Except Stop (Json × List UInt8)
  | 0, _, _ => .error ⟨.eofInValue, 0⟩
  | steps + 1, depth, bytes =>
    match skipBlank bytes with
    | [] => .error ⟨.eofInValue, 0⟩
    | b :: rest =>
      if b = 110 then (readWord [117, 108, 108] rest).map (.null, ·)
      else if b = 116 then (readWord [114, 117, 101] rest).map (.bool true, ·)
      else if b = 102 then (readWord [97, 108, 115, 101] rest).map (.bool false, ·)
      else if b = 45 then readNumber true rest
      else if isDigit b then readNumber false (b :: rest)
      else if b = 34 then (readString rest).map fun (s, rest) => (.string s, rest)
      else if b = 91 then
        if depth ≤ 1 then .error ⟨.tooDeep, rest.length⟩
        else
          match skipBlank rest with
          | 93 :: rest => .ok (.array [], rest)
          | _ => do
            let (items, rest) ← readItems steps (depth - 1) rest
            return (.array items, rest)
      else if b = 123 then
        if depth ≤ 1 then .error ⟨.tooDeep, rest.length⟩
        else
          match skipBlank rest with
          | 125 :: rest => .ok (.object [], rest)
          | [] => .error ⟨.eofInObject, 0⟩
          | 34 :: rest => do
            let (members, rest) ← readMembers steps (depth - 1) rest
            return (.ofMembers members, rest)
          | _ :: rest => .error ⟨.keyMustBeString, rest.length⟩
      else .error ⟨.expectedValue, rest.length⟩

/-- One item and those after it, up to the closing bracket. -/
def readItems : Nat → Nat → List UInt8 → Except Stop (List Json × List UInt8)
  | 0, _, _ => .error ⟨.eofInList, 0⟩
  | steps + 1, depth, bytes =>
    if (skipBlank bytes).isEmpty then .error ⟨.eofInList, 0⟩
    else do
      let (item, rest) ← readValue steps depth bytes
      match skipBlank rest with
      | [] => throw ⟨.eofInList, 0⟩
      | b :: rest =>
        if b = 93 then return ([item], rest)
        else if b = 44 then
          match skipBlank rest with
          | [] => throw ⟨.eofInValue, 0⟩
          | c :: after =>
            if c = 93 then throw ⟨.trailingComma, after.length⟩
            else
              let (items, rest) ← readItems steps depth rest
              return (item :: items, rest)
        else throw ⟨.expectedListEnd, rest.length⟩

/-- One member, whose opening quote was read, and those after it, up to the closing brace. -/
def readMembers : Nat → Nat → List UInt8 → Except Stop (List (String × Json) × List UInt8)
  | 0, _, _ => .error ⟨.eofInObject, 0⟩
  | steps + 1, depth, bytes => do
    let (key, rest) ← readKey bytes
    let (value, rest) ← readValue steps depth rest
    match skipBlank rest with
    | [] => throw ⟨.eofInObject, 0⟩
    | b :: rest =>
      if b = 125 then return ([(key, value)], rest)
      else if b = 44 then
        match skipBlank rest with
        | [] => throw ⟨.eofInValue, 0⟩
        | c :: after =>
          if c = 34 then
            let (members, rest) ← readMembers steps depth after
            return ((key, value) :: members, rest)
          else if c = 125 then throw ⟨.trailingComma, after.length⟩
          else throw ⟨.keyMustBeString, after.length⟩
      else throw ⟨.expectedObjectEnd, rest.length⟩

end

/-- **The document that some bytes spell.** -/
def parseBytes (bytes : List UInt8) : Except Fault Json :=
  match readValue (2 * bytes.length + 2) 128 bytes with
  | .error stop => .error (stop.fault bytes)
  | .ok (value, rest) =>
    match skipBlank rest with
    | [] => .ok value
    | _ :: after => .error (Stop.fault ⟨.trailingCharacters, after.length⟩ bytes)

/-- **The document that a text spells.** -/
def parse (s : String) : Except Fault Json := parseBytes (Text.utf8 s)

end TableGateway.Json
