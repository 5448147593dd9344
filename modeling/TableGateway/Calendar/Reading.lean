import TableGateway.Calendar.Timestamp
import TableGateway.Text.Blank

/-! # Reading dates and times

A date is spelled `year-month-day` and a time `hour:minute`, with `:second` and a fraction after it if
need be. Blanks may stand around every number. A year has at most four digits unless it has a sign; the
other numbers have at most two.

* `readDate` : the date that a text spells, or what is wrong with the text
* `readTime` : the time that a text spells, or what is wrong with the text -/

namespace TableGateway.Calendar

open TableGateway.Text

/-- What can be wrong with the text of a date or a time. -/
inductive Fault where
  | invalid
  | tooShort
  | tooLong
  | outOfRange
  deriving DecidableEq, Repr

def Fault.message : Fault → String
  | invalid => "input contains invalid characters"
  | tooShort => "premature end of input"
  | tooLong => "trailing input"
  | outOfRange => "input is out of range"

/-- The number that decimal digits spell. -/
def digitsValue (cs : List Char) : Nat :=
  cs.foldl (fun n c => n * 10 + (c.toNat - '0'.toNat)) 0

/-- The digits at the head of a text, at most `width` of them if a width is given, and the rest. -/
def readDigits (width : Option Nat) (cs : List Char) : Except Fault (List Char × List Char) :=
  let head := match width with
    | some w => cs.take w
    | none => cs
  let digits := head.takeWhile Char.isDigit
  if cs.isEmpty then .error .tooShort
  else if digits.isEmpty then .error .invalid
  else .ok (digits, cs.drop digits.length)

/-- A number of at most two digits between two bounds, and the rest. -/
def readField (low high : Nat) (cs : List Char) : Except Fault (Nat × List Char) := do
  let (digits, rest) ← readDigits (some 2) (dropBlank cs)
  let n := digitsValue digits
  if low ≤ n ∧ n ≤ high then return (n, rest) else throw .outOfRange

/-- The rest after a character that has to come next, leading blanks left out. -/
def readMark (mark : Char) (cs : List Char) : Except Fault (List Char) :=
  match dropBlank cs with
  | [] => .error .tooShort
  | c :: rest => if c = mark then .ok rest else .error .invalid

/-- A year, and the rest. -/
def readYear (cs : List Char) : Except Fault (Int × List Char) := do
  let (year, rest) ← match dropBlank cs with
    | '-' :: cs => do
      let (digits, rest) ← readDigits none cs
      pure (-(digitsValue digits : Int), rest)
    | '+' :: cs => do
      let (digits, rest) ← readDigits none cs
      pure ((digitsValue digits : Int), rest)
    | cs => do
      let (digits, rest) ← readDigits (some 4) cs
      pure ((digitsValue digits : Int), rest)
  if -Int.pow 2 31 ≤ year ∧ year < Int.pow 2 31 then return (year, rest) else throw .outOfRange

/-- Nothing but blanks may be left. -/
def readEnd (cs : List Char) : Except Fault Unit :=
  if (dropBlank cs).isEmpty then .ok () else .error .tooLong

/-- **The date that a text spells.** -/
def readDate (s : String) : Except Fault Date := do
  let (year, cs) ← readYear s.toList
  let cs ← readMark '-' cs
  let (month, cs) ← readField 1 12 cs
  let cs ← readMark '-' cs
  let (day, cs) ← readField 1 31 cs
  readEnd cs
  match Date.ofCivil? year month day with
  | some date => return date
  | none => throw .outOfRange

/-- A fraction of a second as nanoseconds, and the rest; digits after the ninth do not count. -/
def readFraction (cs : List Char) : Except Fault (Nat × List Char) :=
  match cs with
  | '.' :: cs => do
    let (digits, rest) ← readDigits (some 9) cs
    return (digitsValue digits * Nat.pow 10 (9 - digits.length), rest.dropWhile Char.isDigit)
  | cs => return (0, cs)

/-- The second and the nanoseconds, and the rest. Second 60 is a leap second. -/
def readSeconds (cs : List Char) : Except Fault (Nat × Nat × List Char) := do
  let cs ← readMark ':' cs
  let (second, cs) ← readField 0 60 cs
  let (nanos, cs) ← readFraction cs
  if second = 60 then return (59, nanos + 1000000000, cs) else return (second, nanos, cs)

/-- **The time that a text spells.** Where no seconds can be read, none are taken. -/
def readTime (s : String) : Except Fault Time := do
  let (hour, cs) ← readField 0 23 s.toList
  let cs ← readMark ':' cs
  let (minute, cs) ← readField 0 59 cs
  let (second, nanos, cs) := match readSeconds cs with
    | .ok r => r
    | .error _ => (0, 0, cs)
  readEnd cs
  match Time.ofParts? hour minute second nanos with
  | some time => return time
  | none => throw .outOfRange

end TableGateway.Calendar
