/-! # Times of day

A time of day is a second of the day and nanoseconds. A leap second is held as the second before it with
more than a second of nanoseconds, which is possible only at the end of a minute. -/

namespace TableGateway.Calendar

/-- **A time of day**: the seconds since midnight and the nanoseconds beyond them. -/
structure Time where
  second : Nat
  nanos : Nat
  second_lt : second < 86400
  nanos_lt : nanos < 2000000000
  leap : 1000000000 ≤ nanos → second % 60 = 59
  deriving DecidableEq, Repr

namespace Time

/-- The time with the given seconds since midnight and nanoseconds, if there is one. -/
def ofSeconds? (second nanos : Nat) : Option Time :=
  if h : second < 86400 ∧ nanos < 2000000000 ∧ (1000000000 ≤ nanos → second % 60 = 59) then
    some ⟨second, nanos, h.1, h.2.1, h.2.2⟩
  else none

/-- The time with the given hour, minute, second and nanoseconds, if there is one. -/
def ofParts? (hour minute second nanos : Nat) : Option Time :=
  if hour < 24 ∧ minute < 60 ∧ second < 60 then
    ofSeconds? (hour * 3600 + minute * 60 + second) nanos
  else none

/-- The hour, the minute, the second and the nanoseconds. -/
def parts (t : Time) : Nat × Nat × Nat × Nat :=
  (t.second / 3600, t.second / 60 % 60, t.second % 60, t.nanos)

/-- The whole microseconds since midnight. -/
def micros (t : Time) : Nat := (t.second * 1000000000 + t.nanos) / 1000

/-- The time that is some microseconds after midnight, over as many days as it takes. -/
def ofMicros (micros : Int) : Time where
  second := (micros % 86400000000).toNat / 1000000
  nanos := (micros % 86400000000).toNat % 1000000 * 1000
  second_lt := by omega
  nanos_lt := by omega
  leap := by omega

end Time

end TableGateway.Calendar
