import TableGateway.Calendar.Date
import TableGateway.Calendar.Time

/-! # Timestamps

A point in time is a date and a time of day in universal time. It is counted in seconds since 1970 by
callers and in microseconds since 2000 on the wire.

* `Timestamp.ofUnix?`, `Timestamp.unixSeconds` : seconds since 1 January 1970
* `Timestamp.ofMicros?`, `Timestamp.micros` : microseconds since 1 January 2000 -/

namespace TableGateway.Calendar

/-- **A point in time.** -/
structure Timestamp where
  date : Date
  time : Time
  deriving DecidableEq, Repr

namespace Timestamp

/-- The whole seconds since 1 January 1970. -/
def unixSeconds (t : Timestamp) : Int := (t.date.day + 10957) * 86400 + t.time.second

/-- The point in time with the given seconds since 1970 and nanoseconds, if there is one. -/
def ofUnix? (seconds : Int) (nanos : Nat) : Option Timestamp := do
  let date ← Date.ofDay? (seconds / 86400 - 10957)
  let time ← Time.ofSeconds? (seconds % 86400).toNat nanos
  return ⟨date, time⟩

/-- The microseconds since 1 January 2000; a part of a microsecond is cut off towards that day. -/
def micros (t : Timestamp) : Int :=
  Int.tdiv (t.date.day * 86400000000000 + t.time.second * 1000000000 + t.time.nanos) 1000

/-- The point in time that is some microseconds after 1 January 2000, if its date is in range. -/
def ofMicros? (micros : Int) : Option Timestamp :=
  (Date.ofDay? (micros / 86400000000)).map fun date => ⟨date, Time.ofMicros micros⟩

theorem micros_of_ofMicros? {micros : Int} {t : Timestamp} (h : ofMicros? micros = some t) :
    t.micros = micros := by
  unfold ofMicros? at h
  obtain ⟨date, hd, rfl⟩ := Option.map_eq_some_iff.1 h
  have hday := Date.day_of_ofDay? hd
  unfold Timestamp.micros Time.ofMicros
  simp only [hday]
  have hz : micros / 86400000000 * 86400000000000 +
      (((micros % 86400000000).toNat / 1000000 : Nat) : Int) * 1000000000 +
      (((micros % 86400000000).toNat % 1000000 * 1000 : Nat) : Int) = micros * 1000 := by
    omega
  rw [hz, Int.mul_tdiv_cancel _ (by decide)]

end Timestamp

end TableGateway.Calendar
