/-! # Dates

Dates of the proleptic Gregorian calendar, from 1 January of year -262143 to 31 December of year 262142,
each held as the number of days since 1 January 2000. The calendar repeats every 400 years, which are
146097 days; within such an era days are counted from 1 March, so that the leap day comes last.

* `dayNumber` : the day that a year, a month and a day of the month name
* `Date.civil` : the year, the month and the day of the month of a date -/

namespace TableGateway.Calendar

/-- The day, counted from 1 January 2000, that a year, a month and a day of the month name. -/
def dayNumber (year : Int) (month day : Nat) : Int :=
  let y := if month ≤ 2 then year - 1 else year
  let m := if month ≤ 2 then month + 9 else month - 3
  let era := y / 400
  let yearOfEra := y % 400
  let dayOfYear : Int := (153 * m + 2) / 5 + day - 1
  era * 146097 + yearOfEra * 365 + yearOfEra / 4 - yearOfEra / 100 + dayOfYear - 730425

/-- The year, the month and the day of the month of a day counted from 1 January 2000. -/
def civilOfDay (day : Int) : Int × Nat × Nat :=
  let z := day + 730425
  let era := z / 146097
  let dayOfEra := (z % 146097).toNat
  let yearOfEra :=
    (dayOfEra - dayOfEra / 1460 + dayOfEra / 36524 - dayOfEra / 146096) / 365
  let dayOfYear := dayOfEra - (365 * yearOfEra + yearOfEra / 4 - yearOfEra / 100)
  let m := (5 * dayOfYear + 2) / 153
  let month := if m < 10 then m + 3 else m - 9
  let year := era * 400 + yearOfEra + if month ≤ 2 then 1 else 0
  (year, month, dayOfYear - (153 * m + 2) / 5 + 1)

def isLeapYear (year : Int) : Bool := year % 4 == 0 && (year % 100 != 0 || year % 400 == 0)

/-- The number of days of a month. -/
def monthLength (year : Int) (month : Nat) : Nat :=
  if month = 2 then if isLeapYear year then 29 else 28
  else if month = 4 ∨ month = 6 ∨ month = 9 ∨ month = 11 then 30
  else 31

/-- **A date**, as the number of days since 1 January 2000. -/
structure Date where
  day : Int
  first_le : -96476249 ≤ day
  le_last : day ≤ 95015279
  deriving DecidableEq, Repr

namespace Date

/-- The date of a day, if it is in range. -/
def ofDay? (day : Int) : Option Date :=
  if h : -96476249 ≤ day ∧ day ≤ 95015279 then some ⟨day, h.1, h.2⟩ else none

/-- The date that a year, a month and a day of the month name, if there is one in range. -/
def ofCivil? (year : Int) (month day : Nat) : Option Date :=
  if 1 ≤ month ∧ month ≤ 12 ∧ 1 ≤ day ∧ day ≤ monthLength year month then
    ofDay? (dayNumber year month day)
  else none

/-- The year, the month and the day of the month. -/
def civil (d : Date) : Int × Nat × Nat := civilOfDay d.day

theorem day_of_ofDay? {day : Int} {d : Date} (h : ofDay? day = some d) : d.day = day := by
  unfold ofDay? at h
  split at h
  · cases h; rfl
  · cases h

end Date

end TableGateway.Calendar
