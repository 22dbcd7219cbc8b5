/-!
# Calendar times

Minutes of the Gregorian calendar, extended backwards and with a year 0, in universal time. A time
exists when its month, day, hour and minute do and its year lies in the supported range. Instants
are counted in seconds from the start of 1970; `ofUnix?` drops the seconds of the minute, towards
the past.
-/

namespace PlumeForm

namespace Calendar

/-- The earliest supported year. -/
def firstYear : Int := -262143

/-- The latest supported year. -/
def lastYear : Int := 262142

/-- A year with 29 days in February. -/
def isLeap (year : Int) : Bool :=
  year % 4 = 0 && (year % 100 ≠ 0 || year % 400 = 0)

/-- The lengths of the twelve months. -/
def monthLengths (leap : Bool) : List Nat :=
  [31, if leap then 29 else 28, 31, 30, 31, 30, 31, 31, 30, 31, 30, 31]

/-- The length of a month counted from 1; no days for a month that does not exist. -/
def daysInMonth (year : Int) (month : Nat) : Nat :=
  if month = 0 then 0 else (monthLengths (isLeap year)).getD (month - 1) 0

/-- The numbers name a minute of a supported year. -/
def Exists (year : Int) (month day hour minute : Nat) : Prop :=
  firstYear ≤ year ∧ year ≤ lastYear ∧ 1 ≤ month ∧ month ≤ 12 ∧ 1 ≤ day ∧
    day ≤ daysInMonth year month ∧ hour < 24 ∧ minute < 60

instance (year : Int) (month day hour minute : Nat) :
    Decidable (Exists year month day hour minute) :=
  inferInstanceAs (Decidable (_ ∧ _))

end Calendar

/-- A minute of the calendar. -/
structure CalendarTime where
  year : Int
  month : Nat
  day : Nat
  hour : Nat
  minute : Nat
  valid : Calendar.Exists year month day hour minute
deriving DecidableEq

namespace CalendarTime

open Calendar

/-- The minute that the numbers name, when there is one. -/
def ofParts? (year : Int) (month day hour minute : Nat) : Option CalendarTime :=
  if h : Exists year month day hour minute then some ⟨year, month, day, hour, minute, h⟩ else none

theorem ofParts?_eq_some_iff {year : Int} {month day hour minute : Nat} {t : CalendarTime} :
    ofParts? year month day hour minute = some t ↔
      t.year = year ∧ t.month = month ∧ t.day = day ∧ t.hour = hour ∧ t.minute = minute := by
  unfold ofParts?
  split
  · next h =>
    cases t
    simp only [Option.some.injEq, CalendarTime.mk.injEq]
    constructor <;> rintro ⟨rfl, rfl, rfl, rfl, rfl⟩ <;> exact ⟨rfl, rfl, rfl, rfl, rfl⟩
  · next h =>
    simp only [reduceCtorEq, false_iff]
    rintro ⟨rfl, rfl, rfl, rfl, rfl⟩
    exact h t.valid

theorem ofParts?_self (t : CalendarTime) :
    ofParts? t.year t.month t.day t.hour t.minute = some t :=
  ofParts?_eq_some_iff.2 ⟨rfl, rfl, rfl, rfl, rfl⟩

/-! ## Instants -/

/-- How many days lie between the start of year 1 and the start of a year. -/
def daysBeforeYear (year : Int) : Int :=
  let y := year - 1
  365 * y + y / 4 - y / 100 + y / 400

/-- How many days lie between the start of year 1 and the start of 1970. -/
def daysBeforeEpoch : Int := 719162

/-- The year of a day counted from the start of year 1. The mean length of a year gives it up to one
year. -/
def yearOfDay (day : Int) : Int :=
  let guess := day * 400 / 146097 + 1
  if day < daysBeforeYear guess then guess - 1
  else if daysBeforeYear (guess + 1) ≤ day then guess + 1
  else guess

/-- How many of the months are over, and the day within the next one, both counted from 0. -/
def splitMonths : List Nat → Nat → Nat × Nat
  | [], day => (0, day)
  | length :: lengths, day =>
    if day < length then (0, day)
    else
      let (months, rest) := splitMonths lengths (day - length)
      (months + 1, rest)

/-- The minute of an instant, when its year is supported. -/
def ofUnix? (seconds : Int) : Option CalendarTime :=
  let minutes := seconds / 60
  let day := minutes / 1440 + daysBeforeEpoch
  let ofDay := (minutes % 1440).toNat
  let year := yearOfDay day
  let (months, rest) := splitMonths (monthLengths (isLeap year)) (day - daysBeforeYear year).toNat
  ofParts? year (months + 1) (rest + 1) (ofDay / 60) (ofDay % 60)

/-- The instant at which a minute starts. -/
def toUnix (t : CalendarTime) : Int :=
  let months : Nat := ((monthLengths (isLeap t.year)).take (t.month - 1)).foldr (· + ·) 0
  let day := daysBeforeYear t.year + months + t.day - 1 - daysBeforeEpoch
  (day * 1440 + t.hour * 60 + t.minute) * 60

end CalendarTime

end PlumeForm
