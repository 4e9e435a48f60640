/-!
# Timestamps

A moment on the proleptic Gregorian calendar, to the nanosecond and without a time zone. Its
fields name an existing day and an existing time of that day. A leap second is no second of its
own: it prolongs the second before it, so a fraction may come to a whole second or more. That it
prolongs the last second of a minute is not demanded.
-/

namespace Workflow

/-- Whether a year has a 29th of February. -/
def isLeapYear (year : Int) : Bool :=
  (year % 4 == 0 && year % 100 != 0) || year % 400 == 0

/-- The number of days of a month, from 1 to 12. -/
def daysInMonth (year : Int) (month : Nat) : Nat :=
  match month with
  | 2 => if isLeapYear year then 29 else 28
  | 4 | 6 | 9 | 11 => 30
  | _ => 31

/-- The earliest year of a timestamp. -/
def Timestamp.minYear : Int := -262143

/-- The latest year of a timestamp. -/
def Timestamp.maxYear : Int := 262142

/-- The number of nanoseconds of a second. -/
def nanosPerSecond : Nat :=
  1000000000

/-- What the fields of a timestamp satisfy. -/
structure Timestamp.Valid (year : Int) (month day hour minute second nanosecond : Nat) : Prop where
  year_ge : minYear ≤ year
  year_le : year ≤ maxYear
  month_pos : 1 ≤ month
  month_le : month ≤ 12
  day_pos : 1 ≤ day
  day_le : day ≤ daysInMonth year month
  hour_lt : hour < 24
  minute_lt : minute < 60
  second_lt : second < 60
  nanosecond_lt : nanosecond < 2 * nanosPerSecond

instance {year : Int} {month day hour minute second nanosecond : Nat} :
    Decidable (Timestamp.Valid year month day hour minute second nanosecond) :=
  decidable_of_iff
    (Timestamp.minYear ≤ year ∧ year ≤ Timestamp.maxYear ∧ 1 ≤ month ∧ month ≤ 12 ∧ 1 ≤ day ∧
      day ≤ daysInMonth year month ∧ hour < 24 ∧ minute < 60 ∧ second < 60 ∧
      nanosecond < 2 * nanosPerSecond)
    ⟨fun ⟨a, b, c, d, e, f, g, h, i, j⟩ => ⟨a, b, c, d, e, f, g, h, i, j⟩,
      fun ⟨a, b, c, d, e, f, g, h, i, j⟩ => ⟨a, b, c, d, e, f, g, h, i, j⟩⟩

/-- A day and a time of that day. -/
structure Timestamp where
  year : Int
  month : Nat
  day : Nat
  hour : Nat
  minute : Nat
  second : Nat
  nanosecond : Nat
  valid : Timestamp.Valid year month day hour minute second nanosecond
deriving DecidableEq, Repr

namespace Timestamp

/-- The timestamp with the given fields, if there is one. -/
def ofFields? (year : Int) (month day hour minute second nanosecond : Nat) : Option Timestamp :=
  if h : Valid year month day hour minute second nanosecond then
    some ⟨year, month, day, hour, minute, second, nanosecond, h⟩
  else none

/-- The start of 1970, from which clocks count. -/
def epoch : Timestamp :=
  ⟨1970, 1, 1, 0, 0, 0, 0, by decide⟩

instance : Inhabited Timestamp := ⟨epoch⟩

/-- The year, month and day that lie a number of days after the start of 1970. Years are taken to
begin in March, so that the leap day is the last of its year, in eras of 400 years. -/
def civilOfDays (days : Int) : Int × Nat × Nat :=
  let shifted := days + 719468
  let era := shifted / 146097
  let dayOfEra := (shifted % 146097).toNat
  let yearOfEra := (dayOfEra - dayOfEra / 1460 + dayOfEra / 36524 - dayOfEra / 146096) / 365
  let dayOfYear := dayOfEra - (365 * yearOfEra + yearOfEra / 4 - yearOfEra / 100)
  let monthFromMarch := (5 * dayOfYear + 2) / 153
  let day := dayOfYear - (153 * monthFromMarch + 2) / 5 + 1
  let month := if monthFromMarch < 10 then monthFromMarch + 3 else monthFromMarch - 9
  let year := yearOfEra + era * 400
  (if month ≤ 2 then year + 1 else year, month, day)

/-- The timestamp of a clock that counts nanoseconds from the start of 1970, among them none of a
leap second. A reading outside the calendar counts as none. -/
def ofEpochNanos (nanos : Int) : Timestamp :=
  let (year, month, day) := civilOfDays (nanos / (86400 * nanosPerSecond))
  let time := (nanos % (86400 * nanosPerSecond)).toNat
  let second := time / nanosPerSecond
  (ofFields? year month day (second / 3600) (second / 60 % 60) (second % 60)
    (time % nanosPerSecond)).getD epoch

end Timestamp

end Workflow
