import FilterSql.DecimalText

/-!
# Dates and times of day

Dates of the proleptic Gregorian calendar, times of day that may be a leap
second, and points in time with an offset from universal time.  A date and a
time of day can only be built from parts that exist.
-/

namespace FilterSql

namespace Calendar

def isLeapYear (year : Int) : Bool :=
  year % 4 == 0 && (year % 100 != 0 || year % 400 == 0)

/-- The number of days of a month; there are none in a month that does not
exist. -/
def daysInMonth (year : Int) (month : Nat) : Nat :=
  if month ∈ [1, 3, 5, 7, 8, 10, 12] then 31
  else if month ∈ [4, 6, 9, 11] then 30
  else if month = 2 then if isLeapYear year then 29 else 28
  else 0

/-- The number of days from the start of year 1 to the start of a year. -/
def daysBeforeYear (year : Int) : Int :=
  let passed := year - 1
  passed * 365 + passed / 4 - passed / 100 + passed / 400

def daysBeforeMonth (year : Int) (month : Nat) : Nat :=
  (List.range month).foldl (fun days earlier => days + daysInMonth year earlier)
    0

/-- The number of a day that is given by its parts; the first day of year 1 has
number 1. -/
def dayNumber (year : Int) (month day : Nat) : Int :=
  daysBeforeYear year + daysBeforeMonth year month + day

end Calendar

structure Date where
  year : Int
  month : Nat
  day : Nat
  yearExists : -262143 ≤ year ∧ year ≤ 262142
  dayExists : 1 ≤ day ∧ day ≤ Calendar.daysInMonth year month
  deriving DecidableEq

namespace Date

/-- The day with the given parts, if there is one. -/
def ofParts? (year : Int) (month day : Nat) : Option Date :=
  if yearExists : -262143 ≤ year ∧ year ≤ 262142 then
    if dayExists : 1 ≤ day ∧ day ≤ Calendar.daysInMonth year month then
      some ⟨year, month, day, yearExists, dayExists⟩
    else none
  else none

def number (date : Date) : Int :=
  Calendar.dayNumber date.year date.month date.day

@[simp]
theorem ofParts?_parts (date : Date) :
    ofParts? date.year date.month date.day = some date := by
  simp [ofParts?, date.yearExists, date.dayExists]

end Date

/-- A second of a day; second 60 is a leap second, which any minute can have. -/
structure TimeOfDay where
  hour : Nat
  minute : Nat
  second : Nat
  hourExists : hour < 24
  minuteExists : minute < 60
  secondExists : second ≤ 60
  deriving DecidableEq

namespace TimeOfDay

def ofParts? (hour minute second : Nat) : Option TimeOfDay :=
  if exist : hour < 24 ∧ minute < 60 ∧ second ≤ 60 then
    some ⟨hour, minute, second, exist.1, exist.2.1, exist.2.2⟩
  else none

@[simp]
theorem ofParts?_parts (time : TimeOfDay) :
    ofParts? time.hour time.minute time.second = some time := by
  simp [ofParts?, time.hourExists, time.minuteExists, time.secondExists]

end TimeOfDay

structure DateTime where
  date : Date
  time : TimeOfDay
  deriving DecidableEq

/-- A point in time, as it is shown where clocks are `offset` minutes ahead of
universal time. -/
structure Timestamp where
  date : Date
  time : TimeOfDay
  nanosecond : Nat
  offset : Int
  nanosecondExists : nanosecond < 1000000000
  offsetExists : -1440 < offset ∧ offset < 1440
  deriving DecidableEq

namespace Timestamp

/-- The number of minutes of universal time that have passed. -/
def universalMinute (timestamp : Timestamp) : Int :=
  (timestamp.date.number * 24 + timestamp.time.hour) * 60 +
    timestamp.time.minute - timestamp.offset

/-- Timestamps are compared by the point in time, whatever the offset; a leap
second differs from the second after it. -/
instance : BEq Timestamp :=
  ⟨fun first second =>
    first.universalMinute == second.universalMinute &&
      first.time.second == second.time.second &&
      first.nanosecond == second.nanosecond⟩

end Timestamp

end FilterSql
