/-!
# Calendar dates

A date is a number of days since 1 January 1970 in the proleptic Gregorian
calendar.  Year, month, day, day of the year, weekday and ISO week are views of
that number.  Dates exist for a fixed range of years around the common era.
-/

namespace DocumentIngest

/-- A calendar date, as days since 1 January 1970. -/
structure Date where
  dayNumber : Int
deriving DecidableEq, Repr, Inhabited

namespace Date

def leastYear : Int := -262143

def greatestYear : Int := 262142

def isLeapYear (year : Int) : Bool :=
  year % 4 == 0 && (year % 100 != 0 || year % 400 == 0)

def daysInYear (year : Int) : Nat :=
  if isLeapYear year then 366 else 365

def daysInMonth (year : Int) (month : Nat) : Nat :=
  if month = 2 then (if isLeapYear year then 29 else 28)
  else if month = 4 ∨ month = 6 ∨ month = 9 ∨ month = 11 then 30
  else 31

/-- The number of days before the first of January of a year. -/
def yearStart (year : Int) : Int :=
  let past := year - 1
  365 * past + past / 4 - past / 100 + past / 400 - 719162

/-- The number of days of a year before the first of a month. -/
def monthStart (year : Int) (month : Nat) : Nat :=
  (List.range (month - 1)).foldl (fun days earlier => days + daysInMonth year (earlier + 1)) 0

/-- The year that a day falls into: an estimate that is at most one off,
corrected by the starts of the years around it. -/
def yearOf (dayNumber : Int) : Int :=
  let estimate := (400 * (dayNumber + 719162)) / 146097 + 1
  if dayNumber < yearStart estimate then estimate - 1
  else if yearStart (estimate + 1) ≤ dayNumber then estimate + 1
  else estimate

def year (date : Date) : Int :=
  yearOf date.dayNumber

/-- The day of the year, from one. -/
def ordinal (date : Date) : Nat :=
  (date.dayNumber - yearStart date.year).toNat + 1

/-- The month and day that a day of a year falls on, looked for from a month on. -/
def monthAndDay (year : Int) (month ordinal : Nat) : Nat → Nat × Nat
  | 0 => (month, ordinal)
  | months + 1 =>
      if ordinal ≤ daysInMonth year month then (month, ordinal)
      else monthAndDay year (month + 1) (ordinal - daysInMonth year month) months

def month (date : Date) : Nat :=
  (monthAndDay date.year 1 date.ordinal 11).1

def day (date : Date) : Nat :=
  (monthAndDay date.year 1 date.ordinal 11).2

/-- The quarter of the year, from one. -/
def quarter (date : Date) : Nat :=
  (date.month - 1) / 3 + 1

/-- The day of the week, Monday being zero. -/
def weekday (date : Date) : Nat :=
  ((date.dayNumber + 3) % 7).toNat

/-- How many days a weekday lies behind another one. -/
def daysSince (weekday start : Nat) : Nat :=
  (weekday + 7 - start) % 7

/-- The week of the year when weeks start at the given weekday; days before the
first such weekday are in week zero. -/
def weekFrom (date : Date) (start : Nat) : Nat :=
  (date.ordinal + 6 - daysSince date.weekday start) / 7

/-- The Monday of the first ISO week of a year, the week of 4 January. -/
def firstIsoMonday (year : Int) : Int :=
  let fourth : Date := ⟨yearStart year + 3⟩
  fourth.dayNumber - fourth.weekday

/-- The year that the ISO week of a date belongs to. -/
def isoYear (date : Date) : Int :=
  if date.dayNumber < firstIsoMonday date.year then date.year - 1
  else if firstIsoMonday (date.year + 1) ≤ date.dayNumber then date.year + 1
  else date.year

/-- The number of the ISO week of a date, from one. -/
def isoWeek (date : Date) : Nat :=
  ((date.dayNumber - firstIsoMonday date.isoYear) / 7).toNat + 1

/-- The number of ISO weeks of a year. -/
def isoWeeksIn (year : Int) : Nat :=
  ((firstIsoMonday (year + 1) - firstIsoMonday year) / 7).toNat

/-- A date whose year is one of those that exist. -/
def inRange? (date : Date) : Option Date :=
  if yearStart leastYear ≤ date.dayNumber ∧ date.dayNumber < yearStart (greatestYear + 1) then
    some date
  else none

/-- The date of a day of a year. -/
def ofOrdinal? (year : Int) (ordinal : Nat) : Option Date :=
  if leastYear ≤ year ∧ year ≤ greatestYear ∧ 1 ≤ ordinal ∧ ordinal ≤ daysInYear year then
    some ⟨yearStart year + (ordinal - 1 : Nat)⟩
  else none

/-- The date of a day of a month. -/
def ofMonthDay? (year : Int) (month day : Nat) : Option Date :=
  if leastYear ≤ year ∧ year ≤ greatestYear ∧ 1 ≤ month ∧ month ≤ 12 ∧ 1 ≤ day ∧
      day ≤ daysInMonth year month then
    some ⟨yearStart year + (monthStart year month : Nat) + (day - 1 : Nat)⟩
  else none

/-- The date of a weekday of an ISO week. -/
def ofIsoWeek? (year : Int) (week weekday : Nat) : Option Date :=
  if 1 ≤ week ∧ week ≤ isoWeeksIn year then
    inRange? ⟨firstIsoMonday year + (7 * (week - 1) + weekday : Nat)⟩
  else none

end Date

namespace Calendar

def secondsPerDay : Int := 86400

/-- A number with at least the given number of digits. -/
def padded (width value : Nat) : List Char :=
  let digits := Nat.toDigits 10 value
  List.replicate (width - digits.length) '0' ++ digits

/-- The text of a year: four digits, and a sign when it has more or is negative. -/
def yearText (year : Int) : List Char :=
  if 0 ≤ year ∧ year ≤ 9999 then padded 4 year.toNat
  else if year < 0 then '-' :: padded 4 year.natAbs
  else '+' :: padded 4 year.natAbs

/-- The time stamp of a number of seconds since the epoch, in universal time;
nothing outside the range of dates. -/
def stampText? (seconds : Int) : Option String :=
  match Date.inRange? ⟨seconds / secondsPerDay⟩ with
  | none => none
  | some date =>
      let time := (seconds % secondsPerDay).toNat
      some (String.ofList
        (yearText date.year ++ '-' :: padded 2 date.month ++ '-' :: padded 2 date.day ++
          'T' :: padded 2 (time / 3600) ++ ':' :: padded 2 (time / 60 % 60) ++
          ':' :: padded 2 (time % 60) ++ ['Z']))

end Calendar

end DocumentIngest
