/-!
# Dates

Dates of the proleptic Gregorian calendar, from the first day of the year `-262143` to the last day
of the year `262142`.  The year before the year one is the year zero.

## Main definitions

* `Date` : a year, a month and a day that exists in it.
* `Date.of?` : the date of three numbers, if there is one.
* `Date.next?`, `Date.prev?` : the neighbouring days.
* `Date.ordinal`, `Date.dayNumber` : the place of a date in its year and in all of time.
* `Date.daysSinceMonday`, `Date.isoWeek` : the weekday and the week of a date.

## Main results

* `Date.of?_parts` : the parts of a date give it back.
* `Date.next?_eq_of_lt`, `Date.prev?_eq_of_lt` : neighbours inside a month.
-/

namespace BiblioQuery

/-- A year with a twenty-ninth of February. -/
def isLeapYear (year : Int) : Bool :=
  year % 4 == 0 && (year % 100 != 0 || year % 400 == 0)

/-- The number of days of a month. -/
def daysInMonth (year : Int) (month : Nat) : Nat :=
  if month = 2 then if isLeapYear year then 29 else 28
  else if month = 4 ∨ month = 6 ∨ month = 9 ∨ month = 11 then 30
  else 31

theorem daysInMonth_pos (year : Int) (month : Nat) : 0 < daysInMonth year month := by
  unfold daysInMonth
  split
  · split <;> decide
  · split <;> decide

/-- The first year of the calendar. -/
def minYear : Int := -262143

/-- The last year of the calendar. -/
def maxYear : Int := 262142

/-- A date of the proleptic Gregorian calendar. -/
structure Date where
  /-- The year. -/
  year : Int
  /-- The month, counted from one. -/
  month : Nat
  /-- The day of the month, counted from one. -/
  day : Nat
  /-- The year lies in the calendar. -/
  year_mem : minYear ≤ year ∧ year ≤ maxYear
  /-- The month is one of twelve. -/
  month_mem : 1 ≤ month ∧ month ≤ 12
  /-- The day exists in the month. -/
  day_mem : 1 ≤ day ∧ day ≤ daysInMonth year month
  deriving DecidableEq

namespace Date

/-- Earlier dates come first. -/
instance : Ord Date :=
  ⟨compareLex (compareOn Date.year) (compareLex (compareOn Date.month) (compareOn Date.day))⟩

/-- The date of a year, a month and a day, if there is one. -/
def of? (year : Int) (month day : Nat) : Option Date :=
  if h : (minYear ≤ year ∧ year ≤ maxYear) ∧ (1 ≤ month ∧ month ≤ 12) ∧
      (1 ≤ day ∧ day ≤ daysInMonth year month) then
    some ⟨year, month, day, h.1, h.2.1, h.2.2⟩
  else none

/-- The parts of a date give it back. -/
@[simp]
theorem of?_parts (d : Date) : of? d.year d.month d.day = some d := by
  simp [of?, d.year_mem, d.month_mem, d.day_mem]

/-- The first day of the year 1970. -/
def epoch : Date := ⟨1970, 1, 1, by decide, by decide, by decide⟩

instance : Inhabited Date := ⟨epoch⟩

/-! ### Neighbouring days -/

/-- The day after a date, unless it is the last of the calendar. -/
def next? (d : Date) : Option Date :=
  if d.day < daysInMonth d.year d.month then of? d.year d.month (d.day + 1)
  else if d.month < 12 then of? d.year (d.month + 1) 1
  else of? (d.year + 1) 1 1

/-- The day before a date, unless it is the first of the calendar. -/
def prev? (d : Date) : Option Date :=
  if 1 < d.day then of? d.year d.month (d.day - 1)
  else if 1 < d.month then of? d.year (d.month - 1) (daysInMonth d.year (d.month - 1))
  else of? (d.year - 1) 12 31

/-- Inside a month the next day has the next number. -/
theorem next?_eq_of_lt {d : Date} (h : d.day < daysInMonth d.year d.month) :
    next? d = of? d.year d.month (d.day + 1) := by
  simp [next?, h]

/-- Inside a month the day before has the number before. -/
theorem prev?_eq_of_lt {d : Date} (h : 1 < d.day) :
    prev? d = of? d.year d.month (d.day - 1) := by
  simp [prev?, h]

/-! ### Counting days -/

/-- The number of days of a year before the given month. -/
def daysBeforeMonth (year : Int) : Nat → Nat
  | 0 => 0
  | 1 => 0
  | month + 1 => daysBeforeMonth year month + daysInMonth year month

/-- The place of a date in its year, counted from one. -/
def ordinal (d : Date) : Nat := daysBeforeMonth d.year d.month + d.day

/-- The number of days from the first day of the year one to the first day of a year. -/
def daysBeforeYear (year : Int) : Int :=
  let y := year - 1
  365 * y + y / 4 - y / 100 + y / 400

/-- The number of days since the first day of the year one. -/
def dayNumber (d : Date) : Int := daysBeforeYear d.year + d.ordinal - 1

/-- The weekday of a date, as the number of days since Monday. -/
def daysSinceMonday (d : Date) : Nat := (d.dayNumber % 7).toNat

/-- The number of days of a year. -/
def daysInYear (year : Int) : Nat := if isLeapYear year then 366 else 365

/-- The number of weeks of a year: those whose Thursday lies in it. -/
def weeksInYear (year : Int) : Nat :=
  let firstDay := (daysBeforeYear year % 7).toNat
  if firstDay == 3 || (firstDay == 2 && isLeapYear year) then 53 else 52

/-- The year and the number of the week of a date: the week belongs to the year of its Thursday. -/
def isoWeek (d : Date) : Int × Nat :=
  let week := (d.ordinal + 9 - d.daysSinceMonday) / 7
  if week = 0 then (d.year - 1, weeksInYear (d.year - 1))
  else if weeksInYear d.year < week then (d.year + 1, 1)
  else (d.year, week)

end Date

end BiblioQuery
