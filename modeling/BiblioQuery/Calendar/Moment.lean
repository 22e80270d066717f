import BiblioQuery.Calendar.Date
import BiblioQuery.Number.Text

/-!
# Times, moments and instants

A clock time has a second of the day and a number of nanoseconds.  A leap second is written as the
second `60` of a minute and kept as the second before it with a nanosecond count beyond a whole
second, so that it comes after that second and before the next minute.

A moment is a date with a clock time, as a clock on a wall shows them.  An offset says how far such
a clock is ahead of universal time, and an instant is a moment of universal time.

## Main definitions

* `Clock`, `Moment`, `Offset`, `Instant` : the four notions.
* `Moment.minus?` : a moment put back by an offset.
* `Date.chars`, `Clock.chars`, `Moment.chars`, `Offset.chars`, `Instant.text` : their texts.

## Main results

* `Moment.minus?_utc` : the zero offset changes nothing.
-/

namespace BiblioQuery

/-! ### Types -/

/-- A time of day. -/
structure Clock where
  /-- The second of the day. -/
  second : Nat
  /-- The nanoseconds after that second; a whole second or more of them make a leap second. -/
  nano : Nat
  /-- The second lies in a day. -/
  second_lt : second < 86400
  /-- There are at most two seconds of nanoseconds. -/
  nano_lt : nano < 2000000000
  deriving DecidableEq

/-- Earlier times come first, a leap second after all of the second that it extends. -/
instance : Ord Clock := ⟨compareLex (compareOn Clock.second) (compareOn Clock.nano)⟩

/-- The first second of a day. -/
def Clock.midnight : Clock := ⟨0, 0, by decide, by decide⟩

/-- A date with a time of day. -/
structure Moment where
  /-- The date. -/
  date : Date
  /-- The time of day. -/
  clock : Clock
  deriving DecidableEq

/-- Earlier moments come first. -/
instance : Ord Moment := ⟨compareLex (compareOn Moment.date) (compareOn Moment.clock)⟩

/-- How far a clock is ahead of universal time: less than a day either way. -/
structure Offset where
  /-- The seconds that the clock is ahead. -/
  seconds : Int
  /-- The offset is shorter than a day. -/
  seconds_mem : -86400 < seconds ∧ seconds < 86400
  deriving DecidableEq

/-- The offset of universal time itself. -/
def Offset.utc : Offset := ⟨0, by decide⟩

instance : Inhabited Offset := ⟨Offset.utc⟩

/-- The offset of a number of seconds, if it is shorter than a day. -/
def Offset.of? (seconds : Int) : Option Offset :=
  if h : -86400 < seconds ∧ seconds < 86400 then some ⟨seconds, h⟩ else none

/-- A moment of universal time. -/
structure Instant where
  /-- The moment that a clock without offset shows. -/
  moment : Moment
  deriving DecidableEq

/-- Earlier instants come first. -/
instance : Ord Instant := ⟨compareOn Instant.moment⟩

/-- The first instant of the year 1970. -/
def Instant.epoch : Instant := ⟨⟨Date.epoch, Clock.midnight⟩⟩

instance : Inhabited Instant := ⟨Instant.epoch⟩

/-- The first instant is no later than the second. -/
def Instant.atMost (a b : Instant) : Bool := (compare a b).isLE

/-! ### Offsets applied -/

/-- The same time on the given day, put back by an offset; `none` outside the calendar. -/
def Moment.minus? (m : Moment) (o : Offset) : Option Moment :=
  let t : Int := m.clock.second - o.seconds
  have ho := o.seconds_mem
  have hs := m.clock.second_lt
  if h : t < 0 then
    m.date.prev?.map (⟨·, ⟨(t + 86400).toNat, m.clock.nano, by omega, m.clock.nano_lt⟩⟩)
  else if h' : t < 86400 then
    some ⟨m.date, ⟨t.toNat, m.clock.nano, by omega, m.clock.nano_lt⟩⟩
  else
    m.date.next?.map (⟨·, ⟨(t - 86400).toNat, m.clock.nano, by omega, m.clock.nano_lt⟩⟩)

/-- The zero offset changes nothing. -/
@[simp]
theorem Moment.minus?_utc (m : Moment) : m.minus? Offset.utc = some m := by
  have := m.clock.second_lt
  simp only [Moment.minus?, Offset.utc, Int.sub_zero]
  rw [dif_neg (by omega), dif_pos (by omega)]
  rfl

/-- The instant at which a clock with the given offset shows a moment. -/
def Moment.toInstant? (m : Moment) (o : Offset) : Option Instant := (m.minus? o).map Instant.mk

/-! ### Texts -/

/-- The text of a year: four digits, and a sign where that is not enough. -/
def yearChars (year : Int) : List Char :=
  if year < 0 then '-' :: paddedDigits 4 year.natAbs
  else if year < 10000 then paddedDigits 4 year.natAbs
  else '+' :: paddedDigits 4 year.natAbs

/-- The text of a date: year, month and day. -/
def Date.chars (d : Date) : List Char :=
  yearChars d.year ++ '-' :: paddedDigits 2 d.month ++ '-' :: paddedDigits 2 d.day

/-- The hour of a time of day. -/
def Clock.hour (t : Clock) : Nat := t.second / 3600

/-- The minute of the hour. -/
def Clock.minute (t : Clock) : Nat := t.second / 60 % 60

/-- The second of the minute, `60` in a leap second. -/
def Clock.shownSecond (t : Clock) : Nat := t.second % 60 + t.nano / 1000000000

/-- The nanoseconds after the second that is shown. -/
def Clock.fraction (t : Clock) : Nat := t.nano % 1000000000

/-- The text of a fraction of a second: nothing for zero, else a point and three, six or nine
digits, as few as it needs. -/
def fractionChars (nano : Nat) : List Char :=
  if nano = 0 then []
  else if nano % 1000000 = 0 then '.' :: paddedDigits 3 (nano / 1000000)
  else if nano % 1000 = 0 then '.' :: paddedDigits 6 (nano / 1000)
  else '.' :: paddedDigits 9 nano

/-- The text of a time of day: hour, minute, second and the fraction, if any. -/
def Clock.chars (t : Clock) : List Char :=
  paddedDigits 2 t.hour ++ ':' :: paddedDigits 2 t.minute ++ ':' :: paddedDigits 2 t.shownSecond ++
    fractionChars t.fraction

/-- The text of a moment: a `T` between date and time. -/
def Moment.chars (m : Moment) : List Char := m.date.chars ++ 'T' :: m.clock.chars

/-- The text of an offset: a sign, hours and minutes, and the seconds where there are some. -/
def Offset.chars (o : Offset) : List Char :=
  let n := o.seconds.natAbs
  (if o.seconds < 0 then '-' else '+') :: paddedDigits 2 (n / 3600) ++
    ':' :: paddedDigits 2 (n / 60 % 60) ++
    if n % 60 = 0 then [] else ':' :: paddedDigits 2 (n % 60)

/-- The text of an instant that ends in the letter for universal time. -/
def Instant.text (i : Instant) : String := String.ofList (i.moment.chars ++ ['Z'])

/-- The text of an instant that ends in the zero offset. -/
def Instant.offsetText (i : Instant) : String :=
  String.ofList (i.moment.chars ++ Offset.utc.chars)

/-- The text of an instant for readers: blanks between date, time and the name of the zone. -/
def Instant.spacedText (i : Instant) : String :=
  String.ofList (i.moment.date.chars ++ ' ' :: i.moment.clock.chars ++ " UTC".toList)

end BiblioQuery
