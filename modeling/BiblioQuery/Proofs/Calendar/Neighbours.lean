import BiblioQuery.Proofs.Calendar.TimeLine

/-!
# Neighbours in time

Between two days that do not follow one another there is a day, and between two instants that do
not follow one another there is an instant.  For instants this is seen on a line on which every
second has room for two seconds of nanoseconds, as a leap second needs them: the instant after the
last of these is the start of the next second, which may lie in another year.

## Main definitions

* `Instant.place` : the place of an instant on that line.
* `Instant.Precedes` : the second instant is the next one after the first.

## Main results

* `Date.next?_eq_some_iff` : the day after a date is the one with the next number.
* `Date.exists_next?_of_lt` : a day that is not the last of all has a day after it.
* `Instant.compare_place` : instants are ordered as their places.
* `Instant.precedes_iff` : the next instant has the next place.
* `Instant.exists_place_succ` : an instant that is not the last of all has a next one.
-/

namespace BiblioQuery

/-! ### Days -/

namespace Date

variable {d e : Date}

/-- No two dates have one day number. -/
theorem eq_of_dayNumber (h : d.dayNumber = e.dayNumber) : d = e := by
  have hparts : (compare d.year e.year).then ((compare d.month e.month).then
      (compare d.day e.day)) = .eq := by
    rw [← compare_parts, compare_eq, h, compare_eq_iff_eq]
  rw [Ordering.then_eq_eq, Ordering.then_eq_eq, compare_eq_iff_eq, compare_eq_iff_eq,
    compare_eq_iff_eq] at hparts
  obtain ⟨hyear, hmonth, hday⟩ := hparts
  cases d
  cases e
  rw [mk.injEq]
  exact ⟨hyear, hmonth, hday⟩

/-- What is later than the last day of a year lies in a later year. -/
theorem year_lt_of_last (hmonth : ¬d.month < 12) (hday : ¬d.day < daysInMonth d.year d.month)
    (h : d.dayNumber < e.dayNumber) : d.year < e.year := by
  have htwelve : d.month = 12 := Nat.le_antisymm d.month_mem.2 (Nat.not_lt.1 hmonth)
  have hd : daysBeforeYear d.year + daysInYear d.year ≤ d.dayNumber + 1 := by
    have hlength := daysBeforeMonth_twelve d.year
    rw [htwelve, daysInMonth_twelve] at hday
    simp only [dayNumber, ordinal, htwelve]
    omega
  have he : e.dayNumber < daysBeforeYear e.year + daysInYear e.year := by
    have hplace := e.ordinal_le_daysInYear
    simp only [dayNumber]
    omega
  by_contra hle
  rcases Int.lt_or_eq_of_le (Int.not_lt.1 hle) with hlt | heq
  · have hstart := daysBeforeYear_add_le hlt
    omega
  · rw [heq] at he
    omega

/-- A date that some date is later than has a day after it. -/
theorem exists_next?_of_lt (h : d.dayNumber < e.dayNumber) : ∃ f, d.next? = some f := by
  have hyear := d.year_mem
  have hmonth := d.month_mem
  have hday := d.day_mem
  have hfirst (year : Int) (month : Nat) : 1 ≤ daysInMonth year month := daysInMonth_pos year month
  rw [next?]
  split
  · next hlt => exact ⟨_, dif_pos ⟨hyear, hmonth, by omega, hlt⟩⟩
  · next hend =>
    split
    · next hlt => exact ⟨_, dif_pos ⟨hyear, ⟨by omega, hlt⟩, by omega, hfirst _ _⟩⟩
    · next hlast =>
      have hlater := year_lt_of_last hlast hend h
      have hmax := e.year_mem.2
      exact ⟨_, dif_pos ⟨⟨by omega, by omega⟩, by omega, by omega, hfirst _ _⟩⟩

/-- The day after a date is the one with the next number. -/
theorem next?_eq_some_iff : d.next? = some e ↔ e.dayNumber = d.dayNumber + 1 := by
  refine ⟨dayNumber_of_next?, fun h => ?_⟩
  obtain ⟨f, hf⟩ := exists_next?_of_lt (d := d) (e := e) (by omega)
  have hnumber := dayNumber_of_next? hf
  rw [hf, eq_of_dayNumber (d := f) (e := e) (by omega)]

end Date

/-! ### Instants -/

namespace Instant

variable {i j : Instant}

/-- The place of an instant on a line with room for two seconds of nanoseconds in every second. -/
def place (i : Instant) : Int := 2000000000 * i.moment.seconds + i.moment.clock.nano

/-- The second instant is the next one after the first: a nanosecond later in the same second, or
the start of the second that follows it. -/
def Precedes (i j : Instant) : Prop :=
  (j.moment.seconds = i.moment.seconds ∧ j.moment.clock.nano = i.moment.clock.nano + 1) ∨
    (j.moment.seconds = i.moment.seconds + 1 ∧ i.moment.clock.nano = 1999999999 ∧
      j.moment.clock.nano = 0)

/-- Instants are ordered as their places. -/
theorem compare_place (i j : Instant) : compare i j = compare i.place j.place := by
  have hi := i.moment.clock.nano_lt
  have hj := j.moment.clock.nano_lt
  rw [compare_eq]
  simp only [place]
  exact compare_then_eq (by omega) (by omega) fun h =>
    compare_congr (by omega) (by omega) (by omega)

/-- The next instant has the next place. -/
theorem precedes_iff : i.Precedes j ↔ j.place = i.place + 1 := by
  have hi := i.moment.clock.nano_lt
  have hj := j.moment.clock.nano_lt
  simp only [Precedes, place]
  omega

/-- An instant that some instant is later than has a next one. -/
theorem exists_place_succ (h : i.place < j.place) : ∃ k : Instant, k.place = i.place + 1 := by
  obtain ⟨⟨date, second, nano, hsecond, hnano⟩⟩ := i
  by_cases hroom : nano + 1 < 2000000000
  · refine ⟨⟨⟨date, second, nano + 1, hsecond, hroom⟩⟩, ?_⟩
    simp only [place, Moment.seconds]
    omega
  by_cases hday : second + 1 < 86400
  · refine ⟨⟨⟨date, second + 1, 0, hday, by decide⟩⟩, ?_⟩
    simp only [place, Moment.seconds]
    omega
  · -- the last instant of a day: the later instant lies in a later day
    have hnext : date.dayNumber < j.moment.date.dayNumber := by
      have hsecondj := j.moment.clock.second_lt
      have hnanoj := j.moment.clock.nano_lt
      simp only [place, Moment.seconds] at h
      omega
    obtain ⟨next, hdate⟩ := Date.exists_next?_of_lt hnext
    have hnumber := Date.dayNumber_of_next? hdate
    refine ⟨⟨⟨next, Clock.midnight⟩⟩, ?_⟩
    simp only [place, Moment.seconds, Clock.midnight]
    omega

end Instant

end BiblioQuery
