import BiblioQuery.Calendar.Moment
import Mathlib.Data.Int.Order.Basic
import Mathlib.Data.Nat.Basic
import Mathlib.Order.Lattice

/-!
# The time line

Dates count days and moments count seconds.  The order of dates is the order of their day numbers,
neighbouring days have neighbouring numbers, and so an offset moves a moment by its seconds over the
ends of days, months and years.  The nanoseconds of a clock, which may make a leap second, are
compared after the seconds and stay with a moment that is moved.

## Main definitions

* `Moment.seconds` : the seconds from the start of the first day of the year one to a moment.

## Main results

* `Date.compare_eq` : dates are ordered as their day numbers.
* `Date.dayNumber_of_next?`, `Date.dayNumber_of_prev?` : the numbers of neighbouring days.
* `Moment.compare_eq` : moments are ordered by their seconds, then by their nanoseconds.
* `Moment.seconds_of_minus?` : an offset is subtracted from the seconds of a moment.
* `Instant.compare_eq_lt_iff` : which of two instants is earlier, in seconds and nanoseconds.
-/

namespace BiblioQuery

/-- A comparison of leading parts, then of the rest, agrees with a comparison of numbers that are
ordered in the same way. -/
theorem compare_then_eq {α β : Type} [LinearOrder α] [LinearOrder β] {a b : α} {p q : β}
    {rest : Ordering} (hlt : a < b → p < q) (hgt : b < a → q < p)
    (heq : a = b → rest = compare p q) : (compare a b).then rest = compare p q := by
  rcases lt_trichotomy a b with h | h | h
  · rw [compare_lt_iff_lt.2 h, compare_lt_iff_lt.2 (hlt h)]
    rfl
  · rw [compare_eq_iff_eq.2 h, Ordering.eq_then, heq h]
  · rw [compare_gt_iff_gt.2 h, compare_gt_iff_gt.2 (hgt h)]
    rfl

/-- Numbers that are ordered in the same way compare in the same way. -/
theorem compare_congr {α β : Type} [LinearOrder α] [LinearOrder β] {a b : α} {p q : β}
    (hlt : a < b → p < q) (hgt : b < a → q < p) (heq : a = b → p = q) :
    compare a b = compare p q := by
  rw [← (compare a b).then_eq]
  exact compare_then_eq hlt hgt fun h => (compare_eq_iff_eq.2 (heq h)).symm

/-! ### Days of a year -/

namespace Date

variable {year later : Int} {month : Nat} {d e : Date}

theorem daysBeforeMonth_succ (year : Int) (h : 1 ≤ month) :
    daysBeforeMonth year (month + 1) = daysBeforeMonth year month + daysInMonth year month := by
  obtain ⟨k, rfl⟩ : ∃ k, month = k + 1 := ⟨month - 1, by omega⟩
  rw [daysBeforeMonth]
  exact fun h => nomatch h

/-- A month ends no later than any later one starts. -/
theorem daysBeforeMonth_add_le (year : Int) {later : Nat} (h : 1 ≤ month) (hlt : month < later) :
    daysBeforeMonth year month + daysInMonth year month ≤ daysBeforeMonth year later := by
  rw [← daysBeforeMonth_succ year h]
  induction hlt with
  | refl => exact Nat.le_refl _
  | step hn ih =>
    rw [daysBeforeMonth_succ year (Nat.le_trans (Nat.le_add_left 1 month) hn)]
    exact Nat.le_add_right_of_le ih

/-- A year ends with the last day of its twelfth month. -/
theorem daysBeforeMonth_twelve (year : Int) : daysBeforeMonth year 12 + 31 = daysInYear year := by
  simp only [daysBeforeMonth, daysInMonth, daysInYear]
  cases isLeapYear year <;> rfl

/-- The next year starts where a year ends. -/
theorem daysBeforeYear_succ (year : Int) :
    daysBeforeYear (year + 1) = daysBeforeYear year + daysInYear year := by
  simp only [daysBeforeYear, daysInYear]
  have hleap : isLeapYear year = true ↔ year % 4 = 0 ∧ (year % 100 ≠ 0 ∨ year % 400 = 0) := by
    simp [isLeapYear]
  split
  · next h =>
    rw [hleap] at h
    omega
  · next h =>
    rw [hleap] at h
    omega

/-- Later years start later. -/
theorem daysBeforeYear_add_le (hlt : year < later) :
    daysBeforeYear year + daysInYear year ≤ daysBeforeYear later := by
  rw [← daysBeforeYear_succ]
  simp only [daysBeforeYear]
  omega

theorem ordinal_pos (d : Date) : 1 ≤ d.ordinal := Nat.le_add_left_of_le d.day_mem.1

/-- A date lies in its month. -/
theorem ordinal_le (d : Date) :
    d.ordinal ≤ daysBeforeMonth d.year d.month + daysInMonth d.year d.month :=
  Nat.add_le_add_left d.day_mem.2 _

/-- A date lies in its year. -/
theorem ordinal_le_daysInYear (d : Date) : d.ordinal ≤ daysInYear d.year := by
  have hmonth := d.ordinal_le
  rw [← daysBeforeMonth_twelve]
  rcases Nat.lt_or_eq_of_le d.month_mem.2 with hlt | heq
  · have hlater := daysBeforeMonth_add_le d.year d.month_mem.1 hlt
    omega
  · rw [heq] at hmonth
    simpa [daysInMonth] using hmonth

/-! ### The order of dates -/

/-- The order of dates, part by part. -/
theorem compare_parts (d e : Date) :
    compare d e = (compare d.year e.year).then
      ((compare d.month e.month).then (compare d.day e.day)) := rfl

/-- In one year, dates are ordered as their places in it. -/
theorem compare_ordinal (hyear : d.year = e.year) :
    (compare d.month e.month).then (compare d.day e.day) =
      compare (d.ordinal : Int) e.ordinal := by
  have hd := d.ordinal_le
  have he := e.ordinal_le
  have hdpos := d.day_mem.1
  have hepos := e.day_mem.1
  refine compare_then_eq (fun hlt => ?_) (fun hgt => ?_) fun heq => ?_
  · have hstart := daysBeforeMonth_add_le d.year d.month_mem.1 hlt
    simp only [ordinal, hyear] at *
    omega
  · have hstart := daysBeforeMonth_add_le e.year e.month_mem.1 hgt
    simp only [ordinal, hyear] at *
    omega
  · simp only [ordinal, hyear, heq]
    exact compare_congr (by omega) (by omega) (by omega)

/-- Dates are ordered as their day numbers. -/
theorem compare_eq (d e : Date) : compare d e = compare d.dayNumber e.dayNumber := by
  have hd := d.ordinal_le_daysInYear
  have he := e.ordinal_le_daysInYear
  have hdpos := d.ordinal_pos
  have hepos := e.ordinal_pos
  rw [compare_parts]
  refine compare_then_eq (fun hlt => ?_) (fun hgt => ?_) fun heq => ?_
  · have hstart := daysBeforeYear_add_le hlt
    simp only [dayNumber]
    omega
  · have hstart := daysBeforeYear_add_le hgt
    simp only [dayNumber]
    omega
  · rw [compare_ordinal heq]
    simp only [dayNumber, heq]
    exact compare_congr (by omega) (by omega) (by omega)

/-! ### Neighbouring days -/

theorem parts_of_of? {n : Nat} (h : of? year month n = some d) :
    d.year = year ∧ d.month = month ∧ d.day = n := by
  simp only [of?, Option.dite_none_right_eq_some, Option.some.injEq] at h
  obtain ⟨-, rfl⟩ := h
  exact ⟨rfl, rfl, rfl⟩

theorem daysInMonth_twelve (year : Int) : daysInMonth year 12 = 31 := rfl

theorem daysBeforeMonth_one (year : Int) : daysBeforeMonth year 1 = 0 := rfl

/-- The day after a date has the next number. -/
theorem dayNumber_of_next? (h : d.next? = some e) : e.dayNumber = d.dayNumber + 1 := by
  have hday := d.day_mem.2
  have hmonth := d.month_mem
  simp only [next?] at h
  simp only [dayNumber, ordinal]
  split at h
  · obtain ⟨hey, hem, hed⟩ := parts_of_of? h
    rw [hey, hem, hed]
    omega
  · next hend =>
    split at h
    · obtain ⟨hey, hem, hed⟩ := parts_of_of? h
      rw [hey, hem, hed, daysBeforeMonth_succ _ hmonth.1]
      omega
    · obtain ⟨hey, hem, hed⟩ := parts_of_of? h
      have hlast : d.month = 12 := by omega
      have hyear := daysBeforeMonth_twelve d.year
      rw [hlast, daysInMonth_twelve] at hday hend
      rw [hey, hem, hed, hlast, daysBeforeYear_succ, daysBeforeMonth_one]
      omega

/-- The day before a date has the number before. -/
theorem dayNumber_of_prev? (h : d.prev? = some e) : e.dayNumber = d.dayNumber - 1 := by
  have hday := d.day_mem.1
  have hmonth := d.month_mem
  simp only [prev?] at h
  simp only [dayNumber, ordinal]
  split at h
  · obtain ⟨hey, hem, hed⟩ := parts_of_of? h
    rw [hey, hem, hed]
    omega
  · split at h
    · obtain ⟨hey, hem, hed⟩ := parts_of_of? h
      have hstart : daysBeforeMonth d.year (d.month - 1 + 1) = _ :=
        daysBeforeMonth_succ d.year (by omega)
      rw [Nat.sub_add_cancel hmonth.1] at hstart
      rw [hey, hem, hed, hstart]
      omega
    · obtain ⟨hey, hem, hed⟩ := parts_of_of? h
      have hfirst : d.month = 1 := by omega
      have hstart := daysBeforeYear_succ (d.year - 1)
      have hend := daysBeforeMonth_twelve (d.year - 1)
      rw [Int.sub_add_cancel] at hstart
      rw [hey, hem, hed, hfirst, hstart, daysBeforeMonth_one]
      omega

end Date

/-! ### Seconds -/

namespace Moment

variable {m n : Moment} {o : Offset}

/-- The seconds from the start of the first day of the year one to a moment. -/
def seconds (m : Moment) : Int := 86400 * m.date.dayNumber + m.clock.second

/-- Moments are ordered by their seconds, then by their nanoseconds. -/
theorem compare_eq (m n : Moment) : compare m n =
    (compare m.seconds n.seconds).then (compare m.clock.nano n.clock.nano) := by
  have hm := m.clock.second_lt
  have hn := n.clock.second_lt
  have hparts : compare m n = (compare m.date n.date).then
      ((compare m.clock.second n.clock.second).then (compare m.clock.nano n.clock.nano)) := rfl
  have hseconds : (compare m.date n.date).then (compare m.clock.second n.clock.second) =
      compare m.seconds n.seconds := by
    rw [Date.compare_eq]
    simp only [seconds]
    exact compare_then_eq (by omega) (by omega) fun h =>
      compare_congr (by omega) (by omega) (by omega)
  rw [hparts, ← Ordering.then_assoc, hseconds]

/-- An offset is subtracted from the seconds of a moment and leaves its nanoseconds alone. -/
theorem seconds_of_minus? (h : m.minus? o = some n) :
    n.seconds = m.seconds - o.seconds ∧ n.clock.nano = m.clock.nano := by
  have hoffset := o.seconds_mem
  simp only [minus?] at h
  simp only [seconds]
  split at h
  · obtain ⟨d, hd, rfl⟩ := Option.map_eq_some_iff.1 h
    have hnumber := Date.dayNumber_of_prev? hd
    exact ⟨by dsimp only; omega, rfl⟩
  · split at h
    · obtain rfl := Option.some.inj h
      exact ⟨by dsimp only; omega, rfl⟩
    · obtain ⟨d, hd, rfl⟩ := Option.map_eq_some_iff.1 h
      have hnumber := Date.dayNumber_of_next? hd
      exact ⟨by dsimp only; omega, rfl⟩

end Moment

namespace Instant

/-- Instants are ordered as their moments. -/
theorem compare_eq (i j : Instant) : compare i j =
    (compare i.moment.seconds j.moment.seconds).then
      (compare i.moment.clock.nano j.moment.clock.nano) :=
  Moment.compare_eq i.moment j.moment

theorem compare_eq_lt_iff {i j : Instant} : compare i j = .lt ↔
    i.moment.seconds < j.moment.seconds ∨ i.moment.seconds = j.moment.seconds ∧
      i.moment.clock.nano < j.moment.clock.nano := by
  rw [compare_eq, Ordering.then_eq_lt, compare_lt_iff_lt, compare_eq_iff_eq, compare_lt_iff_lt]

theorem compare_eq_eq_iff {i j : Instant} : compare i j = .eq ↔
    i.moment.seconds = j.moment.seconds ∧ i.moment.clock.nano = j.moment.clock.nano := by
  rw [compare_eq, Ordering.then_eq_eq, compare_eq_iff_eq, compare_eq_iff_eq]

end Instant

/-! ### Comparisons are orders -/

instance : Std.TransOrd Date :=
  inferInstanceAs (Std.TransCmp
    (compareLex (compareOn Date.year) (compareLex (compareOn Date.month) (compareOn Date.day))))

instance : Std.TransOrd Clock :=
  inferInstanceAs (Std.TransCmp (compareLex (compareOn Clock.second) (compareOn Clock.nano)))

instance : Std.TransOrd Moment :=
  inferInstanceAs (Std.TransCmp (compareLex (compareOn Moment.date) (compareOn Moment.clock)))

instance : Std.TransOrd Instant := inferInstanceAs (Std.TransCmp (compareOn Instant.moment))

end BiblioQuery
