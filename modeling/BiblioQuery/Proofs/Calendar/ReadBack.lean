import BiblioQuery.Calendar.Reader
import BiblioQuery.Proofs.Collection.Results
import BiblioQuery.Proofs.Number.Digits

/-!
# Dates and times read back

The texts of dates, clock times and offsets are written in full width, and both the strict and the
lenient notation read such a text to its end.  A time of day is read back unless it claims a leap
second that does not end a minute, and an offset unless it has seconds; no reader produces either.

## Main definitions

* `Clock.Shown` : a time of day that a clock can show.

## Main results

* `Calendar.exactly?_paddedDigits`, `Calendar.upTo?_paddedDigits` : numbers in full width.
* `Calendar.lenientDate?_chars` : dates are read back.
* `Calendar.lenient?_chars`, `Calendar.strict?_chars` : moments are read back.
* `Calendar.strict?_chars_eq_none` : the text of a moment alone is not strict.
* `Calendar.strict?_sound`, `Calendar.lenient?_sound` : what the readers produce.
* `Text.noBlanks_momentChars`, `Text.noBlanks_offsetChars` : these texts have no blanks.
-/

namespace BiblioQuery

namespace Calendar

/-! ### Numbers in full width -/

variable {count n : Nat}

theorem exactly?_paddedDigits (hc : 0 < count) (hn : n < 10 ^ count) (r : List Char) :
    exactly? count (paddedDigits count n ++ r) = some (n, r) := by
  have hlen := length_paddedDigits hc hn
  have htake : (paddedDigits count n ++ r).take count = paddedDigits count n := by
    rw [List.take_append_of_le_length (by omega), List.take_of_length_le (by omega)]
  have hdrop : (paddedDigits count n ++ r).drop count = r := by
    rw [List.drop_append_of_le_length (by omega), List.drop_of_length_le (by omega),
      List.nil_append]
  have hall : (paddedDigits count n).all Char.isDigit = true :=
    List.all_eq_true.2 fun _ hc => isDigit_of_mem_paddedDigits hc
  simp [exactly?, htake, hdrop, hlen, hall]

theorem exactly?_pair (hn : n < 100) (r : List Char) :
    exactly? 2 (paddedDigits 2 n ++ r) = some (n, r) :=
  exactly?_paddedDigits (by decide) hn r

theorem upTo?_paddedDigits (hc : 0 < count) (hn : n < 10 ^ count) (r : List Char) :
    upTo? count (paddedDigits count n ++ r) = some (n, r) := by
  have hlen := length_paddedDigits hc hn
  have htake : ((paddedDigits count n ++ r).takeWhile Char.isDigit).take count =
      paddedDigits count n := by
    rw [List.takeWhile_append_of_pos fun c hc => isDigit_of_mem_paddedDigits hc,
      List.take_append_of_le_length (by omega), List.take_of_length_le (by omega)]
  have hdrop : (paddedDigits count n ++ r).drop (paddedDigits count n).length = r :=
    List.drop_left ..
  simp [upTo?, htake, paddedDigits_ne_nil]

/-- A number of any width is read to its end where no digit follows. -/
theorem unlimited?_paddedDigits (width n : Nat) {r : List Char} (hr : NoDigitAhead r) :
    unlimited? (paddedDigits width n ++ r) = some (n, r) := by
  rw [unlimited?, spanDigits_append (fun c hc => isDigit_of_mem_paddedDigits hc) hr]
  cases hds : paddedDigits width n with
  | nil => exact absurd hds (paddedDigits_ne_nil width n)
  | cons d ds =>
    change some (digitsValue (d :: ds), r) = _
    rw [← hds, digitsValue_paddedDigits]

/-- Up to nine digits of a fraction count as nanoseconds. -/
theorem nanoseconds?_paddedDigits {places m : Nat} (hp : 0 < places) (hp' : places ≤ 9)
    (hm : m < 10 ^ places) {r : List Char} (hr : NoDigitAhead r) :
    nanoseconds? (paddedDigits places m ++ r) = some (m * 10 ^ (9 - places), r) := by
  have hlen := length_paddedDigits hp hm
  rw [nanoseconds?, spanDigits_append (fun c hc => isDigit_of_mem_paddedDigits hc) hr]
  cases hds : paddedDigits places m with
  | nil => exact absurd hds (paddedDigits_ne_nil places m)
  | cons d ds =>
    change some (digitsValue ((d :: ds).take 9) * 10 ^ (9 - ((d :: ds).take 9).length), r) = _
    rw [← hds, List.take_of_length_le (by omega), digitsValue_paddedDigits, hlen]

/-- What is read as a number of a given width is small enough for it. -/
theorem lt_of_exactly? {s r : List Char} (h : exactly? count s = some (n, r)) : n < 10 ^ count := by
  simp only [exactly?, Option.ite_none_right_eq_some, Bool.and_eq_true, decide_eq_true_eq,
    List.all_eq_true, Option.some.injEq, Prod.mk.injEq] at h
  obtain ⟨⟨hlen, hdigits⟩, rfl, -⟩ := h
  have := digitsValue_lt hdigits
  rwa [hlen] at this

/-- A number in full width starts with no blank and no sign. -/
theorem paddedDigits_append_eq_cons (width n : Nat) (r : List Char) : ∃ (c : Char) (s : List Char),
    paddedDigits width n ++ r = c :: s ∧ c.isDigit = true := by
  obtain ⟨c, s, hs⟩ := List.exists_cons_of_ne_nil (paddedDigits_ne_nil width n)
  refine ⟨c, s ++ r, by rw [hs]; rfl, ?_⟩
  have hmem : c ∈ paddedDigits width n := by simp [hs]
  exact isDigit_of_mem_paddedDigits hmem

theorem trimStart_paddedDigits (width n : Nat) (r : List Char) :
    Text.trimStart (paddedDigits width n ++ r) = paddedDigits width n ++ r := by
  obtain ⟨c, s, hs, hc⟩ := paddedDigits_append_eq_cons width n r
  rw [hs, Text.trimStart_cons (Text.isBlank_of_isDigit hc)]

theorem lenientPair?_paddedDigits (hn : n < 100) (r : List Char) :
    lenientPair? (paddedDigits 2 n ++ r) = some (n, r) := by
  rw [lenientPair?, trimStart_paddedDigits, upTo?_paddedDigits (by decide) hn]

/-- The text of a year is read to its end where no digit follows. -/
theorem lenientYear?_yearChars (year : Int) {r : List Char} (hr : NoDigitAhead r) :
    lenientYear? (yearChars year ++ r) = some (year, r) := by
  unfold yearChars
  split
  · rename_i hneg
    have hvalue : -(year.natAbs : Int) = year := by omega
    rw [List.cons_append, lenientYear?, Text.trimStart_cons (by decide)]
    change (unlimited? (paddedDigits 4 year.natAbs ++ r)).map _ = _
    rw [unlimited?_paddedDigits _ _ hr, Option.map_some, hvalue]
  · rename_i hnonneg
    have hvalue : (year.natAbs : Int) = year := by omega
    split
    · rename_i hsmall
      obtain ⟨c, s, hs, hc⟩ := paddedDigits_append_eq_cons 4 year.natAbs r
      have hminus : c ≠ '-' := by rintro rfl; exact absurd hc (by decide)
      have hplus : c ≠ '+' := by rintro rfl; exact absurd hc (by decide)
      have hread : upTo? 4 (c :: s) = some (year.natAbs, r) := by
        rw [← hs]
        exact upTo?_paddedDigits (by decide) (by omega) r
      rw [lenientYear?, trimStart_paddedDigits, hs]
      simp [hminus, hplus, hread, hvalue]
    · rw [List.cons_append, lenientYear?, Text.trimStart_cons (by decide)]
      change (unlimited? (paddedDigits 4 year.natAbs ++ r)).map _ = _
      rw [unlimited?_paddedDigits _ _ hr, Option.map_some, hvalue]

/-! ### Dates -/

theorem day_lt (d : Date) : d.day < 100 := by
  have hday := d.day_mem.2
  have hmonth : daysInMonth d.year d.month ≤ 31 := by
    unfold daysInMonth
    split
    · split <;> decide
    · split <;> decide
  omega

theorem month_lt (d : Date) : d.month < 100 := by
  have := d.month_mem.2
  omega

theorem dateChars_append (d : Date) (r : List Char) :
    d.chars ++ r = yearChars d.year ++
      '-' :: (paddedDigits 2 d.month ++ '-' :: (paddedDigits 2 d.day ++ r)) := by
  simp [Date.chars]

/-- The text of a date is read to its end, whatever else may stand around a hyphen. -/
theorem dateParts?_chars_of {hyphen : List Char → Option (List Char)}
    (h : ∀ r, hyphen ('-' :: r) = some r) (d : Date) (r : List Char) :
    dateParts? hyphen (d.chars ++ r) = some ((d.year, d.month, d.day), r) := by
  have hyear := lenientYear?_yearChars d.year
    (r := '-' :: (paddedDigits 2 d.month ++ '-' :: (paddedDigits 2 d.day ++ r)))
    ((noDigitAhead_cons _ _).2 (by decide))
  rw [dateChars_append]
  simp [dateParts?, hyear, h, lenientPair?_paddedDigits (month_lt d),
    lenientPair?_paddedDigits (day_lt d)]

/-- The text of a date is read to its end. -/
theorem dateParts?_chars (d : Date) (r : List Char) :
    dateParts? (expect? '-') (d.chars ++ r) = some ((d.year, d.month, d.day), r) :=
  dateParts?_chars_of (fun _ => rfl) d r

/-- Dates are read back. -/
theorem lenientDate?_chars (d : Date) : lenientDate? d.chars = some d := by
  have hparts := dateParts?_chars d []
  rw [List.append_nil] at hparts
  simp [lenientDate?, hparts]

/-! ### Times of day -/

/-- A fraction of a second is read to its end where neither a digit nor a point follows. -/
theorem fraction?_fractionChars {nano : Nat} (hnano : nano < 1000000000) {r : List Char}
    (hdigit : NoDigitAhead r) (hpoint : fraction? r = some (0, r)) :
    fraction? (fractionChars nano ++ r) = some (nano, r) := by
  unfold fractionChars
  split
  · rename_i hzero
    rw [hzero]
    exact hpoint
  split
  · rw [List.cons_append, fraction?,
      nanoseconds?_paddedDigits (by decide) (by decide) (by omega) hdigit]
    simp only [Option.some.injEq, Prod.mk.injEq, and_true]
    omega
  split
  · rw [List.cons_append, fraction?,
      nanoseconds?_paddedDigits (by decide) (by decide) (by omega) hdigit]
    simp only [Option.some.injEq, Prod.mk.injEq, and_true]
    omega
  · rw [List.cons_append, fraction?,
      nanoseconds?_paddedDigits (by decide) (by decide) (by omega) hdigit]
    simp

end Calendar

/-- A time of day that a clock can show: a leap second ends a minute. -/
def Clock.Shown (t : Clock) : Prop := t.nano < 1000000000 ∨ t.second % 60 = 59

namespace Calendar

theorem clock_eq {t u : Clock} (hsecond : t.second = u.second) (hnano : t.nano = u.nano) :
    t = u := by
  cases t
  cases u
  simp_all

/-- The parts that a clock shows give the time of day back. -/
theorem clock?_parts {t : Clock} (h : t.Shown) :
    clock? t.hour t.minute t.shownSecond t.fraction = some t := by
  have hsecond := t.second_lt
  have hnano := t.nano_lt
  have hhour : t.hour < 24 := by
    rw [Clock.hour]
    omega
  have hminute : t.minute < 60 := Nat.mod_lt _ (by decide)
  have hfraction : t.fraction < 1000000000 := Nat.mod_lt _ (by decide)
  have hwhole : t.hour * 3600 + t.minute * 60 + t.second % 60 = t.second := by
    rw [Clock.hour, Clock.minute]
    omega
  by_cases hleap : t.nano < 1000000000
  · have hshown : t.shownSecond = t.second % 60 := by
      rw [Clock.shownSecond]
      omega
    rw [clock?, dif_pos ⟨hhour, hminute, by omega, hfraction⟩]
    refine congrArg some (clock_eq ?_ (Nat.mod_eq_of_lt hleap))
    rw [← hwhole, ← hshown]
  · have hend : t.second % 60 = 59 := h.resolve_left hleap
    have hshown : t.shownSecond = 60 := by
      rw [Clock.shownSecond]
      omega
    have hrest : t.fraction + 1000000000 = t.nano := by
      rw [Clock.fraction]
      omega
    rw [clock?, dif_neg (by omega), dif_pos ⟨hhour, hminute, hshown, hfraction⟩]
    refine congrArg some (clock_eq ?_ hrest)
    rw [← hwhole, hend]

/-- A time of day that is read can be shown. -/
theorem shown_of_clock? {hour minute second nano : Nat} {t : Clock}
    (h : clock? hour minute second nano = some t) : t.Shown := by
  unfold clock? at h
  split at h
  · rename_i hparts
    obtain rfl := Option.some.inj h
    exact .inl hparts.2.2.2
  split at h
  · obtain rfl := Option.some.inj h
    refine .inr ?_
    simp only
    omega
  · cases h

theorem hour_lt (t : Clock) : t.hour < 100 := by
  have := t.second_lt
  rw [Clock.hour]
  omega

theorem minute_lt (t : Clock) : t.minute < 100 := by
  rw [Clock.minute]
  omega

theorem shownSecond_lt (t : Clock) : t.shownSecond < 100 := by
  have := t.nano_lt
  rw [Clock.shownSecond]
  omega

theorem clockChars_append (t : Clock) (r : List Char) :
    t.chars ++ r = paddedDigits 2 t.hour ++ ':' :: (paddedDigits 2 t.minute ++
      ':' :: (paddedDigits 2 t.shownSecond ++ (fractionChars t.fraction ++ r))) := by
  simp [Clock.chars]

/-- The text of a time of day is read to its end where neither a digit nor a point follows, whatever
else may stand around a colon. -/
theorem clockParts?_chars_of {colon : List Char → Option (List Char)}
    (h : ∀ r, colon (':' :: r) = some r) (t : Clock) {r : List Char} (hdigit : NoDigitAhead r)
    (hpoint : fraction? r = some (0, r)) :
    clockParts? colon (t.chars ++ r) =
      some ((t.hour, t.minute, t.shownSecond, t.fraction), r) := by
  have hfraction := fraction?_fractionChars (Nat.mod_lt t.nano (by decide)) hdigit hpoint
  rw [clockChars_append]
  simp [clockParts?, h, lenientPair?_paddedDigits (hour_lt t),
    lenientPair?_paddedDigits (minute_lt t), lenientPair?_paddedDigits (shownSecond_lt t),
    Clock.fraction, hfraction]

/-- The text of a time of day is read to its end where neither a digit nor a point follows. -/
theorem clockParts?_chars (t : Clock) {r : List Char} (hdigit : NoDigitAhead r)
    (hpoint : fraction? r = some (0, r)) :
    clockParts? (expect? ':') (t.chars ++ r) =
      some ((t.hour, t.minute, t.shownSecond, t.fraction), r) :=
  clockParts?_chars_of (fun _ => rfl) t hdigit hpoint

/-! ### Moments without offset -/

theorem momentChars_append (m : Moment) (r : List Char) :
    m.chars ++ r = m.date.chars ++ 'T' :: (m.clock.chars ++ r) := by
  simp [Moment.chars]

/-- Moments are read back in the lenient notation. -/
theorem lenient?_chars {m : Moment} (h : m.clock.Shown) : lenient? m.chars = some m := by
  have hclock := clockParts?_chars m.clock noDigitAhead_nil rfl
  rw [List.append_nil] at hclock
  have hchars := momentChars_append m []
  rw [List.append_nil, List.append_nil] at hchars
  simp [lenient?, hchars, dateParts?_chars, expect?, hclock, clock?_parts h]

/-- What the lenient notation produces is shown by a clock. -/
theorem lenient?_sound {s : List Char} {m : Moment} (h : lenient? s = some m) :
    m.clock.Shown := by
  simp only [lenient?, Option.bind_eq_bind, Option.bind_eq_some_iff,
    Option.ite_none_right_eq_some] at h
  obtain ⟨_, -, _, -, _, -, -, date, -, clock, hclock, hm⟩ := h
  obtain rfl := Option.some.inj hm
  exact shown_of_clock? hclock

/-! ### Offsets -/

/-- An offset of whole minutes is written as a sign, hours and minutes. -/
theorem offsetChars_of_wholeMinutes {o : Offset} (h : o.seconds % 60 = 0) :
    o.chars = (if o.seconds < 0 then '-' else '+') ::
      (paddedDigits 2 (o.seconds.natAbs / 3600) ++
        ':' :: paddedDigits 2 (o.seconds.natAbs / 60 % 60)) := by
  have hseconds : o.seconds.natAbs % 60 = 0 := by omega
  simp [Offset.chars, hseconds]

/-- An offset of whole minutes is read to its end. -/
theorem offset?_chars {o : Offset} (h : o.seconds % 60 = 0) :
    offset? (expect? ':') o.chars = some (o.seconds, []) := by
  have hmem := o.seconds_mem
  obtain ⟨n, hn⟩ : ∃ n : Nat, o.seconds.natAbs = n := ⟨_, rfl⟩
  have hhours : n / 3600 < 100 := by omega
  have hminutes : n / 60 % 60 < 60 := Nat.mod_lt _ (by decide)
  have hlast := exactly?_pair (Nat.lt_trans hminutes (by decide)) []
  rw [List.append_nil] at hlast
  have hchars := offsetChars_of_wholeMinutes h
  rw [hn] at hchars
  have hvalue : ((n / 3600 : Nat) : Int) * 3600 + ((n / 60 % 60 : Nat) : Int) * 60 = n := by
    omega
  by_cases hneg : o.seconds < 0
  · have hsign : ∀ r, offsetSign? ('-' :: r) = some (true, r) := fun _ => rfl
    have hseconds : -(n : Int) = o.seconds := by omega
    rw [hchars, if_pos hneg, offset?]
    · simp only [signedOffset?, hsign, exactly?_pair hhours, expect?, hlast, hminutes,
        Option.bind_eq_bind, Option.bind_some, ↓reduceIte, hvalue, hseconds]
    all_goals simp
  · have hsign : ∀ r, offsetSign? ('+' :: r) = some (false, r) := fun _ => rfl
    have hseconds : (n : Int) = o.seconds := by omega
    rw [hchars, if_neg hneg, offset?]
    · simp only [signedOffset?, hsign, exactly?_pair hhours, expect?, hlast, hminutes,
        Option.bind_eq_bind, Option.bind_some, ↓reduceIte, hvalue, hseconds, Bool.false_eq_true]
    all_goals simp

/-- An offset that is read has no seconds. -/
theorem offset?_sound {separator : List Char → Option (List Char)} {s r : List Char}
    {seconds : Int} (h : offset? separator s = some (seconds, r)) : seconds % 60 = 0 := by
  unfold offset? at h
  split at h
  · simp only [Option.some.injEq, Prod.mk.injEq] at h
    omega
  · simp only [Option.some.injEq, Prod.mk.injEq] at h
    omega
  · simp only [signedOffset?, Option.bind_eq_bind, Option.bind_eq_some_iff,
      Option.ite_none_right_eq_some, Option.some.injEq, Prod.mk.injEq] at h
    obtain ⟨_, -, _, -, _, -, _, -, -, hvalue, -⟩ := h
    split at hvalue <;> omega

/-! ### Moments with their offset -/

/-- The text of an offset starts with a sign. -/
theorem offsetChars_eq_cons (o : Offset) : ∃ (c : Char) (r : List Char),
    o.chars = c :: r ∧ (c = '+' ∨ c = '-') := by
  refine ⟨if o.seconds < 0 then '-' else '+', _, rfl, ?_⟩
  split
  · exact .inr rfl
  · exact .inl rfl

theorem noDigitAhead_offsetChars (o : Offset) : NoDigitAhead o.chars := by
  obtain ⟨c, r, hchars, rfl | rfl⟩ := offsetChars_eq_cons o <;> rw [hchars] <;>
    exact (noDigitAhead_cons _ _).2 (by decide)

theorem fraction?_offsetChars (o : Offset) : fraction? o.chars = some (0, o.chars) := by
  obtain ⟨c, r, hchars, rfl | rfl⟩ := offsetChars_eq_cons o <;> rw [hchars] <;> rfl

/-- The date and the time of day of a text in full width are read as in the strict notation. -/
theorem strict?_chars_append {m : Moment} (hyear : 0 ≤ m.date.year ∧ m.date.year ≤ 9999)
    (hclock : m.clock.Shown) {r : List Char} (hdigit : NoDigitAhead r)
    (hpoint : fraction? r = some (0, r)) :
    strict? (m.chars ++ r) = (offset? (expect? ':') r).bind fun p =>
      if p.2.isEmpty then (Offset.of? p.1).map (m, ·) else none := by
  have hnat : m.date.year.natAbs < 10 ^ 4 := by omega
  have hcast : (m.date.year.natAbs : Int) = m.date.year := by omega
  have hchars : yearChars m.date.year = paddedDigits 4 m.date.year.natAbs := by
    rw [yearChars, if_neg (by omega), if_pos (by omega)]
  have hfull := exactly?_paddedDigits (by decide) hnat
  have hfraction : fraction? (fractionChars m.clock.fraction ++ r) = some (m.clock.fraction, r) :=
    fraction?_fractionChars (Nat.mod_lt _ (by decide)) hdigit hpoint
  rw [momentChars_append, dateChars_append, clockChars_append, hchars]
  -- Each part is read in turn; what is left at the end is the offset.
  refine (bind_eq_of_eq_some (hfull _)).trans ?_
  refine (bind_eq_of_eq_some rfl).trans ?_
  refine (bind_eq_of_eq_some (exactly?_pair (month_lt m.date) _)).trans ?_
  refine (bind_eq_of_eq_some rfl).trans ?_
  refine (bind_eq_of_eq_some (exactly?_pair (day_lt m.date) _)).trans ?_
  refine (bind_eq_of_eq_some rfl).trans ?_
  refine (bind_eq_of_eq_some (exactly?_pair (hour_lt m.clock) _)).trans ?_
  refine (bind_eq_of_eq_some rfl).trans ?_
  refine (bind_eq_of_eq_some (exactly?_pair (minute_lt m.clock) _)).trans ?_
  refine (bind_eq_of_eq_some rfl).trans ?_
  refine (bind_eq_of_eq_some (exactly?_pair (shownSecond_lt m.clock) _)).trans ?_
  refine (bind_eq_of_eq_some hfraction).trans ?_
  dsimp only
  rw [hcast, Date.of?_parts, clock?_parts hclock]
  cases offset? (expect? ':') r with
  | none => rfl
  | some p =>
    simp only [Option.bind_eq_bind, Option.bind_some]
    split
    · cases Offset.of? p.1 <;> rfl
    · rfl

/-- The offset of its seconds. -/
theorem offsetOf?_seconds (o : Offset) : Offset.of? o.seconds = some o := by
  rw [Offset.of?, dif_pos o.seconds_mem]

/-- Moments with an offset are read back in the strict notation. -/
theorem strict?_chars {m : Moment} {o : Offset} (hyear : 0 ≤ m.date.year ∧ m.date.year ≤ 9999)
    (hclock : m.clock.Shown) (hoffset : o.seconds % 60 = 0) :
    strict? (m.chars ++ o.chars) = some (m, o) := by
  rw [strict?_chars_append hyear hclock (noDigitAhead_offsetChars o) (fraction?_offsetChars o),
    offset?_chars hoffset, Option.bind_some]
  simp [offsetOf?_seconds]

/-- The text of a moment alone is not strict: it has no offset, or else the year has a sign. -/
theorem strict?_chars_eq_none {m : Moment} (hclock : m.clock.Shown) : strict? m.chars = none := by
  by_cases hyear : 0 ≤ m.date.year ∧ m.date.year ≤ 9999
  · have happend := strict?_chars_append hyear hclock noDigitAhead_nil rfl
    rw [List.append_nil] at happend
    rw [happend]
    rfl
  · have hsign : ∃ (c : Char) (r : List Char), m.chars = c :: r ∧ c.isDigit = false := by
      have hchars := momentChars_append m []
      rw [List.append_nil, dateChars_append, yearChars] at hchars
      split at hchars
      · exact ⟨'-', _, hchars, by decide⟩
      · rw [if_neg (by omega)] at hchars
        exact ⟨'+', _, hchars, by decide⟩
    obtain ⟨c, r, hchars, hc⟩ := hsign
    have hexactly : exactly? 4 (c :: r) = none := by
      simp [exactly?, hc]
    rw [strict?, hchars, hexactly]
    rfl

/-- What the strict notation produces has a year of four digits, is shown by a clock and has an
offset of whole minutes. -/
theorem strict?_sound {s : List Char} {m : Moment} {o : Offset} (h : strict? s = some (m, o)) :
    (0 ≤ m.date.year ∧ m.date.year ≤ 9999) ∧ m.clock.Shown ∧ o.seconds % 60 = 0 := by
  obtain ⟨⟨year, _⟩, hyear, h⟩ := Option.bind_eq_some_iff.1 h
  iterate 11
    obtain ⟨_, -, h⟩ := Option.bind_eq_some_iff.1 h
  obtain ⟨⟨seconds, _⟩, hoffset, h⟩ := Option.bind_eq_some_iff.1 h
  obtain ⟨-, h⟩ := Option.ite_none_right_eq_some.1 h
  obtain ⟨date, hdate, h⟩ := Option.bind_eq_some_iff.1 h
  obtain ⟨clock, hclock, h⟩ := Option.bind_eq_some_iff.1 h
  obtain ⟨offset, hof, hm⟩ := Option.bind_eq_some_iff.1 h
  simp only [Option.some.injEq, Prod.mk.injEq] at hm
  obtain ⟨rfl, rfl⟩ := hm
  refine ⟨?_, shown_of_clock? hclock, ?_⟩
  · have hlt := lt_of_exactly? hyear
    simp only [Date.of?, Option.dite_none_right_eq_some, Option.some.injEq] at hdate
    obtain ⟨_, rfl⟩ := hdate
    simp only
    omega
  · have hmod := offset?_sound hoffset
    simp only [Offset.of?, Option.dite_none_right_eq_some, Option.some.injEq] at hof
    obtain ⟨_, rfl⟩ := hof
    exact hmod

end Calendar

/-! ### Blanks -/

namespace Text

theorem noBlanks_yearChars (year : Int) : NoBlanks (yearChars year) := by
  unfold yearChars
  split
  · exact (noBlanks_cons _ _).2 ⟨by decide, noBlanks_paddedDigits _ _⟩
  split
  · exact noBlanks_paddedDigits _ _
  · exact (noBlanks_cons _ _).2 ⟨by decide, noBlanks_paddedDigits _ _⟩

theorem noBlanks_dateChars (d : Date) : NoBlanks d.chars := by
  simp only [Date.chars, noBlanks_append, noBlanks_cons, noBlanks_yearChars,
    noBlanks_paddedDigits]
  decide

theorem noBlanks_fractionChars (nano : Nat) : NoBlanks (fractionChars nano) := by
  unfold fractionChars
  split
  · exact noBlanks_nil
  split
  · exact (noBlanks_cons _ _).2 ⟨by decide, noBlanks_paddedDigits _ _⟩
  split
  · exact (noBlanks_cons _ _).2 ⟨by decide, noBlanks_paddedDigits _ _⟩
  · exact (noBlanks_cons _ _).2 ⟨by decide, noBlanks_paddedDigits _ _⟩

theorem noBlanks_momentChars (m : Moment) : NoBlanks m.chars := by
  simp only [Moment.chars, Clock.chars, noBlanks_append, noBlanks_cons, noBlanks_dateChars,
    noBlanks_paddedDigits, noBlanks_fractionChars]
  decide

theorem noBlanks_offsetChars (o : Offset) : NoBlanks o.chars := by
  have hsign : isBlank (if o.seconds < 0 then '-' else '+') = false := by
    split <;> decide
  have hcolon : isBlank ':' = false := by decide
  simp only [Offset.chars, noBlanks_append, noBlanks_cons, noBlanks_paddedDigits, hsign, hcolon,
    true_and]
  split
  · exact noBlanks_nil
  · exact (noBlanks_cons _ _).2 ⟨hcolon, noBlanks_paddedDigits _ _⟩

end Text

end BiblioQuery
