import BiblioQuery.Proofs.Calendar.ReadBack

/-!
# Instants read back

An instant is written as a moment with the letter for universal time, and the spaced notation reads
such a text to its end, whatever the year is.  A leap second that ends a minute is written as the
second `60` and read as what it is.  A leap second inside a minute has no such text: it is written
as the second after it, and read as that second.

## Main definitions

* `Clock.reread`, `Instant.reread` : a time as its text is read.
* `Instant.Shown` : an instant that a clock of universal time can show.

## Main results

* `Instant.parse?_text` : the text of an instant is read.
* `Instant.reread_eq_self` : an instant that a clock can show is read back.
* `Instant.shown_of_parse?` : no text is read as an instant of another kind.
-/

namespace BiblioQuery

/-! ### Times of day -/

/-- A time of day as its text is read: a leap second inside a minute as the second after it. -/
def Clock.reread (t : Clock) : Clock :=
  if h : t.nano < 1000000000 ∨ t.second % 60 = 59 then t
  else
    have hs := t.second_lt
    have hn := t.nano_lt
    ⟨t.second + 1, t.nano - 1000000000, by omega, by omega⟩

/-- A time of day that a clock can show is read back. -/
theorem Clock.reread_eq_self {t : Clock} (h : t.Shown) : t.reread = t := dif_pos h

namespace Calendar

/-- The parts of a time of day are those of a time of day. -/
theorem clock?_reread (t : Clock) :
    clock? t.hour t.minute t.shownSecond t.fraction = some t.reread := by
  by_cases h : t.Shown
  · rw [clock?_parts h, Clock.reread_eq_self h]
  · obtain ⟨hleap, hinside⟩ := not_or.1 h
    have hsecond := t.second_lt
    have hnano := t.nano_lt
    -- The second that is shown is the one after, and it is still inside the minute.
    have hhour : t.hour < 24 := by rw [Clock.hour]; omega
    have hminute : t.minute < 60 := Nat.mod_lt _ (by decide)
    have hshown : t.shownSecond = t.second % 60 + 1 := by rw [Clock.shownSecond]; omega
    have hfraction : t.fraction = t.nano - 1000000000 := by rw [Clock.fraction]; omega
    have hwhole : t.hour * 3600 + t.minute * 60 + t.second % 60 = t.second := by
      rw [Clock.hour, Clock.minute]
      omega
    have hreread : t.reread = ⟨t.second + 1, t.nano - 1000000000, by omega, by omega⟩ := dif_neg h
    rw [clock?, dif_pos ⟨hhour, hminute, by omega, by omega⟩, hreread]
    refine congrArg some (clock_eq ?_ hfraction)
    dsimp only
    omega

/-! ### Separators and the zone -/

theorem spaced?_cons {c : Char} (h : Text.isBlank c = false) (r : List Char) :
    spaced? c (c :: r) = some r := by
  rw [spaced?, Text.trimStart_cons h]
  exact if_pos rfl

theorem spacedOffset?_letter : spacedOffset? (Text.trimStart ['Z']) = some (0, []) := by
  rw [Text.trimStart_cons (by decide)]
  rfl

/-- An offset that is read in the spaced notation has no seconds. -/
theorem spacedOffset?_sound {s r : List Char} {seconds : Int}
    (h : spacedOffset? s = some (seconds, r)) : seconds % 60 = 0 := by
  rw [spacedOffset?] at h
  split at h
  · simp only [Option.some.injEq, Prod.mk.injEq] at h
    omega
  · exact offset?_sound h

end Calendar

/-! ### Offsets applied -/

/-- An offset of whole minutes moves a leap second from the end of one minute to the end of
another. -/
theorem Moment.shown_of_minus? {m m' : Moment} {o : Offset} (hclock : m.clock.Shown)
    (hoffset : o.seconds % 60 = 0) (h : m.minus? o = some m') : m'.clock.Shown := by
  have hseconds := o.seconds_mem
  have hclocks : m'.clock.nano = m.clock.nano ∧ m'.clock.second % 60 = m.clock.second % 60 := by
    unfold Moment.minus? at h
    dsimp only at h
    split at h
    · obtain ⟨_, -, rfl⟩ := Option.map_eq_some_iff.1 h
      exact ⟨rfl, by dsimp only; omega⟩
    split at h
    · obtain rfl := Option.some.inj h
      exact ⟨rfl, by dsimp only; omega⟩
    · obtain ⟨_, -, rfl⟩ := Option.map_eq_some_iff.1 h
      exact ⟨rfl, by dsimp only; omega⟩
  rwa [Clock.Shown, hclocks.1, hclocks.2]

/-! ### Instants -/

/-- An instant that a clock of universal time can show: a leap second ends a minute. -/
def Instant.Shown (i : Instant) : Prop := i.moment.clock.Shown

/-- An instant as its text is read. -/
def Instant.reread (i : Instant) : Instant := ⟨⟨i.moment.date, i.moment.clock.reread⟩⟩

/-- An instant that a clock can show is read back. -/
theorem Instant.reread_eq_self {i : Instant} (h : i.Shown) : i.reread = i := by
  rw [reread, Clock.reread_eq_self h]

open Calendar in
/-- The text of an instant is read, in every year of the calendar. -/
theorem Instant.parse?_text (i : Instant) : parse? i.text = some i.reread := by
  have hdate := dateParts?_chars_of (spaced?_cons (by decide)) i.moment.date
    ('T' :: (i.moment.clock.chars ++ ['Z']))
  have hclock := clockParts?_chars_of (spaced?_cons (by decide)) i.moment.clock
    (r := ['Z']) ((noDigitAhead_cons _ _).2 (by decide)) rfl
  have hmark : dateTimeMark? ('T' :: (i.moment.clock.chars ++ ['Z'])) =
      some (i.moment.clock.chars ++ ['Z']) := rfl
  have hend : (Text.trimStart []).isEmpty = true := rfl
  have hutc : Offset.of? 0 = some Offset.utc := rfl
  rw [parse?, text, String.toList_ofList, momentChars_append]
  refine (bind_eq_of_eq_some hdate).trans ?_
  refine (bind_eq_of_eq_some hmark).trans ?_
  refine (bind_eq_of_eq_some hclock).trans ?_
  refine (bind_eq_of_eq_some spacedOffset?_letter).trans ?_
  dsimp only
  rw [if_pos hend]
  refine (bind_eq_of_eq_some (Date.of?_parts _)).trans ?_
  refine (bind_eq_of_eq_some (clock?_reread _)).trans ?_
  refine (bind_eq_of_eq_some hutc).trans ?_
  rw [Moment.toInstant?, Moment.minus?_utc, Option.map_some, reread]

open Calendar in
/-- An instant that is read, with whatever offset, is one that a clock of universal time can
show. -/
theorem Instant.shown_of_parse? {text : String} {i : Instant} (h : parse? text = some i) :
    i.Shown := by
  obtain ⟨⟨⟨year, month, day⟩, _⟩, -, h⟩ := Option.bind_eq_some_iff.1 h
  obtain ⟨_, -, h⟩ := Option.bind_eq_some_iff.1 h
  obtain ⟨⟨⟨hour, minute, second, nano⟩, _⟩, -, h⟩ := Option.bind_eq_some_iff.1 h
  obtain ⟨⟨seconds, _⟩, hseconds, h⟩ := Option.bind_eq_some_iff.1 h
  obtain ⟨-, h⟩ := Option.ite_none_right_eq_some.1 h
  obtain ⟨date, -, h⟩ := Option.bind_eq_some_iff.1 h
  obtain ⟨clock, hclock, h⟩ := Option.bind_eq_some_iff.1 h
  obtain ⟨offset, hoffset, h⟩ := Option.bind_eq_some_iff.1 h
  obtain ⟨m, hm, rfl⟩ := Option.map_eq_some_iff.1 h
  have hmod := spacedOffset?_sound hseconds
  simp only [Offset.of?, Option.dite_none_right_eq_some, Option.some.injEq] at hoffset
  obtain ⟨_, rfl⟩ := hoffset
  exact Moment.shown_of_minus? (shown_of_clock? hclock) hmod hm

end BiblioQuery
