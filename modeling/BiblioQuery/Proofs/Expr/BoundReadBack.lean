import BiblioQuery.Expr.Bound
import BiblioQuery.Proofs.Calendar.ReadBack
import BiblioQuery.Proofs.Number.ReadBack

/-!
# Bounds read back

The types of the calendar hold more than the readers produce: a leap second in the middle of a
minute, an offset with seconds, an offset beside a year of five digits.  A bound that some text
denotes has none of these, and its own text denotes it again.

## Main definitions

* `DateTime.Readable` : what a date-time literal must be for its text to denote it.
* `Bound.Denotable` : a bound that some text denotes.

## Main results

* `DateTime.readable_of_parse?` : a literal that is read is readable.
* `Bound.denotable_iff` : the bounds that some text denotes.
* `Bound.parse?_canonical` : a bound that some text denotes is denoted by its own text.
-/

namespace BiblioQuery

/-! ### Date-time literals -/

namespace DateTime

/-- A literal whose text denotes it: a clock can show its time of day, and where it has an offset,
that is of whole minutes and the year has four digits. -/
structure Readable (t : DateTime) : Prop where
  /-- A clock can show the time of day. -/
  clock_shown : t.wall.clock.Shown
  /-- Beside an offset the year has four digits. -/
  year_mem : ∀ o, t.offset = some o → 0 ≤ t.wall.date.year ∧ t.wall.date.year ≤ 9999
  /-- The offset is of whole minutes. -/
  offset_mod : ∀ o, t.offset = some o → o.seconds % 60 = 0

/-- A literal that is read is readable. -/
theorem readable_of_ofChars? {s : List Char} {t : DateTime} (h : ofChars? s = some t) :
    t.Readable := by
  unfold ofChars? at h
  split at h
  · rename_i m o hstrict
    obtain rfl := Option.some.inj h
    obtain ⟨hyear, hclock, hoffset⟩ := Calendar.strict?_sound hstrict
    refine ⟨hclock, fun _ _ => hyear, fun o' ho' => ?_⟩
    obtain rfl := Option.some.inj ho'
    exact hoffset
  · obtain ⟨m, hm, rfl⟩ := Option.map_eq_some_iff.1 h
    exact ⟨Calendar.lenient?_sound hm, fun _ ho => (Option.some_ne_none _ ho.symm).elim,
      fun _ ho => (Option.some_ne_none _ ho.symm).elim⟩

/-- A literal that is read is readable. -/
theorem readable_of_parse? {input : String} {t : DateTime} (h : parse? input = some t) :
    t.Readable := by
  rw [parse?] at h
  exact readable_of_ofChars? h

theorem noBlanks_canonicalChars (t : DateTime) : Text.NoBlanks t.canonicalChars := by
  obtain ⟨m, _ | o⟩ := t
  · simpa [canonicalChars] using Text.noBlanks_momentChars m
  · simpa [canonicalChars] using ⟨Text.noBlanks_momentChars m, Text.noBlanks_offsetChars o⟩

/-- A readable literal is read back. -/
theorem ofChars?_canonicalChars {t : DateTime} (h : t.Readable) :
    ofChars? t.canonicalChars = some t := by
  obtain ⟨m, _ | o⟩ := t
  · have hclock : m.clock.Shown := h.clock_shown
    simp [ofChars?, canonicalChars, Calendar.strict?_chars_eq_none hclock,
      Calendar.lenient?_chars hclock]
  · have hstrict := Calendar.strict?_chars (h.year_mem o rfl) h.clock_shown (h.offset_mod o rfl)
    simp [ofChars?, canonicalChars, hstrict]

/-- A readable literal is read back. -/
theorem parse?_canonical {t : DateTime} (h : t.Readable) : parse? t.canonical = some t := by
  rw [parse?, canonical, String.toList_ofList, Text.trim_eq_self t.noBlanks_canonicalChars,
    ofChars?_canonicalChars h]

end DateTime

/-! ### Bounds -/

namespace Bound

/-- Some text denotes the bound. -/
def Denotable (b : Bound) : Prop := ∃ input : String, parse? b.kind input = some b

/-- A bound whose literal, if it is one, is readable is denoted by its own text. -/
theorem parse?_canonical_of_readable {b : Bound} (h : ∀ t, b = .dateTime t → t.Readable) :
    parse? b.kind b.canonical = some b := by
  cases b with
  | date d =>
    simp [parse?, kind, canonical, canonicalChars, Text.trim_eq_self (Text.noBlanks_dateChars d),
      Calendar.lenientDate?_chars]
  | dateTime t =>
    have hback := DateTime.parse?_canonical (h t rfl)
    simpa [parse?, kind, canonical, canonicalChars, DateTime.canonical] using hback
  | number x =>
    have hback := Number.parse?_canonical x
    simpa [parse?, kind, canonical, canonicalChars, Number.canonical] using hback

/-- Dates and numbers are all denoted by some text, and of the literals exactly the readable
ones. -/
theorem denotable_iff {b : Bound} : b.Denotable ↔ ∀ t, b = .dateTime t → t.Readable := by
  constructor
  · rintro ⟨input, hinput⟩ t rfl
    obtain ⟨t', ht, htt⟩ := Option.map_eq_some_iff.1 hinput
    obtain rfl := Bound.dateTime.inj htt
    exact DateTime.readable_of_parse? ht
  · exact fun h => ⟨b.canonical, parse?_canonical_of_readable h⟩

/-- A bound that some text denotes is denoted by its own text. -/
theorem parse?_canonical {b : Bound} (h : b.Denotable) : parse? b.kind b.canonical = some b :=
  parse?_canonical_of_readable (denotable_iff.1 h)

end Bound

end BiblioQuery
