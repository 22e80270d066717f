import BiblioQuery.Expr.Bound
import BiblioQuery.Proofs.Calendar.Neighbours

/-!
# The order of bounds

The bounds of each kind lie on a line of whole numbers: a date at its day number, a number at its
rank, and a date-time at the place of its instant in universal time, if it has one.  Bounds of one
kind are compared as their places.  The lines have no holes: what follows a bound that is not the
last of its kind is a bound again.

Two literals with different offsets are ordered by their seconds of universal time, and within a
second by their nanoseconds.  A leap second falls into the last second of its minute, with
nanoseconds beyond all of that second, and this is what puts it before the next minute.

## Main definitions

* `Bound.place?` : the place of a bound on the line of its kind.
* `Bound.Precedes` : the second bound is the next one after the first.
* `Bound.HasInstant` : a bound, if it is a date-time, has an instant.
* `DateTime.utcSecond`, `DateTime.minuteStart` : where a literal and its minute stand.
* `DateTime.ShowsLeapSecond` : the clock of a literal shows a leap second.

## Main results

* `Bound.compare?_eq_some_iff` : bounds of one kind are compared as their places.
* `Bound.exists_place?_succ` : a bound that is not the last of its kind has a next one.
* `Bound.precedes_iff` : the next bound has the next place.
* `Bound.compare?_swap`, `Bound.compare?_trans`, `Bound.compare?_congr` : laws of the order.
* `Bound.compare?_dateTime` : how literals with any offsets are ordered.
* `Bound.compare?_isTotalPreorder` : the order is a total preorder on each kind.
-/

namespace BiblioQuery

variable {a b : Bound} {p q : Int}

namespace Bound

/-- The place of a bound on the line of its kind; `none` for a date-time literal without instant. -/
def place? : Bound → Option Int
  | .date d => some d.dayNumber
  | .dateTime t => (t.toInstant? .utc).map Instant.place
  | .number x => some x.rank

/-- The second bound is the next one after the first: the next day, the next instant of universal
time, or the next of all finite binary numbers. -/
def Precedes : Bound → Bound → Prop
  | .date d, .date e => d.next? = some e
  | .dateTime s, .dateTime t =>
    ∃ i j, s.toInstant? .utc = some i ∧ t.toInstant? .utc = some j ∧ i.Precedes j
  | .number x, .number y => y.rank = x.rank + 1
  | _, _ => False

/-- Two bounds of one kind are two dates, two date-times or two numbers. -/
theorem cases_of_kind_eq (h : a.kind = b.kind) :
    (∃ d e, a = .date d ∧ b = .date e) ∨ (∃ s t, a = .dateTime s ∧ b = .dateTime t) ∨
      ∃ x y, a = .number x ∧ b = .number y := by
  cases a <;> cases b <;> simp_all [kind]

/-! ### Places -/

/-- Only a date-time can lack a place. -/
theorem exists_place?_iff :
    (∃ p, a.place? = some p) ↔ ∀ t, a = .dateTime t → ∃ i, t.toInstant? .utc = some i := by
  cases a with
  | date d => simp [place?]
  | number x => simp [place?]
  | dateTime t => simp only [place?, ← Option.isSome_iff_exists, Option.isSome_map, dateTime.injEq,
      forall_eq']

/-- Bounds of one kind are compared as their places. -/
theorem compare?_eq_some_iff {o : Ordering} :
    a.compare? b = some o ↔
      a.kind = b.kind ∧ ∃ p q, a.place? = some p ∧ b.place? = some q ∧ compare p q = o := by
  by_cases hkind : a.kind = b.kind
  · rw [and_iff_right hkind]
    obtain ⟨d, e, rfl, rfl⟩ | ⟨s, t, rfl, rfl⟩ | ⟨x, y, rfl, rfl⟩ := cases_of_kind_eq hkind
    · simp [compare?, place?, Date.compare_eq]
    · rw [compare?, place?, place?]
      cases s.toInstant? .utc with
      | none => simp
      | some i =>
        cases t.toInstant? .utc with
        | none => simp
        | some j => simp [Instant.compare_place]
    · simp [compare?, place?, Number.compare_eq]
  · simp [compare?_of_kind_ne hkind, hkind]

/-- Bounds of one kind that have places are compared as these. -/
theorem compare?_of_place? (hkind : a.kind = b.kind) (hp : a.place? = some p)
    (hq : b.place? = some q) : a.compare? b = some (compare p q) :=
  compare?_eq_some_iff.2 ⟨hkind, p, q, hp, hq, rfl⟩

/-! ### Neighbours -/

/-- A bound that some bound of its kind is later than has a next one. -/
theorem exists_place?_succ (hkind : a.kind = b.kind) (hp : a.place? = some p)
    (hq : b.place? = some q) (hlt : p < q) :
    ∃ x : Bound, x.kind = a.kind ∧ x.place? = some (p + 1) := by
  obtain ⟨d, e, rfl, rfl⟩ | ⟨s, t, rfl, rfl⟩ | ⟨x, y, rfl, rfl⟩ := cases_of_kind_eq hkind
  · obtain rfl := Option.some.inj hp
    obtain rfl := Option.some.inj hq
    obtain ⟨f, hf⟩ := Date.exists_next?_of_lt hlt
    exact ⟨.date f, rfl, congrArg some (Date.dayNumber_of_next? hf)⟩
  · obtain ⟨i, -, rfl⟩ := Option.map_eq_some_iff.1 hp
    obtain ⟨j, -, rfl⟩ := Option.map_eq_some_iff.1 hq
    obtain ⟨k, hk⟩ := Instant.exists_place_succ hlt
    refine ⟨.dateTime ⟨k.moment, none⟩, rfl, ?_⟩
    simp [place?, DateTime.toInstant?, Moment.toInstant?, hk]
  · obtain rfl := Option.some.inj hp
    obtain rfl := Option.some.inj hq
    have hx := x.natAbs_rank_lt
    have hy := y.natAbs_rank_lt
    exact ⟨.number ⟨x.rank + 1, by omega⟩, rfl, rfl⟩

/-- The next bound is of the same kind and has the next place. -/
theorem precedes_iff :
    a.Precedes b ↔ a.kind = b.kind ∧ ∃ p, a.place? = some p ∧ b.place? = some (p + 1) := by
  by_cases hkind : a.kind = b.kind
  · rw [and_iff_right hkind]
    obtain ⟨d, e, rfl, rfl⟩ | ⟨s, t, rfl, rfl⟩ | ⟨x, y, rfl, rfl⟩ := cases_of_kind_eq hkind
    · simp [Precedes, place?, Date.next?_eq_some_iff]
    · simp only [Precedes, place?, Option.map_eq_some_iff, Instant.precedes_iff]
      constructor
      · rintro ⟨i, j, hi, hj, hplace⟩
        exact ⟨i.place, ⟨i, hi, rfl⟩, j, hj, hplace⟩
      · rintro ⟨p, ⟨i, hi, rfl⟩, j, hj, hplace⟩
        exact ⟨i, j, hi, hj, hplace⟩
    · simp [Precedes, place?]
  · refine iff_of_false (fun h => hkind ?_) fun h => hkind h.1
    cases a <;> cases b <;> first | rfl | exact h.elim

end Bound

/-! ### Laws of the order -/

/-- A number that is no later than the second one, which is no later than the third one, is compared
with the third one as the earlier two comparisons say together. -/
theorem compare_eq_then_of_isLE {p q n : Int} (h : (compare p q).isLE = true)
    (h' : (compare q n).isLE = true) : compare p n = (compare p q).then (compare q n) := by
  rw [Std.isLE_compare] at h h'
  rcases Int.lt_or_eq_of_le h with h | rfl
  · rw [compare_lt_iff_lt.2 h, compare_lt_iff_lt.2 (Int.lt_of_lt_of_le h h')]
    rfl
  · rw [compare_eq_iff_eq.2 rfl, Ordering.eq_then]

namespace Bound

/-- A date-time has an instant, where a naive one is taken as universal time; dates and numbers need
none. -/
def HasInstant (a : Bound) : Prop := ∀ t, a = .dateTime t → ∃ i, t.toInstant? .utc = some i

theorem hasInstant_iff : a.HasInstant ↔ ∃ p, a.place? = some p := exists_place?_iff.symm

/-- Bounds of one kind are ordered if they have instants. -/
theorem exists_compare?_eq_some (hkind : a.kind = b.kind) (ha : a.HasInstant) (hb : b.HasInstant) :
    ∃ o, a.compare? b = some o := by
  obtain ⟨p, hp⟩ := hasInstant_iff.1 ha
  obtain ⟨q, hq⟩ := hasInstant_iff.1 hb
  exact ⟨_, compare?_of_place? hkind hp hq⟩

/-- The other way round the order is reversed, and there is none where there was none. -/
theorem compare?_swap (a b : Bound) : b.compare? a = (a.compare? b).map Ordering.swap := by
  have hreverse : ∀ {a b : Bound} {o : Ordering}, a.compare? b = some o →
      b.compare? a = some o.swap := by
    intro a b o h
    obtain ⟨hkind, p, q, hp, hq, rfl⟩ := compare?_eq_some_iff.1 h
    rw [compare?_of_place? hkind.symm hq hp, Int.compare_swap]
  cases h : a.compare? b with
  | some o => exact hreverse h
  | none =>
    cases h' : b.compare? a with
    | none => rfl
    | some o => cases h.symm.trans (hreverse h')

/-- The order is transitive: what is no later than something that is no later than a third bound is
no later than that, and earlier if it was earlier in one of the steps. -/
theorem compare?_trans {o o' : Ordering} (hab : a.compare? b = some o) (ho : o.isLE = true)
    {c : Bound} (hbc : b.compare? c = some o') (ho' : o'.isLE = true) :
    a.compare? c = some (o.then o') := by
  obtain ⟨hkind, p, q, hp, hq, rfl⟩ := compare?_eq_some_iff.1 hab
  obtain ⟨hkind', q', n, hq', hn, rfl⟩ := compare?_eq_some_iff.1 hbc
  obtain rfl := Option.some.inj (hq.symm.trans hq')
  rw [compare?_of_place? (hkind.trans hkind') hp hn, compare_eq_then_of_isLE ho ho']

/-- Equal bounds are ordered alike with every bound. -/
theorem compare?_congr (h : a.compare? b = some .eq) (c : Bound) :
    a.compare? c = b.compare? c ∧ c.compare? a = c.compare? b := by
  obtain ⟨hkind, p, q, hp, hq, hpq⟩ := compare?_eq_some_iff.1 h
  obtain rfl := compare_eq_iff_eq.1 hpq
  have hleft : a.compare? c = b.compare? c := by
    refine Option.ext fun o => ?_
    rw [compare?_eq_some_iff, compare?_eq_some_iff, hkind, hp, hq]
  refine ⟨hleft, ?_⟩
  rw [compare?_swap a c, hleft, ← compare?_swap]

end Bound

/-! ### Leap seconds -/

namespace DateTime

variable {s t : DateTime} {i : Instant}

/-- The second of universal time that a literal falls into, counted on the time line; a leap second
falls into the second that it extends. -/
def utcSecond (t : DateTime) : Int := t.wall.seconds - (t.offset.getD .utc).seconds

/-- The second of universal time at which the minute starts that the clock of a literal shows. -/
def minuteStart (t : DateTime) : Int := t.utcSecond - (t.wall.clock.second % 60 : Nat)

/-- The clock of the literal shows a leap second, which is the sixtieth of its minute. -/
def ShowsLeapSecond (t : DateTime) : Prop := t.wall.clock.shownSecond = 60

/-- The instant of a literal is found by its second of universal time, and its nanoseconds. -/
theorem instant_parts (h : t.toInstant? .utc = some i) :
    i.moment.seconds = t.utcSecond ∧ i.moment.clock.nano = t.wall.clock.nano := by
  obtain ⟨m, hm, rfl⟩ := Option.map_eq_some_iff.1 h
  exact Moment.seconds_of_minus? hm

/-- A leap second extends the last second of the minute that its clock shows. -/
theorem ShowsLeapSecond.parts (h : t.ShowsLeapSecond) :
    t.utcSecond = t.minuteStart + 59 ∧ 1000000000 ≤ t.wall.clock.nano := by
  have hnano := t.wall.clock.nano_lt
  rw [ShowsLeapSecond, Clock.shownSecond] at h
  rw [minuteStart]
  omega

end DateTime

namespace Bound

variable {s t : DateTime}

/-- Literals are ordered by their seconds of universal time, then by their nanoseconds, whatever
their offsets are. -/
theorem compare?_dateTime (hs : HasInstant (.dateTime s)) (ht : HasInstant (.dateTime t)) :
    compare? (.dateTime s) (.dateTime t) =
      some ((compare s.utcSecond t.utcSecond).then
        (compare s.wall.clock.nano t.wall.clock.nano)) := by
  obtain ⟨i, hi⟩ := hs s rfl
  obtain ⟨j, hj⟩ := ht t rfl
  obtain ⟨hsecond, hnano⟩ := DateTime.instant_parts hi
  obtain ⟨hsecond', hnano'⟩ := DateTime.instant_parts hj
  rw [compare?, hi, hj]
  dsimp only
  rw [Instant.compare_eq, hsecond, hnano, hsecond', hnano']

/-- A leap second is later than every instant of the last second of its minute. -/
theorem compare?_eq_gt_of_leapSecond (hs : HasInstant (.dateTime s)) (ht : HasInstant (.dateTime t))
    (hleap : s.ShowsLeapSecond) (hsecond : t.utcSecond = s.minuteStart + 59)
    (hnano : t.wall.clock.nano < 1000000000) :
    compare? (.dateTime s) (.dateTime t) = some .gt := by
  obtain ⟨hlast, hextended⟩ := hleap.parts
  rw [compare?_dateTime hs ht, compare_eq_iff_eq.2 (hlast.trans hsecond.symm), Ordering.eq_then,
    compare_gt_iff_gt.2 (Nat.lt_of_lt_of_le hnano hextended)]

/-- A leap second is earlier than every instant from the start of the next minute on. -/
theorem compare?_eq_lt_of_leapSecond (hs : HasInstant (.dateTime s)) (ht : HasInstant (.dateTime t))
    (hleap : s.ShowsLeapSecond) (hnext : s.minuteStart + 60 ≤ t.utcSecond) :
    compare? (.dateTime s) (.dateTime t) = some .lt := by
  have hlt : s.utcSecond < t.utcSecond := by
    rw [hleap.parts.1]
    omega
  rw [compare?_dateTime hs ht, compare_lt_iff_lt.2 hlt]
  rfl

/-! ### The order of bounds -/

/-- The order of bounds is a total preorder on each kind.  Bounds of one kind that have instants, if
they are date-times, are ordered; the other way round the order is reversed; it is transitive, and
equal bounds are ordered alike with every bound.  Bounds of different kinds are not ordered.  A leap
second comes after all of the last second of its minute and before the next minute, whatever the
offsets of the two literals are. -/
theorem compare?_isTotalPreorder :
    (∀ a b : Bound, a.kind = b.kind → a.HasInstant → b.HasInstant → ∃ o, a.compare? b = some o) ∧
    (∀ a b : Bound, b.compare? a = (a.compare? b).map Ordering.swap) ∧
    (∀ (a b c : Bound) (o o' : Ordering), a.compare? b = some o → b.compare? c = some o' →
      o.isLE = true → o'.isLE = true → a.compare? c = some (o.then o')) ∧
    (∀ a b c : Bound, a.compare? b = some .eq →
      a.compare? c = b.compare? c ∧ c.compare? a = c.compare? b) ∧
    (∀ a b : Bound, a.kind ≠ b.kind → a.compare? b = none) ∧
    ∀ s t : DateTime, HasInstant (.dateTime s) → HasInstant (.dateTime t) → s.ShowsLeapSecond →
      (t.utcSecond = s.minuteStart + 59 → t.wall.clock.nano < 1000000000 →
        compare? (.dateTime s) (.dateTime t) = some .gt) ∧
      (s.minuteStart + 60 ≤ t.utcSecond → compare? (.dateTime s) (.dateTime t) = some .lt) :=
  ⟨fun _ _ => exists_compare?_eq_some, compare?_swap,
    fun _ _ _ _ _ hab hbc ho ho' => compare?_trans hab ho hbc ho',
    fun _ _ c h => compare?_congr h c, fun _ _ => compare?_of_kind_ne,
    fun _ _ hs ht hleap => ⟨compare?_eq_gt_of_leapSecond hs ht hleap,
      compare?_eq_lt_of_leapSecond hs ht hleap⟩⟩

/-- The leap second at the end of June 2015, as clocks two hours ahead of universal time show it, is
later than the last tenth of the second before it on clocks five hours behind, and earlier than the
start of July in universal time. -/
theorem compare?_isTotalPreorder_midYear :
    let leap : DateTime :=
      ⟨⟨⟨2015, 7, 1, by decide, by decide, by decide⟩, ⟨7199, 1500000000, by omega, by omega⟩⟩,
        some ⟨7200, by decide⟩⟩
    let before : DateTime :=
      ⟨⟨⟨2015, 6, 30, by decide, by decide, by decide⟩, ⟨68399, 900000000, by omega, by omega⟩⟩,
        some ⟨-18000, by decide⟩⟩
    let after : DateTime :=
      ⟨⟨⟨2015, 7, 1, by decide, by decide, by decide⟩, Clock.midnight⟩, none⟩
    HasInstant (.dateTime leap) ∧ HasInstant (.dateTime before) ∧ HasInstant (.dateTime after) ∧
      leap.ShowsLeapSecond ∧ compare? (.dateTime leap) (.dateTime before) = some .gt ∧
      compare? (.dateTime leap) (.dateTime after) = some .lt ∧
      compare? (.dateTime before) (.dateTime after) = some .lt := by
  intro leap before after
  have hleap : HasInstant (.dateTime leap) := by
    rintro _ ⟨⟩
    exact Option.isSome_iff_exists.1 (by decide)
  have hbefore : HasInstant (.dateTime before) := by
    rintro _ ⟨⟩
    exact Option.isSome_iff_exists.1 (by decide)
  have hafter : HasInstant (.dateTime after) := by
    rintro _ ⟨⟩
    exact Option.isSome_iff_exists.1 (by decide)
  have hshown : leap.ShowsLeapSecond := show leap.wall.clock.shownSecond = 60 by decide
  obtain ⟨-, hswap, htrans, -, -, hleaps⟩ := compare?_isTotalPreorder
  have hlater := (hleaps leap before hleap hbefore hshown).1 (by decide) (by decide)
  have hearlier := (hleaps leap after hleap hafter hshown).2 (by decide)
  have hfirst : compare? (.dateTime before) (.dateTime leap) = some .lt := by
    rw [hswap, hlater]
    rfl
  exact ⟨hleap, hbefore, hafter, hshown, hlater, hearlier,
    htrans _ _ _ _ _ hfirst hearlier rfl rfl⟩

end Bound

end BiblioQuery
