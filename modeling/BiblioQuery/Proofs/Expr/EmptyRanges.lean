import BiblioQuery.Expr.Value
import BiblioQuery.Proofs.Expr.BoundOrder

/-!
# Empty ranges

A range whose bounds are in the wrong order, or equal without both being included, holds nothing.
There is one more kind of empty range: neither bound belongs to it, and the upper one is the next
after the lower one, so that nothing lies between them.  Such a range does not count as inverted.
All other ranges hold something, because dates, instants and numbers lie without holes.

## Main definitions

* `RangeValue.Contains` : a bound lies in a range.
* `RangeValue.IsEmpty` : no bound lies in a range.
* `RangeValue.IsBetweenNeighbours` : both bounds are left out, and they follow one another.

## Main results

* `RangeValue.isInverted_iff_place` : which ranges are inverted, in places of their bounds.
* `RangeValue.exists_contains_iff` : which ranges hold something, in places of their bounds.
* `RangeValue.isInverted_iff_isEmpty` : a range is inverted if it is empty for the first reason.
* `RangeValue.isEmpty_of_nextDay` : a range of dates that is empty and not inverted.
-/

namespace BiblioQuery.RangeValue

variable {r : RangeValue} {a b x : Bound} {p q n : Int}

/-- A bound of the kind of a range lies in it: it is no earlier than the lower bound and no later
than the upper one, and equal to a bound only if that is included. -/
def Contains (r : RangeValue) (x : Bound) : Prop :=
  x.kind = r.kind ∧
    (∀ a, r.lower = some a →
      a.compare? x = some .lt ∨ r.includeLower = true ∧ a.compare? x = some .eq) ∧
    ∀ b, r.upper = some b →
      x.compare? b = some .lt ∨ r.includeUpper = true ∧ x.compare? b = some .eq

/-- No bound lies in the range. -/
def IsEmpty (r : RangeValue) : Prop := ∀ x, ¬r.Contains x

/-- Neither bound belongs to the range, and the upper one is the next after the lower one. -/
def IsBetweenNeighbours (r : RangeValue) : Prop :=
  r.includeLower = false ∧ r.includeUpper = false ∧
    ∃ a b, r.lower = some a ∧ r.upper = some b ∧ a.Precedes b

/-! ### In places -/

/-- The bounds of a range with both ends are of one kind, if they are of its kind. -/
theorem KindsMatch.kind_eq_kind (hr : r.KindsMatch) (ha : r.lower = some a)
    (hb : r.upper = some b) : a.kind = b.kind :=
  (hr.lower_kind a ha).trans (hr.upper_kind b hb).symm

/-- A bound is before another one, or at the same place where this is allowed. -/
theorem compare?_lt_or_eq_iff {included : Bool} (hkind : a.kind = b.kind) (hp : a.place? = some p)
    (hq : b.place? = some q) :
    (a.compare? b = some .lt ∨ included = true ∧ a.compare? b = some .eq) ↔
      p < q ∨ included = true ∧ p = q := by
  rw [Bound.compare?_of_place? hkind hp hq, Option.some.injEq, Option.some.injEq,
    compare_lt_iff_lt, compare_eq_iff_eq]

/-- What lies in a range has a place between those of the bounds. -/
theorem contains_iff (hr : r.KindsMatch) (ha : r.lower = some a) (hb : r.upper = some b)
    (hp : a.place? = some p) (hq : b.place? = some q) :
    r.Contains x ↔ x.kind = r.kind ∧ ∃ n, x.place? = some n ∧
      (p < n ∨ r.includeLower = true ∧ p = n) ∧ (n < q ∨ r.includeUpper = true ∧ n = q) := by
  simp only [Contains, ha, hb, Option.some.injEq, forall_eq']
  refine and_congr_right fun hkind => ?_
  have hax : a.kind = x.kind := (hr.lower_kind a ha).trans hkind.symm
  have hxb : x.kind = b.kind := hkind.trans (hr.upper_kind b hb).symm
  constructor
  · rintro ⟨hlower, hupper⟩
    obtain ⟨n, hn⟩ : ∃ n, x.place? = some n := by
      rcases hlower with h | ⟨-, h⟩
      · obtain ⟨-, -, n, -, hn, -⟩ := Bound.compare?_eq_some_iff.1 h
        exact ⟨n, hn⟩
      · obtain ⟨-, -, n, -, hn, -⟩ := Bound.compare?_eq_some_iff.1 h
        exact ⟨n, hn⟩
    exact ⟨n, hn, (compare?_lt_or_eq_iff hax hp hn).1 hlower,
      (compare?_lt_or_eq_iff hxb hn hq).1 hupper⟩
  · rintro ⟨n, hn, hlower, hupper⟩
    exact ⟨(compare?_lt_or_eq_iff hax hp hn).2 hlower, (compare?_lt_or_eq_iff hxb hn hq).2 hupper⟩

/-- A range is inverted if its upper place comes before the lower one, or if they are the same
without both being included. -/
theorem isInverted_iff_place (hr : r.KindsMatch) (ha : r.lower = some a) (hb : r.upper = some b)
    (hp : a.place? = some p) (hq : b.place? = some q) :
    r.isInverted = true ↔ q < p ∨ p = q ∧ ¬(r.includeLower = true ∧ r.includeUpper = true) := by
  simp only [isInverted, ha, hb, Bound.compare?_of_place? (hr.kind_eq_kind ha hb) hp hq]
  rcases lt_trichotomy p q with h | h | h
  · simp [compare_lt_iff_lt.2 h, h.ne, h.le]
  · simp [h, imp_iff_not_or]
  · simp [compare_gt_iff_gt.2 h, h]

/-- The bounds of a range between neighbours have neighbouring places. -/
theorem isBetweenNeighbours_iff_place (hr : r.KindsMatch) (ha : r.lower = some a)
    (hb : r.upper = some b) (hp : a.place? = some p) (hq : b.place? = some q) :
    r.IsBetweenNeighbours ↔ r.includeLower = false ∧ r.includeUpper = false ∧ q = p + 1 := by
  simp only [IsBetweenNeighbours, ha, hb, Option.some.injEq, exists_and_left, exists_eq_left',
    Bound.precedes_iff, hr.kind_eq_kind ha hb, hp, hq, true_and]

/-- Something lies in a range that has a place for it: an included bound, or a place between the
bounds, which is always that of some bound. -/
theorem exists_contains_iff (hr : r.KindsMatch) (ha : r.lower = some a) (hb : r.upper = some b)
    (hp : a.place? = some p) (hq : b.place? = some q) :
    (∃ x, r.Contains x) ↔ p = q ∧ r.includeLower = true ∧ r.includeUpper = true ∨
      p < q ∧ (r.includeLower = true ∨ r.includeUpper = true ∨ p + 1 < q) := by
  simp only [contains_iff hr ha hb hp hq]
  constructor
  · rintro ⟨x, -, n, -, hlower, hupper⟩
    rcases hlower with hlower | ⟨hl, rfl⟩
    · rcases hupper with hupper | ⟨hu, rfl⟩
      · exact .inr ⟨by omega, .inr (.inr (by omega))⟩
      · exact .inr ⟨hlower, .inr (.inl hu)⟩
    · rcases hupper with hupper | ⟨hu, rfl⟩
      · exact .inr ⟨hupper, .inl hl⟩
      · exact .inl ⟨rfl, hl, hu⟩
  · rintro (⟨rfl, hl, hu⟩ | ⟨hlt, hl | hu | hbetween⟩)
    · exact ⟨a, hr.lower_kind a ha, p, hp, .inr ⟨hl, rfl⟩, .inr ⟨hu, rfl⟩⟩
    · exact ⟨a, hr.lower_kind a ha, p, hp, .inr ⟨hl, rfl⟩, .inl hlt⟩
    · exact ⟨b, hr.upper_kind b hb, q, hq, .inl hlt, .inr ⟨hu, rfl⟩⟩
    · obtain ⟨x, hkind, hx⟩ := Bound.exists_place?_succ (hr.kind_eq_kind ha hb) hp hq hlt
      exact ⟨x, hkind.trans (hr.lower_kind a ha), p + 1, hx, .inl (by omega), .inl hbetween⟩

/-! ### Which ranges are empty -/

/-- A range between two bounds of its kind that have instants, if they are date-times, is inverted
exactly if it is empty and does not lie between neighbours; a range between neighbours is empty as
well. -/
theorem isInverted_iff_isEmpty (hr : r.KindsMatch) (ha : r.lower = some a) (hb : r.upper = some b)
    (hla : ∀ t, a = .dateTime t → ∃ i, t.toInstant? .utc = some i)
    (hlb : ∀ t, b = .dateTime t → ∃ i, t.toInstant? .utc = some i) :
    (r.isInverted = true ↔ r.IsEmpty ∧ ¬r.IsBetweenNeighbours) ∧
      (r.IsBetweenNeighbours → r.IsEmpty) := by
  obtain ⟨p, hp⟩ := Bound.exists_place?_iff.2 hla
  obtain ⟨q, hq⟩ := Bound.exists_place?_iff.2 hlb
  rw [IsEmpty, ← not_exists, exists_contains_iff hr ha hb hp hq,
    isInverted_iff_place hr ha hb hp hq, isBetweenNeighbours_iff_place hr ha hb hp hq]
  grind

/-- The leap second at the end of the year 2016, as clocks an hour ahead of universal time show it,
is later than the nanosecond before it, although both fall into one second of the day: no instant
lies in the range from the one to the other. -/
theorem isInverted_iff_isEmpty_leapSecond :
    let leap : DateTime :=
      ⟨⟨⟨2017, 1, 1, by decide, by decide, by decide⟩, ⟨3599, 1000000000, by omega, by omega⟩⟩,
        some ⟨3600, by decide⟩⟩
    let before : DateTime :=
      ⟨⟨⟨2016, 12, 31, by decide, by decide, by decide⟩, ⟨86399, 999999999, by omega, by omega⟩⟩,
        none⟩
    let r := dateTimes (some leap) (some before)
    r.KindsMatch ∧ r.lower = some (.dateTime leap) ∧ r.upper = some (.dateTime before) ∧
      (∃ i, leap.toInstant? .utc = some i) ∧ (∃ i, before.toInstant? .utc = some i) ∧
      r.isInverted = true ∧ r.IsEmpty := by
  intro leap before r
  have hlower : ∃ i, leap.toInstant? .utc = some i := Option.isSome_iff_exists.1 (by decide)
  have hupper : ∃ i, before.toInstant? .utc = some i := Option.isSome_iff_exists.1 (by decide)
  have hinverted : r.isInverted = true := by decide
  have hkinds : r.KindsMatch := kindsMatch_dateTimes _ _
  obtain ⟨hiff, -⟩ := isInverted_iff_isEmpty hkinds (a := .dateTime leap) (b := .dateTime before)
    rfl rfl (by rintro _ ⟨⟩; exact hlower) (by rintro _ ⟨⟩; exact hupper)
  exact ⟨hkinds, rfl, rfl, hlower, hupper, hinverted, (hiff.1 hinverted).1⟩

/-- The days after the first and before the second of January 2024. -/
def betweenDays : RangeValue :=
  { dates (Date.of? 2024 1 1) (Date.of? 2024 1 2) with
    includeLower := false
    includeUpper := false }

theorem kindsMatch_betweenDays : betweenDays.KindsMatch := by
  have hkinds := kindsMatch_dates (Date.of? 2024 1 1) (Date.of? 2024 1 2)
  exact ⟨hkinds.lower_kind, hkinds.upper_kind⟩

/-- There is no day after the first and before the second of January, and the range of these days,
whose bounds are of its kind, is not inverted. -/
theorem isEmpty_of_nextDay :
    betweenDays.KindsMatch ∧ betweenDays.IsEmpty ∧ betweenDays.isInverted = false ∧
      ¬(betweenDays.isInverted = true ↔ betweenDays.IsEmpty) := by
  have hempty : betweenDays.IsEmpty := by
    rw [IsEmpty, ← not_exists, exists_contains_iff kindsMatch_betweenDays rfl rfl rfl rfl]
    decide
  have hinverted : betweenDays.isInverted = false := by decide
  refine ⟨kindsMatch_betweenDays, hempty, hinverted, fun h => ?_⟩
  rw [h.2 hempty] at hinverted
  cases hinverted

end BiblioQuery.RangeValue
