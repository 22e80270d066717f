import BiblioQuery.Proofs.Calendar.TimeLine
import BiblioQuery.Proofs.Query.Passing
import BiblioQuery.Proofs.Query.Stages

/-!
# The order of the bounds in a query

The check compares date-times with naive ones taken as universal time, and writing gives naive ones
the offset of the options.  A query has its bounds in order where both are put back by the same
number of seconds.  Where only one of them is naive, the offset may carry it over the other one, and
no error says so.

## Main definitions

* `RangeValue.Admits` : two instants are in order as the bounds of a range.
* `RangeValue.LeavesRoom` : the same in seconds and nanoseconds.
* `DateTime.putBack` : the seconds that writing puts a date-time back and the check does not.

## Main results

* `RangeValue.admits_of_isInverted_eq_false` : what the check makes sure of.
* `DateTime.seconds_of_toInstant?` : how far apart the instants of check and writing are.
* `Snapshot.admits_iff_of_compile` : when the bounds in a query are in order.
* `Snapshot.not_admits_of_onlyLowerNaive` : a query with its bounds in the wrong order.
-/

namespace BiblioQuery

/-! ### Bounds in order -/

namespace RangeValue

variable {r : RangeValue} {i j : Instant}

/-- Two instants are in order as the bounds of a range: the lower one is no later, and is earlier
unless both bounds are included. -/
def Admits (r : RangeValue) (i j : Instant) : Prop :=
  (compare i j).isLE = true ∧
    (¬(r.includeLower = true ∧ r.includeUpper = true) → compare i j = .lt)

/-- There is room between two places on the time line, each given by seconds and nanoseconds. -/
def LeavesRoom (r : RangeValue) (lower : Int) (lowerNano : Nat) (upper : Int) (upperNano : Nat) :
    Prop :=
  lower < upper ∨ lower = upper ∧ (lowerNano < upperNano ∨
    lowerNano = upperNano ∧ r.includeLower = true ∧ r.includeUpper = true)

theorem admits_iff : r.Admits i j ↔ compare i j = .lt ∨
    compare i j = .eq ∧ r.includeLower = true ∧ r.includeUpper = true := by
  rw [Admits]
  cases compare i j <;> simp

/-- Instants are in order where there is room between their places. -/
theorem admits_iff_leavesRoom : r.Admits i j ↔
    r.LeavesRoom i.moment.seconds i.moment.clock.nano j.moment.seconds j.moment.clock.nano := by
  rw [admits_iff, Instant.compare_eq_lt_iff, Instant.compare_eq_eq_iff, LeavesRoom, or_assoc,
    and_assoc, ← and_or_left]

/-- Places that are moved by the same number of seconds keep the room between them. -/
theorem leavesRoom_sub_sub (r : RangeValue) (lower upper moved : Int) (m n : Nat) :
    r.LeavesRoom (lower - moved) m (upper - moved) n ↔ r.LeavesRoom lower m upper n := by
  have hlt : lower - moved < upper - moved ↔ lower < upper := by omega
  have heq : lower - moved = upper - moved ↔ lower = upper := by omega
  rw [LeavesRoom, hlt, heq, LeavesRoom]

/-- Bounds that are not inverted are in order in universal time. -/
theorem admits_of_isInverted_eq_false {x y : DateTime} (h : r.isInverted = false)
    (hx : r.lower = some (.dateTime x)) (hy : r.upper = some (.dateTime y))
    (hi : x.toInstant? .utc = some i) (hj : y.toInstant? .utc = some j) : r.Admits i j := by
  simp only [isInverted, hx, hy, Bound.compare?, hi, hj] at h
  rw [admits_iff]
  cases hcompare : compare i j <;> simp_all

end RangeValue

/-! ### What writing puts back -/

namespace DateTime

variable {t : DateTime} {assumed : Offset} {i i₀ : Instant}

/-- The seconds that writing puts a date-time back and the check does not: those of the assumed
offset, if the date-time is naive. -/
def putBack (t : DateTime) (assumed : Offset) : Int :=
  match t.offset with
  | none => assumed.seconds
  | some _ => 0

/-- A date-time with an instant has one for the check. -/
theorem exists_toInstant?_utc (h : t.toInstant? assumed = some i) :
    ∃ i₀, t.toInstant? .utc = some i₀ := by
  obtain ⟨m, offset⟩ := t
  cases offset with
  | none => exact ⟨⟨m⟩, by simp [toInstant?, Moment.toInstant?]⟩
  | some o => exact ⟨i, h⟩

/-- Writing puts a date-time back from where the check takes it to be. -/
theorem seconds_of_toInstant? (h : t.toInstant? assumed = some i)
    (h₀ : t.toInstant? .utc = some i₀) :
    i.moment.seconds = i₀.moment.seconds - t.putBack assumed ∧
      i.moment.clock.nano = i₀.moment.clock.nano := by
  obtain ⟨m, offset⟩ := t
  cases offset with
  | none =>
    simp only [toInstant?, Option.getD_none, Moment.toInstant?, Moment.minus?_utc] at h h₀
    obtain ⟨n, hn, rfl⟩ := Option.map_eq_some_iff.1 h
    obtain rfl := Option.some.inj h₀
    exact Moment.seconds_of_minus? hn
  | some o =>
    obtain rfl := Option.some.inj (h.symm.trans h₀)
    exact ⟨(Int.sub_zero _).symm, rfl⟩

end DateTime

/-! ### The bounds in a query -/

namespace Snapshot

variable {s : Snapshot} {o : Options} {e : Expr} {c : Compiled} {a : Atom} {r : RangeValue}
variable {x y : DateTime}

/-- The bounds of a range in a query without errors have instants.  In universal time they are in
order; as they are written, they are in order exactly where there is still room between them once
each is put back, which is so if both are put back by the same number of seconds. -/
theorem admits_iff_of_compile (h : s.compile o e = .ok c) (hok : c.isOk = true)
    (ha : a ∈ c.normalized.atoms) (hr : a.value = .range r)
    (hx : r.lower = some (.dateTime x)) (hy : r.upper = some (.dateTime y)) :
    ∃ assumed i j i₀ j₀, o.offset? = some assumed ∧
      x.toInstant? assumed = some i ∧ y.toInstant? assumed = some j ∧
      x.toInstant? .utc = some i₀ ∧ y.toInstant? .utc = some j₀ ∧ r.Admits i₀ j₀ ∧
      (r.Admits i j ↔
        r.LeavesRoom (i₀.moment.seconds - x.putBack assumed) i₀.moment.clock.nano
          (j₀.moment.seconds - y.putBack assumed) j₀.moment.clock.nano) ∧
      (x.putBack assumed = y.putBack assumed → r.Admits i j) := by
  obtain ⟨assumed, n, hoffset, -, rfl⟩ := compile_eq_ok_iff.1 h
  obtain ⟨stage, hstage⟩ := exists_endsAt_compileNormal s o assumed n
  obtain rfl := hstage.isOk_iff.1 hok
  -- without errors both the check and writing have passed, and each of them speaks of the atom
  obtain ⟨hpassed, hwritten⟩ : _ ∧ _ := by
    cases hstage with
    | complete hpassed hwritten => exact ⟨hpassed, hwritten⟩
  obtain ⟨w, hw⟩ := Expr.exists_write_of_render hwritten ha
  obtain ⟨⟨i, hi⟩, j, hj⟩ := Atom.exists_toInstant?_of_write hw hr hx hy
  obtain ⟨i₀, hi₀⟩ := DateTime.exists_toInstant?_utc hi
  obtain ⟨j₀, hj₀⟩ := DateTime.exists_toInstant?_utc hj
  obtain ⟨hlower, hlowerNano⟩ := DateTime.seconds_of_toInstant? hi hi₀
  obtain ⟨hupper, hupperNano⟩ := DateTime.seconds_of_toInstant? hj hj₀
  have hchecked : r.Admits i₀ j₀ := RangeValue.admits_of_isInverted_eq_false
    (Expr.isInverted_eq_false_of_check hpassed ha hr) hx hy hi₀ hj₀
  have hiff : r.Admits i j ↔ r.LeavesRoom (i₀.moment.seconds - x.putBack assumed)
      i₀.moment.clock.nano (j₀.moment.seconds - y.putBack assumed) j₀.moment.clock.nano := by
    rw [RangeValue.admits_iff_leavesRoom, hlower, hlowerNano, hupper, hupperNano]
  refine ⟨assumed, i, j, i₀, j₀, hoffset, hi, hj, hi₀, hj₀, hchecked, hiff, fun hsame => ?_⟩
  rw [hiff, hsame, RangeValue.leavesRoom_sub_sub]
  exact RangeValue.admits_iff_leavesRoom.1 hchecked

/-- A provider that can be asked for times of publication and nothing else. -/
def publishedOnly : Snapshot :=
  .ofOne ((Declaration.of "published").allow .range)
    (.of "published" ⟨"\x7blower\x7d TO \x7bupper\x7d",
      [.slot .lower, .literal " TO ".toList, .slot .upper], by cbv⟩)

/-- A zone five hours behind universal time. -/
def fiveBehind : Options := { Options.standard with timezone := "-05:00" }

/-- A time of the first day of the year 2024. -/
def newYear (hour : Nat) (h : hour < 24) : Moment :=
  ⟨(Date.of? 2024 1 1).getD .epoch, ⟨3600 * hour, 0, by omega, Clock.midnight.nano_lt⟩⟩

/-- Noon on clocks that are not named. -/
def noon : DateTime := ⟨newYear 12 (by decide), none⟩

/-- One o'clock on clocks that are not named. -/
def one : DateTime := ⟨newYear 13 (by decide), none⟩

/-- One o'clock of universal time. -/
def oneUniversal : DateTime := ⟨newYear 13 (by decide), some .utc⟩

/-- The statement that something was published between two times, bounds included. -/
def published (lower upper : DateTime) : Atom :=
  ⟨"published", .range (.dateTimes (some lower) (some upper)), false⟩

theorem offset?_fiveBehind : fiveBehind.offset? = some ⟨-18000, by decide⟩ := by decide

/-- Both bounds are put back by the offset of the zone and stay in order. -/
theorem admits_iff_of_compile_bothNaive :
    ∃ c, publishedOnly.compile fiveBehind (.atom (published noon one)) = .ok c ∧ c.isOk = true ∧
      ∃ assumed i j, fiveBehind.offset? = some assumed ∧ noon.toInstant? assumed = some i ∧
        one.toInstant? assumed = some j ∧
        (RangeValue.dateTimes (some noon) (some one)).Admits i j := by
  have hcompile := (compile_eq_ok_iff (s := publishedOnly) (o := fiveBehind)
    (e := .atom (published noon one))).2 ⟨_, _, offset?_fiveBehind, rfl, rfl⟩
  obtain ⟨assumed, i, j, -, -, hoffset, hi, hj, -, -, -, -, hsame⟩ :=
    admits_iff_of_compile (s := publishedOnly) (o := fiveBehind) (e := .atom (published noon one))
      (a := published noon one) (r := .dateTimes (some noon) (some one)) (x := noon) (y := one)
      hcompile (by decide) (by decide) rfl rfl rfl
  exact ⟨_, hcompile, by decide, assumed, i, j, hoffset, hi, hj, hsame rfl⟩

/-- Only the lower bound is put back, beyond the upper one, and there is no error: the bounds of
the query are in the wrong order. -/
theorem not_admits_of_onlyLowerNaive :
    publishedOnly.validate = .ok () ∧
      ∃ c, publishedOnly.compile fiveBehind (.atom (published noon oneUniversal)) = .ok c ∧
        c.isOk = true ∧ published noon oneUniversal ∈ c.normalized.atoms ∧
        c.query = "2024-01-01T17:00:00Z TO 2024-01-01T13:00:00Z" ∧
        ∃ assumed i j, fiveBehind.offset? = some assumed ∧ noon.toInstant? assumed = some i ∧
          oneUniversal.toInstant? assumed = some j ∧
          ¬(RangeValue.dateTimes (some noon) (some oneUniversal)).Admits i j :=
  ⟨by decide, _, rfl, by decide, by decide, by decide, ⟨-18000, by decide⟩,
    ⟨newYear 17 (by decide)⟩, ⟨newYear 13 (by decide)⟩, by decide, by decide, by decide,
    fun h => absurd h.1 (by decide)⟩

end Snapshot

end BiblioQuery
