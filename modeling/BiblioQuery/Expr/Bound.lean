import BiblioQuery.Calendar.Reader
import BiblioQuery.Expr.Keyword

/-!
# Bounds of ranges

A bound is a date, a date-time literal or a number.  A date-time literal is a moment with or without
an offset; one without is *naive* and counts as universal time when bounds are compared.

## Main definitions

* `DateTime` : a moment with an optional offset.
* `DateTime.toInstant?` : its instant, where a naive literal takes an assumed offset.
* `Bound` : a bound, with its `Bound.kind`.
* `Bound.parse?`, `Bound.canonicalChars` : the bound of a text, and the text of a bound.
* `Bound.compare?` : the order of two bounds of one kind.

## Main results

* `Bound.kind_of_parse?` : a bound that is read has the kind that was asked for.
* `Bound.compare?_of_kind_ne` : bounds of different kinds are not ordered.
-/

namespace BiblioQuery

/-! ### Date-time literals -/

/-- A moment, with the offset of the clock that shows it, if known. -/
structure DateTime where
  /-- What the clock shows. -/
  wall : Moment
  /-- The offset of the clock. -/
  offset : Option Offset
  deriving DecidableEq

namespace DateTime

/-- The literal of a list of characters without outer blanks: strict with an offset, else lenient
without one. -/
def ofChars? (s : List Char) : Option DateTime :=
  match Calendar.strict? s with
  | some (m, o) => some ⟨m, some o⟩
  | none => (Calendar.lenient? s).map (⟨·, none⟩)

/-- The literal of a text, blanks around it ignored. -/
def parse? (input : String) : Option DateTime := ofChars? (Text.trim input.toList)

/-- The text of a literal. -/
def canonicalChars (t : DateTime) : List Char :=
  t.wall.chars ++ (t.offset.map Offset.chars).getD []

/-- The text of a literal. -/
def canonical (t : DateTime) : String := String.ofList t.canonicalChars

/-- The instant of a literal, a naive one taking the assumed offset; `none` outside the calendar. -/
def toInstant? (t : DateTime) (assumed : Offset) : Option Instant :=
  t.wall.toInstant? (t.offset.getD assumed)

end DateTime

/-! ### Bounds -/

/-- One end of a range. -/
inductive Bound where
  /-- A date. -/
  | date (d : Date)
  /-- A date-time literal. -/
  | dateTime (t : DateTime)
  /-- A number. -/
  | number (x : Number)
  deriving DecidableEq

namespace Bound

/-- The kind of ranges that a bound belongs to. -/
def kind : Bound → RangeKind
  | .date _ => .date
  | .dateTime _ => .dateTime
  | .number _ => .number

/-- The bound of a kind that a text denotes, blanks around it ignored. -/
def parse? (k : RangeKind) (input : String) : Option Bound :=
  match k with
  | .date => (Calendar.lenientDate? (Text.trim input.toList)).map .date
  | .dateTime => (DateTime.parse? input).map .dateTime
  | .number => (Number.parse? input).map .number

/-- A bound that is read has the kind that was asked for. -/
theorem kind_of_parse? {k : RangeKind} {input : String} {b : Bound} (h : parse? k input = some b) :
    b.kind = k := by
  cases k <;> obtain ⟨_, _, rfl⟩ := Option.map_eq_some_iff.1 h <;> rfl

/-- The text of a bound. -/
def canonicalChars : Bound → List Char
  | .date d => d.chars
  | .dateTime t => t.canonicalChars
  | .number x => x.canonicalChars

/-- The text of a bound. -/
def canonical (b : Bound) : String := String.ofList b.canonicalChars

/-- The order of two bounds of one kind, naive literals taken as universal time; `none` for bounds
of different kinds and for literals without instant. -/
def compare? : Bound → Bound → Option Ordering
  | .date a, .date b => some (compare a b)
  | .number a, .number b => some (compare a b)
  | .dateTime a, .dateTime b =>
    match a.toInstant? Offset.utc, b.toInstant? Offset.utc with
    | some i, some j => some (compare i j)
    | _, _ => none
  | _, _ => none

/-- Bounds of different kinds are not ordered. -/
theorem compare?_of_kind_ne {a b : Bound} (h : a.kind ≠ b.kind) : compare? a b = none := by
  cases a <;> cases b <;> simp_all [kind, compare?]

end Bound

end BiblioQuery
