import BiblioQuery.Expr.Bound
import BiblioQuery.Text.Case

/-!
# Values of atoms

What an atom states about its field: a text to match, a list of alternatives, a range, presence or
absence, or an identifier.  Each operator has one shape of value.

## Main definitions

* `TermValue`, `MemberValue`, `RangeValue`, `TokenValue` : the shapes.
* `MemberValue.distinct` : the alternatives without repetitions.
* `RangeValue.KindsMatch` : the bounds are of the kind of the range.
* `RangeValue.isInverted` : the bounds leave no room.
* `AtomValue` : a value of any shape, with its operator and its value type.

## Main results

* `MemberValue.distinctFrom_sublist` : removing repetitions only drops alternatives.
* `RangeValue.kindsMatch_between_map` : ranges of dates, date-times and numbers have bounds of their
  kind.
* `RangeValue.isInverted_eq_false_of_open` : a range with an open end is not inverted.
-/

namespace BiblioQuery

/-! ### Terms -/

/-- A text to match. -/
structure TermValue where
  /-- The text. -/
  text : String
  /-- How it is compared. -/
  matchType : MatchType
  /-- Whether case counts. -/
  caseMode : CaseMode
  deriving DecidableEq

/-- Case counts. -/
def TermValue.isCaseSensitive (t : TermValue) : Bool := t.caseMode == .sensitive

/-- The text has no visible character. -/
def TermValue.isBlank (t : TermValue) : Bool := Text.isBlankText t.text

/-! ### Alternatives -/

/-- A list of alternatives. -/
structure MemberValue where
  /-- The alternatives in the order given, repetitions included. -/
  values : List String
  /-- Whether case counts when alternatives are compared. -/
  caseSensitive : Bool
  deriving DecidableEq

namespace MemberValue

/-- What two alternatives must share to count as one. -/
def key (caseSensitive : Bool) (value : String) : String :=
  if caseSensitive then value else Text.lowercase value

/-- The alternatives whose keys are not among those seen, without repetitions. -/
def distinctFrom (caseSensitive : Bool) : List String → List String → List String
  | _, [] => []
  | seen, v :: r =>
    let k := key caseSensitive v
    if seen.contains k then distinctFrom caseSensitive seen r
    else v :: distinctFrom caseSensitive (k :: seen) r

/-- The alternatives, each at its first occurrence only. -/
def distinct (v : MemberValue) : List String := distinctFrom v.caseSensitive [] v.values

/-- Some alternative occurs twice. -/
def hasDuplicates (v : MemberValue) : Bool := v.distinct.length != v.values.length

/-- Removing repetitions only drops alternatives. -/
theorem distinctFrom_sublist (caseSensitive : Bool) (seen values : List String) :
    (distinctFrom caseSensitive seen values).Sublist values := by
  induction values generalizing seen with
  | nil => exact .slnil
  | cons v r ih =>
    rw [distinctFrom]
    split
    · exact (ih seen).cons v
    · exact (ih _).cons_cons v

end MemberValue

/-! ### Ranges -/

/-- A range of values between two bounds, either of which may be missing.  Nothing keeps the bounds
to the kind of the range: see `RangeValue.KindsMatch`. -/
structure RangeValue where
  /-- What the bounds are. -/
  kind : RangeKind
  /-- The lower bound, if any. -/
  lower : Option Bound
  /-- The upper bound, if any. -/
  upper : Option Bound
  /-- The lower bound itself belongs to the range. -/
  includeLower : Bool
  /-- The upper bound itself belongs to the range. -/
  includeUpper : Bool
  deriving DecidableEq

namespace RangeValue

/-- The range between two bounds, bounds included. -/
def between (kind : RangeKind) (lower upper : Option Bound) : RangeValue where
  kind := kind
  lower := lower
  upper := upper
  includeLower := true
  includeUpper := true

/-- The range between two dates, bounds included. -/
def dates (lower upper : Option Date) : RangeValue :=
  between .date (lower.map .date) (upper.map .date)

/-- The range between two date-time literals, bounds included. -/
def dateTimes (lower upper : Option DateTime) : RangeValue :=
  between .dateTime (lower.map .dateTime) (upper.map .dateTime)

/-- The range between two numbers, bounds included. -/
def numbers (lower upper : Option Number) : RangeValue :=
  between .number (lower.map .number) (upper.map .number)

/-- The bounds of a range are of its kind.  This is so for ranges of dates, date-times and numbers,
and for every range that is read. -/
structure KindsMatch (r : RangeValue) : Prop where
  /-- The lower bound is of the kind of the range. -/
  lower_kind : ∀ b, r.lower = some b → b.kind = r.kind
  /-- The upper bound is of the kind of the range. -/
  upper_kind : ∀ b, r.upper = some b → b.kind = r.kind

/-- A range between bounds that are each made of a value of one kind has bounds of that kind. -/
theorem kindsMatch_between_map {α : Type} {kind : RangeKind} (bound : α → Bound)
    (h : ∀ a, (bound a).kind = kind) (lower upper : Option α) :
    (between kind (lower.map bound) (upper.map bound)).KindsMatch where
  lower_kind b hb := by
    obtain ⟨a, -, rfl⟩ := Option.map_eq_some_iff.1 hb
    exact h a
  upper_kind b hb := by
    obtain ⟨a, -, rfl⟩ := Option.map_eq_some_iff.1 hb
    exact h a

theorem kindsMatch_dates (lower upper : Option Date) : (dates lower upper).KindsMatch :=
  kindsMatch_between_map .date (fun _ => rfl) lower upper

theorem kindsMatch_dateTimes (lower upper : Option DateTime) :
    (dateTimes lower upper).KindsMatch :=
  kindsMatch_between_map .dateTime (fun _ => rfl) lower upper

theorem kindsMatch_numbers (lower upper : Option Number) : (numbers lower upper).KindsMatch :=
  kindsMatch_between_map .number (fun _ => rfl) lower upper

/-- The bounds are in the wrong order, or equal without both being included. -/
def isInverted (r : RangeValue) : Bool :=
  match r.lower, r.upper with
  | some a, some b =>
    match a.compare? b with
    | some .gt => true
    | some .eq => !(r.includeLower && r.includeUpper)
    | _ => false
  | _, _ => false

/-- A range with an open end is not inverted. -/
theorem isInverted_eq_false_of_open {r : RangeValue} (h : r.lower = none ∨ r.upper = none) :
    r.isInverted = false := by
  unfold isInverted
  rcases h with h | h
  · rw [h]
  · rw [h]
    cases r.lower <;> rfl

end RangeValue

/-! ### Identifiers -/

/-- An identifier of some kind. -/
structure TokenValue where
  /-- The kind of the identifier. -/
  kind : String
  /-- The identifier. -/
  value : String
  deriving DecidableEq

/-! ### Values of any shape -/

/-- What an atom states about its field. -/
inductive AtomValue where
  /-- The field has a text. -/
  | term (t : TermValue)
  /-- The field has one of several values. -/
  | member (v : MemberValue)
  /-- The field lies in a range. -/
  | range (r : RangeValue)
  /-- The field is present, or it is absent. -/
  | presence (expected : Bool)
  /-- The field has an identifier. -/
  | token (t : TokenValue)
  deriving DecidableEq

namespace AtomValue

/-- The operator that a value belongs to. -/
def operator : AtomValue → Operator
  | .term _ => .term
  | .member _ => .member
  | .range _ => .range
  | .presence _ => .presence
  | .token _ => .token

/-- The type of a value, by which rules tell values of one operator apart. -/
def valueType : AtomValue → String
  | .term _ => "TEXT"
  | .member _ => "LIST"
  | .range r => r.kind.name
  | .presence expected => if expected then "PRESENT" else "ABSENT"
  | .token t => t.kind

/-- The match type of a text value. -/
def matchType? : AtomValue → Option MatchType
  | .term t => some t.matchType
  | _ => none

end AtomValue

end BiblioQuery
