import BiblioQuery.Query.Issue
import BiblioQuery.Query.Selection

/-!
# Fragments

An atom is written by filling the template of its rule with the texts of its value.  What comes out
is a fragment, which is a part of the query or goes to a parameter.

## Main definitions

* `RenderFault` : what keeps an atom or a denial from being written, with `RenderFault.issue`.
* `Rule.boundText` : a bound in the format of a rule.
* `Rule.slots` : the texts of the slots for a value.
* `Rule.write` : the text of an atom by a rule.
* `Dialect.deny` : a fragment turned into its denial.
* `Applied` : the fragment of an atom with its rule.
* `Atom.write` : the fragment of an atom.

## Main results

* `Rule.changed_none` : without transform, texts stay as they are.
-/

namespace BiblioQuery

/-! ### Faults -/

/-- Why a bound cannot be written. -/
inductive BoundFault where
  /-- The moment is outside the calendar of universal time. -/
  | outsideCalendar
  /-- The format asks for what the bound does not have. -/
  | formatRejected
  deriving DecidableEq

/-- The words for a reason. -/
def BoundFault.text : BoundFault → String
  | .outsideCalendar => "date-time not representable in UTC"
  | .formatRejected => "format string rejected"

/-- What is found while an expression is written. -/
inductive RenderFault where
  /-- No rule fits an atom. -/
  | noRule (field : String) (operator : Operator) (negated : Bool)
  /-- A slot of a template of a rule has no value. -/
  | unboundInRule (field rule : String) (slot : Placeholder) (template : String)
  /-- A slot of the template for denials has no value. -/
  | unboundInDialect (slot : Placeholder) (template : String)
  /-- Denials cannot be written. -/
  | noNegation (field : Option String)
  /-- A bound cannot be written. -/
  | unwritableBound (field rule : String) (bound : Bound) (reason : BoundFault)
  /-- Falsity cannot be written. -/
  | noMatchNothing
  /-- A parameter holds whatever the rest of the query says, yet its atom need not. -/
  | unconditionalParam (field key : String)
  deriving DecidableEq

namespace RenderFault

/-- The code of a fault. -/
def code : RenderFault → IssueCode
  | .noRule _ _ _ => .renderRuleMissing
  | .unboundInRule _ _ _ _ | .unboundInDialect _ _ => .templateUnbound
  | .noNegation _ => .negationUnsupported
  | .unwritableBound _ _ _ _ => .renderFormatFailed
  | .noMatchNothing => .noMatchNothingMarker
  | .unconditionalParam _ _ => .paramUnderDisjunction

/-- How bad a fault is: all but an unconditional parameter keep the query from being made. -/
def severity : RenderFault → Severity
  | .unconditionalParam _ _ => .warning
  | _ => .error

/-- The message about a fault. -/
def message : RenderFault → String
  | .noRule field operator _ =>
    "no render rule for field/operator combination " ++ field ++ "/" ++ operator.name
  | .unboundInRule _ _ slot template | .unboundInDialect slot template =>
    "placeholder " ++ slot.source ++ " has no value in template '" ++ template ++ "'"
  | .noNegation _ => "provider has no negation syntax"
  | .unwritableBound _ _ bound reason =>
    "cannot format range bound " ++ bound.canonical ++ ": " ++ reason.text
  | .noMatchNothing => "provider has no match-nothing marker to render false"
  | .unconditionalParam _ key =>
    "parameter '" ++ key ++
      "' emitted under OR/NOT; the provider applies it unconditionally"

/-- The particulars of a fault. -/
def particulars : RenderFault → List (String × String)
  | .noRule field operator negated =>
    [("field", field), ("operator", operator.name), ("negated", toString negated)]
  | .unboundInRule field rule slot _ =>
    [("placeholder", slot.source), ("template_owner", rule), ("field", field), ("rule_id", rule)]
  | .unboundInDialect slot _ => [("placeholder", slot.source), ("template_owner", "dialect")]
  | .noNegation field => field.toList.map ("field", ·)
  | .unwritableBound field rule bound _ =>
    [("value", bound.canonical), ("field", field), ("rule_id", rule)]
  | .noMatchNothing => []
  | .unconditionalParam field key => [("field", field), ("param", key)]

/-- The issue of a fault. -/
def issue (f : RenderFault) : Issue := ⟨f.severity, f.code, f.message, .ofList f.particulars⟩

end RenderFault

/-! ### Values -/

namespace Rule

/-- A text of a value as the rule changes it. -/
def changed (r : Rule) (s : String) : String :=
  match r.transform with
  | none => s
  | some t => t.apply s

/-- Without transform, texts stay as they are. -/
@[simp]
theorem changed_none {r : Rule} (h : r.transform = none) (s : String) : r.changed s = s := by
  rw [changed, h]

/-- The text of a parameter of the rule, or a default. -/
def paramOr (r : Rule) (key default : String) : String := (r.params.get? key).getD default

/-- A bound in the format of the rule; moments are given in universal time. -/
def boundText (r : Rule) (assumed : Offset) : Bound → Except BoundFault String
  | .date d =>
    match Format.write? ⟨d, none⟩ (r.paramOr "date_format" "%Y-%m-%d") with
    | some s => .ok s
    | none => .error .formatRejected
  | .dateTime t =>
    match t.toInstant? assumed with
    | none => .error .outsideCalendar
    | some i =>
      match Format.write? ⟨i.moment.date, some i.moment.clock⟩
        (r.paramOr "datetime_format" "%Y-%m-%dT%H:%M:%SZ") with
      | some s => .ok s
      | none => .error .formatRejected
  | .number x => .ok x.display

/-- The text of an end of a range: the bound, or the mark of an open end. -/
def endText (r : Rule) (assumed : Offset) (field : String) :
    Option Bound → Except RenderFault String
  | none => .ok (r.paramOr "open_bound" "*")
  | some b =>
    match r.boundText assumed b with
    | .ok s => .ok (r.changed s)
    | .error reason => .error (.unwritableBound field r.id b reason)

/-- The bracket before the lower bound. -/
def lowerBracket (r : Rule) (included : Bool) : String :=
  if included then r.paramOr "lower_inclusive" "[" else r.paramOr "lower_exclusive" "\x7b"

/-- The bracket after the upper bound. -/
def upperBracket (r : Rule) (included : Bool) : String :=
  if included then r.paramOr "upper_inclusive" "]" else r.paramOr "upper_exclusive" "\x7d"

/-! ### Slots -/

/-- The texts of all slots: the field and the parameters of the rule, and what a value gives. -/
def slotText (r : Rule) (field : String) (own : Placeholder → Option String) :
    Placeholder → Option String
  | .field => some field
  | .param name => r.params.get? name
  | p => own p

/-- A template of the rule, filled for a field and a value. -/
def fill (r : Rule) (field : String) (t : Template) (own : Placeholder → Option String) :
    Except RenderFault String :=
  match t.fill (r.slotText field own) with
  | .ok s => .ok s
  | .error slot => .error (.unboundInRule field r.id slot t.source)

/-- The slots of an alternative. -/
def itemSlots (item : String) : Placeholder → Option String
  | .value | .item => some item
  | .quoted => some (Transform.quote item)
  | _ => none

/-- An alternative as it stands in the list. -/
def itemText (r : Rule) (field value : String) : Except RenderFault String :=
  match r.itemTemplate with
  | none => .ok (r.changed value)
  | some t => r.fill field t (itemSlots (r.changed value))

/-- The slots of a text that is compared in some way. -/
def termSlots (text : String) (m : MatchType) : Placeholder → Option String
  | .value => some text
  | .quoted => some (Transform.quote text)
  | .matchType => some m.name
  | _ => none

/-- The slots of an identifier. -/
def tokenSlots (kind value : String) : Placeholder → Option String
  | .value => some value
  | .quoted => some (Transform.quote value)
  | .tokenKind => some kind
  | _ => none

/-- The slots of a list of alternatives. -/
def memberSlots (joined : String) : Placeholder → Option String
  | .values => some joined
  | _ => none

/-- The slots of a range with the texts of its ends. -/
def rangeSlots (r : Rule) (v : RangeValue) (lower upper : String) : Placeholder → Option String
  | .lower => some lower
  | .upper => some upper
  | .lowerBracket => some (r.lowerBracket v.includeLower)
  | .upperBracket => some (r.upperBracket v.includeUpper)
  | .kind => some v.kind.name
  | _ => none

/-- The slots of presence. -/
def presenceSlots (expected : Bool) : Placeholder → Option String
  | .expected => some (toString expected)
  | _ => none

/-- The slots that a value fills, where `joiner` stands between alternatives. -/
def slots (r : Rule) (joiner : String) (assumed : Offset) (field : String) :
    AtomValue → Except RenderFault (Placeholder → Option String)
  | .term t => .ok (termSlots (r.changed t.text) t.matchType)
  | .member v => do
    let items ← v.distinct.mapM (r.itemText field)
    return memberSlots (joiner.intercalate items)
  | .range v => do
    let lower ← r.endText assumed field v.lower
    let upper ← r.endText assumed field v.upper
    return r.rangeSlots v lower upper
  | .presence expected => .ok (presenceSlots expected)
  | .token t => .ok (tokenSlots t.kind (r.changed t.value))

/-- The text of an atom by the rule, before any grouping and denial. -/
def write (r : Rule) (d : Dialect) (assumed : Offset) (a : Atom) : Except RenderFault String := do
  let own ← r.slots (r.joiner.getD d.orJoiner) assumed a.field a.value
  r.fill a.field r.template own

end Rule

/-! ### Denials -/

namespace Dialect

/-- The slots of the template for denials. -/
def denialSlots (field : Option String) (inner : String) : Placeholder → Option String
  | .value => some inner
  | .field => field
  | _ => none

/-- The denial of a fragment, of an atom with the given field or of a group. -/
def deny (d : Dialect) (field : Option String) (inner : String) : Except RenderFault String :=
  match d.notTemplate with
  | none => .error (.noNegation field)
  | some t =>
    match t.fill (denialSlots field inner) with
    | .ok s => .ok s
    | .error slot => .error (.unboundInDialect slot t.source)

end Dialect

/-! ### Atoms -/

/-- A fragment with the rule that it was written by. -/
structure Applied where
  /-- The rule. -/
  rule : Rule
  /-- What the rule wrote was denied. -/
  denied : Bool
  /-- The fragment. -/
  fragment : String

/-- The fragment of an atom, or why there is none. -/
def Atom.write (s : Snapshot) (assumed : Offset) (a : Atom) : Except RenderFault Applied :=
  match s.ruleFor? a with
  | none => .error (.noRule a.field a.operator a.negated)
  | some (r, denied) => do
    let text ← r.write s.dialect assumed a
    let grouped := if r.wrapGroup then s.dialect.group text else text
    let fragment ← if denied then s.dialect.deny (some a.field) grouped else .ok grouped
    return ⟨r, denied, fragment⟩

end BiblioQuery
