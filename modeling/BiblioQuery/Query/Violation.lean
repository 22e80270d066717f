import BiblioQuery.Expr.Basic
import BiblioQuery.Provider.Snapshot
import BiblioQuery.Query.Issue

/-!
# Violations of capabilities

Every atom of an expression is held against the declaration that governs its field.  All that the
declaration does not allow is found, atom by atom from left to right; how bad a finding is depends,
for limits that are enforced softly, on whether the check is strict.

An atom counts as denied if its own flag and the number of negations above it say so together.

## Main definitions

* `Violation` : what a declaration does not allow.
* `TermCapability.violations`, `MemberCapability.violations`, `RangeCapability.violations`,
  `TokenCapability.violations` : the violations in a value.
* `Atom.violations` : the violations in an atom.
* `Finding` : a violation with the place it was found at, and `Finding.issue` for its issue.
* `Expr.findings`, `Expr.check` : the findings and the issues of an expression.

## Main results

* `Expr.findingsOfList_append` : the findings of joined lists.
-/

namespace BiblioQuery

/-! ### Violations -/

/-- What a declaration does not allow. -/
inductive Violation where
  /-- Nothing is declared for the field by the provider with the given code. -/
  | fieldUnsupported (provenance : String)
  /-- The operator is not understood. -/
  | operatorNotAllowed
  /-- The operator is not understood in denials. -/
  | negationNotAllowed
  /-- The way of comparing is not understood. -/
  | matchTypeNotAllowed (matchType : MatchType)
  /-- Case must not count in texts. -/
  | caseSensitiveText
  /-- The text is blank. -/
  | blankText
  /-- The text is too short. -/
  | textTooShort (length least : Nat)
  /-- The text is too long. -/
  | textTooLong (length greatest : Nat)
  /-- The text does not match. -/
  | textMismatch (text pattern : String)
  /-- There are no alternatives. -/
  | noAlternatives
  /-- There are too many different alternatives. -/
  | tooManyAlternatives (size greatest : Nat)
  /-- Alternatives repeat. -/
  | repeatedAlternatives (distinct size : Nat)
  /-- Case must not count in alternatives. -/
  | caseSensitiveAlternatives
  /-- The range is of the wrong kind. -/
  | rangeKindMismatch (expected actual : RangeKind)
  /-- The lower bound is missing. -/
  | openStart
  /-- The upper bound is missing. -/
  | openEnd
  /-- A bound is below the least one. -/
  | belowLeast (enforcement : Enforcement) (bound limit : Bound)
  /-- A bound is above the greatest one. -/
  | aboveGreatest (enforcement : Enforcement) (bound limit : Bound)
  /-- The bounds leave no room. -/
  | inverted (lower upper : Bound)
  /-- Presence cannot be asked for. -/
  | presenceUnsupported
  /-- The kind of the identifier is not understood. -/
  | tokenKindNotAllowed (kind : String)
  /-- The identifier does not match. -/
  | tokenMismatch (value pattern : String)
  deriving DecidableEq

namespace Violation

/-- The code of a violation. -/
def code : Violation → IssueCode
  | .fieldUnsupported _ => .fieldNotSupported
  | .operatorNotAllowed => .operatorNotAllowed
  | .negationNotAllowed => .negationNotAllowed
  | .matchTypeNotAllowed _ => .matchTypeNotAllowed
  | .caseSensitiveText | .caseSensitiveAlternatives => .caseSensitivityNotAllowed
  | .blankText => .blankTerm
  | .textTooShort _ _ => .termTooShort
  | .textTooLong _ _ => .termTooLong
  | .textMismatch _ _ => .termPatternMismatch
  | .noAlternatives => .inListEmpty
  | .tooManyAlternatives _ _ => .inListTooLarge
  | .repeatedAlternatives _ _ => .inDuplicateValues
  | .rangeKindMismatch _ _ => .rangeKindMismatch
  | .openStart => .rangeOpenStartNotAllowed
  | .openEnd => .rangeOpenEndNotAllowed
  | .belowLeast _ _ _ => .rangeBelowMin
  | .aboveGreatest _ _ _ => .rangeAboveMax
  | .inverted _ _ => .rangeInverted
  | .presenceUnsupported => .existsNotSupported
  | .tokenKindNotAllowed _ => .tokenKindNotAllowed
  | .tokenMismatch _ _ => .tokenPatternMismatch

/-- How bad a violation is: repetitions are worth a warning, and so are limits that are enforced
softly, unless the check is strict. -/
def severity (strict : Bool) : Violation → Severity
  | .repeatedAlternatives _ _ => .warning
  | .belowLeast .soft _ _ | .aboveGreatest .soft _ _ => if strict then .error else .warning
  | _ => .error

/-- The message about a violation in an atom with the given field and operator. -/
def message (field : String) (operator : Operator) : Violation → String
  | .fieldUnsupported _ => "field '" ++ field ++ "' not supported for this provenance"
  | .operatorNotAllowed =>
    "operator " ++ operator.name ++ " not allowed on field '" ++ field ++ "'"
  | .negationNotAllowed =>
    "negation of " ++ operator.name ++ " not allowed on field '" ++ field ++ "'"
  | .matchTypeNotAllowed m => "match type " ++ m.name ++ " not allowed"
  | .caseSensitiveText => "case-sensitive matching not allowed"
  | .blankText => "blank term text not allowed"
  | .textTooShort length least =>
    "term text has " ++ toString length ++ " characters, minimum is " ++ toString least
  | .textTooLong length greatest =>
    "term text has " ++ toString length ++ " characters, maximum is " ++ toString greatest
  | .textMismatch _ pattern => "term text does not match pattern " ++ pattern
  | .noAlternatives => "IN list is empty"
  | .tooManyAlternatives size greatest =>
    "IN list has " ++ toString size ++ " distinct values, maximum is " ++ toString greatest
  | .repeatedAlternatives distinct size =>
    "IN list repeats values; " ++ toString distinct ++ " of " ++ toString size ++ " are distinct"
  | .caseSensitiveAlternatives => "case-sensitive IN comparison not allowed"
  | .rangeKindMismatch expected actual =>
    "range kind mismatch: declared " ++ expected.name ++ ", got " ++ actual.name
  | .openStart => "open range start not allowed"
  | .openEnd => "open range end not allowed"
  | .belowLeast _ bound limit =>
    "range bound " ++ bound.canonical ++ " outside declared minimum " ++ limit.canonical
  | .aboveGreatest _ bound limit =>
    "range bound " ++ bound.canonical ++ " outside declared maximum " ++ limit.canonical
  | .inverted _ _ => "range lower bound exceeds upper bound"
  | .presenceUnsupported => "EXISTS not supported on field '" ++ field ++ "'"
  | .tokenKindNotAllowed kind => "token kind '" ++ kind ++ "' not allowed"
  | .tokenMismatch _ pattern => "token value does not match pattern " ++ pattern

/-- The particulars of a violation. -/
def particulars : Violation → List (String × String)
  | .fieldUnsupported provenance => [("provenance", provenance)]
  | .matchTypeNotAllowed m => [("match_type", m.name)]
  | .textTooShort length least => [("length", toString length), ("min_length", toString least)]
  | .textTooLong length greatest =>
    [("length", toString length), ("max_length", toString greatest)]
  | .textMismatch text pattern => [("value", text), ("pattern", pattern)]
  | .tooManyAlternatives size greatest =>
    [("size", toString size), ("max_size", toString greatest)]
  | .repeatedAlternatives distinct size =>
    [("size", toString size), ("distinct", toString distinct)]
  | .rangeKindMismatch expected actual =>
    [("expected_kind", expected.name), ("actual_kind", actual.name)]
  | .belowLeast _ bound limit | .aboveGreatest _ bound limit =>
    [("value", bound.canonical), ("limit", limit.canonical)]
  | .inverted lower upper => [("lower", lower.canonical), ("upper", upper.canonical)]
  | .tokenKindNotAllowed kind => [("token_kind", kind)]
  | .tokenMismatch value pattern => [("value", value), ("pattern", pattern)]
  | _ => []

/-- The violation, where a condition holds. -/
def when (b : Bool) (v : Violation) : List Violation := if b then [v] else []

end Violation

/-! ### Values -/

open Violation in
/-- What a text violates.  Length and pattern do not matter for a blank text. -/
def TermCapability.violations (c : TermCapability) (t : TermValue) : List Violation :=
  when (!SortedSet.has c.matchTypes t.matchType) (.matchTypeNotAllowed t.matchType) ++
    when (t.isCaseSensitive && !c.caseSensitiveAllowed) .caseSensitiveText ++
    if t.isBlank then when (!c.allowBlank) .blankText
    else
      let length := t.text.length
      (c.minLength.toList.flatMap fun n =>
        when (decide (length < n.toNat)) (.textTooShort length n.toNat)) ++
      (c.maxLength.toList.flatMap fun n =>
        when (decide (n.toNat < length)) (.textTooLong length n.toNat)) ++
      (c.pattern.toList.flatMap fun p => when (!p.accepts t.text) (.textMismatch t.text p.source))

open Violation in
/-- What a list of alternatives violates.  Nothing else matters for an empty list. -/
def MemberCapability.violations (c : MemberCapability) (v : MemberValue) : List Violation :=
  if v.values.isEmpty then [.noAlternatives]
  else
    let size := v.distinct.length
    (c.maxSize.toList.flatMap fun n =>
      when (decide (n.toNat < size)) (.tooManyAlternatives size n.toNat)) ++
    when v.hasDuplicates (.repeatedAlternatives size v.values.length) ++
    when (v.caseSensitive && !c.caseSensitiveAllowed) .caseSensitiveAlternatives

/-- What the order of the bounds violates. -/
def RangeValue.inversions (r : RangeValue) : List Violation :=
  match r.lower, r.upper with
  | some lower, some upper => Violation.when r.isInverted (.inverted lower upper)
  | _, _ => []

namespace RangeCapability

/-- The limit of a text, where the text is a bound. -/
def limit? (c : RangeCapability) (text : Option String) : Option Bound :=
  text.bind (Bound.parse? c.kind)

/-- What a bound violates. -/
def boundViolations (c : RangeCapability) (b : Bound) : List Violation :=
  ((c.limit? c.least).toList.flatMap fun limit =>
    Violation.when (b.compare? limit == some .lt) (.belowLeast c.enforcement b limit)) ++
  ((c.limit? c.greatest).toList.flatMap fun limit =>
    Violation.when (b.compare? limit == some .gt) (.aboveGreatest c.enforcement b limit))

open Violation in
/-- What a range violates.  Nothing else matters for a range of another kind. -/
def violations (c : RangeCapability) (r : RangeValue) : List Violation :=
  if c.kind = r.kind then
    when (r.lower.isNone && !c.allowOpenStart) .openStart ++
    when (r.upper.isNone && !c.allowOpenEnd) .openEnd ++
    (r.lower.toList ++ r.upper.toList).flatMap c.boundViolations ++
    r.inversions
  else [.rangeKindMismatch c.kind r.kind]

end RangeCapability

open Violation in
/-- What an identifier violates. -/
def TokenCapability.violations (c : TokenCapability) (t : TokenValue) : List Violation :=
  when (!c.kinds.toList.isEmpty && !SortedSet.has c.kinds t.kind) (.tokenKindNotAllowed t.kind) ++
  (c.pattern.toList.flatMap fun p => when (!p.accepts t.value) (.tokenMismatch t.value p.source))

/-- What a value violates; where nothing is declared about texts or alternatives the standard
applies, and ranges and identifiers are free. -/
def Declaration.valueViolations (d : Declaration) : AtomValue → List Violation
  | .term t => (d.term.getD .standard).violations t
  | .member v => (d.member.getD .standard).violations v
  | .range r =>
    match d.range with
    | none => r.inversions
    | some c => c.violations r
  | .presence _ => Violation.when (!d.presenceSupported) .presenceUnsupported
  | .token t => d.token.toList.flatMap fun c => c.violations t

/-! ### Atoms -/

/-- What an atom violates, where `denied` says whether it is denied in the whole.  The value does
not matter if the operator is not understood. -/
def Declaration.violations (d : Declaration) (a : Atom) (denied : Bool) : List Violation :=
  let allowed := SortedSet.has d.operators a.operator
  Violation.when (!allowed) .operatorNotAllowed ++
  Violation.when (denied && !SortedSet.has d.negatable a.operator) .negationNotAllowed ++
  if allowed then d.valueViolations a.value else []

/-- What an atom violates in a snapshot. -/
def Atom.violations (s : Snapshot) (a : Atom) (denied : Bool) : List Violation :=
  match s.governing? a.field with
  | none => [.fieldUnsupported s.code]
  | some d => d.violations a denied

/-! ### Findings -/

/-- A violation with the field and the operator of the atom that it was found in. -/
structure Finding where
  /-- The field. -/
  field : String
  /-- The operator. -/
  operator : Operator
  /-- The violation. -/
  violation : Violation
  deriving DecidableEq

/-- The issue of a finding. -/
def Finding.issue (strict : Bool) (f : Finding) : Issue where
  severity := f.violation.severity strict
  code := f.violation.code
  message := f.violation.message f.field f.operator
  context :=
    .ofList (f.violation.particulars ++ [("field", f.field), ("operator", f.operator.name)])

/-- The findings in an atom. -/
def Atom.findings (s : Snapshot) (a : Atom) (denied : Bool) : List Finding :=
  (a.violations s denied).map (⟨a.field, a.operator, ·⟩)

namespace Expr

mutual

/-- The findings in an expression, where `denied` says whether an odd number of negations stands
above it. -/
def findings (s : Snapshot) (denied : Bool) : Expr → List Finding
  | .const _ => []
  | .atom a => a.findings s (a.negated ^^ denied)
  | .group _ xs => findingsOfList s denied xs
  | .not x => findings s (!denied) x

/-- The findings in a list of expressions. -/
def findingsOfList (s : Snapshot) (denied : Bool) : List Expr → List Finding
  | [] => []
  | x :: xs => findings s denied x ++ findingsOfList s denied xs

end

/-- The findings of joined lists. -/
@[simp]
theorem findingsOfList_append (s : Snapshot) (denied : Bool) (xs ys : List Expr) :
    findingsOfList s denied (xs ++ ys) =
      findingsOfList s denied xs ++ findingsOfList s denied ys := by
  induction xs with
  | nil => simp [findingsOfList]
  | cons x xs ih => simp [findingsOfList, ih]

/-- The issues of an expression. -/
def check (s : Snapshot) (strict : Bool) (e : Expr) : List Issue :=
  (e.findings s false).map (Finding.issue strict)

end Expr

end BiblioQuery
