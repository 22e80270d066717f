import BiblioQuery.Json.Record

/-!
# Issues and reports

What is found while an expression is checked and written is reported as issues: an error keeps the
query from being made, a warning does not.  Each issue has a code, a message for readers and a
context for programs.

## Main definitions

* `Severity`, `ErrorKind`, `IssueCode` : the words that issues are sorted by.
* `Issue` : an issue, with `Issue.text`.
* `Report` : the warnings and the errors, with `Report.push` and `Report.firstErrorKind?`.

## Main results

* `Report.errors_ofIssues`, `Report.warnings_ofIssues` : a report keeps all issues in their order.
-/

namespace BiblioQuery

/-! ### Severities -/

/-- How bad an issue is. -/
inductive Severity where
  /-- Worth knowing. -/
  | warning
  /-- Keeps the query from being made. -/
  | error
  deriving DecidableEq

namespace Severity

/-- Both severities. -/
def all : List Severity := [.warning, .error]

/-- The name of a severity. -/
def name : Severity → String
  | .warning => "WARNING"
  | .error => "ERROR"

/-- The severity of a name. -/
def ofName? (s : String) : Option Severity := all.find? fun v => v.name == s

end Severity

/-! ### Kinds of errors -/

/-- What a failure is about. -/
inductive ErrorKind where
  /-- The expression has no proper form. -/
  | malformedExpression
  /-- The provider does not take the expression. -/
  | capabilityViolation
  /-- The expression cannot be written for the provider. -/
  | renderRuleMissing
  /-- The query is too long. -/
  | outputBudgetExceeded
  /-- No snapshot of the provider can be had. -/
  | dependencyUnavailable
  /-- The options make no sense. -/
  | invalidConfig
  deriving DecidableEq

/-- The name of a kind of errors. -/
def ErrorKind.name : ErrorKind → String
  | .malformedExpression => "MALFORMED_EXPRESSION"
  | .capabilityViolation => "CAPABILITY_VIOLATION"
  | .renderRuleMissing => "RENDER_RULE_MISSING"
  | .outputBudgetExceeded => "OUTPUT_BUDGET_EXCEEDED"
  | .dependencyUnavailable => "DEPENDENCY_UNAVAILABLE"
  | .invalidConfig => "INVALID_CONFIG"

/-! ### Codes -/

/-- What an issue is. -/
inductive IssueCode where
  /-- Nothing is declared for the field. -/
  | fieldNotSupported
  /-- The operator is not understood. -/
  | operatorNotAllowed
  /-- The operator is not understood in denials. -/
  | negationNotAllowed
  /-- The way of comparing is not understood. -/
  | matchTypeNotAllowed
  /-- Case must not count. -/
  | caseSensitivityNotAllowed
  /-- The text is blank. -/
  | blankTerm
  /-- The text is too short. -/
  | termTooShort
  /-- The text is too long. -/
  | termTooLong
  /-- The text does not match. -/
  | termPatternMismatch
  /-- There are no alternatives. -/
  | inListEmpty
  /-- There are too many alternatives. -/
  | inListTooLarge
  /-- Alternatives repeat. -/
  | inDuplicateValues
  /-- The range is of the wrong kind. -/
  | rangeKindMismatch
  /-- The lower bound is missing. -/
  | rangeOpenStartNotAllowed
  /-- The upper bound is missing. -/
  | rangeOpenEndNotAllowed
  /-- A bound is below the least one. -/
  | rangeBelowMin
  /-- A bound is above the greatest one. -/
  | rangeAboveMax
  /-- The range has no room. -/
  | rangeInverted
  /-- Presence cannot be asked for. -/
  | existsNotSupported
  /-- The kind of the identifier is not understood. -/
  | tokenKindNotAllowed
  /-- The identifier does not match. -/
  | tokenPatternMismatch
  /-- No rule fits. -/
  | renderRuleMissing
  /-- Denials cannot be written. -/
  | negationUnsupported
  /-- Falsity cannot be written. -/
  | noMatchNothingMarker
  /-- A slot of a template has no value. -/
  | templateUnbound
  /-- A bound cannot be written. -/
  | renderFormatFailed
  /-- A parameter is given below a disjunction or a denial. -/
  | paramUnderDisjunction
  /-- The query is too long. -/
  | outputBudgetExceeded
  deriving DecidableEq

namespace IssueCode

/-- All codes. -/
def all : List IssueCode :=
  [.fieldNotSupported, .operatorNotAllowed, .negationNotAllowed, .matchTypeNotAllowed,
    .caseSensitivityNotAllowed, .blankTerm, .termTooShort, .termTooLong, .termPatternMismatch,
    .inListEmpty, .inListTooLarge, .inDuplicateValues, .rangeKindMismatch,
    .rangeOpenStartNotAllowed, .rangeOpenEndNotAllowed, .rangeBelowMin, .rangeAboveMax,
    .rangeInverted, .existsNotSupported, .tokenKindNotAllowed, .tokenPatternMismatch,
    .renderRuleMissing, .negationUnsupported, .noMatchNothingMarker, .templateUnbound,
    .renderFormatFailed, .paramUnderDisjunction, .outputBudgetExceeded]

/-- The name of a code. -/
def name : IssueCode → String
  | .fieldNotSupported => "FIELD_NOT_SUPPORTED"
  | .operatorNotAllowed => "OPERATOR_NOT_ALLOWED"
  | .negationNotAllowed => "NEGATION_NOT_ALLOWED"
  | .matchTypeNotAllowed => "MATCH_TYPE_NOT_ALLOWED"
  | .caseSensitivityNotAllowed => "CASE_SENSITIVITY_NOT_ALLOWED"
  | .blankTerm => "BLANK_TERM"
  | .termTooShort => "TERM_TOO_SHORT"
  | .termTooLong => "TERM_TOO_LONG"
  | .termPatternMismatch => "TERM_PATTERN_MISMATCH"
  | .inListEmpty => "IN_LIST_EMPTY"
  | .inListTooLarge => "IN_LIST_TOO_LARGE"
  | .inDuplicateValues => "IN_DUPLICATE_VALUES"
  | .rangeKindMismatch => "RANGE_KIND_MISMATCH"
  | .rangeOpenStartNotAllowed => "RANGE_OPEN_START_NOT_ALLOWED"
  | .rangeOpenEndNotAllowed => "RANGE_OPEN_END_NOT_ALLOWED"
  | .rangeBelowMin => "RANGE_BELOW_MIN"
  | .rangeAboveMax => "RANGE_ABOVE_MAX"
  | .rangeInverted => "RANGE_INVERTED"
  | .existsNotSupported => "EXISTS_NOT_SUPPORTED"
  | .tokenKindNotAllowed => "TOKEN_KIND_NOT_ALLOWED"
  | .tokenPatternMismatch => "TOKEN_PATTERN_MISMATCH"
  | .renderRuleMissing => "RENDER_RULE_MISSING"
  | .negationUnsupported => "NEGATION_UNSUPPORTED"
  | .noMatchNothingMarker => "NO_MATCH_NOTHING_MARKER"
  | .templateUnbound => "TEMPLATE_UNBOUND"
  | .renderFormatFailed => "RENDER_FORMAT_FAILED"
  | .paramUnderDisjunction => "PARAM_UNDER_DISJUNCTION"
  | .outputBudgetExceeded => "OUTPUT_BUDGET_EXCEEDED"

/-- The code of a name. -/
def ofName? (s : String) : Option IssueCode := all.find? fun c => c.name == s

/-- The kind of errors that a code belongs to. -/
def kind : IssueCode → ErrorKind
  | .renderRuleMissing | .negationUnsupported | .noMatchNothingMarker | .templateUnbound
  | .renderFormatFailed | .paramUnderDisjunction => .renderRuleMissing
  | .outputBudgetExceeded => .outputBudgetExceeded
  | _ => .capabilityViolation

end IssueCode

/-! ### Issues -/

/-- Something found in an expression. -/
structure Issue where
  /-- How bad it is. -/
  severity : Severity
  /-- What it is. -/
  code : IssueCode
  /-- The message for readers. -/
  message : String
  /-- The particulars. -/
  context : SortedMap String String
  deriving DecidableEq

namespace Issue

/-- The issue is an error. -/
def isError (i : Issue) : Bool := i.severity == .error

/-- The kind of errors that the issue belongs to. -/
def kind (i : Issue) : ErrorKind := i.code.kind

/-- The text of an issue. -/
def text (i : Issue) : String := "[" ++ i.severity.name ++ "] " ++ i.code.name ++ ": " ++ i.message

/-- An issue as an object. -/
def toJson (i : Issue) : Json :=
  .object [("severity", .string i.severity.name), ("code", .string i.code.name),
    ("message", .string i.message), ("context", Json.ofTextMap i.context)]

/-- The issue of a record. -/
def ofJson? (j : Json) : Option Issue := do
  let fields ← Json.record? ["severity", "code", "message", "context"] 3 j
  let severity ← Json.needed "severity" (Json.keyword? Severity.ofName?) fields
  let code ← Json.needed "code" (Json.keyword? IssueCode.ofName?) fields
  let message ← Json.needed "message" Json.text? fields
  let context ← Json.orElse "context" .empty Json.textMap? fields
  return ⟨severity, code, message, context⟩

end Issue

/-! ### Reports -/

/-- The issues of an expression. -/
structure Report where
  /-- The warnings. -/
  warnings : List Issue
  /-- The errors. -/
  errors : List Issue
  deriving DecidableEq

namespace Report

/-- The report without issues. -/
def empty : Report := ⟨[], []⟩

instance : Inhabited Report := ⟨empty⟩

/-- The report with one more issue. -/
def push (r : Report) (i : Issue) : Report :=
  match i.severity with
  | .warning => { r with warnings := r.warnings ++ [i] }
  | .error => { r with errors := r.errors ++ [i] }

/-- The report with more issues. -/
def append (r : Report) (issues : List Issue) : Report := issues.foldl push r

/-- The report of a list of issues. -/
def ofIssues (issues : List Issue) : Report := empty.append issues

/-- Some issue is an error. -/
def hasErrors (r : Report) : Bool := !r.errors.isEmpty

/-- There are no issues. -/
def isClean (r : Report) : Bool := r.warnings.isEmpty && r.errors.isEmpty

/-- The kind of the first error. -/
def firstErrorKind? (r : Report) : Option ErrorKind := r.errors.head?.map Issue.kind

/-- Some issue has the code. -/
def contains (r : Report) (code : IssueCode) : Bool :=
  (r.errors ++ r.warnings).any fun i => i.code == code

/-- A report as an object. -/
def toJson (r : Report) : Json :=
  .object [("warnings", Json.ofList Issue.toJson r.warnings),
    ("errors", Json.ofList Issue.toJson r.errors)]

theorem errors_append (r : Report) (issues : List Issue) :
    (r.append issues).errors = r.errors ++ issues.filter Issue.isError := by
  induction issues generalizing r with
  | nil => simp [append]
  | cons i rest ih =>
    rw [append, List.foldl_cons, ← append, ih, push]
    cases h : i.severity <;> simp [Issue.isError, h]

theorem warnings_append (r : Report) (issues : List Issue) :
    (r.append issues).warnings = r.warnings ++ issues.filter fun i => !i.isError := by
  induction issues generalizing r with
  | nil => simp [append]
  | cons i rest ih =>
    rw [append, List.foldl_cons, ← append, ih, push]
    cases h : i.severity <;> simp [Issue.isError, h]

/-- The errors of a report are the errors among the issues, in their order. -/
theorem errors_ofIssues (issues : List Issue) :
    (ofIssues issues).errors = issues.filter Issue.isError := by
  rw [ofIssues, errors_append]
  rfl

/-- The warnings of a report are the other issues, in their order. -/
theorem warnings_ofIssues (issues : List Issue) :
    (ofIssues issues).warnings = issues.filter fun i => !i.isError := by
  rw [ofIssues, warnings_append]
  rfl

end Report

end BiblioQuery
