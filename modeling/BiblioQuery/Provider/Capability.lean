import BiblioQuery.Collection.Best
import BiblioQuery.Collection.SortedMap
import BiblioQuery.Expr.Bound
import BiblioQuery.Pattern.Basic
import BiblioQuery.Provider.Window

/-!
# Capabilities

A provider declares for each field which operators it understands and which values it takes.  A
declaration may be limited to an operation of the provider, to a task and to a window of time; of
those that apply, the one that names more of operation and task governs the field, then the one that
starts later, then the first one.

## Main definitions

* `TermCapability`, `MemberCapability`, `RangeCapability`, `TokenCapability` : what values an
  operator takes.
* `Declaration` : what is declared for a field.
* `Declaration.governing?` : the declaration that governs a field.
-/

namespace BiblioQuery

/-! ### Values that an operator takes -/

/-- Which texts a field takes. -/
structure TermCapability where
  /-- The ways of comparing that are understood. -/
  matchTypes : SortedSet MatchType
  /-- Case may count. -/
  caseSensitiveAllowed : Bool
  /-- The text may be blank. -/
  allowBlank : Bool
  /-- The least number of characters. -/
  minLength : Option UInt64
  /-- The greatest number of characters. -/
  maxLength : Option UInt64
  /-- What the text has to match. -/
  pattern : Option Pattern
  deriving DecidableEq

/-- What holds where nothing is declared about texts: every comparison, no case, no blank text. -/
def TermCapability.standard : TermCapability :=
  ⟨.ofList MatchType.all, false, false, none, none, none⟩

instance : Inhabited TermCapability := ⟨.standard⟩

/-- Which lists of alternatives a field takes. -/
structure MemberCapability where
  /-- The greatest number of different alternatives. -/
  maxSize : Option UInt64
  /-- Case may count. -/
  caseSensitiveAllowed : Bool
  deriving DecidableEq

/-- What holds where nothing is declared about alternatives: any number of them, no case. -/
def MemberCapability.standard : MemberCapability := ⟨none, false⟩

instance : Inhabited MemberCapability := ⟨.standard⟩

/-- How a limit on bounds is enforced. -/
inductive Enforcement where
  /-- A bound beyond the limit is an error. -/
  | hard
  /-- A bound beyond the limit is worth a warning. -/
  | soft
  deriving DecidableEq

namespace Enforcement

/-- Both ways of enforcing. -/
def all : List Enforcement := [.hard, .soft]

/-- The name of a way of enforcing. -/
def name : Enforcement → String
  | .hard => "HARD"
  | .soft => "SOFT"

/-- The way of enforcing of a name. -/
def ofName? (s : String) : Option Enforcement := all.find? fun e => e.name == s

/-- A name belongs to at most one way of enforcing. -/
theorem ofName?_eq_some_iff {s : String} {e : Enforcement} : ofName? s = some e ↔ e.name = s := by
  constructor
  · intro h
    simpa using List.find?_some h
  · rintro rfl
    cases e <;> rfl

end Enforcement

/-- Which ranges a field takes. -/
structure RangeCapability where
  /-- What the bounds are. -/
  kind : RangeKind
  /-- The lower bound may be missing. -/
  allowOpenStart : Bool
  /-- The upper bound may be missing. -/
  allowOpenEnd : Bool
  /-- The text of the least bound. -/
  least : Option String
  /-- The text of the greatest bound. -/
  greatest : Option String
  /-- How these two limits are enforced. -/
  enforcement : Enforcement
  deriving DecidableEq

/-- Every range of a kind, without limits. -/
def RangeCapability.of (kind : RangeKind) : RangeCapability :=
  ⟨kind, true, true, none, none, .hard⟩

/-- Which identifiers a field takes. -/
structure TokenCapability where
  /-- The kinds that are understood, or none at all for every kind. -/
  kinds : SortedSet String
  /-- What the identifier has to match. -/
  pattern : Option Pattern
  deriving DecidableEq

/-! ### Declarations -/

/-- What a provider declares for a field. -/
structure Declaration where
  /-- The field. -/
  field : String
  /-- The operation that the declaration is limited to. -/
  scope : Option String
  /-- The task that the declaration is limited to. -/
  taskType : Option String
  /-- The time that the declaration is limited to. -/
  effective : Window
  /-- The operators that are understood. -/
  operators : SortedSet Operator
  /-- The operators that are understood in denials. -/
  negatable : SortedSet Operator
  /-- The texts that are taken. -/
  term : Option TermCapability
  /-- The alternatives that are taken. -/
  member : Option MemberCapability
  /-- The ranges that are taken. -/
  range : Option RangeCapability
  /-- Presence can be asked for. -/
  presenceSupported : Bool
  /-- The identifiers that are taken. -/
  token : Option TokenCapability
  deriving DecidableEq

namespace Declaration

/-- The declaration of a field that allows nothing yet. -/
def of (field : String) : Declaration where
  field := field
  scope := none
  taskType := none
  effective := .always
  operators := .empty
  negatable := .empty
  term := none
  member := none
  range := none
  presenceSupported := true
  token := none

/-- The declaration with one more operator. -/
def allow (d : Declaration) (o : Operator) : Declaration :=
  { d with operators := SortedSet.add d.operators o }

/-- The declaration with one more operator, in denials also. -/
def allowNegated (d : Declaration) (o : Operator) : Declaration :=
  { d with operators := SortedSet.add d.operators o, negatable := SortedSet.add d.negatable o }

/-- The declaration applies to an operation and a task at an instant. -/
def appliesTo (d : Declaration) (scope taskType : String) (i : Instant) : Bool :=
  d.scope.all (· == scope) && d.taskType.all (· == taskType) && d.effective.contains i

/-- How many of operation and task the declaration names. -/
def specificity (d : Declaration) : Nat := d.scope.isSome.toNat + d.taskType.isSome.toNat

/-- The order in which declarations govern: by what they name, then by their start, where an open
start is the earliest. -/
def rankOrder : Declaration → Declaration → Ordering :=
  compareLex (compareOn specificity) (compareOn fun d => d.effective.start)

/-- The declaration governs before an earlier one. -/
def outranks (d e : Declaration) : Bool := rankOrder d e == .gt

/-- The declarations that apply to a field, an operation and a task at an instant. -/
def applicable (ds : List Declaration) (field scope taskType : String) (i : Instant) :
    List Declaration :=
  ds.filter fun d => d.field == field && d.appliesTo scope taskType i

/-- The declaration that governs a field for an operation and a task at an instant. -/
def governing? (ds : List Declaration) (field scope taskType : String) (i : Instant) :
    Option Declaration :=
  best? outranks (applicable ds field scope taskType i)

end Declaration

end BiblioQuery
