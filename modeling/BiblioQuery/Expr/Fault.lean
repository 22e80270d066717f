import BiblioQuery.Expr.Basic

/-!
# Malformed expressions

What can be wrong with the text of an expression or with its shape, and where.  A place is the list
of steps that lead to it from the root.

## Main definitions

* `Step`, `pathText` : steps into an expression, and the text of a place.
* `Fault` : what is wrong, with its message.
* `Malformed` : a fault at a place.
* `ExprError` : a malformed expression, or a text that is no bound.

## Main results

* `Malformed.path_under` : a fault of a part lies under the step to that part.
-/

namespace BiblioQuery

/-! ### Places -/

/-- A step from a part of an expression to a smaller part. -/
inductive Step where
  /-- The operand of a negation. -/
  | child
  /-- The member of a group with the given index. -/
  | children (i : Nat)
  /-- The value of an atom. -/
  | value
  /-- The alternative with the given index. -/
  | values (i : Nat)
  /-- The lower bound of a range. -/
  | lower
  /-- The upper bound of a range. -/
  | upper
  deriving DecidableEq

/-- The text of a step. -/
def Step.text : Step → String
  | .child => ".child"
  | .children i => ".children[" ++ toString i ++ "]"
  | .value => ".value"
  | .values i => ".values[" ++ toString i ++ "]"
  | .lower => ".lower"
  | .upper => ".upper"

/-- The text of a place: the root sign and the steps. -/
def pathText (path : List Step) : String := "$" ++ String.join (path.map Step.text)

/-! ### Faults -/

/-- What is wrong with an expression. -/
inductive Fault where
  /-- The text is not JSON. -/
  | notJson
  /-- The value is no object. -/
  | notObject
  /-- A required key is absent or null. -/
  | missingKey (key : String)
  /-- The value of a key is no string. -/
  | notString (key : String)
  /-- The value of a key is no truth value. -/
  | notBool (key : String)
  /-- The value of a key is no array. -/
  | notArray (key : String)
  /-- The value of a key is neither a string nor null. -/
  | notBoundText (key : String)
  /-- The node has a key that is not its own. -/
  | unexpectedKey (key : String)
  /-- There is no such node type. -/
  | unknownNodeType (name : String)
  /-- There is no such operator. -/
  | unknownOperator (name : String)
  /-- There is no such match type. -/
  | unknownMatchType (name : String)
  /-- There is no such case mode. -/
  | unknownCaseMode (name : String)
  /-- There is no such range kind. -/
  | unknownRangeKind (name : String)
  /-- The value has a key that its operator does not know. -/
  | foreignKey (key : String) (operator : Operator)
  /-- An alternative is no string. -/
  | alternativeNotString
  /-- A text is no bound of the kind of its range. -/
  | invalidBound (kind : RangeKind) (input : String)
  /-- A group has fewer than two members where that is not allowed. -/
  | ambiguousGroup (connective : Connective) (members : Nat)
  deriving DecidableEq

/-- The message about a text that is no bound. -/
def invalidBoundText (kind : RangeKind) (input : String) : String :=
  "invalid " ++ kind.name ++ " bound: '" ++ input ++ "'"

/-- The message of a fault. -/
def Fault.message : Fault → String
  | .notJson => "invalid JSON"
  | .notObject => "expected a JSON object"
  | .missingKey key => "missing required field '" ++ key ++ "'"
  | .notString key => "'" ++ key ++ "' must be a string"
  | .notBool key => "'" ++ key ++ "' must be a boolean"
  | .notArray key => "'" ++ key ++ "' must be an array"
  | .notBoundText key => "'" ++ key ++ "' must be a string or null"
  | .unexpectedKey key => "unexpected key '" ++ key ++ "'"
  | .unknownNodeType name => "unknown node type '" ++ name ++ "'"
  | .unknownOperator name => "unknown operator '" ++ name ++ "'"
  | .unknownMatchType name => "unknown match_type '" ++ name ++ "'"
  | .unknownCaseMode name => "unknown case_sensitivity '" ++ name ++ "'"
  | .unknownRangeKind name => "unknown range kind '" ++ name ++ "'"
  | .foreignKey key operator =>
    "value type mismatch: key '" ++ key ++ "' is not part of a " ++ operator.name ++ " value"
  | .alternativeNotString => "IN values must be strings"
  | .invalidBound kind input => invalidBoundText kind input
  | .ambiguousGroup connective members =>
    connective.word ++ " group with " ++ toString members ++
      " child(ren) is ambiguous in strict mode"

/-- A fault at a place. -/
structure Malformed where
  /-- The steps from the root to the place. -/
  path : List Step
  /-- What is wrong there. -/
  fault : Fault
  deriving DecidableEq

namespace Malformed

/-- The same fault, seen from one step further out. -/
def under (step : Step) (m : Malformed) : Malformed := ⟨step :: m.path, m.fault⟩

@[simp]
theorem path_under (step : Step) (m : Malformed) : (m.under step).path = step :: m.path := rfl

@[simp]
theorem fault_under (step : Step) (m : Malformed) : (m.under step).fault = m.fault := rfl

/-- The message of a fault at a place. -/
def message (m : Malformed) : String :=
  "malformed expression at " ++ pathText m.path ++ ": " ++ m.fault.message

end Malformed

/-- Why an expression or a bound is refused. -/
inductive ExprError where
  /-- The expression has a fault. -/
  | malformed (m : Malformed)
  /-- The text is no bound of a kind. -/
  | invalidBound (kind : RangeKind) (input : String)
  deriving DecidableEq

/-- The message of a refusal. -/
def ExprError.message : ExprError → String
  | .malformed m => m.message
  | .invalidBound kind input => invalidBoundText kind input

/-- The bound of a kind that a text denotes, or why there is none. -/
def Bound.parse (kind : RangeKind) (input : String) : Except ExprError Bound :=
  match Bound.parse? kind input with
  | some b => .ok b
  | none => .error (.invalidBound kind input)

end BiblioQuery
