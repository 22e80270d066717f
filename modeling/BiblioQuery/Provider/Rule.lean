import BiblioQuery.Collection.SortedMap
import BiblioQuery.Expr.Keyword
import BiblioQuery.Provider.Transform
import BiblioQuery.Provider.Window
import BiblioQuery.Template

/-!
# Render rules and dialects

A render rule says how an atom is written for a provider.  It names some of the properties that an
atom must have, and the rest is free.  The dialect of a provider says how the written atoms are
joined, grouped and denied.

## Main definitions

* `EmitTarget` : where the written atom goes.
* `Rule` : a render rule, with `Rule.specificity`.
* `Dialect` : joiners, group delimiters and markers, with `Dialect.standard`.
-/

namespace BiblioQuery

/-! ### Rules -/

/-- Where a written atom goes. -/
inductive EmitTarget where
  /-- Into the query. -/
  | query
  /-- Into a parameter beside the query. -/
  | params
  deriving DecidableEq

namespace EmitTarget

/-- Both targets. -/
def all : List EmitTarget := [.query, .params]

/-- The name of a target. -/
def name : EmitTarget → String
  | .query => "QUERY"
  | .params => "PARAMS"

/-- The target of a name. -/
def ofName? (s : String) : Option EmitTarget := all.find? fun t => t.name == s

/-- A name belongs to at most one target. -/
theorem ofName?_eq_some_iff {s : String} {t : EmitTarget} : ofName? s = some t ↔ t.name = s := by
  constructor
  · intro h
    simpa using List.find?_some h
  · rintro rfl
    cases t <;> rfl

end EmitTarget

/-- How an atom is written. -/
structure Rule where
  /-- The name of the rule. -/
  id : String
  /-- The field that the atom must have. -/
  field : Option String
  /-- The operation that the rule is limited to. -/
  scope : Option String
  /-- The task that the rule is limited to. -/
  taskType : Option String
  /-- The operator that the atom must have. -/
  operator : Option Operator
  /-- The way of comparing that the atom must have. -/
  matchType : Option MatchType
  /-- Whether the atom must be a denial. -/
  negated : Option Bool
  /-- The value type that the atom must have. -/
  valueType : Option String
  /-- Where the written atom goes. -/
  emit : EmitTarget
  /-- The parameter that it goes to. -/
  paramKey : Option String
  /-- The text of the atom. -/
  template : Template
  /-- The text of one alternative. -/
  itemTemplate : Option Template
  /-- What stands between alternatives. -/
  joiner : Option String
  /-- The text of the atom is a group. -/
  wrapGroup : Bool
  /-- Which of equally specific rules comes first. -/
  priority : Int32
  /-- Texts and formats that the rule brings along. -/
  params : SortedMap String String
  /-- A change of the texts of values. -/
  transform : Option Transform
  /-- The time that the rule is limited to. -/
  effective : Window
  deriving DecidableEq

namespace Rule

/-- The rule with a name and a template that fits every atom. -/
def of (id : String) (template : Template) : Rule where
  id := id
  field := none
  scope := none
  taskType := none
  operator := none
  matchType := none
  negated := none
  valueType := none
  emit := .query
  paramKey := none
  template := template
  itemTemplate := none
  joiner := none
  wrapGroup := false
  priority := 0
  params := .empty
  transform := none
  effective := .always

/-- How many properties of an atom the rule names. -/
def specificity (r : Rule) : Nat :=
  r.field.isSome.toNat + r.scope.isSome.toNat + r.taskType.isSome.toNat + r.operator.isSome.toNat +
    r.matchType.isSome.toNat + r.negated.isSome.toNat + r.valueType.isSome.toNat

/-- The parameter that the rule writes to, if it does not write to the query. -/
def paramTarget? (r : Rule) : Option String :=
  match r.emit with
  | .query => none
  | .params => r.paramKey

end Rule

/-! ### Dialects -/

/-- How written atoms are put together. -/
structure Dialect where
  /-- What stands between the members of a conjunction. -/
  andJoiner : String
  /-- What stands between the members of a disjunction. -/
  orJoiner : String
  /-- What opens a group. -/
  groupOpen : String
  /-- What closes a group. -/
  groupClose : String
  /-- How a fragment is denied, if it can be. -/
  notTemplate : Option Template
  /-- The query that finds nothing, if there is one. -/
  matchNothing : Option String
  /-- What stands between fragments of one parameter. -/
  paramJoiner : String
  deriving DecidableEq

namespace Dialect

/-- Words for the connectives, round brackets, and commas between fragments of a parameter. -/
def standard : Dialect where
  andJoiner := " AND "
  orJoiner := " OR "
  groupOpen := "("
  groupClose := ")"
  notTemplate := (Template.parse "NOT \x7bvalue\x7d").toOption
  matchNothing := none
  paramJoiner := ","

instance : Inhabited Dialect := ⟨standard⟩

/-- A fragment between the delimiters of a group. -/
def group (d : Dialect) (fragment : String) : String := d.groupOpen ++ fragment ++ d.groupClose

end Dialect

end BiblioQuery
