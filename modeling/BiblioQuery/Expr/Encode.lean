import BiblioQuery.Expr.Fault
import BiblioQuery.Json.Writer
import BiblioQuery.Digest.Sha256

/-!
# Expressions as JSON

Every node is an object that starts with the name of its type; the keys of a node and of a value
come in a fixed order, so that equal expressions have equal texts.  The digest of the compact text
identifies an expression.

## Main definitions

* `NodeType` : the types of nodes, with their names and keys.
* `Expr.toJson` : the JSON value of an expression.
* `Expr.canonical`, `Expr.pretty`, `Expr.hash` : its texts and its digest.
* `Expr.depth` : how deep arrays and objects are nested in its JSON value.

## Main results

* `Expr.levels_toJson` : the nesting of the JSON value is the depth.
-/

namespace BiblioQuery

/-! ### Node types -/

/-- The type of a node. -/
inductive NodeType where
  /-- A truth value. -/
  | const
  /-- An atom. -/
  | atom
  /-- A group. -/
  | group (c : Connective)
  /-- A negation. -/
  | not
  deriving DecidableEq

namespace NodeType

/-- All node types. -/
def all : List NodeType := [.const, .atom, .group .all, .group .any, .not]

/-- The name of a node type. -/
def name : NodeType → String
  | .const => "const"
  | .atom => "atom"
  | .group .all => "and"
  | .group .any => "or"
  | .not => "not"

/-- The node type of a name. -/
def ofName? (s : String) : Option NodeType := all.find? fun t => t.name == s

/-- The keys of a node. -/
def keys : NodeType → List String
  | .const => ["type", "value"]
  | .atom => ["type", "field", "operator", "value", "negated"]
  | .group _ => ["type", "children"]
  | .not => ["type", "child"]

/-- A name belongs to at most one node type. -/
theorem ofName?_eq_some_iff {s : String} {t : NodeType} : ofName? s = some t ↔ t.name = s := by
  constructor
  · intro h
    simpa using List.find?_some h
  · rintro rfl
    rcases t with _ | _ | (_ | _) | _ <;> rfl

end NodeType

/-- The type of a node. -/
def Expr.nodeType : Expr → NodeType
  | .const _ => .const
  | .atom _ => .atom
  | .group c _ => .group c
  | .not _ => .not

/-- The keys of the value of an atom. -/
def Operator.valueKeys : Operator → List String
  | .term => ["text", "match_type", "case_sensitivity"]
  | .member => ["values", "case_sensitive"]
  | .range => ["kind", "lower", "upper", "include_lower", "include_upper"]
  | .presence => ["expected"]
  | .token => ["kind", "value"]

/-! ### Values and atoms -/

/-- A bound as JSON, `null` for an open end. -/
def Bound.toJson : Option Bound → Json
  | none => .null
  | some b => .string b.canonical

/-- The value of an atom as JSON. -/
def AtomValue.toJson : AtomValue → Json
  | .term t =>
    .object [("text", .string t.text), ("match_type", .string t.matchType.name),
      ("case_sensitivity", .string t.caseMode.name)]
  | .member v =>
    .object [("values", .array (v.values.map .string)), ("case_sensitive", .bool v.caseSensitive)]
  | .range r =>
    .object [("kind", .string r.kind.name), ("lower", Bound.toJson r.lower),
      ("upper", Bound.toJson r.upper), ("include_lower", .bool r.includeLower),
      ("include_upper", .bool r.includeUpper)]
  | .presence expected => .object [("expected", .bool expected)]
  | .token t => .object [("kind", .string t.kind), ("value", .string t.value)]

/-- An atom as JSON. -/
def Atom.toJson (a : Atom) : Json :=
  .object [("type", .string NodeType.atom.name), ("field", .string a.field),
    ("operator", .string a.operator.name), ("value", a.value.toJson), ("negated", .bool a.negated)]

/-! ### Expressions -/

namespace Expr

mutual

/-- An expression as JSON. -/
def toJson : Expr → Json
  | .const b => .object [("type", .string NodeType.const.name), ("value", .bool b)]
  | .atom a => a.toJson
  | .group c xs =>
    .object [("type", .string (NodeType.group c).name), ("children", .array (listToJson xs))]
  | .not x => .object [("type", .string NodeType.not.name), ("child", toJson x)]

/-- A list of expressions as JSON. -/
def listToJson : List Expr → List Json
  | [] => []
  | x :: xs => toJson x :: listToJson xs

end

/-- The compact text of an expression. -/
def canonical (e : Expr) : String := e.toJson.compact

/-- The indented text of an expression. -/
def pretty (e : Expr) : String := e.toJson.pretty

/-- The digest that identifies an expression. -/
def hash (e : Expr) : String := Sha256.hexOfText e.canonical

/-! ### Nesting -/

/-- How deep arrays and objects are nested in the JSON value of an atom's value. -/
def valueDepth : AtomValue → Nat
  | .member _ => 2
  | _ => 1

mutual

/-- How deep arrays and objects are nested in the JSON value of an expression. -/
def depth : Expr → Nat
  | .const _ => 1
  | .atom a => valueDepth a.value + 1
  | .group _ xs => depthOfList xs + 2
  | .not x => depth x + 1

/-- The depth of the deepest member of a list. -/
def depthOfList : List Expr → Nat
  | [] => 0
  | x :: xs => max (depth x) (depthOfList xs)

end

theorem levelsList_map_string (values : List String) :
    Json.levelsList (values.map .string) = 0 := by
  induction values with
  | nil => rfl
  | cons v r ih => simp [Json.levelsList, Json.levels, ih]

theorem levels_boundToJson (b : Option Bound) : (Bound.toJson b).levels = 0 := by
  cases b <;> rfl

theorem levels_valueToJson (v : AtomValue) : v.toJson.levels = valueDepth v := by
  cases v <;>
    simp [AtomValue.toJson, valueDepth, Json.levels, Json.levelsFields, levels_boundToJson,
      levelsList_map_string]

mutual

/-- The nesting of the JSON value of an expression is its depth. -/
theorem levels_toJson : (e : Expr) → e.toJson.levels = e.depth
  | .const _ => by simp [toJson, depth, Json.levels, Json.levelsFields]
  | .atom a => by
    simp [toJson, Atom.toJson, depth, Json.levels, Json.levelsFields, levels_valueToJson]
  | .group c xs => by
    simp [toJson, depth, Json.levels, Json.levelsFields, levels_listToJson xs]
  | .not x => by simp [toJson, depth, Json.levels, Json.levelsFields, levels_toJson x]

/-- The nesting of a list of JSON values is the depth of the list of expressions. -/
theorem levels_listToJson : (xs : List Expr) → Json.levelsList (listToJson xs) = depthOfList xs
  | [] => by simp [listToJson, depthOfList, Json.levelsList]
  | x :: xs => by
    simp [listToJson, depthOfList, Json.levelsList, levels_toJson x, levels_listToJson xs]

end

end Expr

end BiblioQuery
