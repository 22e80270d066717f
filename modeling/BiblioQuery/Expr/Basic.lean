import BiblioQuery.Expr.Value

/-!
# Expressions

A search is a tree of atoms, joined by conjunctions and disjunctions and turned round by negations.
Both kinds of groups are one constructor with a `Connective`, so that what holds of one holds of the
other with truth and falsity exchanged.

## Main definitions

* `Atom` : a field, a value and a negation flag.
* `Connective` : conjunction or disjunction, with its neutral truth value.
* `Expr` : the trees, with `Expr.and` and `Expr.or` for the two kinds of groups.
* `Expr.atoms`, `Expr.nodeCount` : the atoms in order, and the number of nodes.

## Main results

* `Expr.atomsOfList_append` : the atoms of joined lists.
-/

namespace BiblioQuery

/-! ### Atoms -/

/-- A statement about one field. -/
structure Atom where
  /-- The field. -/
  field : String
  /-- What is stated about it. -/
  value : AtomValue
  /-- The statement is denied. -/
  negated : Bool
  deriving DecidableEq

namespace Atom

/-- The operator of an atom. -/
def operator (a : Atom) : Operator := a.value.operator

/-- The opposite statement. -/
def negate (a : Atom) : Atom := { a with negated := !a.negated }

@[simp]
theorem negate_negate (a : Atom) : a.negate.negate = a := by
  simp [negate]

/-- The atom that states a value of a field. -/
def of (field : String) (value : AtomValue) : Atom := ⟨field, value, false⟩

/-- The field has a text, whatever its case. -/
def term (field text : String) (m : MatchType) : Atom := of field (.term ⟨text, m, .insensitive⟩)

/-- The field has the words of a text, adjacent and in order. -/
def phrase (field text : String) : Atom := term field text .phrase

/-- The field is a text. -/
def exact (field text : String) : Atom := term field text .exact

/-- The field has one of several values, whatever their case. -/
def anyOf (field : String) (values : List String) : Atom := of field (.member ⟨values, false⟩)

/-- The field lies in a range. -/
def range (field : String) (r : RangeValue) : Atom := of field (.range r)

/-- The field is present. -/
def present (field : String) : Atom := of field (.presence true)

/-- The field is absent. -/
def missing (field : String) : Atom := of field (.presence false)

/-- The field has an identifier. -/
def token (field kind value : String) : Atom := of field (.token ⟨kind, value⟩)

/-- The same atom with case taken into account, where its value can be. -/
def caseSensitive (a : Atom) : Atom :=
  match a.value with
  | .term t => { a with value := .term { t with caseMode := .sensitive } }
  | .member v => { a with value := .member { v with caseSensitive := true } }
  | _ => a

/-- The same atom without the lower bound itself, where it is a range. -/
def exclusiveLower (a : Atom) : Atom :=
  match a.value with
  | .range r => { a with value := .range { r with includeLower := false } }
  | _ => a

/-- The same atom without the upper bound itself, where it is a range. -/
def exclusiveUpper (a : Atom) : Atom :=
  match a.value with
  | .range r => { a with value := .range { r with includeUpper := false } }
  | _ => a

end Atom

/-! ### Groups -/

/-- How the members of a group are joined. -/
inductive Connective where
  /-- All members hold. -/
  | all
  /-- Some member holds. -/
  | any
  deriving DecidableEq, Repr

namespace Connective

/-- The truth value of an empty group. -/
def identity : Connective → Bool
  | .all => true
  | .any => false

/-- The word between the members of a group. -/
def word : Connective → String
  | .all => "AND"
  | .any => "OR"

end Connective

/-! ### Trees -/

/-- A boolean search expression. -/
inductive Expr where
  /-- A truth value. -/
  | const (b : Bool)
  /-- A statement about one field. -/
  | atom (a : Atom)
  /-- A group of expressions. -/
  | group (c : Connective) (children : List Expr)
  /-- The opposite of an expression. -/
  | not (child : Expr)

namespace Expr

/-- The conjunction of a list. -/
abbrev and (children : List Expr) : Expr := group .all children

/-- The disjunction of a list. -/
abbrev or (children : List Expr) : Expr := group .any children

instance : Inhabited Expr := ⟨const true⟩

mutual

/-- Equality of expressions can be decided. -/
def decEq : (e f : Expr) → Decidable (e = f)
  | .const a, .const b =>
    if h : a = b then .isTrue (h ▸ rfl) else .isFalse fun h' => h (Expr.const.inj h')
  | .atom a, .atom b =>
    if h : a = b then .isTrue (h ▸ rfl) else .isFalse fun h' => h (Expr.atom.inj h')
  | .group c xs, .group d ys =>
    if h : c = d then
      match decEqList xs ys with
      | .isTrue h' => .isTrue (h ▸ h' ▸ rfl)
      | .isFalse h' => .isFalse fun h'' => h' (Expr.group.inj h'').2
    else .isFalse fun h' => h (Expr.group.inj h').1
  | .not x, .not y =>
    match decEq x y with
    | .isTrue h => .isTrue (h ▸ rfl)
    | .isFalse h => .isFalse fun h' => h (Expr.not.inj h')
  | .const _, .atom _ | .const _, .group _ _ | .const _, .not _ => .isFalse nofun
  | .atom _, .const _ | .atom _, .group _ _ | .atom _, .not _ => .isFalse nofun
  | .group _ _, .const _ | .group _ _, .atom _ | .group _ _, .not _ => .isFalse nofun
  | .not _, .const _ | .not _, .atom _ | .not _, .group _ _ => .isFalse nofun

/-- Equality of lists of expressions can be decided. -/
def decEqList : (xs ys : List Expr) → Decidable (xs = ys)
  | [], [] => .isTrue rfl
  | x :: xs, y :: ys =>
    match decEq x y with
    | .isTrue h =>
      match decEqList xs ys with
      | .isTrue h' => .isTrue (h ▸ h' ▸ rfl)
      | .isFalse h' => .isFalse fun h'' => h' (List.cons.inj h'').2
    | .isFalse h => .isFalse fun h' => h (List.cons.inj h').1
  | [], _ :: _ => .isFalse nofun
  | _ :: _, [] => .isFalse nofun

end

instance : DecidableEq Expr := decEq

/-- The truth value of an expression that is one. -/
def asConst? : Expr → Option Bool
  | .const b => some b
  | _ => none

/-- The name of the kind of a node. -/
def typeName : Expr → String
  | .const _ => "const"
  | .atom _ => "atom"
  | .group .all _ => "and"
  | .group .any _ => "or"
  | .not _ => "not"

mutual

/-- The atoms of an expression, depth first. -/
def atoms : Expr → List Atom
  | .const _ => []
  | .atom a => [a]
  | .group _ xs => atomsOfList xs
  | .not x => atoms x

/-- The atoms of a list of expressions, depth first. -/
def atomsOfList : List Expr → List Atom
  | [] => []
  | x :: xs => atoms x ++ atomsOfList xs

end

/-- The atoms of joined lists. -/
@[simp]
theorem atomsOfList_append (xs ys : List Expr) :
    atomsOfList (xs ++ ys) = atomsOfList xs ++ atomsOfList ys := by
  induction xs with
  | nil => simp [atomsOfList]
  | cons x xs ih => simp [atomsOfList, ih]

/-- The atoms of a member are atoms of the list. -/
theorem mem_atomsOfList {x : Expr} {xs : List Expr} {a : Atom} (hx : x ∈ xs) (ha : a ∈ x.atoms) :
    a ∈ atomsOfList xs := by
  obtain ⟨before, after, rfl⟩ := List.append_of_mem hx
  simp [atomsOfList, ha]

mutual

/-- The number of nodes of an expression. -/
def nodeCount : Expr → Nat
  | .const _ => 1
  | .atom _ => 1
  | .group _ xs => nodeCountList xs + 1
  | .not x => nodeCount x + 1

/-- The number of nodes of a list of expressions. -/
def nodeCountList : List Expr → Nat
  | [] => 0
  | x :: xs => nodeCount x + nodeCountList xs

end

end Expr

end BiblioQuery
