import BiblioQuery.Expr.Basic
import BiblioQuery.Text.Quoted

/-!
# Expressions for readers

The text by which messages and traces name an atom or an expression.

## Main definitions

* `Atom.display` : the text of an atom.
* `Expr.display` : the text of an expression.
-/

namespace BiblioQuery

/-- The text of a bound, a star for an open end. -/
def Bound.display : Option Bound → String
  | none => "*"
  | some b => b.canonical

/-- The text of a range: its kind and its bounds, in round brackets where a bound is excluded. -/
def RangeValue.display (r : RangeValue) : String :=
  r.kind.name ++ (if r.includeLower then "[" else "(") ++ Bound.display r.lower ++ ", " ++
    Bound.display r.upper ++ (if r.includeUpper then "]" else ")")

/-- The text of what an atom states about its field. -/
def AtomValue.display : AtomValue → String
  | .term t =>
    "TERM(" ++ t.matchType.name ++ ", " ++ Text.quoted t.text ++
      (if t.isCaseSensitive then ", " ++ t.caseMode.name else "") ++ ")"
  | .member v => "IN [" ++ ", ".intercalate v.values ++ "]"
  | .range r => "RANGE " ++ r.display
  | .presence expected => if expected then "EXISTS" else "EXISTS(false)"
  | .token t => "TOKEN(" ++ t.kind ++ ":" ++ t.value ++ ")"

/-- The text of an atom. -/
def Atom.display (a : Atom) : String :=
  (if a.negated then "NOT " else "") ++ a.field ++ " " ++ a.value.display

namespace Expr

mutual

/-- The text of an expression. -/
def display : Expr → String
  | .const b => if b then "TRUE" else "FALSE"
  | .atom a => a.display
  | .group c xs => "(" ++ (" " ++ c.word ++ " ").intercalate (displayList xs) ++ ")"
  | .not x => "NOT " ++ display x

/-- The texts of the members of a group. -/
def displayList : List Expr → List String
  | [] => []
  | x :: xs => display x :: displayList xs

end

end Expr

end BiblioQuery
