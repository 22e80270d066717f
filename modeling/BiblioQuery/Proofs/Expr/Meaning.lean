import BiblioQuery.Proofs.Expr.NormalForm

/-!
# The meaning of expressions

A valuation says of every value of every field whether it is stated truly.  It gives every
expression a truth value: a denied statement has the opposite one, a conjunction holds if all its
members do, a disjunction if one of them does.  Normalization changes the tree and keeps the truth
value under every valuation.

## Main definitions

* `Valuation`, `Atom.eval`, `Connective.join`, `Expr.eval` : truth values.
* `Expr.spliceEval` : the truth value of what members add to a group.

## Main results

* `Expr.eval_and`, `Expr.eval_or` : groups hold if all members, or some member, hold.
* `Expr.eval_normalForm` : the lenient normal form has the same truth value.
* `Expr.eval_of_normalize_eq_ok` : so has the result of every normalization, and without strictness
  there always is one.
-/

namespace BiblioQuery

/-! ### Truth values -/

/-- Which values of which fields are stated truly. -/
abbrev Valuation : Type := String → AtomValue → Bool

/-- The truth value of a statement. -/
def Atom.eval (v : Valuation) (a : Atom) : Bool := v a.field a.value ^^ a.negated

@[simp]
theorem Atom.eval_negate (v : Valuation) (a : Atom) : a.negate.eval v = !a.eval v := by
  simp [eval, negate]

namespace Connective

/-- The truth value of a group whose members have the given ones. -/
def join : Connective → List Bool → Bool
  | .all, bs => bs.all id
  | .any, bs => bs.any id

@[simp]
theorem join_nil (c : Connective) : c.join [] = c.identity := by
  cases c <;> rfl

@[simp]
theorem join_singleton (c : Connective) (b : Bool) : c.join [b] = b := by
  cases c <;> simp [join]

/-- Members may be joined in two parts. -/
theorem join_append (c : Connective) (as bs : List Bool) :
    c.join (as ++ bs) = c.join [c.join as, c.join bs] := by
  cases c <;> simp [join]

/-- The opposite of the neutral truth value decides a group. -/
theorem join_not_identity (c : Connective) (b : Bool) :
    c.join [!c.identity, b] = !c.identity := by
  cases c <;> simp [join, identity]

end Connective

namespace Expr

mutual

/-- The truth value of an expression. -/
def eval (v : Valuation) : Expr → Bool
  | .const b => b
  | .atom a => a.eval v
  | .group c xs => c.join (evalList v xs)
  | .not x => !eval v x

/-- The truth values of a list of expressions. -/
def evalList (v : Valuation) : List Expr → List Bool
  | [] => []
  | x :: xs => eval v x :: evalList v xs

end

theorem evalList_eq_map (v : Valuation) (xs : List Expr) : evalList v xs = xs.map (eval v) := by
  induction xs with
  | nil => rfl
  | cons x xs ih => rw [evalList, ih, List.map_cons]

theorem eval_group (v : Valuation) (c : Connective) (xs : List Expr) :
    eval v (.group c xs) = c.join (xs.map (eval v)) := by
  rw [eval, evalList_eq_map]

/-- A conjunction holds if all its members do. -/
theorem eval_and (v : Valuation) (xs : List Expr) : eval v (.and xs) = xs.all (eval v) := by
  rw [eval_group, Connective.join, List.all_map, Function.id_comp]

/-- A disjunction holds if some of its members does. -/
theorem eval_or (v : Valuation) (xs : List Expr) : eval v (.or xs) = xs.any (eval v) := by
  rw [eval_group, Connective.join, List.any_map, Function.id_comp]

/-! ### Truth values of simplified expressions -/

/-- The truth value of what members add to a group, where `none` is what decides it. -/
def spliceEval (v : Valuation) (c : Connective) : Option (List Expr) → Bool
  | none => !c.identity
  | some ys => c.join (ys.map (eval v))

/-- The simplified opposite is the opposite. -/
theorem eval_negate (v : Valuation) (e : Expr) : e.negate.eval v = !e.eval v := by
  cases e with
  | const b => simp [negate, eval]
  | atom a => simp [negate, eval]
  | group c xs => simp [negate, eval]
  | not x => simp [negate, eval]

/-- A member adds its own truth value. -/
theorem spliceEval_splice? (v : Valuation) (c : Connective) (e : Expr) :
    spliceEval v c (splice? c e) = e.eval v := by
  cases e with
  | const b =>
    simp only [splice?, eval]
    split
    · simp [spliceEval, *]
    · cases c <;> cases b <;> simp_all [spliceEval, Connective.identity]
  | atom a => simp [splice?, spliceEval]
  | group d xs =>
    simp only [splice?]
    split
    · rename_i hd
      rw [spliceEval, eval_group, hd]
    · simp [spliceEval]
  | not x => simp [splice?, spliceEval]

theorem spliceEval_spliceAll (v : Valuation) (c : Connective) (xs : List Expr) :
    spliceEval v c (spliceAll c xs) = c.join (xs.map (eval v)) := by
  induction xs with
  | nil => simp [spliceAll, spliceEval]
  | cons x xs ih =>
    have hx := spliceEval_splice? v c x
    rw [spliceAll, List.map_cons, ← List.singleton_append, c.join_append, ← ih, c.join_singleton,
      ← hx]
    cases splice? c x with
    | none => rw [spliceEval, c.join_not_identity]
    | some zs =>
      cases spliceAll c xs with
      | none => cases c <;> simp [spliceEval, Connective.join, Connective.identity]
      | some ys => simp only [Option.map_some, spliceEval, List.map_append, c.join_append]

/-- Joined members have the truth value of what they add. -/
theorem eval_collapse (v : Valuation) (c : Connective) (o : Option (List Expr)) :
    eval v (collapse c o) = spliceEval v c o := by
  match o with
  | none => rfl
  | some [] => simp [collapse, spliceEval, eval]
  | some [y] => simp [collapse, spliceEval]
  | some (y :: z :: ys) => exact eval_group v c (y :: z :: ys)

mutual

/-- The lenient normal form has the truth value of the expression. -/
theorem eval_normalForm (v : Valuation) : (e : Expr) → (normalForm e).eval v = e.eval v
  | .const b => by rw [normalForm]
  | .atom a => by rw [normalForm]
  | .not x => by rw [normalForm, eval_negate, eval_normalForm v x, eval]
  | .group c xs => by
    rw [normalForm, eval_collapse, spliceEval_spliceAll, map_eval_normalForms v xs, eval,
      evalList_eq_map]

theorem map_eval_normalForms (v : Valuation) :
    (xs : List Expr) → (normalForms xs).map (eval v) = xs.map (eval v)
  | [] => rfl
  | x :: xs => by
    rw [normalForms, List.map_cons, List.map_cons, eval_normalForm v x, map_eval_normalForms v xs]

end

/-- Normalization in either mode keeps the truth value under every valuation, and without
strictness it never fails. -/
theorem eval_of_normalize_eq_ok (e : Expr) :
    (∀ (strict : Bool) (n : Expr), normalize strict e = .ok n →
      ∀ v : Valuation, n.eval v = e.eval v) ∧
    ∃ n, normalize false e = .ok n := by
  constructor
  · intro strict n h v
    rw [eq_normalForm_of_normalize e h]
    exact eval_normalForm v e
  · exact ⟨normalForm e, normalize_false e⟩

/-- A strict normalization that folds truth values, collapses groups and turns an atom round. -/
theorem eval_of_normalize_eq_ok_nested :
    normalize true
        (.and [.or [.atom (.present "doi"), .const false],
          .not (.or [.atom (.missing "year"),
            .not (.and [.const true, .atom (.phrase "title" "a")])])]) =
      .ok (.and [.atom (.present "doi"),
        .not (.or [.atom (.missing "year"), .atom (Atom.phrase "title" "a").negate])]) ∧
    eval (fun field _ => field == "title")
        (.and [.atom (.present "doi"),
          .not (.or [.atom (.missing "year"), .atom (Atom.phrase "title" "a").negate])]) =
      eval (fun field _ => field == "title")
        (.and [.or [.atom (.present "doi"), .const false],
          .not (.or [.atom (.missing "year"),
            .not (.and [.const true, .atom (.phrase "title" "a")])])]) := by
  refine ⟨rfl, ?_⟩
  exact (eval_of_normalize_eq_ok _).1 true _ rfl _

end Expr

end BiblioQuery
