import BiblioQuery.Expr.Fault

/-!
# Normal forms

An expression is simplified from the leaves upwards.  Truth values fold away, groups take in the
members of groups with the same connective, negations cancel or turn atoms round, and a group with a
single member is that member.  In strict mode a group that is given with fewer than two members is a
fault.

## Main definitions

* `Expr.negate` : the opposite of a simplified expression.
* `Expr.splice?` : what a simplified member adds to a group; `none` if it decides the group.
* `Expr.collapse` : the simplified group of what its members add.
* `Expr.normalize` : the normal form of an expression.

## Main results

* `Expr.normalize_atom`, `Expr.normalize_const` : leaves are normal.
-/

namespace BiblioQuery.Expr

/-- The opposite of a simplified expression. -/
def negate : Expr → Expr
  | .const b => .const (!b)
  | .not x => x
  | .atom a => .atom a.negate
  | .group c xs => .not (.group c xs)

/-- What a simplified member adds to a group; `none` if it decides the group. -/
def splice? (c : Connective) : Expr → Option (List Expr)
  | .const b => if b = c.identity then some [] else none
  | .group d xs => if d = c then some xs else some [.group d xs]
  | x => some [x]

/-- The simplified group of what its members add, or the truth value that decides it. -/
def collapse (c : Connective) : Option (List Expr) → Expr
  | none => .const (!c.identity)
  | some [] => .const c.identity
  | some [x] => x
  | some xs => .group c xs

mutual

/-- The normal form of an expression; a fault for an ambiguous group in strict mode. -/
def normalize (strict : Bool) : Expr → Except Malformed Expr
  | .const b => .ok (.const b)
  | .atom a => .ok (.atom a)
  | .not x => ((normalize strict x).mapError (Malformed.under .child)).map negate
  | .group c xs =>
    if strict && xs.length < 2 then .error ⟨[], .ambiguousGroup c xs.length⟩
    else (members strict c 0 xs).map (collapse c)

/-- What the members of a group add, up to one that decides it; the first has the given index. -/
def members (strict : Bool) (c : Connective) (i : Nat) :
    List Expr → Except Malformed (Option (List Expr))
  | [] => .ok (some [])
  | x :: xs =>
    match normalize strict x with
    | .error m => .error (m.under (.children i))
    | .ok y =>
      match splice? c y with
      | none => .ok none
      | some ys => (members strict c (i + 1) xs).map fun o => o.map (ys ++ ·)

end

/-- A truth value is normal. -/
@[simp]
theorem normalize_const (strict b : Bool) : normalize strict (.const b) = .ok (.const b) := by
  rw [normalize]

/-- An atom is normal. -/
@[simp]
theorem normalize_atom (strict : Bool) (a : Atom) : normalize strict (.atom a) = .ok (.atom a) := by
  rw [normalize]

end BiblioQuery.Expr
