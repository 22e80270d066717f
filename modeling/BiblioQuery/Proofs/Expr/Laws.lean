import BiblioQuery.Proofs.Expr.NormalForm
import Mathlib.Data.List.Forall2

/-!
# The laws of simplification

Two expressions are *equivalent* when one can be changed into the other by the laws of flattening,
of groups of one member and of none, of truth values in groups, and of negation, each used in either
direction and at any place.  The lenient normal form decides equivalence: every expression is
equivalent to its normal form, and no law changes the normal form.

The laws do not exchange members and do not move negations into groups, so two expressions that are
true together need not be equivalent.

## Main definitions

* `Expr.Equivalent` : the least congruence with the laws.

## Main results

* `Expr.equivalent_normalForm` : an expression is equivalent to its normal form.
* `Expr.Equivalent.normalForm_eq` : equivalent expressions have one normal form.
* `Expr.equivalent_iff_normalize_eq` : equivalence is equality of what normalization computes.
-/

namespace BiblioQuery.Expr

/-- Two expressions are changed into each other by the laws of simplification. -/
inductive Equivalent : Expr → Expr → Prop
  /-- An expression is equivalent to itself. -/
  | refl (x : Expr) : Equivalent x x
  /-- Laws may be used backwards. -/
  | symm {x y : Expr} (h : Equivalent x y) : Equivalent y x
  /-- Laws may be used one after the other. -/
  | trans {x y z : Expr} (h : Equivalent x y) (h' : Equivalent y z) : Equivalent x z
  /-- Laws may be used in a member of a group. -/
  | inGroup (c : Connective) (xs zs : List Expr) {x y : Expr} (h : Equivalent x y) :
    Equivalent (.group c (xs ++ x :: zs)) (.group c (xs ++ y :: zs))
  /-- Laws may be used under a negation. -/
  | inNot {x y : Expr} (h : Equivalent x y) : Equivalent (.not x) (.not y)
  /-- A group takes in the members of a group with the same connective. -/
  | flatten (c : Connective) (xs ys zs : List Expr) :
    Equivalent (.group c (xs ++ [.group c ys] ++ zs)) (.group c (xs ++ ys ++ zs))
  /-- A group of one member is that member. -/
  | single (c : Connective) (x : Expr) : Equivalent (.group c [x]) x
  /-- A group without members has the neutral truth value. -/
  | empty (c : Connective) : Equivalent (.group c []) (.const c.identity)
  /-- The neutral truth value may be left out of a group. -/
  | neutral (c : Connective) (xs zs : List Expr) :
    Equivalent (.group c (xs ++ [.const c.identity] ++ zs)) (.group c (xs ++ zs))
  /-- The other truth value decides a group. -/
  | decisive (c : Connective) (xs zs : List Expr) :
    Equivalent (.group c (xs ++ [.const !c.identity] ++ zs)) (.const !c.identity)
  /-- Two negations cancel. -/
  | notNot (x : Expr) : Equivalent (.not (.not x)) x
  /-- The negation of a truth value is the other one. -/
  | notConst (b : Bool) : Equivalent (.not (.const b)) (.const !b)
  /-- The negation of a statement is the opposite statement. -/
  | notAtom (a : Atom) : Equivalent (.not (.atom a)) (.atom a.negate)

/-! ### Expressions are equivalent to their normal forms -/

/-- The simplified opposite is equivalent to the negation. -/
theorem equivalent_negate (x : Expr) : Equivalent (.not x) x.negate := by
  cases x with
  | const b => exact .notConst b
  | atom a => exact .notAtom a
  | group c xs => exact .refl _
  | not x => exact .notNot x

/-- The simplified group is equivalent to the group of what the members add. -/
theorem equivalent_collapse (c : Connective) (ys : List Expr) :
    Equivalent (.group c ys) (collapse c (some ys)) := by
  match ys with
  | [] => exact .empty c
  | [y] => exact .single c y
  | _ :: _ :: _ => exact .refl _

/-- A member may be replaced by what it adds, behind members that were replaced before. -/
theorem equivalent_of_splice? {c : Connective} {y : Expr} {ys : List Expr}
    (h : splice? c y = some ys) (as zs : List Expr) :
    Equivalent (.group c (as ++ y :: zs)) (.group c (as ++ ys ++ zs)) := by
  cases y with
  | const b =>
    simp only [splice?] at h
    split at h
    · rename_i hb
      rw [← Option.some.inj h, hb]
      simpa using Equivalent.neutral c as zs
    · cases h
  | atom a =>
    rw [← Option.some.inj h]
    simpa using Equivalent.refl _
  | group d xs =>
    simp only [splice?] at h
    split at h
    · rename_i hd
      subst hd
      rw [← Option.some.inj h]
      simpa using Equivalent.flatten d as xs zs
    · rw [← Option.some.inj h]
      simpa using Equivalent.refl _
  | not x =>
    rw [← Option.some.inj h]
    simpa using Equivalent.refl _

/-- A member that adds nothing decides the group. -/
theorem equivalent_of_splice?_eq_none {c : Connective} {y : Expr} (h : splice? c y = none)
    (as zs : List Expr) : Equivalent (.group c (as ++ y :: zs)) (.const !c.identity) := by
  cases y with
  | const b =>
    simp only [splice?] at h
    split at h
    · cases h
    · rename_i hb
      rw [show b = !c.identity by cases b <;> cases hc : c.identity <;> simp_all]
      simpa using Equivalent.decisive c as zs
  | atom a => cases h
  | group d xs =>
    simp only [splice?] at h
    split at h <;> cases h
  | not x => cases h

/-- A group is equivalent to its simplification, behind members that are simple already. -/
theorem equivalent_spliceAll (c : Connective) (as ys : List Expr) :
    Equivalent (.group c (as ++ ys)) (collapse c ((spliceAll c ys).map (as ++ ·))) := by
  induction ys generalizing as with
  | nil =>
    rw [spliceAll, List.append_nil, Option.map_some, List.append_nil]
    exact equivalent_collapse c as
  | cons y ys ih =>
    rw [spliceAll]
    cases hy : splice? c y with
    | none => exact equivalent_of_splice?_eq_none hy as ys
    | some zs =>
      refine (equivalent_of_splice? hy as ys).trans ?_
      simpa [Function.comp_def] using ih (as ++ zs)

/-- Members may be replaced by equivalent ones, behind members that are kept. -/
theorem equivalent_group (c : Connective) (as : List Expr) {xs ys : List Expr}
    (h : List.Forall₂ Equivalent xs ys) :
    Equivalent (.group c (as ++ xs)) (.group c (as ++ ys)) := by
  induction h generalizing as with
  | nil => exact .refl _
  | @cons x y xs ys hxy _ ih =>
    refine (Equivalent.inGroup c as xs hxy).trans ?_
    simpa using ih (as ++ [y])

mutual

/-- An expression is equivalent to its normal form. -/
theorem equivalent_normalForm : (e : Expr) → Equivalent e (normalForm e)
  | .const b => by rw [normalForm]; exact .refl _
  | .atom a => by rw [normalForm]; exact .refl _
  | .not x => by
    rw [normalForm]
    exact (Equivalent.inNot (equivalent_normalForm x)).trans (equivalent_negate _)
  | .group c xs => by
    rw [normalForm]
    refine (equivalent_group c [] (equivalent_normalForms xs)).trans ?_
    simpa using equivalent_spliceAll c [] (normalForms xs)

theorem equivalent_normalForms : (xs : List Expr) → List.Forall₂ Equivalent xs (normalForms xs)
  | [] => .nil
  | x :: xs => by
    rw [normalForms]
    exact .cons (equivalent_normalForm x) (equivalent_normalForms xs)

end

/-! ### Laws keep normal forms -/

/-- The normal form of a group with a part in the middle is known from what the parts add. -/
theorem normalForm_group_append (c : Connective) (xs ys zs : List Expr) :
    normalForm (.group c (xs ++ ys ++ zs)) =
      collapse c ((spliceAll c (xs.map normalForm)).bind fun as =>
        (spliceAll c (ys.map normalForm)).bind fun bs =>
          (spliceAll c (zs.map normalForm)).map fun cs => as ++ (bs ++ cs)) := by
  rw [normalForm_group, List.append_assoc, List.map_append, List.map_append, spliceAll_append,
    spliceAll_append]
  cases spliceAll c (xs.map normalForm) with
  | none => rfl
  | some as => cases spliceAll c (ys.map normalForm) <;> simp [Function.comp_def]

/-- Parts of groups that add the same may be exchanged. -/
theorem normalForm_group_congr (c : Connective) (xs zs : List Expr) {ys ys' : List Expr}
    (h : spliceAll c (ys.map normalForm) = spliceAll c (ys'.map normalForm)) :
    normalForm (.group c (xs ++ ys ++ zs)) = normalForm (.group c (xs ++ ys' ++ zs)) := by
  rw [normalForm_group_append, normalForm_group_append, h]

/-- A single member adds what it is spliced to. -/
@[simp]
theorem spliceAll_singleton (c : Connective) (y : Expr) : spliceAll c [y] = splice? c y := by
  rw [spliceAll]
  cases splice? c y <;> simp [spliceAll]

/-- A group adds to a group with the same connective what its members add. -/
theorem splice?_normalForm_group (c : Connective) (ys : List Expr) :
    splice? c (normalForm (.group c ys)) = spliceAll c (ys.map normalForm) := by
  rw [normalForm_group]
  refine splice?_collapse fun as has y hy => ?_
  refine (isMember_of_spliceAll (fun n hn => ?_) has y hy).1
  obtain ⟨x, _, rfl⟩ := List.mem_map.1 hn
  exact isNormal_normalForm x

/-- Equivalent expressions have one normal form. -/
theorem Equivalent.normalForm_eq {x y : Expr} (h : Equivalent x y) :
    normalForm x = normalForm y := by
  induction h with
  | refl x => rfl
  | symm _ ih => exact ih.symm
  | trans _ _ ih ih' => exact ih.trans ih'
  | @inGroup c xs zs x y _ ih =>
    have hxy : spliceAll c ([x].map normalForm) = spliceAll c ([y].map normalForm) := by
      simp [ih]
    simpa using normalForm_group_congr c xs zs hxy
  | inNot _ ih => rw [normalForm, normalForm, ih]
  | flatten c xs ys zs =>
    refine normalForm_group_congr c xs zs ?_
    rw [List.map_singleton, spliceAll_singleton, splice?_normalForm_group]
  | single c x =>
    rw [normalForm_group, List.map_singleton, spliceAll_singleton]
    exact collapse_splice?_of_isNormal (isNormal_normalForm x)
  | empty c => rw [normalForm_group, normalForm]; rfl
  | neutral c xs zs =>
    have hnil : spliceAll c ([.const c.identity].map normalForm) =
        spliceAll c ([].map normalForm) := by
      simp [normalForm, splice?, spliceAll]
    simpa using normalForm_group_congr c xs zs hnil
  | decisive c xs zs =>
    rw [normalForm_group_append, List.map_singleton, spliceAll_singleton, normalForm]
    have hs : splice? c (.const !c.identity) = none := by cases c <;> rfl
    rw [hs]
    cases spliceAll c (xs.map normalForm) <;> rfl
  | notNot x =>
    rw [normalForm, normalForm]
    exact negate_negate_of_isNormal (isNormal_normalForm x)
  | notConst b => simp only [normalForm, negate]
  | notAtom a => simp only [normalForm, negate]

/-- Two expressions are equivalent exactly when normalization without strictness computes the same
of them. -/
theorem equivalent_iff_normalize_eq (x y : Expr) :
    Equivalent x y ↔ normalize false x = normalize false y := by
  rw [normalize_false, normalize_false]
  constructor
  · intro h
    rw [h.normalForm_eq]
  · intro h
    have hn : normalForm x = normalForm y := Except.ok.inj h
    exact (equivalent_normalForm x).trans (hn ▸ (equivalent_normalForm y).symm)

end BiblioQuery.Expr
