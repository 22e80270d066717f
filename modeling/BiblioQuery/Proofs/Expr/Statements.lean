import BiblioQuery.Expr.Encode
import BiblioQuery.Proofs.Expr.NormalForm
import Mathlib.Data.List.Basic

/-!
# What normalization keeps

Normalization drops parts of an expression, joins groups and moves negations into atoms.  It invents
nothing: what the atoms of a normal form state in the whole, the negations above them counted, is
what some atoms of the expression state, in their order.  And no text grows deeper, since a group
takes in the members of a group inside it and a negation goes away or stays where it was.

## Main definitions

* `Expr.statements` : the atoms as they count in the whole, turned round below an odd number of
  negations.
* `Expr.IsSolid` : there is no truth value and no empty group in an expression.

## Main results

* `Expr.map_value_statements` : the statements are about the values of the atoms, in their order.
* `Expr.statements_normalForm_sublist` : a normal form states nothing new.
* `Expr.statements_normalForm_eq` : the normal form of a solid expression states all that the
  expression does.
* `Expr.depth_normalForm_le` : a normal form is nested no deeper than the expression.
-/

namespace BiblioQuery

/-! ### Statements -/

/-- The atom as it counts below negations that deny it or not. -/
def Atom.below (denied : Bool) (a : Atom) : Atom := { a with negated := a.negated ^^ denied }

theorem Atom.below_negate (denied : Bool) (a : Atom) : a.negate.below denied = a.below !denied := by
  simp [below, negate]

namespace Expr

mutual

/-- The atoms of an expression as they count in the whole, where `denied` says whether an odd number
of negations stands above it. -/
def statements (denied : Bool) : Expr → List Atom
  | .const _ => []
  | .atom a => [a.below denied]
  | .group _ xs => statementsOfList denied xs
  | .not x => statements (!denied) x

/-- The atoms of a list of expressions as they count in the whole. -/
def statementsOfList (denied : Bool) : List Expr → List Atom
  | [] => []
  | x :: xs => statements denied x ++ statementsOfList denied xs

end

/-- The statements of joined lists. -/
@[simp]
theorem statementsOfList_append (denied : Bool) (xs ys : List Expr) :
    statementsOfList denied (xs ++ ys) =
      statementsOfList denied xs ++ statementsOfList denied ys := by
  induction xs with
  | nil => simp [statementsOfList]
  | cons x xs ih => simp [statementsOfList, ih]

mutual

/-- What does not depend on denials is the same of the statements and the atoms, in their order. -/
theorem map_statements {β : Type} {f : Atom → β} (hf : ∀ denied a, f (a.below denied) = f a)
    (denied : Bool) : (e : Expr) → (e.statements denied).map f = e.atoms.map f
  | .const _ => rfl
  | .atom a => congrArg (fun b => [b]) (hf denied a)
  | .group _ xs => map_statementsOfList hf denied xs
  | .not x => map_statements hf (!denied) x

theorem map_statementsOfList {β : Type} {f : Atom → β}
    (hf : ∀ denied a, f (a.below denied) = f a) (denied : Bool) : (xs : List Expr) →
      (statementsOfList denied xs).map f = (atomsOfList xs).map f
  | [] => rfl
  | x :: xs => by
    rw [statementsOfList, atomsOfList, List.map_append, List.map_append,
      map_statements hf denied x, map_statementsOfList hf denied xs]

end

/-- The statements are about the values of the atoms, in their order. -/
theorem map_value_statements (denied : Bool) (e : Expr) :
    (e.statements denied).map Atom.value = e.atoms.map Atom.value :=
  map_statements (fun _ _ => rfl) denied e

/-! ### Statements of simplified expressions -/

/-- The simplified opposite states the opposite. -/
theorem statements_negate (denied : Bool) (e : Expr) :
    e.negate.statements denied = e.statements !denied := by
  cases e with
  | const b => rfl
  | atom a => exact congrArg (fun b => [b]) (a.below_negate denied)
  | group c xs => rfl
  | not x => rw [negate, statements, Bool.not_not]

/-- A member adds what it states. -/
theorem statements_of_splice? {c : Connective} {e : Expr} {ys : List Expr}
    (h : splice? c e = some ys) (denied : Bool) :
    statementsOfList denied ys = e.statements denied := by
  cases e with
  | const b =>
    simp only [splice?] at h
    split at h
    · rw [← Option.some.inj h]
      rfl
    · cases h
  | atom a => simp [← Option.some.inj h, statementsOfList]
  | group d xs =>
    simp only [splice?] at h
    split at h
    · rw [← Option.some.inj h, statements]
    · simp [← Option.some.inj h, statementsOfList]
  | not x => simp [← Option.some.inj h, statementsOfList]

theorem statements_of_spliceAll {c : Connective} {xs ys : List Expr} (h : spliceAll c xs = some ys)
    (denied : Bool) : statementsOfList denied ys = statementsOfList denied xs := by
  induction xs generalizing ys with
  | nil => rw [← Option.some.inj h]
  | cons x xs ih =>
    rw [spliceAll] at h
    cases hs : splice? c x with
    | none => simp [hs] at h
    | some zs =>
      simp only [hs] at h
      obtain ⟨r, hr, rfl⟩ := Option.map_eq_some_iff.1 h
      rw [statementsOfList_append, statements_of_splice? hs, ih hr, statementsOfList]

/-- Joined members state what they add, and nothing where one of them decides the group. -/
theorem statements_collapse (c : Connective) (denied : Bool) (o : Option (List Expr)) :
    (collapse c o).statements denied = statementsOfList denied (o.getD []) := by
  match o with
  | none => rfl
  | some [] => rfl
  | some [y] => simp [collapse, statementsOfList]
  | some (y :: z :: ys) => rfl

mutual

/-- A normal form states nothing that the expression does not state, and keeps the order. -/
theorem statements_normalForm_sublist (denied : Bool) :
    (e : Expr) → ((normalForm e).statements denied).Sublist (e.statements denied)
  | .const _ => .refl _
  | .atom _ => .refl _
  | .not x => by
    rw [normalForm, statements_negate, statements]
    exact statements_normalForm_sublist (!denied) x
  | .group c xs => by
    have hmembers := statements_normalForms_sublist denied xs
    rw [normalForm, statements_collapse, statements]
    cases hs : spliceAll c (normalForms xs) with
    | none => exact List.nil_sublist _
    | some ys => exact statements_of_spliceAll hs denied ▸ hmembers

theorem statements_normalForms_sublist (denied : Bool) : (xs : List Expr) →
    (statementsOfList denied (normalForms xs)).Sublist (statementsOfList denied xs)
  | [] => .refl _
  | x :: xs => by
    rw [normalForms, statementsOfList, statementsOfList]
    exact (statements_normalForm_sublist denied x).append (statements_normalForms_sublist denied xs)

end

/-- The values of a normal form are values of the expression. -/
theorem value_mem_of_mem_normalForm {e : Expr} {a : Atom} (h : a ∈ (normalForm e).atoms) :
    ∃ b ∈ e.atoms, b.value = a.value := by
  have hvalue : a.value ∈ ((normalForm e).statements false).map Atom.value := by
    rw [map_value_statements]
    exact List.mem_map_of_mem h
  obtain ⟨b, hb, hab⟩ := List.mem_map.1 hvalue
  have hstated := List.mem_map_of_mem (f := Atom.value)
    ((statements_normalForm_sublist false e).subset hb)
  rw [map_value_statements, hab] at hstated
  exact List.mem_map.1 hstated

/-! ### Expressions of which nothing is dropped -/

/-- The expression holds no truth value and no empty group. -/
inductive IsSolid : Expr → Prop
  /-- A statement. -/
  | atom (a : Atom) : IsSolid (.atom a)
  /-- A group with members, all of them solid. -/
  | group {c : Connective} {xs : List Expr} (hne : xs ≠ []) (hxs : ∀ x ∈ xs, IsSolid x) :
    IsSolid (.group c xs)
  /-- The opposite of a solid expression. -/
  | not {x : Expr} (h : IsSolid x) : IsSolid (.not x)

theorem statementsOfList_eq_flatMap (denied : Bool) (xs : List Expr) :
    statementsOfList denied xs = xs.flatMap (statements denied) := by
  induction xs with
  | nil => rfl
  | cons x xs ih => rw [statementsOfList, ih, List.flatMap_cons]

theorem negate_ne_const {x : Expr} (hx : IsNormal x) (h : ∀ b, x ≠ .const b) :
    ∀ b, x.negate ≠ .const b := by
  intro b hb
  have hback := negate_negate_of_isNormal hx
  rw [hb, negate] at hback
  exact h _ hback.symm

/-- A normal member that is no truth value adds something to a group. -/
theorem exists_splice? (c : Connective) {n : Expr} (hn : IsNormal n) (h : ∀ b, n ≠ .const b) :
    ∃ ys, splice? c n = some ys ∧ ys ≠ [] := by
  cases hn with
  | const b => exact absurd rfl (h b)
  | atom a => exact ⟨[.atom a], rfl, List.cons_ne_nil _ _⟩
  | @group d xs hlen hmem hxs =>
    by_cases hd : d = c
    · exact ⟨xs, by simp [splice?, hd], by rintro rfl; simp at hlen⟩
    · exact ⟨[.group d xs], by simp [splice?, hd], List.cons_ne_nil _ _⟩
  | notGroup hx => exact ⟨[_], rfl, List.cons_ne_nil _ _⟩

theorem exists_spliceAll (c : Connective) {ns : List Expr}
    (hns : ∀ n ∈ ns, IsNormal n ∧ ∀ b, n ≠ .const b) :
    ∃ ys, spliceAll c ns = some ys ∧ (ns ≠ [] → ys ≠ []) := by
  induction ns with
  | nil => exact ⟨[], rfl, fun h => absurd rfl h⟩
  | cons n ns ih =>
    rw [List.forall_mem_cons] at hns
    obtain ⟨zs, hzs, hne⟩ := exists_splice? c hns.1.1 hns.1.2
    obtain ⟨ys, hys, -⟩ := ih hns.2
    exact ⟨zs ++ ys, by simp [spliceAll, hzs, hys], by simp [hne]⟩

theorem collapse_ne_const {c : Connective} {ys : List Expr} (hne : ys ≠ [])
    (hmem : ∀ y ∈ ys, IsMember c y) : ∀ b, collapse c (some ys) ≠ .const b := by
  intro b hb
  match ys with
  | [] => exact hne rfl
  | [y] =>
    have hy := hmem y List.mem_cons_self
    rw [collapse] at hb
    rw [hb] at hy
    exact hy
  | y :: z :: ys => cases hb

/-- The normal form of a solid expression is no truth value, and it states all that the expression
does. -/
theorem statements_normalForm_eq {e : Expr} (he : e.IsSolid) :
    (∀ b, normalForm e ≠ .const b) ∧
      ∀ denied, (normalForm e).statements denied = e.statements denied := by
  induction he with
  | atom a => exact ⟨nofun, fun _ => rfl⟩
  | @not x hx ih =>
    rw [normalForm]
    refine ⟨negate_ne_const (isNormal_normalForm x) ih.1, fun denied => ?_⟩
    rw [statements_negate, ih.2, statements]
  | @group c xs hne hxs ih =>
    have hnormal : ∀ n ∈ xs.map normalForm, IsNormal n ∧ ∀ b, n ≠ .const b := by
      intro n hn
      obtain ⟨x, hx, rfl⟩ := List.mem_map.1 hn
      exact ⟨isNormal_normalForm x, (ih x hx).1⟩
    obtain ⟨ys, hys, hadded⟩ := exists_spliceAll c hnormal
    have hmem := isMember_of_spliceAll (fun n hn => (hnormal n hn).1) hys
    rw [normalForm_group, hys]
    refine ⟨collapse_ne_const (hadded (by simpa using hne)) fun y hy => (hmem y hy).1,
      fun denied => ?_⟩
    rw [statements_collapse, Option.getD_some, statements_of_spliceAll hys, statements,
      statementsOfList_eq_flatMap, statementsOfList_eq_flatMap, List.flatMap_map]
    exact List.flatMap_congr fun x hx => (ih x hx).2 denied

/-! ### Depth -/

theorem depthOfList_append (xs ys : List Expr) :
    depthOfList (xs ++ ys) = max (depthOfList xs) (depthOfList ys) := by
  induction xs with
  | nil => simp [depthOfList]
  | cons x xs ih => simp [depthOfList, ih, Nat.max_assoc]

/-- The simplified opposite is at most one level deeper. -/
theorem depth_negate_le (e : Expr) : e.negate.depth ≤ e.depth + 1 := by
  cases e with
  | const b => simp [negate, depth]
  | atom a => simp [negate, depth, Atom.negate]
  | group c xs => simp [negate, depth]
  | not x => simp [negate, depth]; omega

/-- What a member adds is no deeper than the member. -/
theorem depth_le_of_splice? {c : Connective} {e : Expr} {ys : List Expr}
    (h : splice? c e = some ys) : depthOfList ys ≤ e.depth := by
  cases e with
  | const b =>
    simp only [splice?] at h
    split at h
    · simp [← Option.some.inj h, depthOfList]
    · cases h
  | atom a => simp [← Option.some.inj h, depthOfList]
  | group d xs =>
    simp only [splice?] at h
    split at h
    · simp [← Option.some.inj h, depth]
    · simp [← Option.some.inj h, depthOfList]
  | not x => simp [← Option.some.inj h, depthOfList]

theorem depth_le_of_spliceAll {c : Connective} {xs ys : List Expr} (h : spliceAll c xs = some ys) :
    depthOfList ys ≤ depthOfList xs := by
  induction xs generalizing ys with
  | nil => simp [← Option.some.inj h]
  | cons x xs ih =>
    rw [spliceAll] at h
    cases hs : splice? c x with
    | none => simp [hs] at h
    | some zs =>
      simp only [hs] at h
      obtain ⟨r, hr, rfl⟩ := Option.map_eq_some_iff.1 h
      rw [depthOfList_append, depthOfList]
      have hfirst := depth_le_of_splice? hs
      have hrest := ih hr
      omega

/-- Joined members are no deeper than the group of what they add. -/
theorem depth_collapse_le (c : Connective) (o : Option (List Expr)) :
    (collapse c o).depth ≤ depthOfList (o.getD []) + 2 := by
  match o with
  | none => simp [collapse, depth]
  | some [] => simp [collapse, depth]
  | some [y] => simp [collapse, depthOfList]
  | some (y :: z :: ys) => simp [collapse, depth]

mutual

/-- A normal form is nested no deeper than the expression. -/
theorem depth_normalForm_le : (e : Expr) → (normalForm e).depth ≤ e.depth
  | .const _ => Nat.le_refl _
  | .atom _ => Nat.le_refl _
  | .not x => by
    rw [normalForm, depth]
    have hx := depth_normalForm_le x
    have hnegate := depth_negate_le (normalForm x)
    omega
  | .group c xs => by
    rw [normalForm, depth]
    have hmembers := depth_normalForms_le xs
    have hcollapse := depth_collapse_le c (spliceAll c (normalForms xs))
    cases hs : spliceAll c (normalForms xs) with
    | none =>
      simp [hs, depthOfList] at hcollapse
      omega
    | some ys =>
      have hadded := depth_le_of_spliceAll hs
      simp only [hs, Option.getD_some] at hcollapse
      omega

theorem depth_normalForms_le : (xs : List Expr) → depthOfList (normalForms xs) ≤ depthOfList xs
  | [] => Nat.le_refl _
  | x :: xs => by
    rw [normalForms, depthOfList, depthOfList]
    have hfirst := depth_normalForm_le x
    have hrest := depth_normalForms_le xs
    omega

end

end Expr

end BiblioQuery
