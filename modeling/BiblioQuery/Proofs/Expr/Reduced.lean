import BiblioQuery.Proofs.Expr.Ambiguity

/-!
# Reduced expressions

Whether an expression is normal can be told by looking at each of its parts alone: apart from truth
values that stand for the whole, nothing can be simplified at any place.  Normalization leaves such
expressions and leaves them as they are, in both modes, so that its results are exactly the reduced
expressions and normalizing a result again changes nothing.

## Main definitions

* `Expr.IsIrreducible` : nothing can be simplified at the root of an expression.
* `Expr.IsReduced` : nothing can be simplified at any place.

## Main results

* `Expr.isReduced_iff_isNormal` : reduced and normal expressions are the same.
* `Expr.IsNormal.normalize_eq` : a normal expression is its own normal form in both modes.
* `Expr.exists_normalize_eq_ok_iff` : the results of normalization.
-/

namespace BiblioQuery.Expr

variable {e x n : Expr} {c : Connective} {xs : List Expr}

/-- Nothing can be simplified at the root: it is no truth value, a group has several members and
takes in none of them, and what is denied is a group. -/
def IsIrreducible : Expr → Prop
  | .const _ => False
  | .atom _ => True
  | .not x => ∃ c xs, x = .group c xs
  | .group c xs => 2 ≤ xs.length ∧ ∀ ys, .group c ys ∉ xs

/-- The expression is a truth value, or nothing can be simplified at any of its places. -/
def IsReduced (e : Expr) : Prop :=
  (∃ b, e = .const b) ∨ ∀ p x, e.part? p = some x → x.IsIrreducible

/-! ### What holds of all parts -/

section

variable {P : Expr → Prop}

theorem forall_part?_atom {a : Atom} : (∀ p y, part? (.atom a) p = some y → P y) ↔ P (.atom a) := by
  refine ⟨fun h => h [] _ rfl, fun h p y hy => ?_⟩
  cases p with
  | nil => exact Option.some.inj hy ▸ h
  | cons t p => simp [part?] at hy

theorem forall_part?_not : (∀ p y, part? (.not x) p = some y → P y) ↔
    P (.not x) ∧ ∀ p y, x.part? p = some y → P y := by
  refine ⟨fun h => ⟨h [] _ rfl, fun p y hy => h (.child :: p) y hy⟩, fun ⟨hroot, h⟩ p y hy => ?_⟩
  cases p with
  | nil => exact Option.some.inj hy ▸ hroot
  | cons t p =>
    cases t with
    | child => exact h p y hy
    | _ => cases hy

theorem forall_part?_group : (∀ p y, part? (.group c xs) p = some y → P y) ↔
    P (.group c xs) ∧ ∀ x ∈ xs, ∀ p y, x.part? p = some y → P y := by
  refine ⟨fun h => ⟨h [] _ rfl, fun x hx p y hy => ?_⟩, fun ⟨hroot, h⟩ p y hy => ?_⟩
  · obtain ⟨i, hi⟩ := List.mem_iff_getElem?.1 hx
    exact h (.children i :: p) y (by rw [part?, hi]; exact hy)
  · cases p with
    | nil => exact Option.some.inj hy ▸ hroot
    | cons t p =>
      cases t with
      | children i =>
        rw [part?] at hy
        cases hi : xs[i]? with
        | none => simp [hi] at hy
        | some x =>
          simp only [hi] at hy
          exact h x (List.mem_of_getElem? hi) p y hy
      | _ => cases hy

end

/-! ### Reduced and normal expressions -/

/-- Members of normal groups are no truth values. -/
theorem IsMember.ne_const (h : IsMember c x) (b : Bool) : x ≠ .const b := by
  rintro rfl
  exact h

/-- Members that are irreducible may stand in a group which takes in none of them. -/
theorem isMember_of_isIrreducible (hx : x.IsIrreducible) (hne : ∀ ys, x ≠ .group c ys) :
    IsMember c x := by
  cases x with
  | const b => exact hx
  | group d ys => exact fun hd => hne ys (hd ▸ rfl)
  | _ => trivial

/-- Nothing can be simplified at any place of a normal expression. -/
theorem IsNormal.isReduced (h : IsNormal n) : n.IsReduced := by
  induction h with
  | const b => exact .inl ⟨b, rfl⟩
  | atom a => exact .inr (forall_part?_atom.2 trivial)
  | @group c xs hlen hmem hxs ih =>
    refine .inr (forall_part?_group.2 ⟨⟨hlen, fun ys hys => hmem _ hys rfl⟩, fun x hx => ?_⟩)
    exact (ih x hx).resolve_left fun ⟨b, hb⟩ => (hmem x hx).ne_const b hb
  | @notGroup c xs hg ih =>
    exact .inr (forall_part?_not.2 ⟨⟨c, xs, rfl⟩, ih.resolve_left nofun⟩)

mutual

-- The parts of a member are parts of the group, so that the hypothesis passes down to the leaves.

/-- An expression of which no part can be simplified is normal. -/
theorem isNormal_of_forall_part? : (e : Expr) →
    (∀ p x, e.part? p = some x → x.IsIrreducible) → IsNormal e
  | .const b, _ => .const b
  | .atom a, _ => .atom a
  | .not x, h => by
    obtain ⟨⟨c, xs, rfl⟩, hx⟩ := forall_part?_not.1 h
    exact .notGroup (isNormal_of_forall_part? _ hx)
  | .group c xs, h => by
    obtain ⟨⟨hlen, hne⟩, hxs⟩ := forall_part?_group.1 h
    refine .group hlen (fun x hx => ?_) (forall_isNormal_of_forall_part? xs hxs)
    exact isMember_of_isIrreducible (hxs x hx [] x (by rw [part?])) fun ys hys => hne ys (hys ▸ hx)

theorem forall_isNormal_of_forall_part? : (xs : List Expr) →
    (∀ x ∈ xs, ∀ p y, x.part? p = some y → y.IsIrreducible) → ∀ x ∈ xs, IsNormal x
  | [], _ => List.forall_mem_nil _
  | x :: xs, h => by
    rw [List.forall_mem_cons] at h ⊢
    exact ⟨isNormal_of_forall_part? x h.1, forall_isNormal_of_forall_part? xs h.2⟩

end

/-- Reduced and normal expressions are the same. -/
theorem isReduced_iff_isNormal : e.IsReduced ↔ IsNormal e := by
  refine ⟨fun h => ?_, IsNormal.isReduced⟩
  rcases h with ⟨b, rfl⟩ | h
  · exact .const b
  · exact isNormal_of_forall_part? e h

/-- A normal expression without atoms is a truth value. -/
theorem IsNormal.exists_mem_atoms (h : IsNormal n) : (∃ b, n = .const b) ∨ ∃ a, a ∈ n.atoms := by
  induction h with
  | const b => exact .inl ⟨b, rfl⟩
  | atom a => exact .inr ⟨a, List.mem_singleton_self a⟩
  | @group c xs hlen hmem hxs ih =>
    obtain ⟨x, hx⟩ := List.exists_mem_of_length_pos (Nat.lt_of_lt_of_le Nat.zero_lt_two hlen)
    obtain ⟨a, ha⟩ := (ih x hx).resolve_left fun ⟨b, hb⟩ => (hmem x hx).ne_const b hb
    exact .inr ⟨a, mem_atomsOfList hx ha⟩
  | notGroup hg ih => exact .inr (ih.resolve_left nofun)

/-! ### Normalizing again -/

/-- Members that are their own normal forms are added to a group as they are. -/
theorem members_eq_ok {strict : Bool} (i : Nat) (hmem : ∀ x ∈ xs, IsMember c x)
    (hxs : ∀ x ∈ xs, normalize strict x = .ok x) : members strict c i xs = .ok (some xs) := by
  induction xs generalizing i with
  | nil => rw [members]
  | cons x xs ih =>
    rw [List.forall_mem_cons] at hmem hxs
    simp only [members, hxs.1, splice?_of_isMember hmem.1, ih (i + 1) hmem.2 hxs.2]
    rfl

/-- A normal expression is its own normal form in both modes. -/
theorem IsNormal.normalize_eq (strict : Bool) (h : IsNormal n) : normalize strict n = .ok n := by
  induction h with
  | const b => exact normalize_const strict b
  | atom a => exact normalize_atom strict a
  | @group c xs hlen hmem hxs ih =>
    have hwide : ¬(strict && xs.length < 2) = true := by simp [Nat.not_lt.2 hlen]
    have hcollapse : collapse c (some xs) = .group c xs := by
      match xs, hlen with
      | _ :: _ :: _, _ => rfl
    rw [normalize, if_neg hwide, members_eq_ok 0 hmem ih, ← hcollapse]
    rfl
  | notGroup hg ih =>
    rw [normalize, ih]
    rfl

/-- What normalization leaves is normal. -/
theorem isNormal_of_normalize {strict : Bool} (h : normalize strict e = .ok n) : IsNormal n :=
  eq_normalForm_of_normalize e h ▸ isNormal_normalForm e

/-- The results of normalization are the reduced expressions, in both modes.  A reduced expression
is its own normal form in both modes and has an atom unless it is a truth value, so normalizing a
result again changes nothing; and a strict result is the lenient one. -/
theorem exists_normalize_eq_ok_iff (n : Expr) (strict : Bool) :
    ((∃ e, normalize strict e = .ok n) ↔ n.IsReduced) ∧
      (n.IsReduced ↔ normalize strict n = .ok n) ∧
      (n.IsReduced → (∃ b, n = .const b) ∨ ∃ a, a ∈ n.atoms) ∧
      ∀ e, normalize true e = .ok n → normalize false e = .ok n := by
  have hfixed : n.IsReduced ↔ normalize strict n = .ok n :=
    ⟨fun h => (isReduced_iff_isNormal.1 h).normalize_eq strict,
      fun h => (isNormal_of_normalize h).isReduced⟩
  refine ⟨⟨fun ⟨e, he⟩ => (isNormal_of_normalize he).isReduced, fun h => ⟨n, hfixed.1 h⟩⟩, hfixed,
    fun h => (isReduced_iff_isNormal.1 h).exists_mem_atoms,
    fun e => normalize_false_of_normalize_true⟩

end BiblioQuery.Expr
