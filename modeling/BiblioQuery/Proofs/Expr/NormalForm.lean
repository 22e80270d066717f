import BiblioQuery.Expr.Normalize
import BiblioQuery.Proofs.Collection.Results

/-!
# The shape of normal forms

Without strictness every expression has a normal form, and strictness only refuses some of them.
This file gives the lenient normal form as a function of its own, says which expressions are normal,
and collects what the operations of simplification do to normal expressions.

## Main definitions

* `Expr.spliceAll` : what the simplified members of a group add together.
* `Expr.normalForm` : the lenient normal form.
* `Expr.IsMember`, `Expr.IsNormal` : members of normal groups, and normal expressions.

## Main results

* `Expr.normalize_false` : the lenient normal form is what normalization computes.
* `Expr.eq_normalForm_of_normalize` : no mode computes anything else.
* `Expr.normalize_false_of_normalize_true` : what strict mode computes lenient mode computes too.
* `Expr.isNormal_normalForm` : normal forms are normal.
* `Expr.negate_negate_of_isNormal`, `Expr.collapse_splice?_of_isNormal` : simplifying a normal
  expression again changes nothing.
-/

namespace BiblioQuery.Expr

/-! ### Lenient normal forms -/

/-- What the simplified members of a group add together; `none` if one of them decides it. -/
def spliceAll (c : Connective) : List Expr → Option (List Expr)
  | [] => some []
  | y :: ys =>
    match splice? c y with
    | none => none
    | some zs => (spliceAll c ys).map (zs ++ ·)

mutual

/-- The normal form that ambiguous groups do not prevent. -/
def normalForm : Expr → Expr
  | .const b => .const b
  | .atom a => .atom a
  | .not x => negate (normalForm x)
  | .group c xs => collapse c (spliceAll c (normalForms xs))

/-- The normal forms of a list. -/
def normalForms : List Expr → List Expr
  | [] => []
  | x :: xs => normalForm x :: normalForms xs

end

theorem normalForms_eq_map (xs : List Expr) : normalForms xs = xs.map normalForm := by
  induction xs with
  | nil => rfl
  | cons x xs ih => rw [normalForms, ih, List.map_cons]

/-- The normal form of a group depends on the normal forms of its members only. -/
theorem normalForm_group (c : Connective) (xs : List Expr) :
    normalForm (.group c xs) = collapse c (spliceAll c (xs.map normalForm)) := by
  rw [normalForm, normalForms_eq_map]

mutual

/-- Without strictness the normal form is what normalization computes. -/
theorem normalize_false : (e : Expr) → normalize false e = .ok (normalForm e)
  | .const b => by rw [normalize_const, normalForm]
  | .atom a => by rw [normalize_atom, normalForm]
  | .not x => by rw [normalize, normalize_false x, normalForm]; rfl
  | .group c xs => by
    rw [normalize, members_false c 0 xs, normalForm]
    rfl

theorem members_false (c : Connective) :
    (i : Nat) → (xs : List Expr) → members false c i xs = .ok (spliceAll c (normalForms xs))
  | _, [] => by rw [members, normalForms, spliceAll]
  | i, x :: xs => by
    rw [members, normalize_false x, normalForms, spliceAll]
    cases hs : splice? c (normalForm x) with
    | none => simp only [hs]
    | some ys =>
      simp only [hs, members_false c (i + 1) xs]
      rfl

end

mutual

/-- Strictness refuses expressions, and gives the others no other normal form. -/
theorem eq_normalForm_of_normalize {strict : Bool} :
    (e : Expr) → {n : Expr} → normalize strict e = .ok n → n = normalForm e
  | .const b, n, h => by
    rw [normalize_const] at h
    rw [normalForm, Except.ok.inj h]
  | .atom a, n, h => by
    rw [normalize_atom] at h
    rw [normalForm, Except.ok.inj h]
  | .not x, n, h => by
    rw [normalize] at h
    obtain ⟨y, hy, rfl⟩ := ok_of_map_eq_ok h
    rw [normalForm, eq_normalForm_of_normalize x (ok_of_mapError_eq_ok hy)]
  | .group c xs, n, h => by
    rw [normalize] at h
    split at h
    · cases h
    · obtain ⟨o, ho, rfl⟩ := ok_of_map_eq_ok h
      rw [normalForm, eq_spliceAll_of_members c 0 xs ho]

theorem eq_spliceAll_of_members {strict : Bool} (c : Connective) :
    (i : Nat) → (xs : List Expr) → {o : Option (List Expr)} →
      members strict c i xs = .ok o → o = spliceAll c (normalForms xs)
  | _, [], o, h => by
    rw [members] at h
    rw [normalForms, spliceAll, Except.ok.inj h]
  | i, x :: xs, o, h => by
    rw [members] at h
    cases hx : normalize strict x with
    | error m => simp [hx] at h
    | ok y =>
      rw [normalForms, spliceAll, ← eq_normalForm_of_normalize x hx]
      simp only [hx] at h
      cases hs : splice? c y with
      | none =>
        simp only [hs] at h
        exact (Except.ok.inj h).symm
      | some ys =>
        simp only [hs] at h
        obtain ⟨p, hp, rfl⟩ := ok_of_map_eq_ok h
        rw [eq_spliceAll_of_members c (i + 1) xs hp]

end

/-- What has a normal form in strict mode has the same one in lenient mode. -/
theorem normalize_false_of_normalize_true {e n : Expr} (h : normalize true e = .ok n) :
    normalize false e = .ok n := by
  rw [normalize_false, eq_normalForm_of_normalize e h]

/-! ### Normal expressions -/

/-- The expression may be a member of a normal group: it is neither a truth value nor a group with
the same connective. -/
def IsMember (c : Connective) : Expr → Prop
  | .const _ => False
  | .group d _ => d ≠ c
  | _ => True

/-- The expression is a truth value, or it has no truth value inside, no group inside that could be
shortened, and no negation but of groups. -/
inductive IsNormal : Expr → Prop
  /-- A truth value. -/
  | const (b : Bool) : IsNormal (.const b)
  /-- A statement. -/
  | atom (a : Atom) : IsNormal (.atom a)
  /-- A group of two or more normal members. -/
  | group {c : Connective} {xs : List Expr} (hlen : 2 ≤ xs.length)
      (hmem : ∀ x ∈ xs, IsMember c x) (hxs : ∀ x ∈ xs, IsNormal x) : IsNormal (.group c xs)
  /-- A denied group. -/
  | notGroup {c : Connective} {xs : List Expr} (h : IsNormal (.group c xs)) :
    IsNormal (.not (.group c xs))

/-- The opposite of a normal expression is normal. -/
theorem IsNormal.negate {n : Expr} (h : IsNormal n) : IsNormal n.negate := by
  cases h with
  | const b => exact .const _
  | atom a => exact .atom _
  | group hlen hmem hxs => exact .notGroup (.group hlen hmem hxs)
  | notGroup h => exact h

/-- Two negations of a normal expression cancel. -/
theorem negate_negate_of_isNormal {n : Expr} (h : IsNormal n) : n.negate.negate = n := by
  cases h with
  | const b => simp [negate]
  | atom a => simp [negate]
  | group hlen hmem hxs => rfl
  | notGroup h => rfl

/-- A member of a group is added as it is. -/
theorem splice?_of_isMember {c : Connective} {x : Expr} (h : IsMember c x) :
    splice? c x = some [x] := by
  cases x with
  | const b => exact h.elim
  | atom a => rfl
  | group d xs => exact if_neg h
  | not x => rfl

/-- What a normal expression adds to a group are normal members. -/
theorem isMember_of_splice? {c : Connective} {n : Expr} {ys : List Expr} (hn : IsNormal n)
    (h : splice? c n = some ys) : ∀ y ∈ ys, IsMember c y ∧ IsNormal y := by
  cases hn with
  | const b =>
    simp only [splice?] at h
    split at h
    · simp [← Option.some.inj h]
    · cases h
  | atom a =>
    rw [← Option.some.inj h, List.forall_mem_singleton]
    exact ⟨trivial, .atom a⟩
  | @group d xs hlen hmem hxs =>
    simp only [splice?] at h
    split at h
    · rename_i hd
      subst hd
      rw [← Option.some.inj h]
      exact fun y hy => ⟨hmem y hy, hxs y hy⟩
    · rename_i hd
      rw [← Option.some.inj h, List.forall_mem_singleton]
      exact ⟨hd, .group hlen hmem hxs⟩
  | notGroup hg =>
    rw [← Option.some.inj h, List.forall_mem_singleton]
    exact ⟨trivial, .notGroup hg⟩

theorem isMember_of_spliceAll {c : Connective} {ns ys : List Expr} (hn : ∀ n ∈ ns, IsNormal n)
    (h : spliceAll c ns = some ys) : ∀ y ∈ ys, IsMember c y ∧ IsNormal y := by
  induction ns generalizing ys with
  | nil => simp [← Option.some.inj h]
  | cons n ns ih =>
    rw [List.forall_mem_cons] at hn
    rw [spliceAll] at h
    cases hs : splice? c n with
    | none => simp [hs] at h
    | some zs =>
      simp only [hs] at h
      obtain ⟨r, hr, rfl⟩ := Option.map_eq_some_iff.1 h
      intro y hy
      rcases List.mem_append.1 hy with hy | hy
      · exact isMember_of_splice? hn.1 hs y hy
      · exact ih hn.2 hr y hy

/-- Normal members are joined to a normal expression. -/
theorem isNormal_collapse {c : Connective} {o : Option (List Expr)}
    (h : ∀ ys, o = some ys → ∀ y ∈ ys, IsMember c y ∧ IsNormal y) : IsNormal (collapse c o) := by
  match o with
  | none => exact .const _
  | some [] => exact .const _
  | some [y] => exact (h [y] rfl y List.mem_cons_self).2
  | some (y :: z :: ys) =>
    have hmem := h (y :: z :: ys) rfl
    exact .group (by simp) (fun x hx => (hmem x hx).1) (fun x hx => (hmem x hx).2)

mutual

/-- Normal forms are normal. -/
theorem isNormal_normalForm : (e : Expr) → IsNormal (normalForm e)
  | .const b => by rw [normalForm]; exact .const b
  | .atom a => by rw [normalForm]; exact .atom a
  | .not x => by rw [normalForm]; exact (isNormal_normalForm x).negate
  | .group c xs => by
    rw [normalForm]
    exact isNormal_collapse fun ys hys =>
      isMember_of_spliceAll (forall_isNormal_normalForms xs) hys

theorem forall_isNormal_normalForms : (xs : List Expr) → ∀ n ∈ normalForms xs, IsNormal n
  | [] => by simp [normalForms]
  | x :: xs => by
    rw [normalForms, List.forall_mem_cons]
    exact ⟨isNormal_normalForm x, forall_isNormal_normalForms xs⟩

end

/-! ### Simplifying again -/

/-- A group of one normal expression is simplified to that expression. -/
theorem collapse_splice?_of_isNormal {c : Connective} {n : Expr} (h : IsNormal n) :
    collapse c (splice? c n) = n := by
  cases h with
  | const b => cases c <;> cases b <;> rfl
  | atom a => rfl
  | @group d xs hlen hmem hxs =>
    simp only [splice?]
    split
    · rename_i hd
      subst hd
      match xs, hlen with
      | _ :: _ :: _, _ => rfl
    · rfl
  | notGroup h => rfl

/-- Joined members add to a group with the same connective what they are. -/
theorem splice?_collapse {c : Connective} {o : Option (List Expr)}
    (h : ∀ ys, o = some ys → ∀ y ∈ ys, IsMember c y) : splice? c (collapse c o) = o := by
  match o with
  | none => cases c <;> rfl
  | some [] => cases c <;> rfl
  | some [y] => exact splice?_of_isMember (h [y] rfl y List.mem_cons_self)
  | some (y :: z :: ys) => exact if_pos rfl

theorem spliceAll_append (c : Connective) (xs ys : List Expr) :
    spliceAll c (xs ++ ys) =
      (spliceAll c xs).bind fun as => (spliceAll c ys).map (as ++ ·) := by
  induction xs with
  | nil => simp [spliceAll]
  | cons x xs ih =>
    rw [List.cons_append, spliceAll, spliceAll, ih]
    cases splice? c x with
    | none => rfl
    | some zs =>
      cases spliceAll c xs with
      | none => rfl
      | some as => cases spliceAll c ys <;> simp

end BiblioQuery.Expr
