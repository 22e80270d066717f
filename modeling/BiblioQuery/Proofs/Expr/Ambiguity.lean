import BiblioQuery.Proofs.Expr.NormalForm

/-!
# Ambiguous groups

Strict normalization refuses groups with fewer than two members.  It works through a group member by
member and leaves the group as soon as a member decides it, so that members after a decisive one are
passed over, and ambiguous groups inside them go unnoticed.  The fault of a strict normalization is
therefore the first ambiguous group, in the order in which a text names them, that is not passed
over; it need not be the first one of all, and there may be none although there are ambiguous
groups.

## Main definitions

* `Expr.part?` : the part of an expression at a place.
* `Expr.ambiguities` : the ambiguous groups of an expression, outer ones first, then from left to
  right.
* `Expr.isPassedOver` : a place lies in a member after one that decides its group.

## Main results

* `Expr.mem_ambiguities_iff` : the ambiguous groups are the groups with fewer than two members.
* `Expr.normalize_true` : strict normalization by the first ambiguous group that is not passed over.
* `Expr.normalize_true_eq_error_iff` : what is refused, and when the fault is the first ambiguous
  group of all.
* `Expr.normalize_true_of_decisive_first` : an ambiguous group that is accepted behind a decisive
  member and refused before it.
-/

namespace BiblioQuery.Expr

/-! ### Places of ambiguous groups -/

/-- The part of an expression at a place, if the place is one of it. -/
def part? : Expr → List Step → Option Expr
  | e, [] => some e
  | .not x, .child :: p => part? x p
  | .group _ xs, .children i :: p =>
    match xs[i]? with
    | some x => part? x p
    | none => none
  | _, _ :: _ => none

mutual

/-- The groups of an expression with fewer than two members, each as the fault that it is where it
stands.  A group comes before the groups inside it, and these come in the order of the members. -/
def ambiguities : Expr → List Malformed
  | .const _ => []
  | .atom _ => []
  | .not x => (ambiguities x).map (Malformed.under .child)
  | .group c xs =>
    (if xs.length < 2 then [⟨[], .ambiguousGroup c xs.length⟩] else []) ++ ambiguitiesFrom 0 xs

/-- The ambiguous groups in the members of a group; the first member has the given index. -/
def ambiguitiesFrom (i : Nat) : List Expr → List Malformed
  | [] => []
  | x :: xs => (ambiguities x).map (Malformed.under (.children i)) ++ ambiguitiesFrom (i + 1) xs

end

theorem mem_ambiguitiesFrom {i : Nat} {xs : List Expr} {m : Malformed} :
    m ∈ ambiguitiesFrom i xs ↔
      ∃ j x, xs[j]? = some x ∧ ∃ k ∈ ambiguities x, k.under (.children (i + j)) = m := by
  induction xs generalizing i with
  | nil => simp [ambiguitiesFrom]
  | cons x xs ih =>
    rw [ambiguitiesFrom, List.mem_append, List.mem_map, ih]
    constructor
    · rintro (hfirst | ⟨j, y, hy, k, hk, rfl⟩)
      · exact ⟨0, x, rfl, hfirst⟩
      · exact ⟨j + 1, y, hy, k, hk, by rw [Nat.add_right_comm, Nat.add_assoc]⟩
    · rintro ⟨_ | j, y, hy, k, hk, rfl⟩
      · obtain rfl := Option.some.inj hy
        exact .inl ⟨k, hk, rfl⟩
      · exact .inr ⟨j, y, hy, k, hk, by rw [Nat.add_right_comm, Nat.add_assoc]⟩

theorem under_eq_iff {k : Malformed} {t u : Step} {p : List Step} {f : Fault} :
    k.under t = ⟨u :: p, f⟩ ↔ t = u ∧ k = ⟨p, f⟩ := by
  cases k
  simp [Malformed.under, and_assoc]

/-- The ambiguous groups are the groups with fewer than two members, wherever they stand. -/
theorem mem_ambiguities_iff {e : Expr} {m : Malformed} :
    m ∈ e.ambiguities ↔ ∃ c xs, e.part? m.path = some (.group c xs) ∧ xs.length < 2 ∧
      m.fault = .ambiguousGroup c xs.length := by
  obtain ⟨p, f⟩ := m
  induction p generalizing e with
  | nil =>
    cases e with
    | const b => simp [ambiguities, part?]
    | atom a => simp [ambiguities, part?]
    | not x => simp [ambiguities, part?, Malformed.under]
    | group c xs =>
      have hinside : ⟨[], f⟩ ∉ ambiguitiesFrom 0 xs := by
        rw [mem_ambiguitiesFrom]
        rintro ⟨j, x, -, k, -, hk⟩
        cases hk
      have hhere : ⟨[], f⟩ ∈ ambiguities (.group c xs) ↔
          xs.length < 2 ∧ f = .ambiguousGroup c xs.length := by
        rw [ambiguities, List.mem_append, or_iff_left hinside]
        split <;> simp [*]
      rw [hhere]
      constructor
      · rintro ⟨hlen, hf⟩
        exact ⟨c, xs, rfl, hlen, hf⟩
      · rintro ⟨d, ys, hpart, hlen, hf⟩
        cases Option.some.inj hpart
        exact ⟨hlen, hf⟩
  | cons s p ih =>
    cases e with
    | const b => simp [ambiguities, part?]
    | atom a => simp [ambiguities, part?]
    | not x =>
      simp only [ambiguities, List.mem_map, under_eq_iff]
      constructor
      · rintro ⟨k, hk, rfl, rfl⟩
        exact ih.1 hk
      · intro h
        cases s with
        | child => exact ⟨⟨p, f⟩, ih.2 h, rfl, rfl⟩
        | _ => simp [part?] at h
    | group c xs =>
      have hhere : ⟨s :: p, f⟩ ∈ ambiguities (.group c xs) ↔
          ⟨s :: p, f⟩ ∈ ambiguitiesFrom 0 xs := by
        rw [ambiguities]
        split <;> simp
      simp only [hhere, mem_ambiguitiesFrom, under_eq_iff, Nat.zero_add]
      constructor
      · rintro ⟨j, x, hx, k, hk, rfl, rfl⟩
        simpa [part?, hx] using ih.1 hk
      · intro h
        cases s with
        | children j =>
          cases hx : xs[j]? with
          | none => simp [part?, hx] at h
          | some x =>
            simp only [part?, hx] at h
            exact ⟨j, x, hx, ⟨p, f⟩, ih.2 h, rfl, rfl⟩
        | _ => simp [part?] at h

/-! ### Members that are passed over -/

/-- The member decides a group with the connective. -/
def decides (c : Connective) (x : Expr) : Bool := decide (normalForm x = .const !c.identity)

/-- The place lies in a member of a group after a member that decides the group. -/
def isPassedOver : Expr → List Step → Bool
  | .not x, .child :: p => isPassedOver x p
  | .group c xs, .children i :: p =>
    (xs.take i).any (decides c) ||
      match xs[i]? with
      | some x => isPassedOver x p
      | none => false
  | _, _ => false

/-- The first ambiguous group that is noticed, which is one that is not passed over. -/
def firstNoticed? (e : Expr) : Option Malformed :=
  e.ambiguities.find? fun m => !e.isPassedOver m.path

theorem decides_iff {c : Connective} {x : Expr} :
    decides c x = true ↔ splice? c (normalForm x) = none := by
  rw [decides, decide_eq_true_iff]
  generalize normalForm x = n
  cases n with
  | const b => cases c <;> cases b <;> simp [splice?, Connective.identity]
  | atom a => simp [splice?]
  | group d xs =>
    simp only [splice?]
    split <;> simp
  | not x => simp [splice?]

/-- A place in a member is passed over as in the member itself, if no member before it decides the
group. -/
theorem isPassedOver_group {c : Connective} {before after : List Expr} {x : Expr}
    (h : ∀ y ∈ before, decides c y = false) (p : List Step) :
    isPassedOver (.group c (before ++ x :: after)) (.children before.length :: p) =
      isPassedOver x p := by
  have hbefore : before.any (decides c) = false := List.any_eq_false.2 (by simpa using h)
  simp [isPassedOver, hbefore]

/-- A place after a decisive member is passed over. -/
theorem isPassedOver_of_decides {c : Connective} {before after : List Expr} {x : Expr}
    {m : Malformed} (h : decides c x = true) (hm : m ∈ ambiguitiesFrom (before.length + 1) after) :
    isPassedOver (.group c (before ++ x :: after)) m.path = true := by
  obtain ⟨j, y, -, k, -, rfl⟩ := mem_ambiguitiesFrom.1 hm
  have hx : x ∈ (before ++ x :: after).take (before.length + 1 + j) := by
    rw [Nat.add_assoc, Nat.add_comm 1 j, List.take_length_add_append, List.take_succ_cons]
    simp
  have hdecided : ((before ++ x :: after).take (before.length + 1 + j)).any (decides c) = true :=
    List.any_eq_true.2 ⟨x, hx, h⟩
  simp [Malformed.under, isPassedOver, hdecided]

/-! ### Strict normalization -/

/-- A value, unless there is a fault. -/
def valueUnless {α : Type} (fault : Option Malformed) (a : α) : Except Malformed α :=
  fault.elim (.ok a) .error

mutual

/-- Strict normalization finds the first ambiguous group that is not passed over, and else the
normal form. -/
theorem normalize_true : (e : Expr) → normalize true e = valueUnless e.firstNoticed? (normalForm e)
  | .const b => normalize_const true b
  | .atom a => normalize_atom true a
  | .not x => by
    have hfirst : firstNoticed? (.not x) = x.firstNoticed?.map (Malformed.under .child) := by
      rw [firstNoticed?, ambiguities, List.find?_map]
      rfl
    rw [normalize, normalize_true x, hfirst, normalForm]
    cases x.firstNoticed? <;> rfl
  | .group c xs => by
    rw [normalize, firstNoticed?, ambiguities]
    by_cases hlen : xs.length < 2
    · simp [hlen, isPassedOver, valueUnless]
    · have hmembers := members_true c [] xs nofun
      rw [List.length_nil, List.nil_append] at hmembers
      rw [if_neg (by simp [hlen]), if_neg hlen, List.nil_append, hmembers, normalForm]
      cases (ambiguitiesFrom 0 xs).find? fun m => !isPassedOver (.group c xs) m.path <;> rfl

-- The group is kept whole, with the members that were added before, for it is in the whole group
-- that places are passed over.

theorem members_true (c : Connective) : (before xs : List Expr) →
    (∀ y ∈ before, decides c y = false) →
      members true c before.length xs =
        valueUnless ((ambiguitiesFrom before.length xs).find? fun m =>
          !isPassedOver (.group c (before ++ xs)) m.path) (spliceAll c (normalForms xs))
  | before, [], _ => by rw [members]; rfl
  | before, x :: xs, h => by
    have hfirst : ((ambiguities x).map (Malformed.under (.children before.length))).find?
        (fun m => !isPassedOver (.group c (before ++ x :: xs)) m.path) =
          x.firstNoticed?.map (Malformed.under (.children before.length)) := by
      rw [List.find?_map, firstNoticed?]
      simp only [Function.comp_def, Malformed.path_under, isPassedOver_group h]
    rw [members, normalize_true x, ambiguitiesFrom, List.find?_append, hfirst]
    cases hx : x.firstNoticed? with
    | some m => rfl
    | none =>
      simp only [valueUnless, Option.elim_none, Option.map_none, Option.none_or]
      rw [normalForms, spliceAll]
      cases hs : splice? c (normalForm x) with
      | none =>
        have hrest : (ambiguitiesFrom (before.length + 1) xs).find?
            (fun m => !isPassedOver (.group c (before ++ x :: xs)) m.path) = none := by
          rw [List.find?_eq_none]
          intro m hm
          simp [isPassedOver_of_decides (decides_iff.2 hs) hm]
        rw [hrest]
        rfl
      | some ys =>
        have hx : decides c x = false := Bool.eq_false_iff.2 fun hx => by
          simp [decides_iff, hs] at hx
        have hmembers := members_true c (before ++ [x]) xs fun y hy =>
          (List.mem_append.1 hy).elim (h y) fun hy => List.mem_singleton.1 hy ▸ hx
        rw [List.length_append, List.length_singleton, List.append_assoc,
          List.singleton_append] at hmembers
        simp only [hmembers]
        cases (ambiguitiesFrom (before.length + 1) xs).find? fun m =>
          !isPassedOver (.group c (before ++ x :: xs)) m.path <;> rfl

end

/-- Strict normalization refuses an expression exactly for its first ambiguous group that is not
passed over, and where all of them are it computes the lenient normal form.  The fault is the first
ambiguous group of all, and there is one for every expression with ambiguous groups, exactly where
that first group is not passed over. -/
theorem normalize_true_eq_error_iff (e : Expr) :
    (∀ m, normalize true e = .error m ↔
      (e.ambiguities.find? fun k => !e.isPassedOver k.path) = some m) ∧
    ((∀ m ∈ e.ambiguities, e.isPassedOver m.path = true) → normalize true e = .ok (normalForm e)) ∧
    ((∀ m, normalize true e = .error m ↔ e.ambiguities.head? = some m) ↔
      ∀ m, e.ambiguities.head? = some m → e.isPassedOver m.path = false) := by
  have herror : ∀ m, normalize true e = .error m ↔ e.firstNoticed? = some m := by
    intro m
    rw [normalize_true]
    cases e.firstNoticed? <;> simp [valueUnless]
  refine ⟨herror, fun hall => ?_, fun hrefusesFirst m hm => ?_, fun hfirst m => ?_⟩
  · have hnone : e.firstNoticed? = none := List.find?_eq_none.2 (by simpa using hall)
    rw [normalize_true, hnone]
    rfl
  · simpa using List.find?_some ((herror m).1 ((hrefusesFirst m).2 hm))
  · rw [herror, firstNoticed?]
    cases hall : e.ambiguities with
    | nil => simp
    | cons k rest =>
      rw [List.find?_cons_of_pos (by simp [hfirst k (by simp [hall])]), List.head?_cons]

/-- A conjunction that is accepted, with an empty disjunction after the member that decides it.  The
same members in the other order are refused. -/
theorem normalize_true_of_decisive_first :
    (Expr.and [.const false, .or []]).ambiguities = [⟨[.children 1], .ambiguousGroup .any 0⟩] ∧
    normalize true (.and [.const false, .or []]) = .ok (.const false) ∧
    normalize true (.and [.or [], .const false]) =
      .error ⟨[.children 0], .ambiguousGroup .any 0⟩ ∧
    ¬∀ e m, normalize true e = .error m ↔ e.ambiguities.head? = some m := by
  have hambiguities : (Expr.and [.const false, .or []]).ambiguities =
      [⟨[.children 1], .ambiguousGroup .any 0⟩] := rfl
  have haccepted : normalize true (.and [.const false, .or []]) = .ok (.const false) := rfl
  refine ⟨hambiguities, haccepted, rfl, fun hrefusesFirst => ?_⟩
  have hrefused := (hrefusesFirst _ _).2 (congrArg List.head? hambiguities)
  rw [haccepted] at hrefused
  cases hrefused

end BiblioQuery.Expr
