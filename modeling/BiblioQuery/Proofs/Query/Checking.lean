import BiblioQuery.Proofs.Query.Passing
import BiblioQuery.Proofs.Query.Stages
import Mathlib.Data.List.Flatten
import Mathlib.Tactic.MkIffOfInductiveProp

/-!
# What the check enforces

The check lists violations.  Read the other way round, a declaration says what it takes, and an
expression passes the check exactly if, for every place where an atom stands in it, the declaration
that governs the field takes the atom as it counts there.  This is stated without violations: what a
capability takes is a list of conditions on the value alone.

As the check looks at what an expression states in the whole, and normalization states nothing new,
what is found in a normal form is found in the expression too, in the same order.

## Main definitions

* `TermCapability.Takes`, `MemberCapability.Takes`, `RangeCapability.Takes`,
  `TokenCapability.Takes` : the values that a capability takes.
* `Declaration.Takes`, `Snapshot.Takes` : the atoms that a declaration and a snapshot take, denied
  or not.
* `Atom.OccursIn` : an atom stands in an expression below a number of negations.

## Main results

* `Declaration.tolerable_violations_iff` : a declaration finds no error in what it takes, and only
  there.
* `Expr.below_mem_statements`, `Expr.exists_occursIn_of_mem_statements` : the statements of an
  expression are its atoms, turned round below an odd number of negations.
* `Expr.check_passes_iff` : what passes the check.
* `Expr.exists_takesValue_of_check` : what the declarations say of values that pass.
* `Expr.check_sublist_of_normalize` : the check of a normal form.
-/

namespace BiblioQuery

/-! ### Values that are taken -/

/-- The capability takes the text. -/
@[mk_iff]
structure TermCapability.Takes (c : TermCapability) (t : TermValue) : Prop where
  /-- The way of comparing is understood. -/
  compared : SortedSet.has c.matchTypes t.matchType = true
  /-- Case counts only where it may. -/
  caseMode : t.isCaseSensitive = true → c.caseSensitiveAllowed = true
  /-- The text is blank only where it may be. -/
  blank : t.isBlank = true → c.allowBlank = true
  /-- A text that is not blank has a length within the limits and matches the pattern. -/
  visible : t.isBlank = false →
    (∀ n, c.minLength = some n → n.toNat ≤ t.text.length) ∧
    (∀ n, c.maxLength = some n → t.text.length ≤ n.toNat) ∧
    ∀ p, c.pattern = some p → p.accepts t.text = true

/-- The capability takes the alternatives. -/
@[mk_iff]
structure MemberCapability.Takes (c : MemberCapability) (v : MemberValue) : Prop where
  /-- There are alternatives. -/
  nonempty : v.values ≠ []
  /-- There are not too many different ones. -/
  size : ∀ n, c.maxSize = some n → v.distinct.length ≤ n.toNat
  /-- Case counts only where it may. -/
  caseMode : v.caseSensitive = true → c.caseSensitiveAllowed = true

/-- The bound lies within the limits. -/
@[mk_iff]
structure RangeCapability.Encloses (c : RangeCapability) (b : Bound) : Prop where
  /-- It is not below the least bound. -/
  least : ∀ limit, c.least.bind (Bound.parse? c.kind) = some limit → b.compare? limit ≠ some .lt
  /-- It is not above the greatest bound. -/
  greatest : ∀ limit, c.greatest.bind (Bound.parse? c.kind) = some limit →
    b.compare? limit ≠ some .gt

/-- The capability takes the range; limits count if they are hard or the check is strict. -/
@[mk_iff]
structure RangeCapability.Takes (c : RangeCapability) (strict : Bool) (r : RangeValue) : Prop where
  /-- The bounds are of the kind that is declared. -/
  kind : c.kind = r.kind
  /-- The lower bound is missing only where it may be. -/
  start : r.lower = none → c.allowOpenStart = true
  /-- The upper bound is missing only where it may be. -/
  stop : r.upper = none → c.allowOpenEnd = true
  /-- The bounds lie within the limits. -/
  limits : ∀ b, r.lower = some b ∨ r.upper = some b →
    c.enforcement = .hard ∨ strict = true → c.Encloses b

/-- The capability takes the identifier. -/
@[mk_iff]
structure TokenCapability.Takes (c : TokenCapability) (t : TokenValue) : Prop where
  /-- The kind is listed, where kinds are listed at all. -/
  kind : c.kinds.toList ≠ [] → SortedSet.has c.kinds t.kind = true
  /-- The identifier matches the pattern. -/
  pattern : ∀ p, c.pattern = some p → p.accepts t.value = true

/-! ### Atoms that are taken -/

/-- The declaration takes the value; where nothing is declared about texts or alternatives the
standard applies, and ranges and identifiers are free, but that no range may be inverted. -/
def Declaration.TakesValue (d : Declaration) (strict : Bool) : AtomValue → Prop
  | .term t => (d.term.getD .standard).Takes t
  | .member v => (d.member.getD .standard).Takes v
  | .range r => r.isInverted = false ∧ ∀ c, d.range = some c → c.Takes strict r
  | .presence _ => d.presenceSupported = true
  | .token t => ∀ c, d.token = some c → c.Takes t

/-- The declaration takes the atom, where `denied` says whether it is denied in the whole. -/
@[mk_iff]
structure Declaration.Takes (d : Declaration) (strict : Bool) (a : Atom) (denied : Bool) :
    Prop where
  /-- The operator is understood. -/
  operator : SortedSet.has d.operators a.operator = true
  /-- It is understood in denials too, if the atom is denied. -/
  denial : denied = true → SortedSet.has d.negatable a.operator = true
  /-- The value is taken. -/
  value : d.TakesValue strict a.value

/-- The field of the atom is declared, and the declaration that governs it takes the atom. -/
def Snapshot.Takes (s : Snapshot) (strict : Bool) (a : Atom) (denied : Bool) : Prop :=
  ∃ d, s.governing? a.field = some d ∧ d.Takes strict a denied

/-! ### Violations that are no errors -/

/-- None of the violations is an error. -/
def Tolerable (strict : Bool) (vs : List Violation) : Prop :=
  ∀ v ∈ vs, v.severity strict = .warning

namespace Tolerable

variable {strict : Bool} {v : Violation} {vs ws : List Violation}

@[simp]
theorem nil : Tolerable strict [] := List.forall_mem_nil _

@[simp]
theorem append_iff : Tolerable strict (vs ++ ws) ↔ Tolerable strict vs ∧ Tolerable strict ws :=
  List.forall_mem_append

@[simp]
theorem singleton_iff : Tolerable strict [v] ↔ v.severity strict = .warning :=
  List.forall_mem_singleton

/-- A violation that is found where a condition holds is an error, or the condition fails. -/
@[simp]
theorem when_iff {b : Bool} :
    Tolerable strict (Violation.when b v) ↔ (b = true → v.severity strict = .warning) := by
  cases b
  · simp [Tolerable, Violation.when]
  · simp [Tolerable, Violation.when]

/-- What is found for an optional limit is tolerable if it is for every limit. -/
@[simp]
theorem flatMap_toList_iff {α : Type} {o : Option α} {f : α → List Violation} :
    Tolerable strict (o.toList.flatMap f) ↔ ∀ x, o = some x → Tolerable strict (f x) := by
  cases o with
  | none => simp [Tolerable]
  | some x => simp

/-- What is found for two optional bounds is tolerable if it is for each bound. -/
@[simp]
theorem flatMap_bounds_iff {lower upper : Option Bound} {f : Bound → List Violation} :
    Tolerable strict ((lower.toList ++ upper.toList).flatMap f) ↔
      ∀ b, lower = some b ∨ upper = some b → Tolerable strict (f b) := by
  rw [List.flatMap_append, append_iff, flatMap_toList_iff, flatMap_toList_iff, ← forall_and]
  exact forall_congr' fun b => or_imp.symm

end Tolerable

/-! ### A declaration finds errors in what it does not take -/

section

variable {strict : Bool}

theorem TermCapability.tolerable_violations_iff (c : TermCapability) (t : TermValue) :
    Tolerable strict (c.violations t) ↔ c.Takes t := by
  rw [takes_iff, violations]
  cases hblank : t.isBlank <;> simp [Violation.severity]

theorem MemberCapability.tolerable_violations_iff (c : MemberCapability) (v : MemberValue) :
    Tolerable strict (c.violations v) ↔ c.Takes v := by
  rw [takes_iff, violations]
  cases hvalues : v.values with
  | nil => simp [Violation.severity]
  | cons x xs => simp [Violation.severity]

theorem RangeValue.tolerable_inversions_iff (r : RangeValue) :
    Tolerable strict r.inversions ↔ r.isInverted = false := by
  rw [inversions]
  cases hlower : r.lower with
  | none => simp [r.isInverted_eq_false_of_open (.inl hlower)]
  | some x =>
    cases hupper : r.upper with
    | none => simp [r.isInverted_eq_false_of_open (.inr hupper)]
    | some y => simp [Violation.severity]

/-- Beyond a limit a bound is an error if the limit is hard or the check is strict. -/
theorem RangeCapability.tolerable_boundViolations_iff (c : RangeCapability) (b : Bound) :
    Tolerable strict (c.boundViolations b) ↔
      (c.enforcement = .hard ∨ strict = true → c.Encloses b) := by
  rw [encloses_iff, boundViolations]
  cases c.enforcement <;> cases strict <;> simp [Violation.severity, limit?]

theorem RangeCapability.tolerable_violations_iff (c : RangeCapability) (r : RangeValue) :
    Tolerable strict (c.violations r) ↔ r.isInverted = false ∧ c.Takes strict r := by
  rw [takes_iff, violations]
  by_cases hkind : c.kind = r.kind
  · have hstart : Tolerable strict
        (Violation.when (r.lower.isNone && !c.allowOpenStart) .openStart) ↔
          (r.lower = none → c.allowOpenStart = true) := by
      simp [Violation.severity]
    have hstop : Tolerable strict
        (Violation.when (r.upper.isNone && !c.allowOpenEnd) .openEnd) ↔
          (r.upper = none → c.allowOpenEnd = true) := by
      simp [Violation.severity]
    rw [if_pos hkind, Tolerable.append_iff, Tolerable.append_iff, Tolerable.append_iff, hstart,
      hstop, Tolerable.flatMap_bounds_iff, r.tolerable_inversions_iff]
    simp only [c.tolerable_boundViolations_iff]
    constructor
    · rintro ⟨⟨⟨hstart, hstop⟩, hlimits⟩, hroom⟩
      exact ⟨hroom, hkind, hstart, hstop, hlimits⟩
    · rintro ⟨hroom, -, hstart, hstop, hlimits⟩
      exact ⟨⟨⟨hstart, hstop⟩, hlimits⟩, hroom⟩
  · simp [hkind, Violation.severity]

theorem TokenCapability.tolerable_violations_iff (c : TokenCapability) (t : TokenValue) :
    Tolerable strict (c.violations t) ↔ c.Takes t := by
  rw [takes_iff, violations]
  simp [Violation.severity]

theorem Declaration.tolerable_valueViolations_iff (d : Declaration) (v : AtomValue) :
    Tolerable strict (d.valueViolations v) ↔ d.TakesValue strict v := by
  cases v with
  | term t => exact TermCapability.tolerable_violations_iff _ t
  | member v => exact MemberCapability.tolerable_violations_iff _ v
  | range r =>
    rw [valueViolations, TakesValue]
    cases d.range with
    | none => simp [r.tolerable_inversions_iff]
    | some c => simp [c.tolerable_violations_iff]
  | presence expected =>
    rw [valueViolations, TakesValue]
    simp [Violation.severity]
  | token t =>
    rw [valueViolations, TakesValue, Tolerable.flatMap_toList_iff]
    simp only [TokenCapability.tolerable_violations_iff]

/-- A declaration finds no error in an atom that it takes, and some error in every other one. -/
theorem Declaration.tolerable_violations_iff (d : Declaration) (a : Atom) (denied : Bool) :
    Tolerable strict (d.violations a denied) ↔ d.Takes strict a denied := by
  rw [takes_iff, violations]
  cases hoperator : SortedSet.has d.operators a.operator with
  | false => simp [Violation.severity]
  | true => simp [Violation.severity, d.tolerable_valueViolations_iff]

/-- What is not declared is an error. -/
theorem Atom.tolerable_violations_iff (s : Snapshot) (a : Atom) (denied : Bool) :
    Tolerable strict (a.violations s denied) ↔ s.Takes strict a denied := by
  rw [violations, Snapshot.Takes]
  cases s.governing? a.field with
  | none => simp [Violation.severity]
  | some d => simp [d.tolerable_violations_iff]

end

/-! ### Places of atoms -/

/-- The atom stands in an expression below the given number of negations. -/
inductive Atom.OccursIn (a : Atom) : Expr → Nat → Prop
  /-- The expression is the atom. -/
  | here : OccursIn a (.atom a) 0
  /-- The atom stands in a member of a group. -/
  | inGroup {c : Connective} {xs : List Expr} {x : Expr} {n : Nat} (hx : x ∈ xs)
    (h : OccursIn a x n) : OccursIn a (.group c xs) n
  /-- The atom stands below a negation. -/
  | inNot {x : Expr} {n : Nat} (h : OccursIn a x n) : OccursIn a (.not x) (n + 1)

namespace Expr

variable {s : Snapshot} {strict denied : Bool} {e n : Expr} {a b : Atom}

theorem xor_odd_succ (denied : Bool) (n : Nat) :
    (denied ^^ decide ((n + 1) % 2 = 1)) = (!denied ^^ decide (n % 2 = 1)) := by
  rcases Nat.mod_two_eq_zero_or_one n with h | h <;> simp [h, Nat.add_mod]

/-- An atom is stated as it counts where it stands. -/
theorem below_mem_statements {n : Nat} (h : a.OccursIn e n) :
    a.below (denied ^^ decide (n % 2 = 1)) ∈ e.statements denied := by
  induction h generalizing denied with
  | here => simp [statements]
  | inGroup hx _ ih =>
    rw [statements, statementsOfList_eq_flatMap]
    exact List.mem_flatMap.2 ⟨_, hx, ih⟩
  | inNot _ ih =>
    rw [xor_odd_succ, statements]
    exact ih

mutual

/-- What is stated is an atom, turned round if it stands below an odd number of negations. -/
theorem exists_occursIn_of_mem_statements (denied : Bool) : (e : Expr) → b ∈ e.statements denied →
    ∃ (a : Atom) (n : Nat), a.OccursIn e n ∧ b = a.below (denied ^^ decide (n % 2 = 1))
  | .const _, h => nomatch h
  | .atom a, h => by
    obtain rfl := List.mem_singleton.1 h
    exact ⟨a, 0, .here, by simp⟩
  | .group c xs, h => by
    obtain ⟨x, hx, a, n, ha, hb⟩ := exists_occursIn_of_mem_statementsOfList denied xs h
    exact ⟨a, n, .inGroup hx ha, hb⟩
  | .not x, h => by
    obtain ⟨a, n, ha, hb⟩ := exists_occursIn_of_mem_statements (!denied) x h
    exact ⟨a, n + 1, .inNot ha, by rw [xor_odd_succ, hb]⟩

theorem exists_occursIn_of_mem_statementsOfList (denied : Bool) : (xs : List Expr) →
    b ∈ statementsOfList denied xs → ∃ x ∈ xs, ∃ (a : Atom) (n : Nat), a.OccursIn x n ∧
      b = a.below (denied ^^ decide (n % 2 = 1))
  | [], h => nomatch h
  | x :: xs, h => by
    rw [statementsOfList] at h
    rcases List.mem_append.1 h with h | h
    · exact ⟨x, List.mem_cons_self, exists_occursIn_of_mem_statements denied x h⟩
    · obtain ⟨y, hy, hfound⟩ := exists_occursIn_of_mem_statementsOfList denied xs h
      exact ⟨y, List.mem_cons_of_mem x hy, hfound⟩

end

/-! ### What passes the check -/

/-- The check passes if what it finds in every statement is tolerable. -/
theorem check_passes_iff_tolerable (e : Expr) (s : Snapshot) (strict : Bool) :
    (∀ i ∈ e.check s strict, i.isError = false) ↔
      ∀ b ∈ e.statements false, Tolerable strict (b.violations s b.negated) := by
  have hseverity : ∀ f : Finding, (f.issue strict).isError = false ↔
      f.violation.severity strict = .warning := by
    intro f
    rw [Issue.isError, Finding.issue]
    cases f.violation.severity strict <;> simp
  simp only [check, findings_eq_flatMap, Atom.findings, Tolerable, List.forall_mem_map,
    List.forall_mem_flatMap, hseverity]

/-- An expression passes the check exactly if every atom, denied by its own flag and the negations
above it in the whole, is taken wherever it stands in the expression. -/
theorem check_passes_iff (e : Expr) (s : Snapshot) (strict : Bool) :
    (∀ i ∈ e.check s strict, i.isError = false) ↔
      ∀ (a : Atom) (n : Nat), a.OccursIn e n →
        s.Takes strict a (a.negated ^^ decide (n % 2 = 1)) := by
  rw [check_passes_iff_tolerable]
  constructor
  · intro hpassed a n ha
    have hstated := hpassed _ (below_mem_statements ha)
    rw [Bool.false_xor] at hstated
    exact (a.tolerable_violations_iff s _).1 hstated
  · intro htaken b hb
    obtain ⟨a, n, ha, rfl⟩ := exists_occursIn_of_mem_statements false e hb
    rw [Bool.false_xor]
    exact (a.tolerable_violations_iff s _).2 (htaken a n ha)

/-- In an expression that passes the check every value is taken by the declaration of its field. -/
theorem exists_takesValue_of_check (hpassed : (e.check s strict).any Issue.isError = false)
    (ha : a ∈ e.atoms) : ∃ d, s.governing? a.field = some d ∧ d.TakesValue strict a.value := by
  have htolerable := (check_passes_iff_tolerable e s strict).1 fun i hi =>
    Bool.eq_false_iff.2 (List.any_eq_false.1 hpassed i hi)
  obtain ⟨b, hb, hfield, hvalue⟩ := exists_statement_of_mem ha false
  obtain ⟨d, hd, htakes⟩ := (b.tolerable_violations_iff s b.negated).1 (htolerable b hb)
  exact ⟨d, hfield ▸ hd, hvalue ▸ htakes.value⟩

/-! ### The check of a normal form -/

/-- The check finds in a normal form nothing that it does not find in the expression, and keeps the
order.  Where there is neither a truth value nor an empty group it finds the same. -/
theorem check_sublist_of_normalize {mode : Bool} (h : e.normalize mode = .ok n) (s : Snapshot)
    (strict : Bool) :
    (n.check s strict).Sublist (e.check s strict) ∧
      (e.IsSolid → n.check s strict = e.check s strict) := by
  rw [eq_normalForm_of_normalize e h]
  simp only [check, findings_eq_flatMap]
  constructor
  · have hstated := statements_normalForm_sublist false e
    exact (hstated.flatMap _).map _
  · intro he
    rw [(statements_normalForm_eq he).2]

/-- The statement that there is a title, which no declaration is about, and that there is no
abstract, in a group that is too small and below negations that cancel. -/
def titleWithoutAbstract : Expr :=
  .not (.not (.and [.and [.atom (.present "title")], .not (.atom (.present "abstract"))]))

theorem isSolid_titleWithoutAbstract : titleWithoutAbstract.IsSolid := by
  have hsmall : IsSolid (.and [.atom (.present "title")]) :=
    .group (List.cons_ne_nil _ _) (List.forall_mem_singleton.2 (.atom _))
  refine .not (.not (.group (List.cons_ne_nil _ _) ?_))
  simp only [List.forall_mem_cons]
  exact ⟨hsmall, .not (.atom _), List.forall_mem_nil _⟩

/-- The same without the small group and the negations. -/
def titleWithoutAbstractNormal : Expr :=
  .and [.atom (.present "title"), .atom (Atom.present "abstract").negate]

/-- The same beside truth. -/
def titleWithoutAbstractOrTrue : Expr := .or [titleWithoutAbstract, .const true]

/-- Where a truth value decides a group, what is found in another member of it is lost; where
normalization only takes groups and negations away, nothing is lost. -/
theorem check_sublist_of_normalize_decidedAndSolid :
    ((Expr.const true).check .abstractsOnly true).Sublist
        (titleWithoutAbstractOrTrue.check .abstractsOnly true) ∧
      (titleWithoutAbstractOrTrue.check .abstractsOnly true).map Issue.code =
        [.fieldNotSupported, .negationNotAllowed] ∧
      titleWithoutAbstractNormal.check .abstractsOnly true =
        titleWithoutAbstract.check .abstractsOnly true := by
  have hdecided : titleWithoutAbstractOrTrue.normalize false = .ok (.const true) := by decide
  have hsolid : titleWithoutAbstract.normalize false = .ok titleWithoutAbstractNormal := by decide
  exact ⟨(check_sublist_of_normalize hdecided .abstractsOnly true).1, by decide,
    (check_sublist_of_normalize hsolid .abstractsOnly true).2 isSolid_titleWithoutAbstract⟩

end Expr

end BiblioQuery
