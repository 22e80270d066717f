import BiblioQuery.Proofs.Query.Checking

/-!
# What a strict check changes

A strict check finds what a lenient one finds, issue by issue, and says the same of it.  Only how
bad an issue is may differ, and only one way: what is worth a warning becomes an error.  This
happens to the limits of ranges that a declaration enforces softly and to nothing else.  As every
issue names the field of its atom, and the field determines the declaration, it can be told from the
issue and the snapshot which issues these are.

## Main definitions

* `Violation.enforcement?` : how the limit that is violated is enforced.
* `Snapshot.LimitsSoftly` : the limits of the ranges of a field are enforced softly.

## Main results

* `Violation.escalates_iff` : a violation of a soft limit, and no other one, is worse in strict
  mode.
* `Atom.enforced_violations` : limits are enforced as the governing declaration says.
* `Expr.check_escalates` : the strict check beside the lenient one.
-/

namespace BiblioQuery

/-! ### Violations of limits -/

namespace Violation

/-- How the limit that is violated is enforced, if a limit is. -/
def enforcement? : Violation → Option Enforcement
  | .belowLeast enforcement _ _ | .aboveGreatest enforcement _ _ => some enforcement
  | _ => none

/-- A violation of a soft limit, and no other one, is worth a warning in lenient mode and an error
in strict mode. -/
theorem escalates_iff {v : Violation} :
    (v.severity false = .warning ∧ v.severity true = .error) ↔ v.enforcement? = some .soft := by
  cases v with
  | belowLeast enforcement => cases enforcement <;> simp [severity, enforcement?]
  | aboveGreatest enforcement => cases enforcement <;> simp [severity, enforcement?]
  | _ => simp [severity, enforcement?]

/-- A violation that is not worse in strict mode is as bad in both modes. -/
theorem severity_eq_or_escalates (v : Violation) :
    v.severity false = v.severity true ∨
      v.severity false = .warning ∧ v.severity true = .error := by
  cases v with
  | belowLeast enforcement => cases enforcement <;> simp [severity]
  | aboveGreatest enforcement => cases enforcement <;> simp [severity]
  | _ => exact .inl rfl

/-- The violations of limits have codes of their own. -/
theorem code_eq_iff {v : Violation} :
    (v.code = .rangeBelowMin ∨ v.code = .rangeAboveMax) ↔
      ∃ enforcement, v.enforcement? = some enforcement := by
  cases v <;> simp [code, enforcement?]

end Violation

/-! ### Declarations with soft limits -/

/-- A declaration governs the field and enforces the limits of its ranges softly. -/
def Snapshot.LimitsSoftly (s : Snapshot) (field : String) : Prop :=
  ∃ d c, s.governing? field = some d ∧ d.range = some c ∧ c.enforcement = .soft

/-- The limits that are violated are all enforced as a property says. -/
def Enforced (P : Enforcement → Prop) (vs : List Violation) : Prop :=
  ∀ v ∈ vs, ∀ enforcement, v.enforcement? = some enforcement → P enforcement

namespace Enforced

variable {P : Enforcement → Prop} {v : Violation} {vs ws : List Violation}

@[simp]
theorem nil : Enforced P [] := List.forall_mem_nil _

@[simp]
theorem append_iff : Enforced P (vs ++ ws) ↔ Enforced P vs ∧ Enforced P ws :=
  List.forall_mem_append

@[simp]
theorem singleton_iff :
    Enforced P [v] ↔ ∀ enforcement, v.enforcement? = some enforcement → P enforcement :=
  List.forall_mem_singleton

@[simp]
theorem when_iff {b : Bool} : Enforced P (Violation.when b v) ↔
    (b = true → ∀ enforcement, v.enforcement? = some enforcement → P enforcement) := by
  cases b
  · simp [Violation.when]
  · simp [Violation.when]

@[simp]
theorem flatMap_iff {α : Type} {l : List α} {f : α → List Violation} :
    Enforced P (l.flatMap f) ↔ ∀ x ∈ l, Enforced P (f x) :=
  List.forall_mem_flatMap

end Enforced

section

variable {P : Enforcement → Prop}

theorem RangeValue.enforced_inversions (r : RangeValue) : Enforced P r.inversions := by
  rw [inversions]
  split
  · simp [Violation.enforcement?]
  · exact .nil

/-- The limits of a capability are enforced as it says. -/
theorem RangeCapability.enforced_violations (c : RangeCapability) (r : RangeValue) :
    Enforced (c.enforcement = ·) (c.violations r) := by
  rw [violations]
  split
  · simp [boundViolations, r.enforced_inversions, Violation.enforcement?]
  · simp [Violation.enforcement?]

/-- Only ranges have limits, and the capability for ranges says how they are enforced. -/
theorem Declaration.enforced_valueViolations (d : Declaration) (v : AtomValue) :
    Enforced (fun enforcement => ∃ c, d.range = some c ∧ c.enforcement = enforcement)
      (d.valueViolations v) := by
  cases v with
  | term t =>
    rw [valueViolations, TermCapability.violations]
    split <;> simp [Violation.enforcement?]
  | member m =>
    rw [valueViolations, MemberCapability.violations]
    split <;> simp [Violation.enforcement?]
  | range r =>
    rw [valueViolations]
    cases d.range with
    | none => exact r.enforced_inversions
    | some c => exact fun v hv enforcement h => ⟨c, rfl, c.enforced_violations r v hv _ h⟩
  | presence expected => simp [valueViolations, Violation.enforcement?]
  | token t => simp [valueViolations, TokenCapability.violations, Violation.enforcement?]

theorem Declaration.enforced_violations (d : Declaration) (a : Atom) (denied : Bool) :
    Enforced (fun enforcement => ∃ c, d.range = some c ∧ c.enforcement = enforcement)
      (d.violations a denied) := by
  rw [violations]
  cases SortedSet.has d.operators a.operator with
  | false => simp [Violation.enforcement?]
  | true => simp [Violation.enforcement?, d.enforced_valueViolations]

end

/-- Limits are enforced as the declaration says that governs the field of the atom. -/
theorem Atom.enforced_violations (s : Snapshot) (a : Atom) (denied : Bool) :
    Enforced (fun enforcement => ∃ d c, s.governing? a.field = some d ∧ d.range = some c ∧
      c.enforcement = enforcement) (a.violations s denied) := by
  rw [violations]
  cases s.governing? a.field with
  | none => simp [Violation.enforcement?]
  | some d =>
    intro v hv enforcement h
    obtain ⟨c, hc, henforcement⟩ := d.enforced_violations a denied v hv enforcement h
    exact ⟨d, c, rfl, hc, henforcement⟩

/-- A violation in an atom is worse in strict mode exactly if it is one of a limit and the limits of
the field are soft. -/
theorem Atom.escalates_iff_of_mem_violations {s : Snapshot} {a : Atom} {denied : Bool}
    {v : Violation} (h : v ∈ a.violations s denied) :
    (v.severity false = .warning ∧ v.severity true = .error) ↔
      (v.code = .rangeBelowMin ∨ v.code = .rangeAboveMax) ∧ s.LimitsSoftly a.field := by
  rw [Violation.escalates_iff, Violation.code_eq_iff]
  constructor
  · intro hsoft
    exact ⟨⟨.soft, hsoft⟩, a.enforced_violations s denied v h .soft hsoft⟩
  · rintro ⟨⟨enforcement, henforcement⟩, d, c, hd, hc, hsoft⟩
    obtain ⟨d', c', hd', hc', rfl⟩ := a.enforced_violations s denied v h enforcement henforcement
    obtain rfl := Option.some.inj (hd'.symm.trans hd)
    obtain rfl := Option.some.inj (hc'.symm.trans hc)
    rw [henforcement, hsoft]

/-! ### Issues -/

/-- Every issue names the field of its atom. -/
theorem Finding.field_mem_context (f : Finding) (strict : Bool) :
    (f.issue strict).context.get? "field" = some f.field := by
  simp [issue, SortedMap.ofList, List.foldl_append, SortedMap.get?_insert]

namespace Expr

/-- What the check finds is found in an atom, as it counts where it stands. -/
theorem exists_occursIn_of_mem_findings {e : Expr} {s : Snapshot} {f : Finding}
    (h : f ∈ e.findings s false) : ∃ (a : Atom) (n : Nat), a.OccursIn e n ∧ f.field = a.field ∧
      f.violation ∈ a.violations s (a.negated ^^ decide (n % 2 = 1)) := by
  rw [findings_eq_flatMap] at h
  obtain ⟨b, hb, hf⟩ := List.mem_flatMap.1 h
  obtain ⟨a, n, ha, rfl⟩ := exists_occursIn_of_mem_statements false e hb
  rw [a.findings_below] at hf
  obtain ⟨v, hv, rfl⟩ := List.mem_map.1 hf
  exact ⟨a, n, ha, rfl, by simpa using hv⟩

/-- A strict check and a lenient one list the same number of issues, and those at one place in the
lists have one code, one message and one context, which names the field of an atom of the
expression.  They are equally bad, but for a violation of a soft limit, which is worth a warning in
lenient mode and is an error in strict mode. -/
theorem check_escalates (e : Expr) (s : Snapshot) :
    (e.check s true).length = (e.check s false).length ∧
      ∀ (k : Nat) (i j : Issue), (e.check s false)[k]? = some i → (e.check s true)[k]? = some j →
        (i.code = j.code ∧ i.message = j.message ∧ i.context = j.context) ∧
        (i.severity = j.severity ∨ i.severity = .warning ∧ j.severity = .error) ∧
        ∃ (a : Atom) (n : Nat), a.OccursIn e n ∧ i.context.get? "field" = some a.field ∧
          ((i.severity = .warning ∧ j.severity = .error) ↔
            (i.code = .rangeBelowMin ∨ i.code = .rangeAboveMax) ∧ s.LimitsSoftly a.field) := by
  refine ⟨by simp [check], fun k i j hi hj => ?_⟩
  rw [check, List.getElem?_map] at hi hj
  obtain ⟨f, hf, rfl⟩ := Option.map_eq_some_iff.1 hi
  obtain ⟨f', hf', rfl⟩ := Option.map_eq_some_iff.1 hj
  obtain rfl := Option.some.inj (hf'.symm.trans hf)
  obtain ⟨a, n, ha, hfield, hviolation⟩ := exists_occursIn_of_mem_findings (List.mem_of_getElem? hf)
  refine ⟨⟨rfl, rfl, rfl⟩, f'.violation.severity_eq_or_escalates, a, n, ha, ?_, ?_⟩
  · rw [Finding.field_mem_context, hfield]
  · exact Atom.escalates_iff_of_mem_violations hviolation

end Expr

end BiblioQuery
