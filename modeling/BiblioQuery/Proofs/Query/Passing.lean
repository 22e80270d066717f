import BiblioQuery.Proofs.Expr.Statements
import BiblioQuery.Proofs.Query.FaultSources
import BiblioQuery.Query.Compile

/-!
# What passing check and writing says of each atom

The check looks at each atom as it counts in the whole and writing writes each atom, so an
expression passes only if all its atoms do.  For a range this means that its bounds leave room in
the eyes of the check, and that the bounds can be written.

## Main results

* `Expr.findings_eq_flatMap` : the check finds what it finds in the statements.
* `Expr.isInverted_eq_false_of_check` : no range of an expression that passes the check is inverted.
* `Atom.exists_text_of_write` : how an atom that is written got its fragment.
* `Expr.exists_write_of_render` : all atoms of an expression that passes writing are written.
* `Atom.exists_toInstant?_of_write` : the date-times of a range that is written have instants.
-/

namespace BiblioQuery

/-! ### The check -/

section

variable {s : Snapshot} {a : Atom} {r : RangeValue} {denied strict : Bool}

theorem Atom.findings_below (s : Snapshot) (a : Atom) (denied : Bool) :
    (a.below denied).findings s (a.below denied).negated = a.findings s (a.negated ^^ denied) :=
  rfl

namespace Expr

mutual

/-- The check finds what it finds in the statements. -/
theorem findings_eq_flatMap (s : Snapshot) (denied : Bool) : (e : Expr) →
    e.findings s denied = (e.statements denied).flatMap fun a => a.findings s a.negated
  | .const _ => rfl
  | .atom a => by rw [statements, List.flatMap_singleton, a.findings_below, findings]
  | .group _ xs => findingsOfList_eq_flatMap s denied xs
  | .not x => findings_eq_flatMap s (!denied) x

theorem findingsOfList_eq_flatMap (s : Snapshot) (denied : Bool) : (xs : List Expr) →
    findingsOfList s denied xs =
      (statementsOfList denied xs).flatMap fun a => a.findings s a.negated
  | [] => rfl
  | x :: xs => by
    rw [findingsOfList, statementsOfList, List.flatMap_append, findings_eq_flatMap s denied x,
      findingsOfList_eq_flatMap s denied xs]

end

/-- The value of an atom is stated of its field by an atom as it counts in the whole. -/
theorem exists_statement_of_mem {e : Expr} (h : a ∈ e.atoms) (denied : Bool) :
    ∃ b ∈ e.statements denied, b.field = a.field ∧ b.value = a.value := by
  have hstated := List.mem_map_of_mem (f := fun b : Atom => (b.field, b.value)) h
  rw [← map_statements (fun _ _ => rfl) denied] at hstated
  obtain ⟨b, hb, hab⟩ := List.mem_map.1 hstated
  exact ⟨b, hb, congrArg Prod.fst hab, congrArg Prod.snd hab⟩

end Expr

/-- The inversion of a range is found, whatever is declared about ranges, unless they are of
another kind. -/
theorem Declaration.exists_error_of_isInverted (d : Declaration) (strict : Bool)
    (h : r.isInverted = true) :
    ∃ v ∈ d.valueViolations (.range r), v.severity strict = .error := by
  have hinversion : ∃ v ∈ r.inversions, v.severity strict = .error := by
    simp only [RangeValue.inversions]
    cases hlower : r.lower with
    | none => simp [r.isInverted_eq_false_of_open (.inl hlower)] at h
    | some x =>
      cases hupper : r.upper with
      | none => simp [r.isInverted_eq_false_of_open (.inr hupper)] at h
      | some y => exact ⟨.inverted x y, by simp [Violation.when, h], rfl⟩
  rw [valueViolations]
  cases d.range with
  | none => exact hinversion
  | some c =>
    simp only [RangeCapability.violations]
    split
    · obtain ⟨v, hv, herror⟩ := hinversion
      exact ⟨v, List.mem_append_right _ hv, herror⟩
    · exact ⟨_, List.mem_singleton_self _, rfl⟩

/-- An inverted range is an error in every snapshot. -/
theorem Atom.exists_error_of_isInverted (hr : a.value = .range r) (h : r.isInverted = true)
    (s : Snapshot) (denied strict : Bool) :
    ∃ v ∈ a.violations s denied, v.severity strict = .error := by
  rw [violations]
  cases s.governing? a.field with
  | none => exact ⟨_, List.mem_singleton_self _, rfl⟩
  | some d =>
    simp only [Declaration.violations]
    cases hallowed : SortedSet.has d.operators a.operator with
    | false => exact ⟨.operatorNotAllowed, by simp [Violation.when], rfl⟩
    | true =>
      obtain ⟨v, hv, herror⟩ := d.exists_error_of_isInverted strict h
      exact ⟨v, by simp [hr, hv], herror⟩

/-- No range of an expression that passes the check is inverted. -/
theorem Expr.isInverted_eq_false_of_check {e : Expr}
    (hpassed : (e.check s strict).any Issue.isError = false) (ha : a ∈ e.atoms)
    (hr : a.value = .range r) : r.isInverted = false := by
  refine Bool.eq_false_iff.2 fun h => ?_
  obtain ⟨b, hb, -, hvalue⟩ := exists_statement_of_mem ha false
  obtain ⟨v, hv, herror⟩ := b.exists_error_of_isInverted (hvalue.trans hr) h s b.negated strict
  have hfound : ⟨b.field, b.operator, v⟩ ∈ e.findings s false := by
    rw [findings_eq_flatMap]
    exact List.mem_flatMap.2 ⟨b, hb, List.mem_map_of_mem hv⟩
  have hissue := List.any_eq_false.1 hpassed _ (List.mem_map_of_mem hfound)
  simp [Issue.isError, Finding.issue, herror] at hissue

end

/-! ### Writing -/

section

variable {s : Snapshot} {a : Atom} {r : RangeValue} {assumed : Offset} {conditional : Bool}

/-- What is found below a negation stays among the faults of the denial. -/
theorem Dialect.faults_subset_denyWriting (d : Dialect) (w : Writing) :
    w.faults ⊆ (d.denyWriting w).faults := by
  rw [denyWriting]
  split
  · exact List.Subset.refl _
  · split
    · exact List.Subset.refl _
    · exact List.subset_append_left _ _

namespace Expr

mutual

-- What is found in a member stays among the faults of the group, and what is found below a negation
-- among those of the denial, so that the hypothesis passes down to the atoms.

/-- All atoms of an expression are written unless an error is found. -/
theorem exists_write_of_faults (conditional : Bool) : (e : Expr) →
    (∀ f ∈ (e.write s assumed conditional).faults, f.severity ≠ .error) →
      ∀ a ∈ e.atoms, ∃ w, a.write s assumed = .ok w
  | .const _, _ => fun a ha => nomatch ha
  | .atom b, h => by
    intro a ha
    obtain rfl := List.mem_singleton.1 ha
    rw [write] at h
    cases hw : a.write s assumed with
    | ok w => exact ⟨w, rfl⟩
    | error f =>
      have hfault := h f (by simp [hw])
      exact absurd (Atom.severity_of_write hw) hfault
  | .group c xs, h => exists_write_of_faultsOfList (conditional || c == .any) xs fun w hw f hf =>
      h f (by rw [write]; exact List.mem_flatMap.2 ⟨w, hw, hf⟩)
  | .not x, h => exists_write_of_faults true x fun f hf =>
      h f (by rw [write]; exact s.dialect.faults_subset_denyWriting _ hf)

theorem exists_write_of_faultsOfList (conditional : Bool) : (xs : List Expr) →
    (∀ w ∈ writeList s assumed conditional xs, ∀ f ∈ w.faults, f.severity ≠ .error) →
      ∀ a ∈ atomsOfList xs, ∃ w, a.write s assumed = .ok w
  | [], _ => fun a ha => nomatch ha
  | x :: xs, h => by
    intro a ha
    rw [atomsOfList, List.mem_append] at ha
    rw [writeList, List.forall_mem_cons] at h
    rcases ha with ha | ha
    · exact exists_write_of_faults conditional x h.1 a ha
    · exact exists_write_of_faultsOfList conditional xs h.2 a ha

end

variable {e : Expr} {traced : Bool}

/-- What is found in an expression that passes writing is no error. -/
theorem severity_ne_error_of_render (hwritten : (e.render s assumed traced).hasErrors = false) :
    ∀ f ∈ (e.write s assumed false).faults, f.severity ≠ .error := by
  intro f hf herror
  have hissue := List.any_eq_false.1 hwritten _ (List.mem_map_of_mem hf)
  simp [Issue.isError, RenderFault.issue, herror] at hissue

/-- All atoms of an expression that passes writing are written. -/
theorem exists_write_of_render (hwritten : (e.render s assumed traced).hasErrors = false)
    (ha : a ∈ e.atoms) : ∃ w, a.write s assumed = .ok w :=
  exists_write_of_faults false e (severity_ne_error_of_render hwritten) a ha

end Expr

/-- A date-time that is written as an end of a range has an instant. -/
theorem Rule.exists_toInstant?_of_endText {q : Rule} {field text : String} {t : DateTime}
    (h : q.endText assumed field (some (.dateTime t)) = .ok text) :
    ∃ i, t.toInstant? assumed = some i := by
  rw [endText, boundText] at h
  cases ht : t.toInstant? assumed with
  | some i => exact ⟨i, rfl⟩
  | none => simp [ht] at h

/-- How an atom that is written got its fragment. -/
theorem Atom.exists_text_of_write {w : Applied} (h : a.write s assumed = .ok w) :
    s.ruleFor? a = some (w.rule, w.denied) ∧
      ∃ text, w.rule.write s.dialect assumed a = .ok text ∧
        (if w.denied then s.dialect.deny (some a.field) else Except.ok)
          (if w.rule.wrapGroup then s.dialect.group text else text) = .ok w.fragment := by
  rw [write] at h
  split at h
  · cases h
  · next r denied hrule =>
    obtain ⟨text, htext, h⟩ := ok_of_bind_eq_ok h
    cases denied with
    | false =>
      rw [← Except.ok.inj h]
      exact ⟨hrule, text, htext, rfl⟩
    | true =>
      obtain ⟨fragment, hfragment, h⟩ := ok_of_bind_eq_ok h
      rw [← Except.ok.inj h]
      exact ⟨hrule, text, htext, hfragment⟩

/-- The date-times of a range that is written have instants. -/
theorem Atom.exists_toInstant?_of_write {w : Applied} {x y : DateTime}
    (h : a.write s assumed = .ok w) (hr : a.value = .range r)
    (hx : r.lower = some (.dateTime x)) (hy : r.upper = some (.dateTime y)) :
    (∃ i, x.toInstant? assumed = some i) ∧ ∃ j, y.toInstant? assumed = some j := by
  obtain ⟨-, text, htext, -⟩ := exists_text_of_write h
  obtain ⟨own, hown, -⟩ := ok_of_bind_eq_ok htext
  rw [hr] at hown
  obtain ⟨lower, hlower, hown⟩ := ok_of_bind_eq_ok hown
  obtain ⟨upper, hupper, -⟩ := ok_of_bind_eq_ok hown
  rw [hx] at hlower
  rw [hy] at hupper
  exact ⟨Rule.exists_toInstant?_of_endText hlower, Rule.exists_toInstant?_of_endText hupper⟩

end

end BiblioQuery
