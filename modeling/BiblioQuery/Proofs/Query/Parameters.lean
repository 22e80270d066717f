import BiblioQuery.Proofs.Provider.Validity
import BiblioQuery.Proofs.Query.Accounts
import BiblioQuery.Proofs.Query.FaultSources
import BiblioQuery.Proofs.Query.Grouping
import BiblioQuery.Proofs.Query.Negations

/-!
# Parameters beside a query

An atom whose rule writes to a parameter leaves nothing in the query, as truth does, so the query is
that of the expression with truth in the place of such atoms.  The provider applies the parameter to
all that it finds.  This is more than the expression says where the atom is negated or stands below
a disjunction or a negation, and there is one warning for each atom of this kind that is written.

## Main definitions

* `Expr.substitute`, `Expr.withoutParams` : expressions in the place of atoms, and truth in the
  place of those that go to parameters.
* `Occurrence`, `Expr.occurrences` : the atoms of an expression with what stands above them.
* `Occurrence.IsConditional` : a parameter says more than the atom does where it stands.
* `Occurrence.warning?` : the warning about an atom that goes to a parameter.

## Main results

* `Expr.text_write_substitute` : atoms of the same fragments make the same query.
* `Expr.filter_faults_write` : which parameters are found unsound.
* `Expr.query_and_warnings_of_validate` : the query and the warnings in the whole.
-/

namespace BiblioQuery

/-! ### Other expressions in the place of atoms -/

/-- The fragment of a denial depends on nothing but the fragment that is denied. -/
theorem Dialect.text_denyWriting_congr (d : Dialect) {v w : Writing} (h : v.text = w.text) :
    (d.denyWriting v).text = (d.denyWriting w).text := by
  rw [denyWriting, denyWriting, h]
  split
  · exact h
  · split <;> rfl

namespace Expr

variable {s : Snapshot} {assumed : Offset} {f : Atom → Expr}

mutual

/-- An expression with other expressions in the place of its atoms. -/
def substitute (f : Atom → Expr) : Expr → Expr
  | .const b => .const b
  | .atom a => f a
  | .group c xs => .group c (substituteList f xs)
  | .not x => .not (substitute f x)

/-- Expressions with other expressions in the place of their atoms. -/
def substituteList (f : Atom → Expr) : List Expr → List Expr
  | [] => []
  | x :: xs => substitute f x :: substituteList f xs

end

mutual

/-- Where the atoms leave what their substitutes leave, the query is the same. -/
theorem text_write_substitute
    (hf : ∀ a conditional, ((f a).write s assumed conditional).text =
      ((Expr.atom a).write s assumed conditional).text) (conditional : Bool) :
    (e : Expr) → ((e.substitute f).write s assumed conditional).text =
      (e.write s assumed conditional).text
  | .const _ => rfl
  | .atom a => hf a conditional
  | .group c xs => by
    rw [substitute, write, write]
    exact congrArg (s.dialect.join c) (text_writeList_substitute hf _ xs)
  | .not x => by
    rw [substitute, write, write]
    exact s.dialect.text_denyWriting_congr (text_write_substitute hf true x)

theorem text_writeList_substitute
    (hf : ∀ a conditional, ((f a).write s assumed conditional).text =
      ((Expr.atom a).write s assumed conditional).text) (conditional : Bool) :
    (xs : List Expr) → (writeList s assumed conditional (substituteList f xs)).map Writing.text =
      (writeList s assumed conditional xs).map Writing.text
  | [] => rfl
  | x :: xs => by
    rw [substituteList, writeList, writeList, List.map_cons, List.map_cons,
      text_write_substitute hf conditional x, text_writeList_substitute hf conditional xs]

end

end Expr

/-! ### Atoms that go to parameters -/

/-- The rule for the atom writes to a parameter. -/
def Atom.isForParams (s : Snapshot) (a : Atom) : Bool :=
  (s.ruleFor? a).any fun p => p.1.emit == .params

/-- The expression with truth in the place of the atoms that go to parameters. -/
def Expr.withoutParams (s : Snapshot) (e : Expr) : Expr :=
  e.substitute fun a => if a.isForParams s then .const true else .atom a

/-- In a valid snapshot an atom that goes to a parameter leaves nothing in the query. -/
theorem Atom.text_write_of_isForParams {s : Snapshot} {a : Atom} (h : s.validate = .ok ())
    (ha : a.isForParams s = true) (assumed : Offset) (conditional : Bool) :
    ((Expr.atom a).write s assumed conditional).text = "" := by
  rw [Expr.write]
  cases hwrite : a.write s assumed with
  | error f => rfl
  | ok w =>
    obtain ⟨hrule, -⟩ := exists_text_of_write hwrite
    have hmem := Snapshot.mem_rules_of_ruleFor? hrule
    rw [isForParams, hrule] at ha
    have hemit : w.rule.emit = .params := by simpa using ha
    obtain ⟨-, hnamed, -⟩ := Rule.validate_eq_ok_iff.1
      ((Snapshot.validate_eq_ok_iff.1 h).2.2 _ hmem)
    obtain ⟨key, hkey⟩ := Option.ne_none_iff_exists'.1 fun hkey => hnamed ⟨hemit, hkey⟩
    simp [Applied.writing, Rule.paramTarget?, hemit, hkey]

/-- In a valid snapshot the query of an expression is that of the expression with truth in the place
of the atoms that go to parameters. -/
theorem Expr.text_write_withoutParams {s : Snapshot} (h : s.validate = .ok ()) (assumed : Offset)
    (conditional : Bool) (e : Expr) :
    ((e.withoutParams s).write s assumed conditional).text =
      (e.write s assumed conditional).text := by
  refine text_write_substitute (fun a conditional => ?_) conditional e
  split
  · next ha => rw [Atom.text_write_of_isForParams h ha, write]
  · rfl

/-! ### Places of atoms -/

/-- What stands directly above a part of an expression. -/
inductive Frame where
  /-- A group with the connective. -/
  | group (c : Connective)
  /-- A negation. -/
  | negation
  deriving DecidableEq

/-- An atom where it stands in an expression. -/
structure Occurrence where
  /-- The atom. -/
  atom : Atom
  /-- What stands above it, from the inside to the outside. -/
  above : List Frame

namespace Expr

mutual

/-- The occurrences of atoms in an expression, depth first, where `above` is what stands above the
expression. -/
def occurrences (above : List Frame) : Expr → List Occurrence
  | .const _ => []
  | .atom a => [⟨a, above⟩]
  | .group c xs => occurrencesOfList (.group c :: above) xs
  | .not x => occurrences (.negation :: above) x

/-- The occurrences of atoms in a list of expressions. -/
def occurrencesOfList (above : List Frame) : List Expr → List Occurrence
  | [] => []
  | x :: xs => occurrences above x ++ occurrencesOfList above xs

end

mutual

/-- There is one occurrence for each atom, in their order. -/
theorem map_atom_occurrences (above : List Frame) :
    (e : Expr) → (e.occurrences above).map Occurrence.atom = e.atoms
  | .const _ => rfl
  | .atom _ => rfl
  | .group c xs => map_atom_occurrencesOfList (.group c :: above) xs
  | .not x => map_atom_occurrences (.negation :: above) x

theorem map_atom_occurrencesOfList (above : List Frame) :
    (xs : List Expr) → (occurrencesOfList above xs).map Occurrence.atom = atomsOfList xs
  | [] => rfl
  | x :: xs => by
    rw [occurrencesOfList, List.map_append, map_atom_occurrences above x,
      map_atom_occurrencesOfList above xs, atomsOfList]

end

end Expr

/-! ### Parameters that say too much -/

/-- A disjunction or a negation is among what stands above. -/
def Frame.Loosens (above : List Frame) : Prop := .group .any ∈ above ∨ .negation ∈ above

instance (above : List Frame) : Decidable (Frame.Loosens above) :=
  inferInstanceAs (Decidable (_ ∨ _))

/-- Below a group it matters what stands above the group, and whether it is a disjunction. -/
theorem Frame.decide_loosens_group (c : Connective) (above : List Frame) :
    decide (Loosens (.group c :: above)) = (decide (Loosens above) || c == .any) := by
  rw [Bool.eq_iff_iff]
  simp only [Bool.or_eq_true, decide_eq_true_iff, beq_iff_eq]
  simp only [Loosens, List.mem_cons, group.injEq, reduceCtorEq, false_or]
  tauto

/-- Below a negation it does not matter what stands above. -/
theorem Frame.decide_loosens_negation (above : List Frame) :
    decide (Loosens (.negation :: above)) = true :=
  decide_eq_true (.inr List.mem_cons_self)

/-- The parameter that an atom is sent to, if it is written. -/
def Atom.sentTo? (s : Snapshot) (assumed : Offset) (a : Atom) : Option String :=
  (a.record? s assumed).bind TraceRecord.paramTarget?

namespace Occurrence

/-- The expression does not ask for the atom of all that it finds: the atom is negated, or a
disjunction or a negation stands above it. -/
def IsConditional (o : Occurrence) : Prop := o.atom.negated = true ∨ Frame.Loosens o.above

instance (o : Occurrence) : Decidable o.IsConditional := inferInstanceAs (Decidable (_ ∨ _))

theorem decide_isConditional (o : Occurrence) :
    decide o.IsConditional = (decide (Frame.Loosens o.above) || o.atom.negated) := by
  rw [Bool.eq_iff_iff, Bool.or_eq_true, decide_eq_true_iff, decide_eq_true_iff]
  exact or_comm

/-- What is found where a conditional atom is sent to a parameter. -/
def fault? (s : Snapshot) (assumed : Offset) (o : Occurrence) : Option RenderFault :=
  if o.IsConditional then
    (o.atom.sentTo? s assumed).map fun key => .unconditionalParam o.atom.field key
  else none

/-- The warning about a conditional atom that is sent to a parameter. -/
def warning? (s : Snapshot) (assumed : Offset) (o : Occurrence) : Option Issue :=
  (o.fault? s assumed).map RenderFault.issue

end Occurrence

/-- An error is not about a parameter. -/
theorem RenderFault.code_ne_of_severity {f : RenderFault} (h : f.severity = .error) :
    f.code ≠ .paramUnderDisjunction := by
  cases f <;> simp [code, severity] at h ⊢

/-- A denial finds no parameter. -/
theorem Dialect.filter_faults_denyWriting (d : Dialect) (w : Writing) :
    (d.denyWriting w).faults.filter (·.code = .paramUnderDisjunction) =
      w.faults.filter (·.code = .paramUnderDisjunction) := by
  rw [denyWriting]
  split
  · rfl
  · split
    · rfl
    · next f hdeny =>
      have hcode := RenderFault.code_ne_of_severity (severity_of_deny hdeny)
      simp [hcode]

/-- At an atom a parameter is found if the atom is conditional and is sent to it. -/
theorem Occurrence.filter_faults_write (s : Snapshot) (assumed : Offset) (o : Occurrence) :
    ((Expr.atom o.atom).write s assumed (decide (Frame.Loosens o.above))).faults.filter
      (·.code = .paramUnderDisjunction) = (o.fault? s assumed).toList := by
  rw [Expr.write, fault?, Atom.sentTo?]
  cases hwrite : o.atom.write s assumed with
  | error f =>
    have hcode := RenderFault.code_ne_of_severity (Atom.severity_of_write hwrite)
    simp [hcode, Atom.record?_of_error hwrite]
  | ok w =>
    rw [Atom.record?_of_ok hwrite, Option.bind_some, TraceRecord.paramTarget?_of]
    cases htarget : w.rule.paramTarget? with
    | none => simp [Applied.writing, htarget]
    | some key =>
      simp only [Applied.writing, htarget, ← o.decide_isConditional, decide_eq_true_eq]
      split
      · simp [RenderFault.code]
      · rfl

namespace Expr

variable {s : Snapshot} {assumed : Offset}

mutual

-- What is handed down says whether a disjunction or a negation is among what stands above, so that
-- at an atom it says whether the atom is conditional.

/-- One parameter is found for each conditional atom that is sent to it, and no other one. -/
theorem filter_faults_write (above : List Frame) : (e : Expr) →
    (e.write s assumed (decide (Frame.Loosens above))).faults.filter
      (·.code = .paramUnderDisjunction) =
        (e.occurrences above).filterMap (·.fault? s assumed)
  | .const true => rfl
  | .const false => by
    rw [write]
    split <;> rfl
  | .atom a => by
    rw [occurrences, List.filterMap_eq_flatMap_toList, List.flatMap_singleton]
    exact Occurrence.filter_faults_write s assumed ⟨a, above⟩
  | .group c xs => by
    rw [write, occurrences, ← Frame.decide_loosens_group]
    exact filter_faults_writeList (.group c :: above) xs
  | .not x => by
    rw [write, Dialect.filter_faults_denyWriting, occurrences,
      ← Frame.decide_loosens_negation above]
    exact filter_faults_write (.negation :: above) x

theorem filter_faults_writeList (above : List Frame) : (xs : List Expr) →
    ((writeList s assumed (decide (Frame.Loosens above)) xs).flatMap Writing.faults).filter
      (·.code = .paramUnderDisjunction) =
        (occurrencesOfList above xs).filterMap (·.fault? s assumed)
  | [] => rfl
  | x :: xs => by
    rw [writeList, List.flatMap_cons, List.filter_append, occurrencesOfList, List.filterMap_append,
      filter_faults_write above x, filter_faults_writeList above xs]

end

/-- In a valid snapshot parameters are apart from the query, and the unsound ones are told.  The
query is that of the expression with truth in the place of the atoms whose rules write to
parameters.  The warnings about parameters are one for each atom that is sent to a parameter, where
the atom is negated or a disjunction or a negation stands above it, in the order of the atoms, and
no other ones. -/
theorem query_and_warnings_of_validate (h : s.validate = .ok ()) (assumed : Offset) (traced : Bool)
    (e : Expr) :
    ((e.withoutParams s).render s assumed traced).query = (e.render s assumed traced).query ∧
      (e.render s assumed traced).issues.filter (·.code = .paramUnderDisjunction) =
        (e.occurrences []).filterMap (·.warning? s assumed) := by
  refine ⟨text_write_withoutParams h assumed false e, ?_⟩
  calc (e.render s assumed traced).issues.filter (·.code = .paramUnderDisjunction)
      = ((e.write s assumed false).faults.filter (·.code = .paramUnderDisjunction)).map
          RenderFault.issue := List.filter_map
    _ = ((e.occurrences []).filterMap (·.fault? s assumed)).map RenderFault.issue :=
        congrArg _ (filter_faults_write [] e)
    _ = (e.occurrences []).filterMap (·.warning? s assumed) := List.map_filterMap

/-- Titles are written in the query, and years and languages are sent to parameters. -/
def filteringRules : Snapshot where
  provenanceId := 1
  code := "a"
  taskType := "harvest"
  operation := "search"
  version := 1
  capturedAt := .epoch
  declarations := []
  dialect := { Dialect.standard with notTemplate := some Dialect.standardDenial }
  rules := [{ Snapshot.valueRule "title" with field := some "title" },
    { Snapshot.valueRule "year" with
      field := some "year", emit := .params, paramKey := some "filter" },
    { Snapshot.valueRule "language" with
      field := some "language", emit := .params, paramKey := some "lang" }]

/-- Algebra in a year, neither on rings nor of another year, and in another language. -/
def algebraInYear : Expr :=
  .and [.atom (.phrase "title" "algebra"), .atom (.phrase "year" "2001"),
    .not (.or [.atom (.phrase "title" "rings"), .atom (.phrase "year" "2002")]),
    .atom { Atom.phrase "language" "latin" with negated := true }]

/-- The year below a negation and the negated language are told, and the other year is not. -/
theorem query_and_warnings_of_validate_algebraInYear :
    filteringRules.validate = .ok () ∧
      (algebraInYear.render filteringRules .utc false).query = "(algebra AND NOT rings)" ∧
      (algebraInYear.render filteringRules .utc false).issues.filter
          (·.code = .paramUnderDisjunction) =
        [(RenderFault.unconditionalParam "year" "filter").issue,
          (RenderFault.unconditionalParam "language" "lang").issue] := by
  have hvalid : filteringRules.validate = .ok () := by decide
  obtain ⟨hquery, hwarnings⟩ := query_and_warnings_of_validate hvalid .utc false algebraInYear
  refine ⟨hvalid, hquery.symm.trans ?_, hwarnings.trans ?_⟩
  · decide
  · decide

end Expr

end BiblioQuery
