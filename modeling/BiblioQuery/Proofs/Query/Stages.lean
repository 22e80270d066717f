import BiblioQuery.Proofs.Expr.NormalForm
import BiblioQuery.Query.Compile
import Mathlib.Tactic.SplitIfs

/-!
# How a compilation ends

A compilation that has an outcome ends at one of four stages: the check finds an error, or writing
does, or the query is too long, or there is a query.  What the report holds tells the stage, a stage
that finds an error leaves neither query nor parameters, and all errors of an outcome are of the
kind that belongs to its stage.

## Main definitions

* `Stage`, `Stage.errorKind?` : the stages, and the kind of the errors that are found there.
* `Compiled.IsBlank` : there is neither query nor parameter.
* `Snapshot.EndsAt` : what the outcome of a compilation that ends at a stage is.

## Main results

* `Expr.kind_of_mem_check`, `Expr.kind_of_mem_issues_render` : the kinds of what check and writing
  find.
* `Snapshot.exists_endsAt_compileNormal` : every compilation ends at some stage.
* `Snapshot.EndsAt.stage_eq` : an outcome belongs to one stage only.
* `Snapshot.EndsAt.firstErrorKind?_eq` : the first error is of the kind of the stage.
* `Snapshot.endsAt_of_compile` : how the compilation of any expression ends.
-/

namespace BiblioQuery

/-! ### Reports of joined lists -/

namespace Report

variable {issues : List Issue}

theorem ofIssues_append (issues more : List Issue) :
    ofIssues (issues ++ more) = (ofIssues issues).append more :=
  List.foldl_append

theorem append_singleton (r : Report) (i : Issue) : r.append [i] = r.push i := rfl

/-- A report has errors if there are some among the issues. -/
theorem hasErrors_ofIssues (issues : List Issue) :
    (ofIssues issues).hasErrors = issues.any Issue.isError := by
  rw [hasErrors, errors_ofIssues, Bool.eq_iff_iff]
  simp

/-- The errors of a report are errors among the issues. -/
theorem mem_errors_ofIssues {i : Issue} :
    i ∈ (ofIssues issues).errors ↔ i ∈ issues ∧ i.isError = true := by
  rw [errors_ofIssues, List.mem_filter]

/-- The warnings of a report are the other issues. -/
theorem mem_warnings_ofIssues {i : Issue} :
    i ∈ (ofIssues issues).warnings ↔ i ∈ issues ∧ i.isError = false := by
  simp [warnings_ofIssues]

/-- A report holds all issues. -/
theorem mem_ofIssues {i : Issue} :
    i ∈ (ofIssues issues).warnings ++ (ofIssues issues).errors ↔ i ∈ issues := by
  rw [List.mem_append, mem_warnings_ofIssues, mem_errors_ofIssues, ← and_or_left]
  cases i.isError <;> simp

/-- A report without errors among its issues has no errors. -/
theorem errors_ofIssues_eq_nil (h : issues.any Issue.isError = false) :
    (ofIssues issues).errors = [] := by
  simpa [errors_ofIssues] using h

end Report

/-! ### Kinds of issues -/

theorem Violation.kind_code (v : Violation) : v.code.kind = .capabilityViolation := by
  cases v <;> rfl

theorem RenderFault.kind_code (f : RenderFault) : f.code.kind = .renderRuleMissing := by
  cases f <;> rfl

namespace Expr

variable {s : Snapshot} {e : Expr} {i : Issue}

/-- The check finds violations of capabilities only. -/
theorem kind_of_mem_check {strict : Bool} (h : i ∈ e.check s strict) :
    i.kind = .capabilityViolation := by
  obtain ⟨f, -, rfl⟩ := List.mem_map.1 h
  exact f.violation.kind_code

/-- Writing finds gaps in the rules only. -/
theorem kind_of_mem_issues_render {assumed : Offset} {traced : Bool}
    (h : i ∈ (e.render s assumed traced).issues) : i.kind = .renderRuleMissing := by
  obtain ⟨f, -, rfl⟩ := List.mem_map.1 h
  exact f.kind_code

end Expr

/-! ### Stages -/

/-- Where a compilation ends. -/
inductive Stage where
  /-- The check finds an error. -/
  | checking
  /-- Writing finds an error. -/
  | writing
  /-- The query is too long. -/
  | measuring
  /-- There is a query. -/
  | complete
  deriving DecidableEq

/-- The kind of the errors that are found at a stage. -/
def Stage.errorKind? : Stage → Option ErrorKind
  | .checking => some .capabilityViolation
  | .writing => some .renderRuleMissing
  | .measuring => some .outputBudgetExceeded
  | .complete => none

/-- There is neither query nor parameter. -/
def Compiled.IsBlank (c : Compiled) : Prop := c.query = "" ∧ c.params = .empty

theorem Options.isExceededBy_iff {o : Options} {query : String} :
    o.isExceededBy query = true ↔
      0 < o.maxQueryLength.toNat ∧ o.maxQueryLength.toNat < query.length := by
  have hzero : o.maxQueryLength = 0 ↔ o.maxQueryLength.toNat = 0 := UInt64.toNat_inj.symm
  simp [isExceededBy, hzero, Nat.pos_iff_ne_zero]

namespace Snapshot

section

variable (s : Snapshot) (o : Options) (assumed : Offset)

/-- The outcome is that of a compilation that ends at the stage. -/
inductive EndsAt (c : Compiled) : Stage → Prop
  /-- The report is what the check found, an error among it. -/
  | checking
    (hfound : (c.normalized.check s o.strict).any Issue.isError = true)
    (hreport : c.report = .ofIssues (c.normalized.check s o.strict))
    (hkind : ∀ i ∈ c.report.warnings ++ c.report.errors, i.kind = .capabilityViolation)
    (htrace : c.trace = none) (hblank : c.IsBlank) : EndsAt c .checking
  /-- The report is what the check found, without error, and what writing found, an error among
  it. -/
  | writing
    (hpassed : (c.normalized.check s o.strict).any Issue.isError = false)
    (hfound : (c.normalized.render s assumed o.traceEnabled).hasErrors = true)
    (hreport : c.report = .ofIssues (c.normalized.check s o.strict ++
      (c.normalized.render s assumed o.traceEnabled).issues))
    (htrace : c.trace = (c.normalized.render s assumed o.traceEnabled).trace)
    (hblank : c.IsBlank) : EndsAt c .writing
  /-- Neither found an error, and the only one is that the query is too long. -/
  | measuring
    (hpassed : (c.normalized.check s o.strict).any Issue.isError = false)
    (hwritten : (c.normalized.render s assumed o.traceEnabled).hasErrors = false)
    (hlong : 0 < o.maxQueryLength.toNat ∧ o.maxQueryLength.toNat <
      (c.normalized.render s assumed o.traceEnabled).query.length)
    (hreport : c.report = .ofIssues (c.normalized.check s o.strict ++
      (c.normalized.render s assumed o.traceEnabled).issues ++
        [budgetIssue (c.normalized.render s assumed o.traceEnabled).query.length
          o.maxQueryLength.toNat]))
    (herrors : c.report.errors =
      [budgetIssue (c.normalized.render s assumed o.traceEnabled).query.length
        o.maxQueryLength.toNat])
    (htrace : c.trace = (c.normalized.render s assumed o.traceEnabled).trace)
    (hblank : c.IsBlank) : EndsAt c .measuring
  /-- There is no error, and the outcome is what was written. -/
  | complete
    (hpassed : (c.normalized.check s o.strict).any Issue.isError = false)
    (hwritten : (c.normalized.render s assumed o.traceEnabled).hasErrors = false)
    (hshort : o.maxQueryLength.toNat = 0 ∨
      (c.normalized.render s assumed o.traceEnabled).query.length ≤ o.maxQueryLength.toNat)
    (hreport : c.report = .ofIssues (c.normalized.check s o.strict ++
      (c.normalized.render s assumed o.traceEnabled).issues))
    (herrors : c.report.errors = [])
    (htrace : c.trace = (c.normalized.render s assumed o.traceEnabled).trace)
    (hquery : c.query = (c.normalized.render s assumed o.traceEnabled).query)
    (hparams : c.params = (c.normalized.render s assumed o.traceEnabled).params) :
    EndsAt c .complete

end

/-! ### Every compilation ends at one stage -/

variable {s : Snapshot} {o : Options} {assumed : Offset} {e n : Expr} {c : Compiled}
variable {stage other : Stage}

/-- The outcome by what check and writing found, before it was routed to the report. -/
theorem compileNormal_eq (s : Snapshot) (o : Options) (assumed : Offset) (n : Expr) :
    s.compileNormal o assumed n =
      let checked := n.check s o.strict
      let r := n.render s assumed o.traceEnabled
      if checked.any Issue.isError then .rejected s n (.ofIssues checked) none
      else if r.hasErrors then .rejected s n (.ofIssues (checked ++ r.issues)) r.trace
      else if o.isExceededBy r.query then
        .rejected s n (.ofIssues (checked ++ r.issues ++
          [budgetIssue r.query.length o.maxQueryLength.toNat])) r.trace
      else
        { query := r.query
          params := r.params
          normalized := n
          report := .ofIssues (checked ++ r.issues)
          snapshot := s.reference
          trace := r.trace } := by
  simp only [compileNormal, ← Report.append_singleton, ← Report.ofIssues_append,
    Report.hasErrors_ofIssues, List.any_append, Rendered.hasErrors]
  split
  · rfl
  · next hpassed =>
    rw [Bool.eq_false_iff.2 hpassed, Bool.false_or]
    rfl

/-- A compilation with an outcome knows the time zone and compiles the normal form. -/
theorem compile_eq_ok_iff : s.compile o e = .ok c ↔
    ∃ assumed n, o.offset? = some assumed ∧ e.normalize o.strict = .ok n ∧
      c = s.compileNormal o assumed n := by
  rw [compile]
  cases hoffset : o.offset? with
  | none => simp
  | some assumed => cases hn : e.normalize o.strict <;> simp [eq_comm]

theorem normalized_compileNormal : (s.compileNormal o assumed n).normalized = n := by
  simp only [compileNormal]
  repeat' split
  all_goals rfl

/-- No error of check or writing is in the report of both, where neither found one. -/
theorem errors_written (hpassed : (n.check s o.strict).any Issue.isError = false)
    (hwritten : (n.render s assumed o.traceEnabled).hasErrors = false) :
    (Report.ofIssues
      (n.check s o.strict ++ (n.render s assumed o.traceEnabled).issues)).errors = [] := by
  rw [Rendered.hasErrors] at hwritten
  exact Report.errors_ofIssues_eq_nil (by rw [List.any_append, hpassed, hwritten, Bool.or_false])

/-- The compilation of a normal form ends at some stage. -/
theorem exists_endsAt_compileNormal (s : Snapshot) (o : Options) (assumed : Offset) (n : Expr) :
    ∃ stage, s.EndsAt o assumed (s.compileNormal o assumed n) stage := by
  rw [compileNormal_eq]
  dsimp only
  split_ifs with hfound hunwritten hlong
  · refine ⟨.checking, .checking hfound rfl (fun i hi => ?_) rfl ⟨rfl, rfl⟩⟩
    exact Expr.kind_of_mem_check (Report.mem_ofIssues.1 hi)
  · exact ⟨.writing, .writing (Bool.eq_false_iff.2 hfound) hunwritten rfl rfl ⟨rfl, rfl⟩⟩
  · have hpassed := Bool.eq_false_iff.2 hfound
    have hwritten := Bool.eq_false_iff.2 hunwritten
    refine ⟨.measuring, .measuring hpassed hwritten (Options.isExceededBy_iff.1 hlong) rfl ?_ rfl
      ⟨rfl, rfl⟩⟩
    dsimp only [Compiled.rejected]
    rw [Report.ofIssues_append, Report.errors_append, errors_written hpassed hwritten]
    rfl
  · have hpassed := Bool.eq_false_iff.2 hfound
    have hwritten := Bool.eq_false_iff.2 hunwritten
    rw [Options.isExceededBy_iff] at hlong
    exact ⟨.complete, .complete hpassed hwritten (by dsimp only; omega) rfl
      (errors_written hpassed hwritten) rfl rfl rfl⟩

namespace EndsAt

/-- An outcome belongs to one stage only. -/
theorem stage_eq (h : s.EndsAt o assumed c stage) (h' : s.EndsAt o assumed c other) :
    stage = other := by
  -- two different stages disagree on what the check found, or writing, or on the length
  cases h <;> cases h' <;> first | rfl | simp_all

/-- All errors of an outcome are of the kind of its stage. -/
theorem kind_of_mem_errors (h : s.EndsAt o assumed c stage) {i : Issue}
    (hi : i ∈ c.report.errors) : stage.errorKind? = some i.kind := by
  cases h with
  | checking _ _ hkind => rw [hkind i (List.mem_append_right _ hi), Stage.errorKind?]
  | writing hpassed _ hreport =>
    rw [hreport, Report.mem_errors_ofIssues, List.mem_append] at hi
    obtain ⟨hi | hi, herror⟩ := hi
    · exact absurd herror (List.any_eq_false.1 hpassed i hi)
    · rw [Expr.kind_of_mem_issues_render hi, Stage.errorKind?]
  | measuring _ _ _ _ herrors =>
    rw [herrors, List.mem_singleton] at hi
    rw [hi]
    rfl
  | complete _ _ _ _ herrors => simp [herrors] at hi

/-- An outcome has an error unless it ends with a query. -/
theorem isOk_iff (h : s.EndsAt o assumed c stage) : c.isOk = true ↔ stage = .complete := by
  cases h with
  | checking hfound hreport =>
    simp [Compiled.isOk, hreport, Report.hasErrors_ofIssues, hfound]
  | writing _ hfound hreport =>
    rw [Rendered.hasErrors] at hfound
    simp [Compiled.isOk, hreport, Report.hasErrors_ofIssues, hfound]
  | measuring _ _ _ _ herrors => simp [Compiled.isOk, Report.hasErrors, herrors]
  | complete _ _ _ _ herrors => simp [Compiled.isOk, Report.hasErrors, herrors]

/-- There is neither query nor parameter unless the compilation was completed. -/
theorem isBlank (h : s.EndsAt o assumed c stage) (hne : stage ≠ .complete) : c.IsBlank := by
  cases h with
  | complete => exact absurd rfl hne
  | _ => assumption

/-- The kind of the first error is the kind of the stage. -/
theorem firstErrorKind?_eq (h : s.EndsAt o assumed c stage) :
    c.report.firstErrorKind? = stage.errorKind? := by
  rw [Report.firstErrorKind?]
  cases herrors : c.report.errors with
  | nil =>
    have hcomplete := h.isOk_iff.1 (by simp [Compiled.isOk, Report.hasErrors, herrors])
    rw [hcomplete]
    rfl
  | cons i rest => exact (h.kind_of_mem_errors (herrors ▸ List.mem_cons_self)).symm

/-- What a report holds was found by the check or by writing, or says that the query is too long. -/
theorem mem_check_or_mem_render (h : s.EndsAt o assumed c stage) {i : Issue}
    (hi : i ∈ c.report.warnings ++ c.report.errors) :
    i ∈ c.normalized.check s o.strict ∨
      i ∈ (c.normalized.render s assumed o.traceEnabled).issues ∨
        i.code = .outputBudgetExceeded := by
  cases h with
  | checking _ hreport =>
    rw [hreport, Report.mem_ofIssues] at hi
    exact .inl hi
  | writing _ _ hreport =>
    rw [hreport, Report.mem_ofIssues, List.mem_append] at hi
    exact hi.imp_right .inl
  | measuring _ _ _ hreport =>
    rw [hreport, Report.mem_ofIssues, List.mem_append, List.mem_append, List.mem_singleton,
      or_assoc] at hi
    rcases hi with hi | hi | rfl
    · exact .inl hi
    · exact .inr (.inl hi)
    · exact .inr (.inr rfl)
  | complete _ _ _ hreport =>
    rw [hreport, Report.mem_ofIssues, List.mem_append] at hi
    exact hi.imp_right .inl

/-- A query that is too long is reported where, and only where, all before went well. -/
theorem exists_overBudget_iff (h : s.EndsAt o assumed c stage) :
    (∃ i ∈ c.report.errors, i.code = .outputBudgetExceeded) ↔
      (c.normalized.check s o.strict).any Issue.isError = false ∧
        (c.normalized.render s assumed o.traceEnabled).hasErrors = false ∧
        0 < o.maxQueryLength.toNat ∧ o.maxQueryLength.toNat <
          (c.normalized.render s assumed o.traceEnabled).query.length := by
  constructor
  · rintro ⟨i, hi, hcode⟩
    have hkind := h.kind_of_mem_errors hi
    rw [Issue.kind, hcode] at hkind
    cases h with
    | measuring hpassed hwritten hlong => exact ⟨hpassed, hwritten, hlong⟩
    | _ => simp [Stage.errorKind?, IssueCode.kind] at hkind
  · rintro ⟨hpassed, hwritten, hlong⟩
    cases h with
    | checking hfound => simp [hpassed] at hfound
    | writing _ hfound => simp [hwritten] at hfound
    | measuring _ _ _ _ herrors => exact ⟨_, herrors ▸ List.mem_singleton_self _, rfl⟩
    | complete _ _ hshort => omega

end EndsAt

/-- A compilation with an outcome has normalized the expression, and ends at exactly one stage.
Short of the last one there is neither query nor parameter; all errors are of the kind of the stage,
so that it does not matter which one comes first; and the length of the query is an error where
there is no other one and the query is longer than a limit. -/
theorem endsAt_of_compile (h : s.compile o e = .ok c) :
    e.normalize o.strict = .ok c.normalized ∧
      ∃ assumed stage, o.offset? = some assumed ∧ s.EndsAt o assumed c stage ∧
        (∀ other, s.EndsAt o assumed c other → other = stage) ∧
        (stage ≠ .complete → c.IsBlank) ∧
        (∀ i ∈ c.report.errors, stage.errorKind? = some i.kind) ∧
        c.report.firstErrorKind? = stage.errorKind? ∧
        ((∃ i ∈ c.report.errors, i.code = .outputBudgetExceeded) ↔
          (c.normalized.check s o.strict).any Issue.isError = false ∧
            (c.normalized.render s assumed o.traceEnabled).hasErrors = false ∧
            0 < o.maxQueryLength.toNat ∧ o.maxQueryLength.toNat <
              (c.normalized.render s assumed o.traceEnabled).query.length) := by
  obtain ⟨assumed, n, hoffset, hn, rfl⟩ := compile_eq_ok_iff.1 h
  rw [normalized_compileNormal]
  obtain ⟨stage, hstage⟩ := exists_endsAt_compileNormal s o assumed n
  refine ⟨hn, assumed, stage, hoffset, hstage, fun other hother => hother.stage_eq hstage,
    hstage.isBlank, fun i => hstage.kind_of_mem_errors, hstage.firstErrorKind?_eq, ?_⟩
  have hbudget := hstage.exists_overBudget_iff
  rwa [normalized_compileNormal] at hbudget

/-! ### A query that is too long -/

/-- A provider with one declaration and one rule that denies nothing. -/
def ofOne (d : Declaration) (r : Rule) : Snapshot where
  provenanceId := 1
  code := "a"
  taskType := "harvest"
  operation := "search"
  version := 1
  capturedAt := .epoch
  declarations := [d]
  dialect := { Dialect.standard with notTemplate := none }
  rules := [r]

/-- A provider that can be asked for the presence of abstracts and nothing else. -/
def abstractsOnly : Snapshot :=
  .ofOne ((Declaration.of "abstract").allow .presence)
    (.of "presence" ⟨"abstract:*", [.literal "abstract:*".toList], by cbv⟩)

/-- Queries of at most eight characters. -/
def briefly : Options := { Options.standard with maxQueryLength := 8 }

/-- The statement that there is an abstract. -/
def anyAbstract : Expr := .atom ⟨"abstract", .presence true, false⟩

/-- Ten characters are written where eight are allowed. -/
theorem endsAt_of_compile_tooLong :
    ∃ c, abstractsOnly.compile briefly anyAbstract = .ok c ∧
      abstractsOnly.EndsAt briefly .utc c .measuring ∧
      c.IsBlank ∧ c.report.firstErrorKind? = some .outputBudgetExceeded := by
  have hutc : briefly.offset? = some .utc := by decide
  have h : abstractsOnly.compile briefly anyAbstract =
      .ok (abstractsOnly.compileNormal briefly .utc anyAbstract) :=
    compile_eq_ok_iff.2 ⟨.utc, _, hutc, Expr.normalize_atom _ _, rfl⟩
  obtain ⟨-, assumed, stage, hoffset, hstage, -, hblank, -, hfirst, -⟩ := endsAt_of_compile h
  have hkind : stage.errorKind? = some .outputBudgetExceeded := by
    rw [← hfirst]
    decide
  obtain rfl : stage = .measuring := by cases stage <;> simp_all [Stage.errorKind?]
  obtain rfl : Offset.utc = assumed := Option.some.inj (hutc.symm.trans hoffset)
  exact ⟨_, h, hstage, hblank nofun, hfirst⟩

end Snapshot

end BiblioQuery
