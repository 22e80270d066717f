import BiblioQuery.Proofs.Query.Stages

/-!
# Strict and lenient compilation

Strictness is asked for in two places: normalization refuses ambiguous groups, and the check turns
violations of soft limits into errors.  Neither changes what comes out where nothing is refused.
A normal form is the same in both modes, and a check that finds no error in strict mode has found no
violation whose severity the mode decides, so that both modes make one report.

## Main results

* `Finding.issue_false_eq` : an issue that is no error in strict mode is the same in both modes.
* `Expr.check_false_eq` : so is a check without errors.
* `Snapshot.compile_lenient_of_strict` : a compilation that succeeds in strict mode has the same
  outcome in lenient mode.
-/

namespace BiblioQuery

/-! ### Issues that are no errors -/

/-- A violation that is worth a warning in strict mode is worth no more in lenient mode. -/
theorem Violation.severity_false_eq {v : Violation} (h : v.severity true = .warning) :
    v.severity false = .warning := by
  cases v with
  | repeatedAlternatives => rfl
  | belowLeast enforcement => cases enforcement <;> cases h
  | aboveGreatest enforcement => cases enforcement <;> cases h
  | _ => cases h

/-- An issue that is no error in strict mode is the same in lenient mode: the mode decides nothing
but the severity. -/
theorem Finding.issue_false_eq {f : Finding} (h : (f.issue true).isError = false) :
    f.issue false = f.issue true := by
  have hstrict : f.violation.severity true = .warning := by
    cases hseverity : f.violation.severity true with
    | warning => rfl
    | error => simp [Issue.isError, issue, hseverity] at h
  rw [issue, issue, hstrict, Violation.severity_false_eq hstrict]

namespace Expr

variable {s : Snapshot} {e n : Expr}

/-- A check that finds no error in strict mode finds the same in lenient mode. -/
theorem check_false_eq (h : (n.check s true).any Issue.isError = false) :
    n.check s false = n.check s true := by
  refine List.map_congr_left fun f hf => Finding.issue_false_eq ?_
  exact Bool.eq_false_iff.2 (List.any_eq_false.1 h _ (List.mem_map_of_mem hf))

end Expr

/-! ### Outcomes -/

namespace Snapshot

variable {s : Snapshot} {o : Options} {e n : Expr} {c : Compiled}

/-- The mode enters into the outcome for a normal form through the check only. -/
theorem compileNormal_congr {assumed : Offset} {strict strict' : Bool}
    (h : n.check s strict = n.check s strict') :
    s.compileNormal { o with strict := strict } assumed n =
      s.compileNormal { o with strict := strict' } assumed n := by
  simp only [compileNormal, h]
  rfl

/-- A compilation without errors in strict mode has the same outcome in lenient mode: query,
parameters, normal form, report, snapshot and trace. -/
theorem compile_lenient_of_strict (h : s.compile { o with strict := true } e = .ok c)
    (hok : c.isOk = true) : s.compile { o with strict := false } e = .ok c := by
  obtain ⟨assumed, n, hoffset, hn, rfl⟩ := compile_eq_ok_iff.1 h
  have hpassed : (n.check s true).any Issue.isError = false := by
    obtain ⟨stage, hstage⟩ := exists_endsAt_compileNormal s { o with strict := true } assumed n
    obtain rfl := hstage.isOk_iff.1 hok
    cases hstage with
    | complete hpassed => rwa [normalized_compileNormal] at hpassed
  have hn : e.normalize false = .ok n := Expr.normalize_false_of_normalize_true hn
  exact compile_eq_ok_iff.2
    ⟨assumed, n, hoffset, hn, compileNormal_congr (Expr.check_false_eq hpassed).symm⟩

/-- A provider that can be asked for languages and nothing else. -/
def languagesOnly : Snapshot :=
  .ofOne ((Declaration.of "lang").allow .member)
    (.of "lang" ⟨"\x7bfield\x7d:\x7bvalues\x7d", [.slot .field, .literal [':'], .slot .values],
      by cbv⟩)

/-- Two languages, one of them twice, in a group with a truth value. -/
def englishOrGerman : Expr :=
  .and [.atom (.anyOf "lang" ["en", "de", "en"]), .const true]

/-- The repeated language is worth a warning in both modes. -/
theorem compile_lenient_of_strict_repeated :
    ∃ c, languagesOnly.compile { Options.standard with strict := true } englishOrGerman = .ok c ∧
      c.isOk = true ∧ c.query = "lang:en OR de" ∧
      c.report.warnings.map Issue.code = [.inDuplicateValues] ∧
      languagesOnly.compile { Options.standard with strict := false } englishOrGerman = .ok c := by
  have hstrict : languagesOnly.compile { Options.standard with strict := true } englishOrGerman =
      .ok (languagesOnly.compileNormal { Options.standard with strict := true } .utc
        (.atom (.anyOf "lang" ["en", "de", "en"]))) :=
    compile_eq_ok_iff.2 ⟨.utc, _, by decide, rfl, rfl⟩
  exact ⟨_, hstrict, by decide, by decide, by decide, compile_lenient_of_strict hstrict (by decide)⟩

end Snapshot

end BiblioQuery
