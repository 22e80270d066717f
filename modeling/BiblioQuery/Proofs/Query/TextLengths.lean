import BiblioQuery.Proofs.Query.Checking

/-!
# The lengths of texts in a query

A declaration may limit the length of the texts that a field takes.  The check holds a text against
the limits unless it is blank, because whether blank texts are taken is declared separately; so
where they are taken at all, blank texts of any length are, and the greatest length binds the other
texts only.

## Main results

* `TermCapability.takes_iff_of_isBlank` : blank texts are taken or refused together, whatever their
  lengths.
* `Snapshot.exists_takes_of_isOk` : what is declared about an atom in a query without errors.
* `Snapshot.length_le_of_compile` : which texts in a query are within the greatest length.
* `Snapshot.not_length_le_of_blank` : a query with a blank text that is not.
-/

namespace BiblioQuery

/-- Blank texts that are compared in the same way are taken or refused together, whatever their
lengths. -/
theorem TermCapability.takes_iff_of_isBlank {c : TermCapability} {t u : TermValue}
    (ht : t.isBlank = true) (hu : u.isBlank = true) (hmatch : u.matchType = t.matchType)
    (hcase : u.caseMode = t.caseMode) : c.Takes u ↔ c.Takes t := by
  rw [takes_iff, takes_iff, hmatch, TermValue.isCaseSensitive, hcase, hu, ht]
  simp [TermValue.isCaseSensitive]

namespace Snapshot

variable {s : Snapshot} {o : Options} {e : Expr} {c : Compiled} {a : Atom}

/-- In an outcome without errors every atom is taken by the declaration that governs its field. -/
theorem exists_takes_of_isOk (h : s.compile o e = .ok c) (hok : c.isOk = true)
    (ha : a ∈ c.normalized.atoms) :
    ∃ d, s.governing? a.field = some d ∧ d.TakesValue o.strict a.value := by
  obtain ⟨assumed, n, -, -, rfl⟩ := compile_eq_ok_iff.1 h
  obtain ⟨stage, hstage⟩ := exists_endsAt_compileNormal s o assumed n
  obtain rfl := hstage.isOk_iff.1 hok
  cases hstage with
  | complete hpassed => exact Expr.exists_takesValue_of_check hpassed ha

/-- An outcome has either an error and neither query nor parameter, or no error, and then every text
in it is within the greatest length that the declaration of its field sets, unless it is blank.  A
blank text is there only where blank texts are taken, and those are taken whatever their lengths. -/
theorem length_le_of_compile (h : s.compile o e = .ok c) :
    (c.isOk = false ∧ c.IsBlank) ∨
      (c.isOk = true ∧ ∀ a ∈ c.normalized.atoms, ∀ t, a.value = .term t →
        ∃ d, s.governing? a.field = some d ∧
          (∀ m, (d.term.getD .standard).maxLength = some m →
            t.text.length ≤ m.toNat ∨ t.isBlank = true) ∧
          (t.isBlank = true → (d.term.getD .standard).allowBlank = true ∧
            ∀ text, Text.isBlankText text = true →
              d.TakesValue o.strict (.term { t with text := text }))) := by
  cases hok : c.isOk with
  | false =>
    obtain ⟨assumed, n, -, -, rfl⟩ := compile_eq_ok_iff.1 h
    obtain ⟨stage, hstage⟩ := exists_endsAt_compileNormal s o assumed n
    have hne : stage ≠ .complete := fun hcomplete => by simp [hstage.isOk_iff.2 hcomplete] at hok
    exact .inl ⟨rfl, hstage.isBlank hne⟩
  | true =>
    refine .inr ⟨rfl, fun a ha t ht => ?_⟩
    obtain ⟨d, hd, htakes⟩ := exists_takes_of_isOk h hok ha
    rw [ht] at htakes
    refine ⟨d, hd, fun m hm => ?_, fun hblank => ⟨htakes.blank hblank, fun text htext => ?_⟩⟩
    · cases hblank : t.isBlank with
      | false => exact .inl ((htakes.visible hblank).2.1 m hm)
      | true => exact .inr rfl
    · have hother : TermValue.isBlank { t with text := text } = true := htext
      exact (TermCapability.takes_iff_of_isBlank hblank hother rfl rfl).2 htakes

/-- A provider that takes titles of at most three characters, blank ones among them. -/
def shortTitles : Snapshot :=
  .ofOne { (Declaration.of "title").allow .term with
      term := some { TermCapability.standard with allowBlank := true, maxLength := some 3 } }
    (.of "title" ⟨"title:\x7bquoted\x7d", [.literal "title:".toList, .slot .quoted], by cbv⟩)

/-- The words of a title. -/
def titled (text : String) : Atom := .phrase "title" text

/-- Three characters are within the limit of three. -/
theorem length_le_of_compile_threeLetters :
    ∃ c, shortTitles.compile .standard (.atom (titled "abc")) = .ok c ∧ c.isOk = true ∧
      c.query = "title:\"abc\"" ∧ ∃ d, shortTitles.governing? "title" = some d ∧
        (d.term.getD .standard).maxLength = some 3 ∧
        ("abc".length ≤ 3 ∨ Text.isBlankText "abc" = true) := by
  have h : shortTitles.compile .standard (.atom (titled "abc")) =
      .ok (shortTitles.compileNormal .standard .utc (.atom (titled "abc"))) :=
    compile_eq_ok_iff.2 ⟨.utc, _, by decide, Expr.normalize_atom _ _, rfl⟩
  refine ⟨_, h, by decide, by decide, ?_⟩
  obtain ⟨herror, -⟩ | ⟨-, hwithin⟩ := length_le_of_compile h
  · exact absurd herror (by decide)
  · obtain ⟨d, hd, hlength, -⟩ :=
      hwithin (titled "abc") (by decide) ⟨"abc", .phrase, .insensitive⟩ rfl
    have hmax : (d.term.getD .standard).maxLength = some 3 := by
      cases hd
      rfl
    exact ⟨d, hd, hmax, hlength 3 hmax⟩

/-- Four blanks are not, and there is no error. -/
theorem not_length_le_of_blank :
    shortTitles.validate = .ok () ∧
      ∃ c, shortTitles.compile .standard (.atom (titled "    ")) = .ok c ∧ c.isOk = true ∧
        titled "    " ∈ c.normalized.atoms ∧ c.query = "title:\"    \"" ∧
        ∃ d, shortTitles.governing? "title" = some d ∧
          (d.term.getD .standard).maxLength = some 3 ∧ ¬"    ".length ≤ 3 :=
  ⟨by decide, _, rfl, by decide, by decide, by decide, _, rfl, rfl, by decide⟩

end Snapshot

end BiblioQuery
