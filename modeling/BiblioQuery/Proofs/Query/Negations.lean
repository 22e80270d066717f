import BiblioQuery.Proofs.Query.BestRule
import BiblioQuery.Proofs.Query.Passing

/-!
# Negations in a query

A negated atom is written by a rule for denials, if one matches it, and what this rule writes says
all.  Otherwise the rule for the opposite atom writes it, and the dialect denies what comes out.  So
whatever the rules are, a fragment carries the negation of its atom once and no other one.

## Main definitions

* `Rule.grouped` : what a rule writes, with the delimiters that it asks for.
* `Atom.CarriesNegation` : how a fragment carries the negation of an atom.
* `Atom.record?` : the record of an atom, if it is written.

## Main results

* `Snapshot.negated_of_ruleFor?` : which rule goes with the negation of an atom.
* `Expr.records_write` : the records of an expression are those of its atoms.
* `Expr.carriesNegation_of_render` : each record of a query carries the negation of its atom.
-/

namespace BiblioQuery

/-! ### Rules for negated atoms -/

namespace Snapshot

variable {s : Snapshot} {q : RuleQuery} {a : Atom} {r : Rule} {denied : Bool}

/-- A rule for an atom that is not negated is not for denials. -/
theorem negated_ne_of_select? (h : s.select? a false = some r) : r.negated ≠ some true := by
  obtain ⟨-, -, -, hflag, -⟩ := fits_of_best? h
  intro hnegated
  simp [Rule.takesFlag, hnegated, RuleQuery.withFlag] at hflag

/-- A rule among those for denials is for denials. -/
theorem negated_eq_of_selectDenial? (h : s.selectDenial? a = some r) : r.negated = some true := by
  obtain ⟨-, -, -, hdenials, -⟩ := fits_of_best? h
  simpa [Rule.isForDenials] using hdenials

/-- No rule for denials is found only if none agrees with the atom. -/
theorem negated_ne_of_selectDenial?_eq_none (h : s.selectDenial? a = none) :
    ∀ q ∈ s.rules, q.Agrees s (.ofAtom a) → q.negated ≠ some true := by
  intro q hq hagrees hnegated
  rw [selectDenial?, selectDenialRule?, best?, best?_eq_none_iff] at h
  have hcandidate := mem_filter_candidates.2 ⟨hq, hagrees, show q.isForDenials = true from ?_⟩
  · rw [h] at hcandidate
    cases hcandidate
  · simp [Rule.isForDenials, hnegated]

/-- Which rule goes with the negation of an atom, and whether what it writes is denied. -/
theorem negated_of_ruleFor? (h : s.ruleFor? a = some (r, denied)) :
    (a.negated = false ∧ r.negated ≠ some true ∧ denied = false) ∨
    (a.negated = true ∧ r.negated = some true ∧ denied = false) ∨
    (a.negated = true ∧ r.negated ≠ some true ∧ denied = true ∧
      ∀ q ∈ s.rules, q.Agrees s (.ofAtom a) → q.negated ≠ some true) := by
  rw [ruleFor?] at h
  split at h
  · next hflag =>
    split at h
    · next hselected =>
      cases h
      exact .inr (.inl ⟨hflag, negated_eq_of_selectDenial? hselected, rfl⟩)
    · next hnone =>
      obtain ⟨_, hselected, ⟨⟩⟩ := Option.map_eq_some_iff.1 h
      exact .inr (.inr ⟨hflag, negated_ne_of_select? hselected, rfl,
        negated_ne_of_selectDenial?_eq_none hnone⟩)
  · next hflag =>
    obtain ⟨_, hselected, ⟨⟩⟩ := Option.map_eq_some_iff.1 h
    exact .inl ⟨Bool.eq_false_iff.2 hflag, negated_ne_of_select? hselected, rfl⟩

end Snapshot

/-- A fragment is denied by the template of the dialect for denials. -/
theorem Dialect.exists_fill_of_deny {d : Dialect} {field : Option String} {inner text : String}
    (h : d.deny field inner = .ok text) :
    ∃ t, d.notTemplate = some t ∧ t.fill (denialSlots field inner) = .ok text := by
  rw [deny] at h
  split at h
  · cases h
  · next t ht =>
    split at h
    · next hfill => exact ⟨t, ht, hfill.trans (congrArg _ (Except.ok.inj h))⟩
    · cases h

/-! ### Atoms -/

/-- What a rule writes, between delimiters if the rule asks for them. -/
def Rule.grouped (r : Rule) (d : Dialect) (text : String) : String :=
  if r.wrapGroup then d.group text else text

/-- How the fragment of an atom carries the negation of the atom, where `own` is what the rule of
the atom writes. -/
inductive Atom.CarriesNegation (s : Snapshot) (a : Atom) (w : Applied) (own : String) : Prop
  /-- The atom is not negated.  Its rule is not for denials, and what the rule writes is the
  fragment. -/
  | plain (hflag : a.negated = false) (hrule : w.rule.negated ≠ some true)
    (hdenied : w.denied = false) (hfragment : w.fragment = own)
  /-- The atom is negated.  Its rule is for denials, and what the rule writes is the fragment. -/
  | byRule (hflag : a.negated = true) (hrule : w.rule.negated = some true)
    (hdenied : w.denied = false) (hfragment : w.fragment = own)
  /-- The atom is negated.  Its rule is not for denials, as no rule for denials agrees with it, and
  the fragment is the denial of what the rule writes. -/
  | byDialect {t : Template} (hflag : a.negated = true) (hrule : w.rule.negated ≠ some true)
    (hdenied : w.denied = true)
    (hnone : ∀ q ∈ s.rules, q.Agrees s (.ofAtom a) → q.negated ≠ some true)
    (htemplate : s.dialect.notTemplate = some t)
    (hfragment : t.fill (Dialect.denialSlots (some a.field) own) = .ok w.fragment)

namespace Atom

variable {s : Snapshot} {assumed : Offset} {a : Atom} {w : Applied}

/-- The record of an atom, if it is written. -/
def record? (s : Snapshot) (assumed : Offset) (a : Atom) : Option TraceRecord :=
  (a.write s assumed).toOption.map (.of a)

theorem record?_of_ok (h : a.write s assumed = .ok w) : a.record? s assumed = some (.of a w) := by
  rw [record?, h]
  rfl

theorem record?_of_error {f : RenderFault} (h : a.write s assumed = .error f) :
    a.record? s assumed = none := by
  rw [record?, h]
  rfl

theorem exists_write_of_record? {r : TraceRecord} (h : a.record? s assumed = some r) :
    ∃ w, a.write s assumed = .ok w ∧ r = .of a w := by
  cases hwrite : a.write s assumed with
  | error f =>
    rw [record?_of_error hwrite] at h
    cases h
  | ok w =>
    rw [record?_of_ok hwrite] at h
    exact ⟨w, rfl, (Option.some.inj h).symm⟩

/-- The fragment of an atom carries the negation of the atom. -/
theorem exists_carriesNegation_of_write (h : a.write s assumed = .ok w) :
    ∃ text, w.rule.write s.dialect assumed a = .ok text ∧
      a.CarriesNegation s w (w.rule.grouped s.dialect text) := by
  obtain ⟨hrule, text, htext, hfragment⟩ := exists_text_of_write h
  obtain ⟨r, denied, fragment⟩ := w
  refine ⟨text, htext, ?_⟩
  rcases Snapshot.negated_of_ruleFor? hrule with
    ⟨hflag, hnegated, rfl⟩ | ⟨hflag, hnegated, rfl⟩ | ⟨hflag, hnegated, rfl, hnone⟩
  · exact .plain hflag hnegated rfl (Except.ok.inj hfragment).symm
  · exact .byRule hflag hnegated rfl (Except.ok.inj hfragment).symm
  · obtain ⟨t, ht, hfill⟩ := Dialect.exists_fill_of_deny hfragment
    exact .byDialect hflag hnegated rfl hnone ht hfill

end Atom

/-! ### Expressions -/

/-- An atom that is written has one record, wherever its fragment goes. -/
theorem Applied.records_writing (conditional : Bool) (a : Atom) (w : Applied) :
    (w.writing conditional a).records = [.of a w] := by
  rw [writing]
  split <;> rfl

/-- A denial has the records of what is denied. -/
theorem Dialect.records_denyWriting (d : Dialect) (w : Writing) :
    (d.denyWriting w).records = w.records := by
  rw [denyWriting]
  split
  · rfl
  · split <;> rfl

namespace Expr

variable (s : Snapshot) (assumed : Offset)

mutual

/-- The records of an expression are those of its atoms that are written, in their order. -/
theorem records_write (conditional : Bool) : (e : Expr) →
    (e.write s assumed conditional).records = e.atoms.filterMap (·.record? s assumed)
  | .const true => rfl
  | .const false => by
    rw [write]
    split <;> rfl
  | .atom a => by
    rw [write, atoms]
    cases hwrite : a.write s assumed with
    | error f => simp [Atom.record?_of_error hwrite]
    | ok w => simp [Atom.record?_of_ok hwrite, Applied.records_writing]
  | .group c xs => records_writeList (conditional || c == .any) xs
  | .not x => by
    rw [write, Dialect.records_denyWriting]
    exact records_write true x

theorem records_writeList (conditional : Bool) : (xs : List Expr) →
    (writeList s assumed conditional xs).flatMap Writing.records =
      (atomsOfList xs).filterMap (·.record? s assumed)
  | [] => rfl
  | x :: xs => by
    rw [writeList, List.flatMap_cons, atomsOfList, List.filterMap_append,
      records_write conditional x, records_writeList conditional xs]

end

/-- Each record of a query carries the negation of its atom once.  The records are those of the
atoms that are written, in their order, and an atom that is not negated is written by a rule that is
not for denials.  A negated one is written by a rule for denials; or no such rule agrees with it,
and what another rule writes, between its delimiters, is denied by the template of the dialect. -/
theorem carriesNegation_of_render (e : Expr) :
    ∃ records, (e.render s assumed true).trace = some records ∧
      records = e.atoms.filterMap (·.record? s assumed) ∧
      ∀ r ∈ records, ∃ a ∈ e.atoms, ∃ w text, a.write s assumed = .ok w ∧ r = .of a w ∧
        w.rule.write s.dialect assumed a = .ok text ∧
        a.CarriesNegation s w (w.rule.grouped s.dialect text) := by
  refine ⟨_, rfl, records_write s assumed false e, fun r hr => ?_⟩
  rw [records_write] at hr
  obtain ⟨a, ha, hrecord⟩ := List.mem_filterMap.1 hr
  obtain ⟨w, hwrite, rfl⟩ := Atom.exists_write_of_record? hrecord
  obtain ⟨text, htext, hcarries⟩ := Atom.exists_carriesNegation_of_write hwrite
  exact ⟨a, ha, w, text, hwrite, rfl, htext, hcarries⟩

end Expr

end BiblioQuery
