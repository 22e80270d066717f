import BiblioQuery.Proofs.Provider.Validity
import BiblioQuery.Query.Selection
import Mathlib.Data.List.Nodup
import Mathlib.Tactic.MkIffOfInductiveProp

/-!
# The best rule

A rule is looked up by field and operator, and the candidates are gone through in an order that
comes from the index.  In a valid snapshot no two rules have one name, so one of the rules that fit
beats all the others, and this is the rule that is found: it depends neither on the index nor on the
order in which the rules are given.

## Main definitions

* `Rule.Outranks` : a rule is better than another one.
* `Rule.Agrees` : all that a rule names, its negation flag apart, agrees with a query.
* `Snapshot.Chooses` : the best rule that has a property is chosen.

## Main results

* `Rule.rankOrder_eq_lt_iff` : the rules that come later in the order of ranks are the better ones.
* `Snapshot.chooses_best?` : the best rule is chosen if no two rules have one name.
* `Snapshot.chooses_of_validate` : which rules are selected for a query.
-/

namespace BiblioQuery

/-! ### Ranks -/

namespace Rule

variable {q r : Rule}

/-- The rule is better than another one: it names more, or as much with a higher priority, or as
much with the same priority and a smaller name. -/
def Outranks (r q : Rule) : Prop :=
  q.specificity < r.specificity ∨ q.specificity = r.specificity ∧
    (q.priority < r.priority ∨ q.priority = r.priority ∧ r.id < q.id)

instance : Std.TransCmp rankOrder :=
  have : Std.TransCmp fun r q : Rule => compare q.id r.id :=
    inferInstanceAs (Std.TransCmp fun r q : Rule => compareOn Rule.id q r)
  inferInstanceAs (Std.TransCmp (compareLex _ (compareLex _ _)))

/-- The rules that come later in the order of ranks are the better ones. -/
theorem rankOrder_eq_lt_iff : rankOrder q r = .lt ↔ r.Outranks q := by
  have hnames : compare r.id q.id = .lt ↔ r.id < q.id := compareOfLessAndEq_eq_lt
  simp only [rankOrder, compareLex, compareOn, Ordering.then_eq_lt, Outranks, Int32.lt_iff_toInt_lt,
    ← Int32.toInt_inj, Std.compare_eq_lt, Std.compare_eq_iff_eq, hnames]

/-- Rules of one rank have one name. -/
theorem id_eq_of_rankOrder (h : rankOrder q r = .eq) : q.id = r.id := by
  simp only [rankOrder, compareLex_eq_eq] at h
  exact (Std.LawfulEqCmp.eq_of_compare h.2.2).symm

end Rule

/-! ### Rules that agree with a query -/

/-- All that a rule names, its negation flag apart, agrees with the query and the snapshot. -/
@[mk_iff]
structure Rule.Agrees (r : Rule) (s : Snapshot) (q : RuleQuery) : Prop where
  /-- The field is the one that is asked for. -/
  field : ∀ x, r.field = some x → x = q.field
  /-- So is the operator. -/
  operator : ∀ x, r.operator = some x → x = q.operator
  /-- So is the way of comparing. -/
  matchType : ∀ x, r.matchType = some x → q.matchType = some x
  /-- The value type is the one that is asked for, up to the case of letters. -/
  valueType : ∀ x, r.valueType = some x → Text.sameLetters x q.valueType = true
  /-- The operation is that of the snapshot. -/
  scope : ∀ x, r.scope = some x → x = s.operation
  /-- So is the task. -/
  taskType : ∀ x, r.taskType = some x → x = s.taskType
  /-- The snapshot was taken while the rule holds. -/
  effective : r.effective.contains s.capturedAt = true

/-- The answer is the rule that has a property and is better than all others that have it; there is
no answer where no rule has it. -/
structure Snapshot.Chooses (s : Snapshot) (P : Rule → Prop) (answer : Option Rule) : Prop where
  /-- There is no answer exactly if no rule has the property. -/
  eq_none_iff : answer = none ↔ ∀ r ∈ s.rules, ¬P r
  /-- The answer is a rule exactly if it has the property and is better than the others. -/
  eq_some_iff : ∀ r, answer = some r ↔
    r ∈ s.rules ∧ P r ∧ ∀ q ∈ s.rules, P q → q ≠ r → r.Outranks q

namespace Snapshot

variable {s : Snapshot} {q : RuleQuery} {P : Rule → Prop}

/-- What is chosen does not depend on the order of the rules. -/
theorem Chooses.eq_of_perm {rules : List Rule} {answer answer' : Option Rule}
    (h : s.Chooses P answer) (h' : { s with rules := rules }.Chooses P answer')
    (hrules : rules.Perm s.rules) : answer' = answer := by
  cases answer' with
  | none =>
    have hnone := h'.eq_none_iff.1 rfl
    exact (h.eq_none_iff.2 fun r hr => hnone r (hrules.mem_iff.2 hr)).symm
  | some r =>
    obtain ⟨hr, hP, hbest⟩ := (h'.eq_some_iff r).1 rfl
    exact ((h.eq_some_iff r).2 ⟨hrules.mem_iff.1 hr, hP, fun q hq =>
      hbest q (hrules.mem_iff.2 hq)⟩).symm

/-- The candidates that fit are the rules that agree. -/
theorem mem_filter_candidates {test : Rule → Bool} {r : Rule} :
    r ∈ (s.candidates q).filter (fun r => test r && r.fits s q) ↔
      r ∈ s.rules ∧ r.Agrees s q ∧ test r = true := by
  have hnamed : ∀ {α : Type} {o : Option α} {x : α}, (o = none ∨ o = some x) ↔
      ∀ y, o = some y → y = x := by
    intro α o x
    cases o <;> simp
  simp only [List.mem_filter, mem_candidates, hnamed, Rule.fits, Rule.agrees_iff, Bool.and_eq_true,
    Option.all_eq_true, beq_iff_eq]
  tauto

/-- No rule that agrees and passes the test has a higher rank than the one that is found. -/
theorem isLE_rankOrder_of_best? {test : Rule → Bool} {r x : Rule} (h : s.best? q test = some r)
    (hx : x ∈ s.rules) (hP : x.Agrees s q ∧ test x = true) : (Rule.rankOrder x r).isLE = true :=
  isLE_of_best? h x (mem_filter_candidates.2 ⟨hx, hP⟩)

/-- Another rule of no higher rank has a lower one, if no two rules have one name. -/
theorem outranks_of_isLE (hnodup : (s.rules.map Rule.id).Nodup) {r x : Rule} (hr : r ∈ s.rules)
    (hx : x ∈ s.rules) (hne : x ≠ r) (hle : (Rule.rankOrder x r).isLE = true) : r.Outranks x := by
  rw [← Rule.rankOrder_eq_lt_iff]
  cases hrank : Rule.rankOrder x r with
  | lt => rfl
  | eq => exact absurd (List.inj_on_of_nodup_map hnodup hx hr (Rule.id_eq_of_rankOrder hrank)) hne
  | gt => simp [hrank] at hle

/-- If no two rules have one name, the best rule is chosen among those that pass a test. -/
theorem chooses_best? (hnodup : (s.rules.map Rule.id).Nodup) (q : RuleQuery)
    (test : Rule → Bool) :
    s.Chooses (fun r => r.Agrees s q ∧ test r = true) (s.best? q test) where
  eq_none_iff := by
    rw [best?, best?_eq_none_iff, List.eq_nil_iff_forall_not_mem]
    simp only [mem_filter_candidates, not_and]
  eq_some_iff r := by
    constructor
    · intro h
      obtain ⟨hr, hP⟩ := mem_filter_candidates.1 (best?_mem h)
      exact ⟨hr, hP, fun x hx hPx hne =>
        outranks_of_isLE hnodup hr hx hne (isLE_rankOrder_of_best? h hx hPx)⟩
    · rintro ⟨hr, hP, hbest⟩
      have hcandidate := mem_filter_candidates.2 ⟨hr, hP⟩
      cases h : s.best? q test with
      | none =>
        rw [best?, best?_eq_none_iff] at h
        simp [h] at hcandidate
      | some m =>
        obtain ⟨hm, hPm⟩ := mem_filter_candidates.1 (best?_mem h)
        have hle := isLE_rankOrder_of_best? h hr hP
        by_contra hne
        -- the rule that is found has no lower rank, so it is not among those that are beaten
        have hlt := Rule.rankOrder_eq_lt_iff.2 (hbest m hm hPm fun hmr => hne (hmr ▸ rfl))
        simp [Std.OrientedCmp.gt_iff_lt.2 hlt] at hle

/-! ### Selection in a valid snapshot -/

/-- The selections of a snapshot without two rules of one name. -/
theorem chooses_of_nodup (hnodup : (s.rules.map Rule.id).Nodup) (q : RuleQuery) :
    s.Chooses (fun r => r.Agrees s q ∧ ∀ x, r.negated = some x → x = q.negated)
        (s.selectRule? q) ∧
      s.Chooses (fun r => r.Agrees s q ∧ r.negated = some true) (s.selectDenialRule? q) := by
  have hflag := chooses_best? hnodup q (·.takesFlag q.negated)
  have hdenials := chooses_best? hnodup q Rule.isForDenials
  simp only [Rule.takesFlag, Option.all_eq_true, beq_iff_eq] at hflag
  simp only [Rule.isForDenials, beq_iff_eq] at hdenials
  exact ⟨hflag, hdenials⟩

/-- In a valid snapshot the best of the rules that agree with a query and its negation flag is
selected, and for denials the best of those that agree and are for denials; how the rules are
arranged makes no difference. -/
theorem chooses_of_validate (h : s.validate = .ok ()) (q : RuleQuery) :
    s.Chooses (fun r => r.Agrees s q ∧ ∀ x, r.negated = some x → x = q.negated)
        (s.selectRule? q) ∧
      s.Chooses (fun r => r.Agrees s q ∧ r.negated = some true) (s.selectDenialRule? q) ∧
      ∀ rules : List Rule, rules.Perm s.rules →
        { s with rules := rules }.selectRule? q = s.selectRule? q ∧
          { s with rules := rules }.selectDenialRule? q = s.selectDenialRule? q := by
  have hnodup := nodup_of_validate h
  obtain ⟨hflag, hdenials⟩ := chooses_of_nodup hnodup q
  refine ⟨hflag, hdenials, fun rules hrules => ?_⟩
  have hagrees : ∀ r : Rule, r.Agrees { s with rules := rules } q ↔ r.Agrees s q := fun r => by
    rw [Rule.agrees_iff, Rule.agrees_iff]
  obtain ⟨hflag', hdenials'⟩ := chooses_of_nodup (s := { s with rules := rules })
    ((hrules.map Rule.id).nodup_iff.2 hnodup) q
  simp only [hagrees] at hflag' hdenials'
  exact ⟨hflag.eq_of_perm hflag' hrules, hdenials.eq_of_perm hdenials' hrules⟩

/-- A rule that writes the text of a value. -/
def valueRule (id : String) : Rule := .of id ⟨"\x7bvalue\x7d", [.slot .value], by cbv⟩

/-- The rule for phrases. -/
def phraseRule : Rule := { valueRule "phrase" with matchType := some .phrase }

/-- The rule for denials. -/
def denialRule : Rule := { valueRule "denial" with negated := some true }

/-- Rules of different ranks, and two of one rank that fit a phrase. -/
def manyRules : Snapshot where
  provenanceId := 1
  code := "a"
  taskType := "harvest"
  operation := "search"
  version := 1
  capturedAt := .epoch
  declarations := []
  dialect := .standard
  rules := [valueRule "any", { valueRule "text" with valueType := some "text" }, phraseRule,
    { valueRule "title" with field := some "title", priority := 1 }, denialRule]

/-- What a rule for a phrase in the author field is chosen by. -/
def phraseByAuthor : RuleQuery := .ofAtom (.phrase "author" "knuth")

/-- Of the two rules of one rank the one with the smaller name is selected, and the reversed rules
give the same answers. -/
theorem chooses_of_validate_manyRules :
    manyRules.validate = .ok () ∧
      manyRules.Chooses (fun r => r.Agrees manyRules phraseByAuthor ∧
        ∀ x, r.negated = some x → x = phraseByAuthor.negated) (some phraseRule) ∧
      { manyRules with rules := manyRules.rules.reverse }.selectRule? phraseByAuthor =
        some phraseRule ∧
      { manyRules with rules := manyRules.rules.reverse }.selectDenialRule? phraseByAuthor =
        some denialRule := by
  have hvalid : manyRules.validate = .ok () := by decide
  have hphrase : manyRules.selectRule? phraseByAuthor = some phraseRule := by decide
  have hdenial : manyRules.selectDenialRule? phraseByAuthor = some denialRule := by decide
  obtain ⟨hflag, -, hperm⟩ := chooses_of_validate hvalid phraseByAuthor
  obtain ⟨hreversed, hreversedDenial⟩ := hperm _ (List.reverse_perm _)
  exact ⟨hvalid, hphrase ▸ hflag, hreversed.trans hphrase, hreversedDenial.trans hdenial⟩

end Snapshot

end BiblioQuery
