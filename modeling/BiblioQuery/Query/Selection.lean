import BiblioQuery.Collection.Best
import BiblioQuery.Expr.Basic
import BiblioQuery.Provider.Snapshot
import BiblioQuery.Text.Case

/-!
# Selection of rules

An atom is written by the best of the rules that fit it.  A rule fits if all that it names agrees
with what is asked for and with the snapshot.  Of the rules that fit, the one that names most is
best, then the one with the highest priority, then the one with the smallest name.  As most rules
name a field or an operator, rules are looked up in an index by these two.

## Main definitions

* `RuleQuery` : what rules are chosen by, with `RuleQuery.ofAtom`.
* `Rule.fits` : a rule fits a query, its negation flag apart.
* `Rule.rankOrder` : the order of rules from worse to better.
* `RuleIndex` : rules by the field and the operator that they name.
* `Snapshot.candidates` : the rules for the field and the operator of a query.
* `Snapshot.selectRule?`, `Snapshot.selectDenialRule?` : the best rule for a query, and the best one
  among the rules for denials.
* `Snapshot.ruleFor?` : the rule that an atom is written by.

## Main results

* `RuleIndex.bucket_ofRules` : the index finds the rules that name a field and an operator.
* `Snapshot.fits_of_best?` : the best rule fits.
* `Snapshot.denied_of_ruleFor?` : which atoms are denied around what their rule writes.
-/

namespace BiblioQuery

/-! ### Queries for rules -/

/-- What rules are chosen by. -/
structure RuleQuery where
  /-- The field. -/
  field : String
  /-- The operator. -/
  operator : Operator
  /-- The way of comparing, if the operator has one. -/
  matchType : Option MatchType
  /-- The negation flag. -/
  negated : Bool
  /-- The value type. -/
  valueType : String
  deriving DecidableEq

namespace RuleQuery

/-- What a rule for an atom is chosen by. -/
def ofAtom (a : Atom) : RuleQuery where
  field := a.field
  operator := a.operator
  matchType := a.value.matchType?
  negated := a.negated
  valueType := a.value.valueType

/-- The same query with another negation flag. -/
def withFlag (q : RuleQuery) (negated : Bool) : RuleQuery := { q with negated := negated }

end RuleQuery

/-! ### Rules that fit -/

namespace Rule

/-- Beside field, operator and negation flag the rule names nothing but what the query and the
snapshot agree with. -/
def fits (r : Rule) (s : Snapshot) (q : RuleQuery) : Bool :=
  r.matchType.all (q.matchType == some ·) &&
  r.valueType.all (Text.sameLetters · q.valueType) &&
  r.scope.all (· == s.operation) && r.taskType.all (· == s.taskType) &&
  r.effective.contains s.capturedAt

/-- The rule is for atoms with the given negation flag. -/
def takesFlag (r : Rule) (negated : Bool) : Bool := r.negated.all (· == negated)

/-- The rule is for denials only. -/
def isForDenials (r : Rule) : Bool := r.negated == some true

/-- The order of rules from worse to better. -/
def rankOrder : Rule → Rule → Ordering :=
  compareLex (compareOn specificity)
    (compareLex (compareOn fun r => r.priority.toInt) fun r q => compare q.id r.id)

/-- The rule is taken over an earlier one, which is no better. -/
def supersedes (r earlier : Rule) : Bool := rankOrder earlier r != .gt

end Rule

/-! ### The index -/

/-- Rules by the operator that they name, if they name one. -/
abbrev OperatorBuckets := SortedMap (Option Operator) (List Rule)

namespace OperatorBuckets

/-- The rules that name the given operator, or none. -/
def bucket (b : OperatorBuckets) (operator : Option Operator) : List Rule :=
  (b.get? operator).getD []

/-- The buckets with one more rule, behind the rules that name the same operator. -/
def push (b : OperatorBuckets) (r : Rule) : OperatorBuckets :=
  b.insert r.operator (b.bucket r.operator ++ [r])

theorem bucket_push (b : OperatorBuckets) (r : Rule) (operator : Option Operator) :
    (b.push r).bucket operator =
      b.bucket operator ++ if r.operator = operator then [r] else [] := by
  rw [bucket, push, SortedMap.get?_insert]
  split
  · next h => rw [h, Option.getD_some]
  · rw [List.append_nil, bucket]

end OperatorBuckets

/-- Rules by the field and the operator that they name. -/
structure RuleIndex where
  /-- The rules that name a field. -/
  byField : SortedMap String OperatorBuckets
  /-- The rules that name none. -/
  anyField : OperatorBuckets

namespace RuleIndex

/-- The index without rules. -/
def empty : RuleIndex := ⟨.empty, .empty⟩

/-- The rules that name the given field, or none. -/
def buckets (ix : RuleIndex) : Option String → OperatorBuckets
  | some field => (ix.byField.get? field).getD .empty
  | none => ix.anyField

/-- The rules that name the given field, or none, and the given operator, or none. -/
def bucket (ix : RuleIndex) (field : Option String) (operator : Option Operator) : List Rule :=
  (ix.buckets field).bucket operator

/-- The index with one more rule. -/
def add (ix : RuleIndex) (r : Rule) : RuleIndex :=
  match r.field with
  | some field => { ix with byField := ix.byField.insert field ((ix.buckets field).push r) }
  | none => { ix with anyField := ix.anyField.push r }

/-- The index of rules. -/
def ofRules (rules : List Rule) : RuleIndex := rules.foldl add empty

theorem bucket_empty (field : Option String) (operator : Option Operator) :
    empty.bucket field operator = [] := by
  cases field <;> rfl

theorem bucket_add (ix : RuleIndex) (r : Rule) (field : Option String)
    (operator : Option Operator) :
    (ix.add r).bucket field operator = ix.bucket field operator ++
      if r.field = field ∧ r.operator = operator then [r] else [] := by
  have hbuckets : (ix.add r).buckets field =
      if r.field = field then (ix.buckets field).push r else ix.buckets field := by
    rw [add]
    cases hr : r.field with
    | none => cases field <;> simp [buckets]
    | some f =>
      cases field with
      | none => simp [buckets]
      | some g =>
        by_cases hfg : f = g
        · simp [buckets, SortedMap.get?_insert, hfg]
        · simp [buckets, SortedMap.get?_insert, hfg]
  rw [bucket, hbuckets, bucket]
  by_cases hfield : r.field = field
  · simp [hfield, OperatorBuckets.bucket_push]
  · simp [hfield]

/-- The index finds the rules that name a field and an operator, in their order. -/
theorem bucket_ofRules (rules : List Rule) (field : Option String) (operator : Option Operator) :
    (ofRules rules).bucket field operator =
      rules.filter fun r => r.field == field && r.operator == operator := by
  have hrun : ∀ ix : RuleIndex, (rules.foldl add ix).bucket field operator =
      ix.bucket field operator ++
        rules.filter fun r => r.field == field && r.operator == operator := by
    induction rules with
    | nil => simp
    | cons r rules ih =>
      intro ix
      rw [List.foldl_cons, ih, bucket_add, List.filter_cons, List.append_assoc]
      by_cases hr : r.field = field ∧ r.operator = operator
      · simp [hr]
      · simp [hr]
  rw [ofRules, hrun, bucket_empty, List.nil_append]

end RuleIndex

/-! ### Selection -/

namespace Snapshot

/-- The rules for the field and the operator of a query: those that name the field come first, and
of these the ones that name the operator. -/
def candidates (s : Snapshot) (q : RuleQuery) : List Rule :=
  let ix := RuleIndex.ofRules s.rules
  ix.bucket (some q.field) (some q.operator) ++ ix.bucket (some q.field) none ++
    ix.bucket none (some q.operator) ++ ix.bucket none none

/-- The best of the rules that fit a query and pass a test. -/
def best? (s : Snapshot) (q : RuleQuery) (test : Rule → Bool) : Option Rule :=
  BiblioQuery.best? Rule.supersedes ((s.candidates q).filter fun r => test r && r.fits s q)

/-- The best rule for a query; rules without negation flag are for both. -/
def selectRule? (s : Snapshot) (q : RuleQuery) : Option Rule := s.best? q (·.takesFlag q.negated)

/-- The best rule for a query among the rules for denials, whatever the negation flag of the
query. -/
def selectDenialRule? (s : Snapshot) (q : RuleQuery) : Option Rule := s.best? q Rule.isForDenials

/-- The best rule for an atom, taken with the given negation flag. -/
def select? (s : Snapshot) (a : Atom) (negated : Bool) : Option Rule :=
  s.selectRule? ((RuleQuery.ofAtom a).withFlag negated)

/-- The best rule for an atom among the rules for denials. -/
def selectDenial? (s : Snapshot) (a : Atom) : Option Rule := s.selectDenialRule? (.ofAtom a)

/-- The rule that an atom is written by, and whether what it writes has to be denied: a denial is
written by a rule for denials, if one fits, else by the rule for the opposite atom. -/
def ruleFor? (s : Snapshot) (a : Atom) : Option (Rule × Bool) :=
  if a.negated then
    match s.selectDenial? a with
    | some r => some (r, false)
    | none => (s.select? a false).map (·, true)
  else (s.select? a false).map (·, false)

theorem mem_candidates {s : Snapshot} {q : RuleQuery} {r : Rule} :
    r ∈ s.candidates q ↔ r ∈ s.rules ∧ (r.field = none ∨ r.field = some q.field) ∧
      (r.operator = none ∨ r.operator = some q.operator) := by
  simp only [candidates, RuleIndex.bucket_ofRules, List.mem_append, List.mem_filter,
    Bool.and_eq_true, beq_iff_eq]
  constructor
  · rintro (((⟨h, hf, ho⟩ | ⟨h, hf, ho⟩) | ⟨h, hf, ho⟩) | ⟨h, hf, ho⟩) <;> simp [h, hf, ho]
  · rintro ⟨h, hf | hf, ho | ho⟩ <;> simp [h, hf, ho]

/-- The best rule is a rule of the snapshot that fits. -/
theorem fits_of_best? {s : Snapshot} {q : RuleQuery} {test : Rule → Bool} {r : Rule}
    (h : s.best? q test = some r) :
    r ∈ s.rules ∧ (r.field = none ∨ r.field = some q.field) ∧
      (r.operator = none ∨ r.operator = some q.operator) ∧ test r = true ∧ r.fits s q = true := by
  have h := BiblioQuery.best?_mem h
  simp only [List.mem_filter, mem_candidates, Bool.and_eq_true] at h
  exact ⟨h.1.1, h.1.2.1, h.1.2.2, h.2.1, h.2.2⟩

/-- What a rule writes is denied if the atom is negated and no rule for denials fits it. -/
theorem denied_of_ruleFor? {s : Snapshot} {a : Atom} {r : Rule} {denied : Bool}
    (h : s.ruleFor? a = some (r, denied)) :
    denied = (a.negated && (s.selectDenial? a).isNone) := by
  rw [ruleFor?] at h
  split at h
  · rename_i hnegated
    split at h
    · rename_i hselected
      cases h
      simp [hselected]
    · rename_i hselected
      obtain ⟨_, _, ⟨⟩⟩ := Option.map_eq_some_iff.1 h
      simp [hnegated, hselected]
  · rename_i hnegated
    obtain ⟨_, _, ⟨⟩⟩ := Option.map_eq_some_iff.1 h
    simp [hnegated]

/-- The rule that an atom is written by is a rule of the snapshot. -/
theorem mem_rules_of_ruleFor? {s : Snapshot} {a : Atom} {r : Rule} {denied : Bool}
    (h : s.ruleFor? a = some (r, denied)) : r ∈ s.rules := by
  rw [ruleFor?] at h
  split at h
  · split at h
    · next hr =>
      cases h
      exact (fits_of_best? hr).1
    · obtain ⟨_, hr, ⟨⟩⟩ := Option.map_eq_some_iff.1 h
      exact (fits_of_best? hr).1
  · obtain ⟨_, hr, ⟨⟩⟩ := Option.map_eq_some_iff.1 h
    exact (fits_of_best? hr).1

end Snapshot

end BiblioQuery
