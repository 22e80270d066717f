import BiblioQuery.Proofs.Calendar.TimeLine
import BiblioQuery.Provider.Capability
import Mathlib.Data.List.Basic
import Mathlib.Tactic.MkIffOfInductiveProp

/-!
# Governing declarations

The declaration that governs a field is found in one pass that gives up the best one so far only for
a better one.  What is found can be said without the pass: of the declarations that apply it is the
first among those that none of the others is better than.  Declarations that do not apply make no
difference, wherever they stand, and where only one declaration is the best the arrangement makes no
difference either.

## Main definitions

* `IsFirstBest` : a value is the first of the best values of a list.
* `Declaration.Applies` : a declaration is for a field and holds at an instant.
* `Declaration.PrevailsOver` : a declaration governs rather than another one.
* `Declaration.IsBest` : a declaration applies, and none that applies prevails over it.

## Main results

* `best?_eq_some_iff` : the best value that a pass finds is the first of the best values.
* `Declaration.governing?_eq_some_iff` : the governing declaration is the first of the best ones.
* `Declaration.first_best_governs` : which declaration governs, and what makes no difference to
  that.
-/

namespace BiblioQuery

/-! ### The first of the best values -/

section

variable {α : Type} {cmp : α → α → Ordering} {l r : List α} {a b : α}

/-- The value stands in the list with nothing but worse values before it and no better value after
it. -/
def IsFirstBest (cmp : α → α → Ordering) (l : List α) (a : α) : Prop :=
  ∃ before after, l = before ++ a :: after ∧ (∀ b ∈ before, cmp b a = .lt) ∧
    ∀ b ∈ after, cmp a b ≠ .lt

theorem isFirstBest_singleton (a : α) : IsFirstBest cmp [a] a :=
  ⟨[], [], rfl, List.forall_mem_nil _, List.forall_mem_nil _⟩

/-- A list has at most one first of the best values. -/
theorem IsFirstBest.unique (ha : IsFirstBest cmp l a) (hb : IsFirstBest cmp l b) : a = b := by
  obtain ⟨before, after, hl, hbefore, hafter⟩ := ha
  obtain ⟨before', after', hl', hbefore', hafter'⟩ := hb
  rcases List.append_eq_append_iff.1 (hl.symm.trans hl') with
    ⟨between, rfl, htail⟩ | ⟨between, rfl, htail⟩
  · rcases List.cons_eq_append_iff.1 htail with ⟨rfl, hcons⟩ | ⟨between, rfl, rfl⟩
    · exact (List.cons.inj hcons).1.symm
    · exact absurd (hbefore' a (by simp)) (hafter b (by simp))
  · rcases List.cons_eq_append_iff.1 htail with ⟨rfl, hcons⟩ | ⟨between, rfl, rfl⟩
    · exact (List.cons.inj hcons).1
    · exact absurd (hbefore b (by simp)) (hafter' a (by simp))

variable [Std.TransCmp cmp]

/-- With one more value at the end, the better of it and the first of the best values so far is the
first of the best values, where a later value has to be strictly better. -/
theorem IsFirstBest.concat (h : IsFirstBest cmp l a) (b : α) :
    IsFirstBest cmp (l ++ [b]) (betterOf (fun b a => cmp b a == .gt) a b) := by
  obtain ⟨before, after, rfl, hbefore, hafter⟩ := h
  rw [betterOf]
  split
  · next hgt =>
    have hab : cmp a b = .lt := Std.OrientedCmp.gt_iff_lt.1 (eq_of_beq hgt)
    refine ⟨before ++ a :: after, [], rfl, fun c hc => ?_, List.forall_mem_nil _⟩
    rcases List.mem_append.1 hc with hc | hc
    · exact Std.TransCmp.lt_trans (hbefore c hc) hab
    rcases List.mem_cons.1 hc with rfl | hc
    · exact hab
    · have hle : (cmp c a).isLE = true := by
        rw [← Std.OrientedCmp.isGE_iff_isLE, Ordering.isGE_iff_ne_lt]
        exact hafter c hc
      exact Std.TransCmp.lt_of_isLE_of_lt hle hab
  · next hgt =>
    have hab : cmp a b ≠ .lt := by simpa [← Std.OrientedCmp.gt_iff_lt] using hgt
    refine ⟨before, after ++ [b], by simp, hbefore, fun c hc => ?_⟩
    rcases List.mem_append.1 hc with hc | hc
    · exact hafter c hc
    · exact List.mem_singleton.1 hc ▸ hab

/-- A pass over more values keeps the first of the best values. -/
theorem IsFirstBest.foldl (h : IsFirstBest cmp l a) (r : List α) :
    IsFirstBest cmp (l ++ r) (r.foldl (betterOf fun b a => cmp b a == .gt) a) := by
  induction r generalizing l a with
  | nil => rwa [List.append_nil]
  | cons b r ih =>
    rw [List.foldl_cons, List.append_cons]
    exact ih (h.concat b)

/-- The best value that a pass finds is the first of the best values, if a later value is taken only
where it is strictly better. -/
theorem best?_eq_some_iff : best? (fun b a => cmp b a == .gt) l = some a ↔ IsFirstBest cmp l a := by
  have hfound {c : α} (h : best? (fun b a => cmp b a == .gt) l = some c) : IsFirstBest cmp l c := by
    cases l with
    | nil => cases h
    | cons b r => exact Option.some.inj h ▸ (isFirstBest_singleton b).foldl r
  refine ⟨hfound, fun ha => ?_⟩
  cases h : best? (fun b a => cmp b a == .gt) l with
  | none =>
    obtain ⟨before, after, hl, -⟩ := ha
    simp [best?_eq_none_iff.1 h] at hl
  | some c => rw [(hfound h).unique ha]

end

/-! ### Declarations that apply -/

namespace Declaration

variable {ds ds' : List Declaration} {d e : Declaration} {field scope taskType : String}
  {i : Instant}

/-- The declaration is for the field, and it holds for the operation and the task at the instant:
from its start, included, to its end, excluded. -/
@[mk_iff]
structure Applies (d : Declaration) (field scope taskType : String) (i : Instant) : Prop where
  /-- The field is the one that is asked for. -/
  field : d.field = field
  /-- So is the operation, if one is named. -/
  scope : ∀ x, d.scope = some x → x = scope
  /-- So is the task. -/
  taskType : ∀ x, d.taskType = some x → x = taskType
  /-- The start, if there is one, is no later than the instant. -/
  started : ∀ x, d.effective.start = some x → compare x i ≠ .gt
  /-- The end, if there is one, is later than the instant. -/
  lasting : ∀ x, d.effective.stop = some x → compare i x = .lt

/-- An instant lies in a window if it is neither before the start nor at the end or after it. -/
theorem contains_iff {w : Window} : w.contains i = true ↔
    (∀ x, w.start = some x → compare x i ≠ .gt) ∧ ∀ x, w.stop = some x → compare i x = .lt := by
  have hstart (x : Instant) : x.atMost i = true ↔ compare x i ≠ .gt := Ordering.isLE_iff_ne_gt
  have hstop (x : Instant) : (!x.atMost i) = true ↔ compare i x = .lt := by
    rw [Instant.atMost, ← Std.OrientedCmp.gt_iff_lt]
    cases compare x i <;> simp
  simp only [Window.contains, Bool.and_eq_true, Option.all_eq_true, hstart, hstop]

/-- The candidates are the declarations that apply. -/
theorem applicable_eq_true_iff :
    (d.field == field && d.appliesTo scope taskType i) = true ↔
      d.Applies field scope taskType i := by
  simp only [applies_iff, appliesTo, Bool.and_eq_true, Option.all_eq_true, beq_iff_eq,
    contains_iff, and_assoc]

/-! ### Declarations that prevail -/

/-- The declaration starts to hold later than another one, where an open start is the earliest. -/
def StartsLater (d e : Declaration) : Prop :=
  ∃ x, d.effective.start = some x ∧ ∀ y, e.effective.start = some y → compare y x = .lt

/-- The declaration governs rather than another one: it names more of operation and task, or as
much and starts later. -/
def PrevailsOver (d e : Declaration) : Prop :=
  e.specificity < d.specificity ∨ e.specificity = d.specificity ∧ d.StartsLater e

/-- The declarations that come later in the order of ranks are those that prevail. -/
theorem rankOrder_eq_lt_iff : rankOrder e d = .lt ↔ d.PrevailsOver e := by
  have hstart : compare e.effective.start d.effective.start = .lt ↔ d.StartsLater e := by
    rw [StartsLater]
    cases hd : d.effective.start with
    | none => cases e.effective.start <;> simp [compare]
    | some x => cases e.effective.start <;> simp [compare]
  simp only [rankOrder, compareLex, compareOn, Ordering.then_eq_lt, PrevailsOver, hstart,
    Nat.compare_eq_lt, Nat.compare_eq_eq]

/-- The declaration is one of the list, applies, and none that applies prevails over it. -/
@[mk_iff]
structure IsBest (ds : List Declaration) (field scope taskType : String) (i : Instant)
    (d : Declaration) : Prop where
  /-- It is one of the list. -/
  mem : d ∈ ds
  /-- It applies. -/
  applies : d.Applies field scope taskType i
  /-- None that applies prevails over it. -/
  best : ∀ e ∈ ds, e.Applies field scope taskType i → ¬e.PrevailsOver d

/-! ### The governing declaration -/

instance : Std.TransCmp rankOrder :=
  inferInstanceAs (Std.TransCmp (compareLex (compareOn specificity)
    (compareOn fun d => d.effective.start)))

/-- Nothing governs exactly if no declaration applies. -/
theorem governing?_eq_none_iff : governing? ds field scope taskType i = none ↔
    ∀ d ∈ ds, ¬d.Applies field scope taskType i := by
  rw [governing?, best?_eq_none_iff, applicable, List.filter_eq_nil_iff]
  simp only [applicable_eq_true_iff]

/-- The governing declaration is the first of the best: it prevails over those before it that apply,
and none of those after it that apply prevails over it. -/
theorem governing?_eq_some_iff : governing? ds field scope taskType i = some d ↔
    ∃ before after, ds = before ++ d :: after ∧ d.Applies field scope taskType i ∧
      (∀ e ∈ before, e.Applies field scope taskType i → d.PrevailsOver e) ∧
      ∀ e ∈ after, e.Applies field scope taskType i → ¬e.PrevailsOver d := by
  have hranks : governing? ds field scope taskType i = some d ↔
      IsFirstBest rankOrder (applicable ds field scope taskType i) d := best?_eq_some_iff
  simp only [hranks, IsFirstBest, applicable, ← rankOrder_eq_lt_iff, ← applicable_eq_true_iff]
  constructor
  · rintro ⟨first, rest, hfilter, hfirst, hrest⟩
    obtain ⟨l, tail, rfl, rfl, hcons⟩ := List.filter_eq_append_iff.1 hfilter
    obtain ⟨skipped, after, rfl, hskipped, hd, rfl⟩ := List.filter_eq_cons_iff.1 hcons
    refine ⟨l ++ skipped, after, by simp, hd, fun e he happlies => ?_, fun e he happlies =>
      hrest e (List.mem_filter.2 ⟨he, happlies⟩)⟩
    rcases List.mem_append.1 he with he | he
    · exact hfirst e (List.mem_filter.2 ⟨he, happlies⟩)
    · exact absurd happlies (hskipped e he)
  · rintro ⟨before, after, rfl, hd, hbefore, hafter⟩
    refine ⟨_, _, by rw [List.filter_append, List.filter_cons, if_pos hd], fun e he => ?_,
      fun e he => ?_⟩
    · exact hbefore e (List.mem_filter.1 he).1 (List.mem_filter.1 he).2
    · exact hafter e (List.mem_filter.1 he).1 (List.mem_filter.1 he).2

/-- What governs is one of the best. -/
theorem isBest_of_governing? (h : governing? ds field scope taskType i = some d) :
    IsBest ds field scope taskType i d := by
  obtain ⟨before, after, rfl, happlies, hbefore, hafter⟩ := governing?_eq_some_iff.1 h
  refine ⟨by simp, happlies, fun e he heapplies hprevails => ?_⟩
  rcases List.mem_append.1 he with he | he
  · have hlt := rankOrder_eq_lt_iff.2 (hbefore e he heapplies)
    have hgt := Std.OrientedCmp.gt_iff_lt.2 (rankOrder_eq_lt_iff.2 hprevails)
    simp [hlt] at hgt
  rcases List.mem_cons.1 he with rfl | he
  · have hlt := rankOrder_eq_lt_iff.2 hprevails
    simp [Std.ReflCmp.compare_self] at hlt
  · exact hafter e he heapplies hprevails

/-- Declarations that do not apply make no difference. -/
theorem governing?_insert {before added after : List Declaration}
    (h : ∀ d ∈ added, ¬d.Applies field scope taskType i) :
    governing? (before ++ added ++ after) field scope taskType i =
      governing? (before ++ after) field scope taskType i := by
  have hadded : applicable added field scope taskType i = [] := by
    rw [applicable, List.filter_eq_nil_iff]
    simpa only [applicable_eq_true_iff] using h
  rw [applicable] at hadded
  simp only [governing?, applicable, List.filter_append, hadded, List.append_nil]

/-- If only one declaration is the best, it governs in every arrangement. -/
theorem governing?_perm (hperm : ds'.Perm ds)
    (hunique : ∀ d e, IsBest ds field scope taskType i d → IsBest ds field scope taskType i e →
      d = e) :
    governing? ds' field scope taskType i = governing? ds field scope taskType i := by
  have hbest (d : Declaration) (h : IsBest ds' field scope taskType i d) :
      IsBest ds field scope taskType i d :=
    ⟨hperm.mem_iff.1 h.mem, h.applies, fun e he => h.best e (hperm.mem_iff.2 he)⟩
  cases h' : governing? ds' field scope taskType i with
  | none =>
    have hnone := governing?_eq_none_iff.1 h'
    exact (governing?_eq_none_iff.2 fun d hd => hnone d (hperm.mem_iff.2 hd)).symm
  | some d' =>
    have hd' := hbest d' (isBest_of_governing? h')
    cases h : governing? ds field scope taskType i with
    | none => exact absurd hd'.applies (governing?_eq_none_iff.1 h d' hd'.mem)
    | some d => rw [hunique d' d hd' (isBest_of_governing? h)]

/-- A field has no governing declaration exactly if none applies.  Else the first of the best of
those that apply governs: it prevails over each one before it and is prevailed over by none after
it.  Further declarations that do not apply make no difference, wherever they are inserted, nor does
the arrangement where only one declaration is the best. -/
theorem first_best_governs (ds : List Declaration) (field scope taskType : String) (i : Instant) :
    (governing? ds field scope taskType i = none ↔
      ∀ d ∈ ds, ¬d.Applies field scope taskType i) ∧
    (∀ d, governing? ds field scope taskType i = some d ↔
      ∃ before after, ds = before ++ d :: after ∧ d.Applies field scope taskType i ∧
        (∀ e ∈ before, e.Applies field scope taskType i → d.PrevailsOver e) ∧
        ∀ e ∈ after, e.Applies field scope taskType i → ¬e.PrevailsOver d) ∧
    (∀ before added after, ds = before ++ after →
      (∀ d ∈ added, ¬d.Applies field scope taskType i) →
        governing? (before ++ added ++ after) field scope taskType i =
          governing? ds field scope taskType i) ∧
    ∀ ds', ds'.Perm ds →
      (∀ d e, IsBest ds field scope taskType i d → IsBest ds field scope taskType i e → d = e) →
        governing? ds' field scope taskType i = governing? ds field scope taskType i := by
  refine ⟨governing?_eq_none_iff, fun d => governing?_eq_some_iff, ?_, fun ds' => governing?_perm⟩
  rintro before added after rfl h
  exact governing?_insert h

-- Of two declarations for one operation the one with a start prevails, and of two that start
-- together the first one; the one for another task, which names more, does not apply.
example :
    let searches : Declaration := { of "title" with scope := some "search" }
    let since : Declaration := { searches with effective := .starting .epoch }
    governing? [{ since with taskType := some "other" }, searches, since.allow .term, since] "title"
      "search" "harvest" .epoch = some (since.allow .term) := by decide

end Declaration

end BiblioQuery
