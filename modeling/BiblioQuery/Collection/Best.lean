/-!
# The best of a list

Going through a list, the best value seen so far is given up for every value that beats it.  With a
strict order the first of several equally good values stays; with a weak one the last of them.

## Main definitions

* `best?` : the best value of a list.

## Main results

* `best?_mem`, `best?_eq_none_iff` : the best value is one of the list, and only an empty list has
  none.
* `isLE_of_best?` : no value of the list is better.
-/

namespace BiblioQuery

variable {α : Type}

/-- The better of the best value so far and the next one. -/
def betterOf (beats : α → α → Bool) (a b : α) : α := if beats b a then b else a

/-- The best value of a list, where `beats b a` says that `b` is taken over an earlier `a`. -/
def best? (beats : α → α → Bool) : List α → Option α
  | [] => none
  | a :: r => some (r.foldl (betterOf beats) a)

theorem foldl_betterOf_mem (beats : α → α → Bool) (a : α) (r : List α) :
    r.foldl (betterOf beats) a ∈ a :: r := by
  induction r generalizing a with
  | nil => exact List.mem_singleton.2 rfl
  | cons b r ih =>
    have hb : betterOf beats a b = a ∨ betterOf beats a b = b := by
      unfold betterOf
      split
      · exact .inr rfl
      · exact .inl rfl
    rw [List.foldl_cons]
    rcases List.mem_cons.1 (ih (betterOf beats a b)) with h | h
    · rw [h]
      rcases hb with hb | hb
      · rw [hb]
        exact List.mem_cons_self
      · rw [hb]
        exact List.mem_cons_of_mem _ List.mem_cons_self
    · exact List.mem_cons_of_mem _ (List.mem_cons_of_mem _ h)

/-- The best value is one of the list. -/
theorem best?_mem {beats : α → α → Bool} {l : List α} {a : α} (h : best? beats l = some a) :
    a ∈ l := by
  cases l with
  | nil => cases h
  | cons b r =>
    simp only [best?, Option.some.injEq] at h
    exact h ▸ foldl_betterOf_mem beats b r

/-- Only an empty list has no best value. -/
theorem best?_eq_none_iff {beats : α → α → Bool} {l : List α} : best? beats l = none ↔ l = [] := by
  cases l <;> simp [best?]

section

variable {cmp : α → α → Ordering} [Std.TransCmp cmp]

theorem isLE_foldl_betterOf (a : α) (r : List α) :
    ∀ b ∈ a :: r, (cmp b (r.foldl (betterOf fun b a => cmp a b != .gt) a)).isLE = true := by
  induction r generalizing a with
  | nil => exact List.forall_mem_singleton.2 Std.ReflCmp.isLE_rfl
  | cons b r ih =>
    have hsteps : (cmp a (betterOf (fun b a => cmp a b != .gt) a b)).isLE = true ∧
        (cmp b (betterOf (fun b a => cmp a b != .gt) a b)).isLE = true := by
      rw [betterOf]
      split
      · next h =>
        have hle : (cmp a b).isLE = true := by cases hab : cmp a b <;> simp_all
        exact ⟨hle, Std.ReflCmp.isLE_rfl⟩
      · next h =>
        have hgt : cmp a b = .gt := by simpa using h
        exact ⟨Std.ReflCmp.isLE_rfl, by simp [Std.OrientedCmp.gt_iff_lt.1 hgt]⟩
    obtain ⟨hbest, hrest⟩ := List.forall_mem_cons.1 (ih (betterOf (fun b a => cmp a b != .gt) a b))
    rw [List.foldl_cons, List.forall_mem_cons, List.forall_mem_cons]
    exact ⟨Std.TransCmp.isLE_trans hsteps.1 hbest, Std.TransCmp.isLE_trans hsteps.2 hbest, hrest⟩

/-- No value of a list is better than the best one, if a value is taken over an earlier one that is
no better. -/
theorem isLE_of_best? {l : List α} {a : α} (h : best? (fun b a => cmp a b != .gt) l = some a) :
    ∀ b ∈ l, (cmp b a).isLE = true := by
  cases l with
  | nil => cases h
  | cons b r => exact Option.some.inj h ▸ isLE_foldl_betterOf b r

end

end BiblioQuery
