import BiblioQuery.Text.CaseTable

/-!
# Ranges of code points

A set of characters as a list of ranges: ascending, apart from each other by at least one code
point, and without surrogates.  The ends of a range belong to it.

## Main definitions

* `CodeRange.insert`, `CodeRange.union` : a range more, and all ranges of two lists.
* `CodeRange.compl`, `CodeRange.inter`, `CodeRange.diff` : the characters that a list lacks, those
  of both lists, and those of one list that another lacks.
* `CodeRange.between` : the characters between two.

## Main results

* `CodeRange.inRanges_insert` : a list with a range more has the code points of both.
-/

namespace BiblioQuery.CodeRange

/-- A list with one more range, which takes in those that it overlaps or touches. -/
def insert (r : Nat × Nat) : List (Nat × Nat) → List (Nat × Nat)
  | [] => [r]
  | q :: qs =>
    if r.2 + 1 < q.1 then r :: q :: qs
    else if q.2 + 1 < r.1 then q :: insert r qs
    else insert (min r.1 q.1, max r.2 q.2) qs

/-- A list with one more range has the code points of the list and those of the range. -/
theorem inRanges_insert (r : Nat × Nat) (rs : List (Nat × Nat)) (n : Nat) (hr : r.1 ≤ r.2)
    (hrs : ∀ q ∈ rs, q.1 ≤ q.2) :
    Text.inRanges (insert r rs) n = (decide (r.1 ≤ n ∧ n ≤ r.2) || Text.inRanges rs n) := by
  induction rs generalizing r with
  | nil => simp [insert, Text.inRanges]
  | cons q qs ih =>
    have hq : q.1 ≤ q.2 := hrs q List.mem_cons_self
    have hqs : ∀ p ∈ qs, p.1 ≤ p.2 := fun p hp => hrs p (List.mem_cons_of_mem q hp)
    unfold insert
    split
    · simp [Text.inRanges]
    · split
      · have := ih r hr hqs
        simp only [Text.inRanges, List.any_cons] at this ⊢
        rw [this, Bool.or_left_comm]
      · rw [ih _ (by simp only [Nat.min_def, Nat.max_def]; split <;> split <;> omega) hqs]
        simp only [Text.inRanges, List.any_cons]
        rw [← Bool.or_assoc]
        congr 1
        rw [Bool.eq_iff_iff]
        simp only [Bool.or_eq_true, Bool.and_eq_true, decide_eq_true_eq]
        omega

/-- The code points of either list. -/
def union (rs qs : List (Nat × Nat)) : List (Nat × Nat) := rs.foldr insert qs

/-- The code points that are not in an ascending list, from the given one up to the last of all. -/
def gapsFrom (start : Nat) : List (Nat × Nat) → List (Nat × Nat)
  | [] => if start ≤ 0x10FFFF then [(start, 0x10FFFF)] else []
  | r :: rs =>
    if start < r.1 then (start, r.1 - 1) :: gapsFrom (r.2 + 1) rs else gapsFrom (r.2 + 1) rs

/-- The characters that are not in a list. -/
def compl (rs : List (Nat × Nat)) : List (Nat × Nat) := gapsFrom 0 (insert (0xD800, 0xDFFF) rs)

/-- The characters of both lists. -/
def inter (rs qs : List (Nat × Nat)) : List (Nat × Nat) := compl (union (compl rs) (compl qs))

/-- The characters of the first list that are not in the second one. -/
def diff (rs qs : List (Nat × Nat)) : List (Nat × Nat) := inter rs (compl qs)

/-- The characters between two, both included. -/
def between (first last : Char) : List (Nat × Nat) :=
  if last < first then []
  else if first.toNat < 0xD800 ∧ 0xDFFF < last.toNat then
    [(first.toNat, 0xD7FF), (0xE000, last.toNat)]
  else [(first.toNat, last.toNat)]

end BiblioQuery.CodeRange
