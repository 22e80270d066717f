/-!
# Sets of places

A place of a text is the number of characters before it.  A set of places is kept as the bits of one
number, so that joining two sets, or moving all places of a set on by one character, is one step.

## Main definitions

* `Places` : the sets, with `∈` for their members.
* `Places.union`, `Places.inter`, `Places.diff`, `Places.next` : the operations.
* `Places.below` : the places up to a bound at which something holds.

## Main results

* `Places.mem_union`, `Places.mem_inter`, `Places.mem_diff`, `Places.mem_next`, `Places.mem_below` :
  the members of the results.
-/

namespace BiblioQuery

/-- A set of places. -/
structure Places where
  /-- The number whose bits at the places of the set are one. -/
  bits : Nat
  deriving DecidableEq

namespace Places

instance : Membership Nat Places := ⟨fun ps i => ps.bits.testBit i = true⟩

/-- A place is in a set if its bit is one. -/
theorem mem_iff {ps : Places} {i : Nat} : i ∈ ps ↔ ps.bits.testBit i = true := Iff.rfl

instance (ps : Places) (i : Nat) : Decidable (i ∈ ps) :=
  inferInstanceAs (Decidable (ps.bits.testBit i = true))

/-- Sets with the same members are equal. -/
theorem ext_mem {ps qs : Places} (h : ∀ i, i ∈ ps ↔ i ∈ qs) : ps = qs := by
  obtain ⟨p⟩ := ps
  obtain ⟨q⟩ := qs
  congr 1
  exact Nat.eq_of_testBit_eq fun i => Bool.eq_iff_iff.2 (h i)

/-- No place. -/
def empty : Places := ⟨0⟩

@[simp]
theorem not_mem_empty (i : Nat) : ¬i ∈ empty := by
  simp [mem_iff, empty]

/-- There is no place in the set. -/
def isEmpty (ps : Places) : Bool := ps.bits == 0

/-- A set is empty if it is the set without places. -/
theorem isEmpty_iff {ps : Places} : ps.isEmpty = true ↔ ps = empty := by
  obtain ⟨p⟩ := ps
  simp [isEmpty, empty]

/-- The places of either set. -/
def union (ps qs : Places) : Places := ⟨ps.bits ||| qs.bits⟩

@[simp]
theorem mem_union {ps qs : Places} {i : Nat} : i ∈ ps.union qs ↔ i ∈ ps ∨ i ∈ qs := by
  simp [mem_iff, union]

/-- The places of both sets. -/
def inter (ps qs : Places) : Places := ⟨ps.bits &&& qs.bits⟩

@[simp]
theorem mem_inter {ps qs : Places} {i : Nat} : i ∈ ps.inter qs ↔ i ∈ ps ∧ i ∈ qs := by
  simp [mem_iff, inter]

/-- The places of the first set that are not in the second. -/
def diff (ps qs : Places) : Places := ⟨ps.bits ^^^ (ps.bits &&& qs.bits)⟩

@[simp]
theorem mem_diff {ps qs : Places} {i : Nat} : i ∈ ps.diff qs ↔ i ∈ ps ∧ ¬i ∈ qs := by
  simp only [mem_iff, diff, Nat.testBit_xor, Nat.testBit_and]
  cases ps.bits.testBit i <;> cases qs.bits.testBit i <;> simp

/-- The places one character after those of the set. -/
def next (ps : Places) : Places := ⟨2 * ps.bits⟩

@[simp]
theorem mem_next {ps : Places} {i : Nat} : i ∈ ps.next ↔ ∃ j ∈ ps, i = j + 1 := by
  simp only [mem_iff, next]
  cases i with
  | zero => simp
  | succ i => simp [Nat.testBit_succ]

/-- The bits at which something holds among a number of numbers from the given one on; the number is
doubled with each level. -/
def bitsFrom (p : Nat → Bool) : Nat → Nat → Nat
  | 0, i => if p i then 1 else 0
  | level + 1, i => bitsFrom p level i ||| bitsFrom p level (i + 1 <<< level) <<< (1 <<< level)

/-- The places up to a bound, the bound left out, at which something holds. -/
def below (n : Nat) (p : Nat → Bool) : Places :=
  ⟨bitsFrom (fun i => decide (i < n) && p i) (n.log2 + 1) 0⟩

theorem testBit_bitsFrom (p : Nat → Bool) (level i j : Nat) :
    (bitsFrom p level i).testBit j = (decide (j < 1 <<< level) && p (i + j)) := by
  induction level generalizing i j with
  | zero =>
    rw [bitsFrom]
    cases j with
    | zero => by_cases hp : p i = true <;> simp [hp]
    | succ j => by_cases hp : p i = true <;> simp [hp, Nat.testBit_succ]
  | succ level ih =>
    rw [bitsFrom, Nat.testBit_or, Nat.testBit_shiftLeft, ih, ih, Nat.shiftLeft_succ]
    by_cases h : j < 1 <<< level
    · have h' : j < 2 * 1 <<< level := by omega
      simp [h, h', Nat.not_le_of_gt h]
    · have hle : 1 <<< level ≤ j := Nat.le_of_not_gt h
      have hadd : i + 1 <<< level + (j - 1 <<< level) = i + j := by omega
      rw [hadd]
      by_cases h' : j < 2 * 1 <<< level
      · have h'' : j - 1 <<< level < 1 <<< level := by omega
        simp [h, h', h'', hle]
      · have h'' : ¬j - 1 <<< level < 1 <<< level := by omega
        simp [h, h', h'']

@[simp]
theorem mem_below {n : Nat} {p : Nat → Bool} {i : Nat} :
    i ∈ below n p ↔ i < n ∧ p i = true := by
  have hlt : n < 1 <<< (n.log2 + 1) := by
    rw [Nat.one_shiftLeft]
    exact Nat.lt_log2_self
  rw [mem_iff, below, testBit_bitsFrom]
  simp only [Nat.zero_add, Bool.and_eq_true, decide_eq_true_eq]
  exact ⟨fun h => h.2, fun h => ⟨Nat.lt_trans h.1 hlt, h⟩⟩

end Places

end BiblioQuery
