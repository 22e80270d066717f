import BiblioQuery.Pattern.Regex
import Mathlib.Data.Finset.Card
import Mathlib.Order.Interval.Finset.Nat

/-!
# Matching finds the stretches of an expression

Matching computes sets of places, while the stretches that an expression describes are given by a
relation.  Both say the same: a place is found from a set of places if and only if a stretch that
the expression describes leads from a place of the set to it.

A repetition describes what a number of rounds of its body does.  A repetition without a limit is
followed for as many rounds as a text has places.  That is enough, because each round either reaches
a new place or shows that there is none.

## Main definitions

* `Rounds` : a number of rounds of a relation.
* `Overlay.Spans` : the stretches of an expression laid over a text, as a relation.
* `Overlay.IsWithin` : an overlay does not leave a text.

## Main results

* `Regex.matches_repetition_iff` : the stretches of a repetition as rounds of its body.
* `Overlay.spans_repeated` : joining a repetition with one inside it keeps the stretches.
* `Regex.spans_over_iff` : an expression and its overlay describe the same stretches.
* `Overlay.mem_reach_iff` : the places that matching finds.
* `Regex.occursIn_iff` : some stretch of a text is found if and only if some stretch matches.
-/

namespace BiblioQuery

/-- A number of rounds of a relation lead from a place to a place. -/
def Rounds (R : Nat → Nat → Prop) : Nat → Nat → Nat → Prop
  | 0, i, j => i = j
  | n + 1, i, k => ∃ j, R i j ∧ Rounds R n j k

namespace Rounds

variable {R S : Nat → Nat → Prop} {m n i j k bound : Nat}

theorem one_iff : Rounds R 1 i j ↔ R i j := by
  simp [Rounds]

theorem add_iff : Rounds R (m + n) i k ↔ ∃ j, Rounds R m i j ∧ Rounds R n j k := by
  induction m generalizing i with
  | zero => simp [Rounds]
  | succ m ih =>
    rw [Nat.succ_add]
    simp only [Rounds, ih]
    exact ⟨fun ⟨x, hx, y, hxy, hy⟩ => ⟨y, ⟨x, hx, hxy⟩, hy⟩,
      fun ⟨y, ⟨x, hx, hxy⟩, hy⟩ => ⟨x, hx, y, hxy, hy⟩⟩

/-- Rounds lead nowhere else if one does not. -/
theorem closed {P : Nat → Prop} (hP : ∀ i, P i → ∀ j, R i j → P j) (h : Rounds R n i j)
    (hi : P i) : P j := by
  induction n generalizing i with
  | zero => exact h ▸ hi
  | succ n ih =>
    obtain ⟨x, hx, hrest⟩ := h
    exact ih hrest (hP i hi x hx)

/-- Relations that agree where one of them leads have the same rounds there. -/
theorem congr {P : Nat → Prop} (hRS : ∀ i, P i → ∀ j, R i j ↔ S i j)
    (hP : ∀ i, P i → ∀ j, S i j → P j) (hi : P i) : Rounds R n i j ↔ Rounds S n i j := by
  induction n generalizing i with
  | zero => rfl
  | succ n ih =>
    simp only [Rounds]
    refine exists_congr fun x => ?_
    rw [hRS i hi x]
    exact and_congr_right fun hx => ih (hP i hi x hx)

end Rounds

/-- A number of rounds that a repetition may have. -/
def MayRepeat (min : Nat) (more : Option Nat) (n : Nat) : Prop :=
  min ≤ n ∧ ∀ m ∈ more, n ≤ min + m

/-! ### Expressions -/

namespace Regex

variable {text : Array Char} {r : Regex} {min : Nat} {more : Option Nat} {greedy : Bool}
  {n i j : Nat}

theorem Matches.exists_rounds (h : Matches text (.repetition min more greedy r) i j) :
    ∃ n, MayRepeat min more n ∧ Rounds (Matches text r) n i j := by
  generalize hq : Regex.repetition min more greedy r = q at h
  induction h generalizing min more with
  | repetitionNext hround _ _ ih =>
    cases hq
    obtain ⟨n, ⟨hmin, hmore⟩, hn⟩ := ih rfl
    exact ⟨n + 1, ⟨by omega, fun m hm => by have := hmore m hm; omega⟩, _, hround, hn⟩
  | repetitionMore hne hround _ _ ih =>
    cases hq
    obtain ⟨n, ⟨-, hmore⟩, hn⟩ := ih rfl
    refine ⟨n + 1, ⟨Nat.zero_le _, fun m hm => ?_⟩, _, hround, hn⟩
    cases m with
    | zero => exact absurd hm hne
    | succ m =>
      have := hmore m (by simp [Option.mem_def.1 hm])
      omega
  | repetitionDone =>
    cases hq
    exact ⟨0, ⟨Nat.le_refl 0, fun m _ => Nat.zero_le _⟩, rfl⟩
  | _ => cases hq

theorem Matches.repetition (hmay : MayRepeat min more n) (h : Rounds (Matches text r) n i j) :
    Matches text (.repetition min more greedy r) i j := by
  induction n generalizing min more i with
  | zero =>
    obtain rfl : min = 0 := Nat.le_zero.1 hmay.1
    exact h ▸ .repetitionDone
  | succ n ih =>
    obtain ⟨x, hx, hrest⟩ := h
    obtain ⟨hmin, hmore⟩ := hmay
    cases min with
    | succ min =>
      exact .repetitionNext hx (ih ⟨by omega, fun m hm => by have := hmore m hm; omega⟩ hrest)
    | zero =>
      refine .repetitionMore (fun hzero => ?_) hx (ih ⟨Nat.zero_le _, fun m hm => ?_⟩ hrest)
      · have := hmore 0 hzero
        omega
      · obtain ⟨l, hl, rfl⟩ := Option.mem_map.1 hm
        have := hmore l hl
        omega

/-- A repetition describes what rounds of its body do. -/
theorem matches_repetition_iff : Matches text (.repetition min more greedy r) i j ↔
    ∃ n, MayRepeat min more n ∧ Rounds (Matches text r) n i j :=
  ⟨Matches.exists_rounds, fun ⟨_, hmay, h⟩ => .repetition hmay h⟩

/-- A stretch that starts in a text ends in it. -/
theorem Matches.le_size (h : Matches text r i j) (hi : i ≤ text.size) : j ≤ text.size := by
  induction h with
  | chars hc => exact (Array.getElem?_eq_some_iff.1 hc).1
  | seq _ _ ihl ihr => exact ihr (ihl hi)
  | repetitionNext _ _ ihl ihr => exact ihr (ihl hi)
  | repetitionMore _ _ _ ihl ihr => exact ihr (ihl hi)
  | altLeft _ ih => exact ih hi
  | altRight _ ih => exact ih hi
  | group _ ih => exact ih hi
  | _ => exact hi

end Regex

/-! ### Overlays -/

namespace Overlay

variable {o a b : Overlay} {min : Nat} {more : Option Nat} {n i j bound : Nat}

/-- The stretch between two places is one that an overlay describes. -/
def Spans : Overlay → Nat → Nat → Prop
  | .stay ps => fun i j => i ∈ ps ∧ j = i
  | .step ps => fun i j => i ∈ ps ∧ j = i + 1
  | .seq a b => fun i k => ∃ j, a.Spans i j ∧ b.Spans j k
  | .alt a b => fun i j => a.Spans i j ∨ b.Spans i j
  | .repetition min more a => fun i j => ∃ n, MayRepeat min more n ∧ Rounds a.Spans n i j

/-- Rounds of a repetition without limit are enough rounds of its body. -/
theorem rounds_repetition_iff : Rounds (repetition min none b).Spans (n + 1) i j ↔
    ∃ k, (n + 1) * min ≤ k ∧ Rounds b.Spans k i j := by
  induction n generalizing i with
  | zero => simp [Rounds.one_iff, Spans, MayRepeat]
  | succ n ih =>
    rw [Rounds]
    simp only [ih]
    constructor
    · rintro ⟨x, ⟨k, ⟨hk, -⟩, hx⟩, l, hl, hrest⟩
      exact ⟨k + l, by rw [Nat.succ_mul]; omega, Rounds.add_iff.2 ⟨x, hx, hrest⟩⟩
    · rintro ⟨k, hk, h⟩
      rw [Nat.succ_mul] at hk
      obtain ⟨l, rfl⟩ : ∃ l, k = min + l := ⟨k - min, by omega⟩
      obtain ⟨x, hx, hrest⟩ := Rounds.add_iff.1 h
      exact ⟨x, ⟨min, ⟨Nat.le_refl min, by simp⟩, hx⟩, l, by omega, hrest⟩

/-- A repetition that may have rounds, of a repetition without limit from at most one round on, is
one repetition. -/
theorem spans_repetition_repetition {low : Nat} (hlow : low ≤ 1) (h : ¬(min = 0 ∧ more = some 0)) :
    (repetition min more (.repetition low none b)).Spans i j ↔
      (repetition (low * min) none b).Spans i j := by
  constructor
  · rintro ⟨n, ⟨hmin, -⟩, hn⟩
    cases n with
    | zero =>
      obtain rfl : min = 0 := Nat.le_zero.1 hmin
      exact ⟨0, ⟨by omega, by simp⟩, hn⟩
    | succ n =>
      obtain ⟨k, hk, hrounds⟩ := rounds_repetition_iff.1 hn
      refine ⟨k, ⟨Nat.le_trans ?_ hk, by simp⟩, hrounds⟩
      rw [Nat.mul_comm]
      exact Nat.mul_le_mul_right low hmin
  · rintro ⟨k, ⟨hk, -⟩, hrounds⟩
    cases min with
    | succ min =>
      refine ⟨min + 1, ⟨Nat.le_refl _, by omega⟩, rounds_repetition_iff.2 ⟨k, ?_, hrounds⟩⟩
      rwa [Nat.mul_comm]
    | zero =>
      cases k with
      | zero => exact ⟨0, ⟨Nat.le_refl 0, by omega⟩, hrounds⟩
      | succ k =>
        refine ⟨1, ⟨Nat.zero_le 1, fun m hm => ?_⟩, Rounds.one_iff.2 ⟨k + 1, ⟨by omega, by simp⟩,
          hrounds⟩⟩
        cases m with
        | zero => exact absurd ⟨rfl, hm⟩ h
        | succ m => omega

/-- Joining a repetition with one inside it keeps the stretches. -/
theorem spans_repeated : (repeated min more a).Spans i j ↔ (repetition min more a).Spans i j := by
  fun_cases repeated min more a with
  | case1 => rfl
  | case2 min more b h =>
    rw [spans_repetition_repetition (Nat.zero_le 1) fun ⟨hmin, hmore⟩ => h hmin hmore, Nat.zero_mul]
  | case3 min more b h =>
    rw [spans_repetition_repetition (Nat.le_refl 1) fun ⟨hmin, hmore⟩ => h hmin hmore, Nat.one_mul]
  | case4 => rfl

/-- The overlay describes no stretch that leaves a text of the given number of places. -/
def IsWithin (bound : Nat) : Overlay → Prop
  | .stay ps => ∀ i ∈ ps, i ≤ bound
  | .step ps => ∀ i ∈ ps, i < bound
  | .seq a b => a.IsWithin bound ∧ b.IsWithin bound
  | .alt a b => a.IsWithin bound ∧ b.IsWithin bound
  | .repetition _ _ a => a.IsWithin bound

theorem IsWithin.repeated (h : a.IsWithin bound) : (repeated min more a).IsWithin bound := by
  fun_cases Overlay.repeated min more a <;> exact h

theorem IsWithin.le (h : o.IsWithin bound) (hi : i ≤ bound) (hspan : o.Spans i j) : j ≤ bound := by
  induction o generalizing i j with
  | stay ps => exact hspan.2 ▸ hi
  | step ps => exact hspan.2 ▸ h i hspan.1
  | seq a b iha ihb =>
    obtain ⟨x, ha, hb⟩ := hspan
    exact ihb h.2 (iha h.1 hi ha) hb
  | alt a b iha ihb =>
    cases hspan with
    | inl ha => exact iha h.1 hi ha
    | inr hb => exact ihb h.2 hi hb
  | repetition min more a ih =>
    obtain ⟨n, -, hn⟩ := hspan
    exact hn.closed (P := (· ≤ bound)) (fun i hi j hround => ih h hi hround) hi

end Overlay

namespace Regex

variable {text : Array Char} {r : Regex} {i j : Nat}

/-- No expression leaves the text over which it is laid. -/
theorem isWithin_over (text : Array Char) (r : Regex) : (r.over text).IsWithin text.size := by
  induction r with
  | empty => exact fun i hi => Nat.le_of_lt_succ (Places.mem_below.1 hi).1
  | chars s => exact fun i hi => (Places.mem_below.1 hi).1
  | assertion a => exact fun i hi => Nat.le_of_lt_succ (Places.mem_below.1 hi).1
  | seq r s ihr ihs => exact ⟨ihr, ihs⟩
  | alt r s ihr ihs => exact ⟨ihr, ihs⟩
  | repetition min more greedy r ih => exact ih.repeated
  | group captured r ih => exact ih

/-- An expression describes the same stretches as its overlay. -/
theorem spans_over_iff (hi : i ≤ text.size) : (r.over text).Spans i j ↔ Matches text r i j := by
  induction r generalizing i j with
  | empty =>
    refine ⟨?_, fun h => ?_⟩
    · rintro ⟨-, rfl⟩
      exact .empty _
    · cases h
      exact ⟨Places.mem_below.2 ⟨Nat.lt_succ_of_le hi, rfl⟩, rfl⟩
  | chars s =>
    refine ⟨?_, fun h => ?_⟩
    · rintro ⟨hmem, rfl⟩
      obtain ⟨c, hc, hs⟩ := (Option.any_eq_true _ _).1 (Places.mem_below.1 hmem).2
      exact .chars hc hs
    · cases h with
      | chars hc hs =>
        have hlt := (Array.getElem?_eq_some_iff.1 hc).1
        exact ⟨Places.mem_below.2 ⟨hlt, (Option.any_eq_true _ _).2 ⟨_, hc, hs⟩⟩, rfl⟩
  | assertion a =>
    refine ⟨?_, fun h => ?_⟩
    · rintro ⟨hmem, rfl⟩
      exact .assertion (Places.mem_below.1 hmem).2
    · cases h with
      | assertion ha => exact ⟨Places.mem_below.2 ⟨Nat.lt_succ_of_le hi, ha⟩, rfl⟩
  | seq r s ihr ihs =>
    refine ⟨fun ⟨x, hr, hs⟩ => ?_, fun h => ?_⟩
    · have hx := (ihr hi).1 hr
      exact .seq hx ((ihs (hx.le_size hi)).1 hs)
    · cases h with
      | seq hr hs => exact ⟨_, (ihr hi).2 hr, (ihs (hr.le_size hi)).2 hs⟩
  | alt r s ihr ihs =>
    refine ⟨fun h => ?_, fun h => ?_⟩
    · cases h with
      | inl hr => exact .altLeft ((ihr hi).1 hr)
      | inr hs => exact .altRight ((ihs hi).1 hs)
    · cases h with
      | altLeft hr => exact .inl ((ihr hi).2 hr)
      | altRight hs => exact .inr ((ihs hi).2 hs)
  | repetition min more greedy r ih =>
    rw [Regex.over, Overlay.spans_repeated, matches_repetition_iff]
    refine exists_congr fun n => and_congr_right fun _ => ?_
    exact Rounds.congr (fun i hi j => ih hi) (fun i hi j h => h.le_size hi) hi
  | group captured r ih =>
    rw [Regex.over, ih hi]
    exact ⟨.group, fun | .group h => h⟩

end Regex

/-! ### Places that matching finds -/

namespace Overlay

section

variable {round : Places → Places} {R : Nat → Nat → Prop} {seen last ps : Places}
  {n i j bound : Nat}

/-- The places seen are places of the text and hold those that the last round added, and a round
from one of the others leads to a place seen. -/
structure IsFrontier (R : Nat → Nat → Prop) (bound : Nat) (seen last : Places) : Prop where
  /-- The places seen are places of the text. -/
  le_bound : ∀ i ∈ seen, i ≤ bound
  /-- What the last round added has been seen. -/
  mem_seen : ∀ i ∈ last, i ∈ seen
  /-- A round from another place leads to a place seen. -/
  mem_of_round : ∀ i ∈ seen, i ∉ last → ∀ j, R i j → j ∈ seen

/-- The places that a number of rounds have reached are a frontier for further rounds. -/
theorem IsFrontier.start (h : ∀ i ∈ ps, i ≤ bound) : IsFrontier R bound ps ps :=
  ⟨h, fun _ hi => hi, fun _ hi hnot => absurd hi hnot⟩

variable
  (hround : ∀ ps : Places, (∀ i ∈ ps, i ≤ bound) → ∀ j, j ∈ round ps ↔ ∃ i ∈ ps, R i j)
  (hR : ∀ i, i ≤ bound → ∀ j, R i j → j ≤ bound)

include hround

/-- One round from a place seen leads to a place seen or to one that the next round adds. -/
theorem IsFrontier.mem_union (h : IsFrontier R bound seen last) (hi : i ∈ seen) (hij : R i j) :
    j ∈ seen.union ((round last).diff seen) := by
  rw [Places.mem_union, Places.mem_diff]
  by_cases hlast : i ∈ last
  · have hj := (hround last (fun i hi => h.le_bound i (h.mem_seen i hi)) j).2 ⟨i, hlast, hij⟩
    tauto
  · exact .inl (h.mem_of_round i hi hlast j hij)

/-- One round leads from a place seen to each place that the next round adds. -/
theorem IsFrontier.exists_round (h : IsFrontier R bound seen last)
    (hj : j ∈ (round last).diff seen) : ∃ i ∈ seen, R i j := by
  have hreach := hround last fun i hi => h.le_bound i (h.mem_seen i hi)
  obtain ⟨i, hi, hij⟩ := (hreach j).1 (Places.mem_diff.1 hj).1
  exact ⟨i, h.mem_seen i hi, hij⟩

/-- If the next round adds no place, rounds lead from places seen to places seen. -/
theorem IsFrontier.mem_of_rounds (h : IsFrontier R bound seen last)
    (hempty : ((round last).diff seen).isEmpty = true) (hi : i ∈ seen) (hij : Rounds R n i j) :
    j ∈ seen := by
  refine hij.closed (P := (· ∈ seen)) (fun i hi j hij => ?_) hi
  simpa [Places.isEmpty_iff.1 hempty] using h.mem_union hround hi hij

include hR

theorem IsFrontier.next (h : IsFrontier R bound seen last) :
    IsFrontier R bound (seen.union ((round last).diff seen)) ((round last).diff seen) where
  le_bound j hj := by
    cases Places.mem_union.1 hj with
    | inl hj => exact h.le_bound j hj
    | inr hj =>
      obtain ⟨i, hi, hij⟩ := h.exists_round hround hj
      exact hR i (h.le_bound i hi) j hij
  mem_seen _ hj := Places.mem_union.2 (.inr hj)
  mem_of_round i hi hnot _ hij :=
    h.mem_union hround ((Places.mem_union.1 hi).resolve_right hnot) hij

/-- Places in exactly a number of rounds. -/
theorem mem_exactly_iff (hps : ∀ i ∈ ps, i ≤ bound) :
    j ∈ exactly round n ps ↔ ∃ i ∈ ps, Rounds R n i j := by
  induction n generalizing ps with
  | zero => simp [exactly, Rounds]
  | succ n ih =>
    have hnext : ∀ i ∈ round ps, i ≤ bound := fun i hi => by
      obtain ⟨x, hx, hxi⟩ := (hround ps hps i).1 hi
      exact hR x (hps x hx) i hxi
    rw [exactly_succ, ih hnext]
    simp only [hround ps hps, Rounds]
    constructor
    · rintro ⟨x, ⟨i, hi, hix⟩, hrest⟩
      exact ⟨i, hi, x, hix, hrest⟩
    · rintro ⟨i, hi, x, hix, hrest⟩
      exact ⟨x, ⟨i, hi, hix⟩, hrest⟩

/-- Places in at most a number of rounds. -/
theorem mem_atMost_iff (h : IsFrontier R bound seen last) :
    j ∈ atMost round n seen last ↔ ∃ m ≤ n, ∃ i ∈ seen, Rounds R m i j := by
  induction n generalizing seen last with
  | zero => simp [atMost, Rounds]
  | succ n ih =>
    rw [atMost]
    split
    -- Nothing new was found, and the places seen are closed under rounds.
    · rename_i hempty
      constructor
      · intro hj
        exact ⟨0, Nat.zero_le _, j, hj, rfl⟩
      · rintro ⟨m, -, i, hi, hij⟩
        exact h.mem_of_rounds hround hempty hi hij
    · rw [ih (h.next hround hR)]
      constructor
      · rintro ⟨m, hm, x, hx, hxj⟩
        cases Places.mem_union.1 hx with
        | inl hx => exact ⟨m, by omega, x, hx, hxj⟩
        | inr hx =>
          obtain ⟨i, hi, hix⟩ := h.exists_round hround hx
          exact ⟨m + 1, by omega, i, hi, x, hix, hxj⟩
      · rintro ⟨m, hm, i, hi, hij⟩
        cases m with
        | zero => exact ⟨0, Nat.zero_le n, i, Places.mem_union.2 (.inl hi), hij⟩
        | succ m =>
          obtain ⟨x, hix, hxj⟩ := hij
          exact ⟨m, by omega, x, h.mem_union hround hi hix, hxj⟩

/-- The places of a text that are not in a set. -/
def missing (bound : Nat) (ps : Places) : Finset Nat :=
  (Finset.range (bound + 1)).filter (· ∉ ps)

/-- If the next round adds a place, fewer places are missing after it. -/
theorem IsFrontier.card_missing_lt (h : IsFrontier R bound seen last)
    (hnew : ¬((round last).diff seen).isEmpty = true) :
    (missing bound (seen.union ((round last).diff seen))).card < (missing bound seen).card := by
  have hsub : missing bound (seen.union ((round last).diff seen)) ⊆ missing bound seen := by
    intro x hx
    simp only [missing, Finset.mem_filter, Places.mem_union, not_or] at hx ⊢
    exact ⟨hx.1, hx.2.1⟩
  obtain ⟨x, hx⟩ : ∃ x, x ∈ (round last).diff seen := by
    by_contra hnone
    exact hnew (Places.isEmpty_iff.2 (Places.ext_mem fun x => by
      simpa using fun hx => hnone ⟨x, hx⟩))
  refine Finset.card_lt_card ((Finset.ssubset_iff_of_subset hsub).2 ⟨x, ?_, ?_⟩)
  · have hle := (h.next hround hR).le_bound x (Places.mem_union.2 (.inr hx))
    simp only [missing, Finset.mem_filter, Finset.mem_range]
    exact ⟨Nat.lt_succ_of_le hle, (Places.mem_diff.1 hx).2⟩
  · simp only [missing, Finset.mem_filter, not_and, not_not]
    exact fun _ => Places.mem_union.2 (.inr hx)

/-- As many rounds as there are places that have not been seen are enough: after them, one more
round leads to nothing new. -/
theorem mem_atMost_of_round (h : IsFrontier R bound seen last) (hn : (missing bound seen).card ≤ n)
    (hi : i ∈ atMost round n seen last) (hij : R i j) : j ∈ atMost round n seen last := by
  induction n generalizing seen last with
  | zero =>
    have hj := hR i (h.le_bound i hi) j hij
    have hnone := Finset.card_eq_zero.1 (Nat.le_zero.1 hn)
    by_contra hnot
    have hmem : j ∈ missing bound seen :=
      Finset.mem_filter.2 ⟨Finset.mem_range.2 (Nat.lt_succ_of_le hj), hnot⟩
    simp [hnone] at hmem
  | succ n ih =>
    rw [atMost] at hi ⊢
    split at hi <;> rename_i hempty
    · rw [if_pos hempty]
      exact h.mem_of_rounds hround hempty hi (Rounds.one_iff.2 hij)
    · rw [if_neg hempty]
      have hless := h.card_missing_lt hround hR hempty
      exact ih (h.next hround hR) (by omega) hi

/-- Going on for at most a number of rounds, or, without a limit, for as many as a text has places,
reaches what any number of rounds within the limit reaches. -/
theorem mem_atMost_getD_iff {more : Option Nat} (hps : ∀ i ∈ ps, i ≤ bound) :
    j ∈ atMost round (more.getD (bound + 1)) ps ps ↔
      ∃ m, (∀ k ∈ more, m ≤ k) ∧ ∃ i ∈ ps, Rounds R m i j := by
  have hstart : IsFrontier R bound ps ps := .start hps
  cases more with
  | some k => simp [mem_atMost_iff hround hR hstart]
  | none =>
    constructor
    · intro hj
      obtain ⟨m, -, hrounds⟩ := (mem_atMost_iff hround hR hstart).1 hj
      exact ⟨m, by simp, hrounds⟩
    · rintro ⟨m, -, i, hi, hij⟩
      have hcard : (missing bound ps).card ≤ bound + 1 := by
        simpa [missing] using Finset.card_filter_le (Finset.range (bound + 1)) (· ∉ ps)
      refine hij.closed (P := (· ∈ atMost round (bound + 1) ps ps))
        (fun i hi j hij => mem_atMost_of_round hround hR hstart hcard hi hij) ?_
      exact (mem_atMost_iff hround hR hstart).2 ⟨0, Nat.zero_le _, i, hi, rfl⟩

end

variable {o : Overlay} {ps : Places} {j bound : Nat}

/-- Matching finds a place from some places of the text if and only if a stretch that the overlay
describes leads to it from one of them. -/
theorem mem_reach_iff (h : o.IsWithin bound) (hps : ∀ i ∈ ps, i ≤ bound) :
    j ∈ o.reach bound ps ↔ ∃ i ∈ ps, o.Spans i j := by
  induction o generalizing ps j with
  | stay qs =>
    simp only [reach, Places.mem_inter, Spans]
    constructor
    · rintro ⟨hj, hq⟩
      exact ⟨j, hj, hq, rfl⟩
    · rintro ⟨i, hi, hq, rfl⟩
      exact ⟨hi, hq⟩
  | step qs =>
    simp only [reach, Places.mem_next, Places.mem_inter, Spans]
    constructor
    · rintro ⟨i, ⟨hi, hq⟩, hj⟩
      exact ⟨i, hi, hq, hj⟩
    · rintro ⟨i, hi, hq, hj⟩
      exact ⟨i, ⟨hi, hq⟩, hj⟩
  | seq a b iha ihb =>
    have hmiddle : ∀ i ∈ a.reach bound ps, i ≤ bound := fun i hi => by
      obtain ⟨x, hx, hxi⟩ := (iha h.1 hps).1 hi
      exact h.1.le (hps x hx) hxi
    simp only [reach_seq, ihb h.2 hmiddle, iha h.1 hps, Spans]
    constructor
    · rintro ⟨x, ⟨i, hi, ha⟩, hb⟩
      exact ⟨i, hi, x, ha, hb⟩
    · rintro ⟨i, hi, x, ha, hb⟩
      exact ⟨x, ⟨i, hi, ha⟩, hb⟩
  | alt a b iha ihb =>
    simp only [reach_alt, Places.mem_union, iha h.1 hps, ihb h.2 hps, Spans]
    constructor
    · rintro (⟨i, hi, ha⟩ | ⟨i, hi, hb⟩)
      · exact ⟨i, hi, .inl ha⟩
      · exact ⟨i, hi, .inr hb⟩
    · rintro ⟨i, hi, ha | hb⟩
      · exact .inl ⟨i, hi, ha⟩
      · exact .inr ⟨i, hi, hb⟩
  | repetition min more a ih =>
    have hround : ∀ ps : Places, (∀ i ∈ ps, i ≤ bound) →
        ∀ j, j ∈ a.reach bound ps ↔ ∃ i ∈ ps, a.Spans i j := fun ps hps j => ih h hps
    have hR : ∀ i, i ≤ bound → ∀ j, a.Spans i j → j ≤ bound :=
      fun i hi j => IsWithin.le (o := a) h hi
    rw [reach]
    split
    · rename_i hempty
      simp [Places.isEmpty_iff.1 hempty]
    · have hstart := fun i => mem_exactly_iff (n := min) (j := i) hround hR hps
      have hle : ∀ i ∈ exactly (a.reach bound) min ps, i ≤ bound := fun i hi => by
        obtain ⟨x, hx, hxi⟩ := (hstart i).1 hi
        exact hxi.closed (P := (· ≤ bound)) hR (hps x hx)
      rw [mem_atMost_getD_iff hround hR hle]
      constructor
      · rintro ⟨m, hm, x, hx, hxj⟩
        obtain ⟨i, hi, hix⟩ := (hstart x).1 hx
        exact ⟨i, hi, min + m, ⟨by omega, fun k hk => by have := hm k hk; omega⟩,
          Rounds.add_iff.2 ⟨x, hix, hxj⟩⟩
      · rintro ⟨i, hi, n, ⟨hmin, hmore⟩, hij⟩
        obtain ⟨m, rfl⟩ : ∃ m, n = min + m := ⟨n - min, by omega⟩
        obtain ⟨x, hix, hxj⟩ := Rounds.add_iff.1 hij
        exact ⟨m, fun k hk => by have := hmore k hk; omega, x, (hstart x).2 ⟨i, hi, hix⟩, hxj⟩

end Overlay

/-- Some stretch of a text is found if and only if the expression describes one. -/
theorem Regex.occursIn_iff {r : Regex} {text : Array Char} :
    r.occursIn text = true ↔ ∃ i j, i ≤ text.size ∧ r.Matches text i j := by
  have hwithin : ∀ i ∈ Places.below (text.size + 1) fun _ => true, i ≤ text.size :=
    fun i hi => Nat.le_of_lt_succ (Places.mem_below.1 hi).1
  have hmem := fun j => Overlay.mem_reach_iff (j := j) (isWithin_over text r) hwithin
  rw [occursIn, Bool.not_eq_true', ← Bool.not_eq_true, Places.isEmpty_iff]
  constructor
  · intro hne
    by_contra hnone
    refine hne (Places.ext_mem fun j => ?_)
    simp only [hmem, Places.not_mem_empty, iff_false]
    rintro ⟨i, hi, hij⟩
    exact hnone ⟨i, j, hwithin i hi, (spans_over_iff (hwithin i hi)).1 hij⟩
  · rintro ⟨i, j, hi, hij⟩ hempty
    refine Places.not_mem_empty j (hempty ▸ (hmem j).2 ⟨i, ?_, (spans_over_iff hi).2 hij⟩)
    exact Places.mem_below.2 ⟨Nat.lt_succ_of_le hi, rfl⟩

end BiblioQuery
