import BiblioQuery.Proofs.Number.Digits

/-!
# Rounding to ranks

The rank nearest to a quotient depends on the value of the quotient only, and a quotient that is the
value of a rank is rounded to that rank.  So a decimal is rounded alike however its zeros are
written, and the decimal chosen to stand for a rank is rounded to it.

## Main results

* `Number.nearestRank_mul_mul` : expanding a quotient does not change its nearest rank.
* `Number.nearestRank_units` : values of ranks are not rounded.
* `Number.decimalRank_scale` : zeros at the end of a decimal do not count.
* `Number.decimalRank_shortest` : the shortest decimal of a rank is rounded to it.
* `Number.clampExponent_eq_self` : the exponent of a decimal that is not rounded to zero is kept.
-/

namespace BiblioQuery.Number

/-! ### Quotients -/

/-- Expanding a quotient does not change how it is rounded. -/
theorem divEven_mul_mul (n d : Nat) {c : Nat} (hc : 0 < c) :
    divEven (n * c) (d * c) = divEven n d := by
  have hlt : d * c < 2 * (n % d * c) ↔ d < 2 * (n % d) := by
    rw [← Nat.mul_assoc, Nat.mul_lt_mul_right hc]
  have heq : 2 * (n % d * c) = d * c ↔ 2 * (n % d) = d := by
    rw [← Nat.mul_assoc, Nat.mul_left_inj (Nat.ne_of_gt hc)]
  simp only [divEven, Nat.mul_div_mul_right _ _ hc, Nat.mul_mod_mul_right, hlt,
    Bool.beq_eq_decide_eq, heq]

/-- Expanding a quotient does not change its nearest rank. -/
theorem nearestRank_mul_mul (n d : Nat) {c : Nat} (hc : 0 < c) :
    nearestRank (n * c) (d * c) = nearestRank n d := by
  simp only [nearestRank, Nat.mul_div_mul_right _ _ hc]
  rw [Nat.mul_right_comm, divEven_mul_mul _ _ hc]

/-- The value of a rank is that rank, up to where the spacing starts to double. -/
theorem units_of_lt {rank : Nat} (h : rank < 2 ^ 53) : units rank = rank := by
  have hblock : rank / Nat.pow 2 52 - 1 = 0 := by
    change rank / 2 ^ 52 - 1 = 0
    omega
  simp [units, hblock]

/-- From there on a rank in the block with the given number of doublings has a value of fifty-three
bits, scaled. -/
theorem units_of_le {rank : Nat} (h : 2 ^ 53 ≤ rank) : ∃ doublings significand : Nat,
    rank = significand + doublings * 2 ^ 52 ∧ 2 ^ 52 ≤ significand ∧ significand < 2 ^ 53 ∧
      units rank = significand * 2 ^ doublings := by
  refine ⟨rank / 2 ^ 52 - 1, rank - (rank / 2 ^ 52 - 1) * 2 ^ 52, ?_, ?_, ?_, rfl⟩ <;> omega

/-- The value of a rank, as a quotient, has that rank as its nearest one. -/
theorem nearestRank_units (rank : Nat) {d : Nat} (hd : 0 < d) :
    nearestRank (units rank * d) d = rank := by
  simp only [nearestRank, Nat.mul_div_cancel _ hd]
  by_cases h : rank < 2 ^ 53
  · have hlog : rank.log2 ≤ 52 := by
      by_cases h0 : rank = 0
      · simp [h0]
      · exact Nat.le_of_lt_succ ((Nat.log2_lt h0).2 h)
    rw [units_of_lt h, Nat.sub_eq_zero_of_le hlog]
    simpa using divEven_mul_self rank hd
  · obtain ⟨k, m, hrank, hlo, hhi, hu⟩ := units_of_le (Nat.le_of_not_lt h)
    have hpow : 0 < 2 ^ k := Nat.two_pow_pos k
    have hlog : (m * 2 ^ k).log2 - 52 = k := by
      have hne : m * 2 ^ k ≠ 0 := Nat.mul_ne_zero (by omega) (Nat.ne_of_gt hpow)
      have hle : 52 + k ≤ (m * 2 ^ k).log2 := by
        rw [Nat.le_log2 hne, Nat.pow_add]
        exact Nat.mul_le_mul_right _ hlo
      have hlt : (m * 2 ^ k).log2 < 53 + k := by
        rw [Nat.log2_lt hne, Nat.pow_add]
        exact Nat.mul_lt_mul_of_pos_right hhi hpow
      omega
    rw [hu, hlog, hrank]
    change divEven (m * 2 ^ k * d) (d * 2 ^ k) + k * 2 ^ 52 = _
    rw [Nat.mul_assoc, Nat.mul_comm (2 ^ k), divEven_mul_self m (Nat.mul_pos hd hpow)]

/-- A quotient below half a unit has the rank of zero. -/
theorem nearestRank_eq_zero {n d : Nat} (h : 2 * n < d) : nearestRank n d = 0 := by
  have hdiv : n / d = 0 := Nat.div_eq_of_lt (by omega)
  have hmod : n % d = n := Nat.mod_eq_of_lt (by omega)
  simp only [nearestRank, hdiv, divEven]
  simp [hdiv, hmod]
  omega

/-! ### Decimals -/

theorem decimalRank_natCast (d k : Nat) : decimalRank d k = ratioRank (d * 10 ^ k) 1 := by
  rw [decimalRank, if_pos (Int.natCast_nonneg k)]
  rfl

theorem decimalRank_neg {n : Nat} (hn : 0 < n) (d : Nat) :
    decimalRank d (-(n : Int)) = ratioRank d (10 ^ n) := by
  rw [decimalRank, if_neg (by omega), Int.neg_neg]
  rfl

/-- A decimal with zeros at its end, and one more behind the point, is rounded as without them. -/
theorem decimalRank_scale (d k : Nat) : decimalRank (d * 10 ^ k * 10) (-1) = decimalRank d k := by
  have hneg := decimalRank_neg Nat.one_pos (d * 10 ^ k * 10)
  rw [Int.natCast_one, Nat.pow_one] at hneg
  rw [hneg, decimalRank_natCast, ratioRank, ratioRank, Nat.mul_right_comm]
  simpa using nearestRank_mul_mul (d * 10 ^ k * unitsPerOne) 1 (c := 10) (by decide)

/-- The unit is a power of two; its exponent is named so that the power is never evaluated. -/
theorem exists_unitsPerOne_eq : ∃ n : Nat, n = 1074 ∧ unitsPerOne = Nat.pow 2 n := by
  refine ⟨1074, rfl, ?_⟩
  unfold unitsPerOne
  rfl

/-- On the finest grid stands the value of the rank itself. -/
theorem decimalRank_finest (rank : Nat) :
    decimalRank (units rank * Nat.pow 5 1074) (-1074) = rank := by
  obtain ⟨n, hn, hunit⟩ := exists_unitsPerOne_eq
  have hexp : (-1074 : Int) = -(n : Int) := by rw [hn]; rfl
  rw [← hn, hexp, decimalRank_neg (by omega), ratioRank, hunit, Nat.mul_assoc]
  change nearestRank (units rank * (5 ^ n * 2 ^ n)) (10 ^ n) = rank
  rw [← Nat.mul_pow]
  exact nearestRank_units rank (Nat.pow_pos (by decide))

/-- The first decimal found is rounded to the rank. -/
theorem decimalRank_shortestFrom (rank steps : Nat) :
    decimalRank (shortestFrom rank steps).1 (shortestFrom rank steps).2 = rank := by
  induction steps with
  | zero => exact decimalRank_finest rank
  | succ steps ih =>
    rw [shortestFrom]
    split
    · rename_i p hp
      exact decimalRank_gridPoint? hp
    · exact ih

/-- The shortest decimal of a rank is rounded to it. -/
theorem decimalRank_shortest (rank : Nat) :
    decimalRank (shortest rank).1 (shortest rank).2 = rank :=
  decimalRank_shortestFrom rank (308 + 1074)

/-- Two units, as a fraction of one, have fewer than four hundred places before the first digit. -/
theorem two_mul_unitsPerOne_lt : 2 * unitsPerOne < 10 ^ 400 := by
  obtain ⟨n, hn, hunit⟩ := exists_unitsPerOne_eq
  have hbits : ∀ m : Nat, n + 1 ≤ 3 * m → 0 < m → 2 * 2 ^ n < 10 ^ m := by
    intro m hm hpos
    calc 2 * 2 ^ n = 2 ^ (n + 1) := by rw [Nat.pow_succ']
      _ ≤ 2 ^ (3 * m) := Nat.pow_le_pow_right (by decide) hm
      _ = 8 ^ m := by rw [Nat.pow_mul]
      _ < 10 ^ m := Nat.pow_lt_pow_left (by decide) (by omega)
  rw [hunit]
  exact hbits 400 (by omega) (by decide)

/-- A decimal that is not rounded to zero has so many digits that its exponent is kept. -/
theorem clampExponent_eq_self {d : Nat} {k : Int} (hk : k < 0) (h : decimalRank d k ≠ 0) :
    clampExponent d k = k := by
  obtain ⟨n, rfl⟩ : ∃ n : Nat, k = -(n : Int) := ⟨k.natAbs, by omega⟩
  have hn : 0 < n := by omega
  rw [decimalRank_neg hn, ratioRank] at h
  have hhalf : 10 ^ n ≤ 2 * (d * unitsPerOne) := by
    refine Nat.le_of_not_lt fun hlt => h (nearestRank_eq_zero hlt)
  have hdigits : d < 10 ^ (decimalDigits d).length :=
    (length_decimalDigits_le_iff (List.length_pos_iff.2 (decimalDigits_ne_nil d))).1 (Nat.le_refl _)
  have hsize : n < 400 + (decimalDigits d).length := by
    rw [← Nat.pow_lt_pow_iff_right (a := 10) (by decide), Nat.pow_add]
    calc 10 ^ n ≤ 2 * (d * unitsPerOne) := hhalf
      _ = 2 * unitsPerOne * d := by rw [Nat.mul_assoc, Nat.mul_comm unitsPerOne]
      _ < 10 ^ 400 * 10 ^ (decimalDigits d).length :=
        Nat.mul_lt_mul'' two_mul_unitsPerOne_lt hdigits
  rw [clampExponent]
  omega

end BiblioQuery.Number
