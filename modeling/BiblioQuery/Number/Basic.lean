/-!
# Finite binary numbers

The numbers of a range are the finite values of the 64-bit binary format, with one zero.  They are
numbered in increasing order by their *rank*: zero has rank `0`, the least positive value has rank
`1`, and a negative value has the opposite rank of its opposite.  Comparing numbers is comparing
ranks.

A positive value is a whole number of *units*, the unit being `2 ^ -1074`.  Up to rank `2 ^ 53` the
value of rank `r` has `r` units; from there on each block of `2 ^ 52` ranks doubles the spacing.

## Main definitions

* `Number` : a finite value, given by its rank.
* `Number.units` : the units of the value of a rank.
* `Number.nearestRank` : the rank of the value nearest to a quotient of units, ties to even.
* `Number.ofRank?`, `Number.ofRatio?` : the numbers that do not overflow.

## Main results

* `Number.divEven_mul_self` : an exact quotient is not rounded.
* `Number.compare_eq_lt_iff` : the order of numbers is the order of ranks.
-/

namespace BiblioQuery

/-- The rank after that of the greatest finite value. -/
def rankBound : Nat := 2047 * Nat.pow 2 52

/-- A finite binary number, given by its rank in increasing order. -/
structure Number where
  /-- The place of the number in the order of all finite values, zero having place `0`. -/
  rank : Int
  /-- The value of that rank is finite. -/
  natAbs_rank_lt : rank.natAbs < rankBound
  deriving DecidableEq

namespace Number

/-- The number zero. -/
def zero : Number := ⟨0, by decide⟩

instance : Inhabited Number := ⟨zero⟩

instance : Ord Number := ⟨fun a b => Ord.compare a.rank b.rank⟩

/-- The order of numbers is the order of their ranks. -/
theorem compare_eq (a b : Number) : compare a b = compare a.rank b.rank := rfl

/-- A number is less than another exactly when its rank is. -/
theorem compare_eq_lt_iff (a b : Number) : compare a b = .lt ↔ a.rank < b.rank := by
  rw [compare_eq, Int.compare_eq_lt]

/-- The number of units in the value of a rank. -/
def units (rank : Nat) : Nat :=
  let doublings := rank / Nat.pow 2 52 - 1
  (rank - doublings * Nat.pow 2 52) * Nat.pow 2 doublings

/-- The quotient of two natural numbers, rounded to the nearest, ties to even. -/
def divEven (n d : Nat) : Nat :=
  let q := n / d
  let r := n % d
  if d < 2 * r || (2 * r == d && q % 2 == 1) then q + 1 else q

/-- An exact quotient is not rounded. -/
theorem divEven_mul_self (q : Nat) {d : Nat} (h : 0 < d) : divEven (q * d) d = q := by
  simp only [divEven, Nat.mul_mod_left, Nat.mul_div_cancel _ h]
  simp; omega

/-- The rank of the value nearest to `n / d` units, ties to even. -/
def nearestRank (n d : Nat) : Nat :=
  let doublings := (n / d).log2 - 52
  divEven n (d * Nat.pow 2 doublings) + doublings * Nat.pow 2 52

/-- The units in the value one. -/
@[irreducible] def unitsPerOne : Nat := Nat.pow 2 1074

/-- The number of a sign and a rank, if its value is finite. -/
def ofRank? (negative : Bool) (rank : Nat) : Option Number :=
  if h : rank < rankBound then
    some ⟨if negative then -(rank : Int) else rank, by split <;> omega⟩
  else
    none

/-- The rank of the value nearest to the quotient `n / d`. -/
def ratioRank (n d : Nat) : Nat := nearestRank (n * unitsPerOne) d

/-- The number nearest to the quotient `n / d` with the given sign, if it is finite. -/
def ofRatio? (negative : Bool) (n d : Nat) : Option Number := ofRank? negative (ratioRank n d)

/-- The rank of the rounded product of the values of two ranks. -/
def mulRank (a b : Nat) : Nat := nearestRank (units a * units b) unitsPerOne

/-- The rank of the rounded quotient of the values of two ranks. -/
def divRank (a b : Nat) : Nat := ratioRank (units a) (units b)

end Number

end BiblioQuery
