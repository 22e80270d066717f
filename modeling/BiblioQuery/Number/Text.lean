import BiblioQuery.Number.Basic
import BiblioQuery.Text.Blank

/-!
# Numbers as text

A number is read from a decimal literal with an optional sign, point and exponent, and rounded to
the nearest finite value; a literal beyond all of them is refused.  It is written positionally, with
the fewest digits that read back: the point of the coarsest power-of-ten grid that is rounded to the
number, the nearer of two such points, and of two equally near ones the greater.

## Main definitions

* `Number.Literal` : the sign, significand and exponent of a decimal literal.
* `Number.parse?` : the number of a text, blanks around it ignored.
* `Number.shortest` : the decimal that stands for the value of a rank.
* `Number.display`, `Number.canonical` : the text of a number, without and with a forced point.

## Main results

* `Number.decimalRank_gridPoint?` : a point of a grid that is chosen reads back.
-/

namespace BiblioQuery

/-! ### Digits -/

/-- The value of a decimal digit. -/
def digitValue (c : Char) : Nat := c.toNat - '0'.toNat

/-- The number that a list of decimal digits denotes. -/
def digitsValue (cs : List Char) : Nat := cs.foldl (fun n c => 10 * n + digitValue c) 0

/-- The decimal digits of a number, without leading zeros. -/
def decimalDigits (n : Nat) : List Char := Nat.toDigits 10 n

/-- The digits that a list starts with, and what follows them. -/
def spanDigits (cs : List Char) : List Char × List Char :=
  (cs.takeWhile Char.isDigit, cs.dropWhile Char.isDigit)

/-- The decimal digits of a number, with zeros in front up to the given width. -/
def paddedDigits (width n : Nat) : List Char :=
  List.replicate (width - (decimalDigits n).length) '0' ++ decimalDigits n

namespace Number

/-! ### Decimal literals -/

/-- The decimal literal `± significand * 10 ^ exponent`. -/
structure Literal where
  /-- The literal has a minus sign. -/
  negative : Bool
  /-- The digits before and after the point, as one number. -/
  significand : Nat
  /-- The power of ten that scales the significand. -/
  exponent : Int
  deriving DecidableEq

/-- The sign that a list starts with, if any, and what follows it. -/
def splitSign : List Char → Bool × List Char
  | '-' :: r => (true, r)
  | '+' :: r => (false, r)
  | r => (false, r)

/-- The exponent that ends a literal: nothing, or a letter, an optional sign and digits. -/
def exponent? : List Char → Option Int
  | [] => some 0
  | c :: r =>
    if c = 'e' ∨ c = 'E' then
      let (negative, ds) := splitSign r
      if ds.isEmpty || !ds.all Char.isDigit then none
      else some (if negative then -(digitsValue ds : Int) else digitsValue ds)
    else none

/-- The digits after the point, and what follows them; a list without point has none. -/
def splitFraction : List Char → List Char × List Char
  | '.' :: r => spanDigits r
  | r => ([], r)

/-- Reads a decimal literal that is all of the list. -/
def Literal.parse? (cs : List Char) : Option Literal :=
  let (negative, body) := splitSign cs
  let (whole, afterWhole) := spanDigits body
  let (fraction, afterFraction) := splitFraction afterWhole
  if whole.isEmpty && fraction.isEmpty then none
  else
    (exponent? afterFraction).map fun e =>
      ⟨negative, digitsValue (whole ++ fraction), e - fraction.length⟩

/-- The rank of the value nearest to `d * 10 ^ k`. -/
def decimalRank (d : Nat) (k : Int) : Nat :=
  if 0 ≤ k then ratioRank (d * Nat.pow 10 k.toNat) 1
  else ratioRank d (Nat.pow 10 (-k).toNat)

/-- An exponent as near to zero as the value of the literal cannot tell from the given one: beyond
`400` any significand but zero overflows, and so far below zero any of the given length vanishes. -/
def clampExponent (d : Nat) (k : Int) : Int :=
  max (min k 400) (-(400 + (decimalDigits d).length : Int))

/-- The number nearest to a literal, if it is finite. -/
def ofLiteral? (l : Literal) : Option Number :=
  ofRank? l.negative (decimalRank l.significand (clampExponent l.significand l.exponent))

/-- Reads a number from a text, blanks around it ignored. -/
def parse? (input : String) : Option Number :=
  (Literal.parse? (Text.trim input.toList)).bind ofLiteral?

/-! ### The fewest digits that read back -/

/-- The neighbour of the quotient `n / d` that passes a test: the nearer one if both do, and of two
equally near ones the greater. -/
def passingNeighbour? (ok : Nat → Bool) (n d : Nat) : Option Nat :=
  let below := n / d
  let above := below + 1
  match ok below, ok above with
  | true, true => if d ≤ 2 * (n % d) then some above else some below
  | true, false => some below
  | false, true => some above
  | false, false => none

/-- The neighbour found passes the test. -/
theorem passingNeighbour?_passes {ok : Nat → Bool} {n d p : Nat}
    (h : passingNeighbour? ok n d = some p) : ok p = true := by
  unfold passingNeighbour? at h
  by_cases hn : d ≤ 2 * (n % d) <;> cases hb : ok (n / d) <;> cases ha : ok (n / d + 1) <;>
    simp_all

/-- The point of the grid of multiples of `10 ^ k` that stands for the value of a rank: a neighbour
of the value that is rounded to it. -/
def gridPoint? (rank : Nat) (k : Int) : Option Nat :=
  let ok p := decimalRank p k == rank
  if 0 ≤ k then passingNeighbour? ok (units rank) (unitsPerOne * Nat.pow 10 k.toNat)
  else passingNeighbour? ok (units rank * Nat.pow 10 (-k).toNat) unitsPerOne

/-- A point of a grid that stands for a rank is rounded to the value of that rank. -/
theorem decimalRank_gridPoint? {rank : Nat} {k : Int} {p : Nat} (h : gridPoint? rank k = some p) :
    decimalRank p k = rank := by
  have passes {n d : Nat}
      (h : passingNeighbour? (fun p => decimalRank p k == rank) n d = some p) :
      decimalRank p k = rank := by
    simpa using passingNeighbour?_passes h
  rw [gridPoint?] at h
  split at h <;> exact passes h

/-- The first point found on the grids `10 ^ (steps - 1074)`, each finer than the one before; the
finest has the value itself. -/
def shortestFrom (rank : Nat) : Nat → Nat × Int
  | 0 => (units rank * Nat.pow 5 1074, -1074)
  | steps + 1 =>
    match gridPoint? rank ((steps + 1 : Nat) - 1074) with
    | some p => (p, (steps + 1 : Nat) - 1074)
    | none => shortestFrom rank steps

/-- The decimal with the fewest digits that is rounded to the value of a rank. -/
def shortest (rank : Nat) : Nat × Int := shortestFrom rank (308 + 1074)

/-- The positional text of `d * 10 ^ k`. -/
def positional (d : Nat) (k : Int) : List Char :=
  if 0 ≤ k then decimalDigits d ++ List.replicate k.toNat '0'
  else
    let places := (-k).toNat
    let ds := paddedDigits (places + 1) d
    ds.take (ds.length - places) ++ '.' :: ds.drop (ds.length - places)

/-- The text of a number, with a point only where a fraction follows. -/
def displayChars (x : Number) : List Char :=
  if x.rank = 0 then ['0']
  else
    let (d, k) := shortest x.rank.natAbs
    if x.rank < 0 then '-' :: positional d k else positional d k

/-- The text of a number, with a point only where a fraction follows. -/
def display (x : Number) : String := String.ofList (displayChars x)

/-- The text of a number, always with a point: a whole number ends in `.0`. -/
def canonicalChars (x : Number) : List Char :=
  let cs := displayChars x
  if cs.contains '.' then cs else cs ++ ['.', '0']

/-- The text of a number, always with a point: a whole number ends in `.0`. -/
def canonical (x : Number) : String := String.ofList (canonicalChars x)

/-! ### Fixed places -/

/-- The text of `n / d` with the given number of places, rounded to the nearest, ties to even. -/
def fixedPlaces (places n d : Nat) : List Char :=
  positional (divEven (n * Nat.pow 10 places) d) (-(places : Int))

end Number

end BiblioQuery
