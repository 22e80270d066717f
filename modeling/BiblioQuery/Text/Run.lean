/-!
# Runs of code points

A table that tells something of every code point is written as runs, in the order of the code
points: a number of code points in a row, and what they share.

## Main definitions

* `Text.runs` : the runs of a table.
* `Text.runRanges` : the ranges of the code points whose runs share what is asked for.

## Main results

* `Text.runRangesFrom_nil` : a table without runs has no ranges.
-/

namespace BiblioQuery.Text

/-- A run of a table: the digits of a number, and what follows them. -/
def runOf (s : String) : Nat × String :=
  let digits := s.toList.takeWhile Char.isDigit
  (digits.foldl (fun n c => 10 * n + (c.toNat - '0'.toNat)) 0,
    String.ofList (s.toList.dropWhile Char.isDigit))

/-- The runs of the lines of a table. -/
def runs (table : List String) : List (Nat × String) :=
  table.flatMap fun line => (line.splitOn " ").map runOf

/-- The ranges of the code points whose runs share what is asked for, from the given code point on;
runs that follow each other make one range. -/
def runRangesFrom (p : String → Bool) (start : Nat) : List (Nat × String) → List (Nat × Nat)
  | [] => []
  | (n, shared) :: rest =>
    let others := runRangesFrom p (start + n) rest
    if p shared then
      match others with
      | (first, last) :: more =>
        if first = start + n then (start, last) :: more else (start, start + n - 1) :: others
      | [] => [(start, start + n - 1)]
    else others

/-- A table without runs has no ranges. -/
@[simp]
theorem runRangesFrom_nil (p : String → Bool) (start : Nat) : runRangesFrom p start [] = [] := rfl

/-- The ranges of the code points of a table whose runs share what is asked for. -/
def runRanges (p : String → Bool) (table : List String) : List (Nat × Nat) :=
  runRangesFrom p 0 (runs table)

end BiblioQuery.Text
