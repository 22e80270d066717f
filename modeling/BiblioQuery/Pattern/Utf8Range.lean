/-!
# Ranges of code points in UTF-8

The code points of a range are written with sequences of bytes.  The range is cut into pieces whose
sequences have one length and, at each position, run through one range of bytes independently of the
other positions.

## Main definitions

* `Utf8Range.length`, `Utf8Range.encode` : the bytes of a code point.
* `Utf8Range.cut?`, `Utf8Range.pieces` : the pieces of a range.
* `Utf8Range.sequences` : the ranges of bytes at each position, for every piece of a list of ranges.
-/

namespace BiblioQuery.Utf8Range

/-- The number of bytes of a code point. -/
def length (n : Nat) : Nat :=
  if n ≤ 0x7F then 1 else if n ≤ 0x7FF then 2 else if n ≤ 0xFFFF then 3 else 4

/-- The bytes of a code point. -/
def encode (n : Nat) : List Nat :=
  if n ≤ 0x7F then [n]
  else if n ≤ 0x7FF then [0xC0 + n / 64, 0x80 + n % 64]
  else if n ≤ 0xFFFF then [0xE0 + n / 4096, 0x80 + n / 64 % 64, 0x80 + n % 64]
  else [0xF0 + n / 262144, 0x80 + n / 4096 % 64, 0x80 + n / 64 % 64, 0x80 + n % 64]

/-- A code point has as many bytes as its length tells. -/
theorem length_encode (n : Nat) : (encode n).length = length n := by
  unfold encode length
  split
  · rfl
  · split
    · rfl
    · split <;> rfl

/-- The last code point of the first piece, where the range has to be cut because its end has more
bytes than its start. -/
def lengthCut? (first last : Nat) : Option Nat :=
  [0x7F, 0x7FF, 0xFFFF].find? fun m => first ≤ m && m < last

/-- The last code point of the first piece, where the range has to be cut because the given number
of code points that share their leading bytes is neither met nor missed as a whole. -/
def blockCut? (block first last : Nat) : Option Nat :=
  if first / block = last / block then none
  else if first % block ≠ 0 then some (first / block * block + block - 1)
  else if last % block ≠ block - 1 then some (last / block * block - 1)
  else none

/-- The last code point of the first of several pieces. -/
def cut? (first last : Nat) : Option Nat :=
  match lengthCut? first last with
  | some m => some m
  | none =>
    if last ≤ 0x7F then none
    else [64, 4096, 262144].findSome? fun block => blockCut? block first last

/-- The pieces of a range. -/
def pieces (first last : Nat) : List (Nat × Nat) :=
  match cut? first last with
  | none => [(first, last)]
  | some m =>
    if _h : first ≤ m ∧ m < last then pieces first m ++ pieces (m + 1) last else [(first, last)]
termination_by last - first

/-- For every piece of a list of ranges the range of bytes at each position. -/
def sequences (rs : List (Nat × Nat)) : List (List (Nat × Nat)) :=
  rs.flatMap fun r => (pieces r.1 r.2).map fun p => (encode p.1).zip (encode p.2)

end BiblioQuery.Utf8Range
