import BiblioQuery.Number.Text

/-!
# Texts as bytes

A text is stored as bytes, one to four for each character.  A reader that goes to fixed places,
which are counted in bytes, can go wrong where a reader of characters cannot: there may be no such
place, or it may lie inside a character.  Numbers that are kept in 32 bits can become too large.
Each of these steps has an outcome of its own here for what it cannot do.

## Main definitions

* `StepFault` : what a step cannot do.
* `Text.bytes` : the bytes of a text.
* `Text.byteAt`, `Text.bytesBetween` : bytes at given places.
* `Text.cut` : the part of a text between two places.
* `fitted`, `Text.int32?` : numbers that fit 32 bits.

## Main results

* `Text.byteAt_eq_ok` : places that there are.
* `fitted_eq_ok` : numbers that fit.
-/

namespace BiblioQuery

/-- What a step on bytes or on numbers of 32 bits cannot do. -/
inductive StepFault where
  /-- There is no such place. -/
  | outOfRange
  /-- The place lies inside a character. -/
  | insideCharacter
  /-- The number does not fit 32 bits. -/
  | overflow
  deriving DecidableEq

namespace Text

/-! ### Bytes -/

/-- The bytes of a text. -/
def bytes (cs : List Char) : List UInt8 := cs.flatMap String.utf8EncodeChar

/-- The byte at a place. -/
def byteAt (bs : List UInt8) (i : Nat) : Except StepFault UInt8 :=
  match bs[i]? with
  | some b => .ok b
  | none => .error .outOfRange

/-- The bytes from one place to before another. -/
def bytesBetween (bs : List UInt8) (i j : Nat) : Except StepFault (List UInt8) :=
  if i ≤ j ∧ j ≤ bs.length then .ok ((bs.take j).drop i) else .error .outOfRange

theorem byteAt_eq_ok {bs : List UInt8} {i : Nat} {b : UInt8} (h : bs[i]? = some b) :
    byteAt bs i = .ok b := by
  rw [byteAt, h]

/-! ### Parts of a text -/

/-- The start of a text that has the given number of bytes, and the rest. -/
def splitBytes : List Char → Nat → Except StepFault (List Char × List Char)
  | cs, 0 => .ok ([], cs)
  | [], _ + 1 => .error .outOfRange
  | c :: cs, n + 1 =>
    if c.utf8Size ≤ n + 1 then
      (splitBytes cs (n + 1 - c.utf8Size)).map fun p => (c :: p.1, p.2)
    else .error .insideCharacter

/-- The part of a text from one place to before another. -/
def cut (cs : List Char) (i j : Nat) : Except StepFault (List Char) :=
  if i ≤ j then do
    let (_, rest) ← splitBytes cs i
    let (part, _) ← splitBytes rest (j - i)
    return part
  else .error .outOfRange

end Text

/-! ### Numbers of 32 bits -/

/-- The number fits 32 bits, one of them for the sign. -/
def FitsInt32 (n : Int) : Prop := -2147483648 ≤ n ∧ n ≤ 2147483647

instance (n : Int) : Decidable (FitsInt32 n) := inferInstanceAs (Decidable (_ ∧ _))

/-- A result, if it fits 32 bits. -/
def fitted (n : Int) : Except StepFault Int :=
  if FitsInt32 n then .ok n else .error .overflow

theorem fitted_eq_ok {n : Int} (h : FitsInt32 n) : fitted n = .ok n := if_pos h

/-- The number that a sign, if any, and decimal digits denote, if it fits 32 bits. -/
def Text.int32? (cs : List Char) : Option Int :=
  let (negative, ds) := Number.splitSign cs
  if ds.isEmpty || !ds.all Char.isDigit then none
  else
    let n : Int := if negative then -(digitsValue ds : Int) else digitsValue ds
    if FitsInt32 n then some n else none

end BiblioQuery
