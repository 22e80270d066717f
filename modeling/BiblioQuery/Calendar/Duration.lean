import BiblioQuery.Number.Text

/-!
# Durations

A duration is a number of nanoseconds.  It is written in the largest of the units second,
millisecond, microsecond and nanosecond of which it holds at least one, with as many decimals as it
needs.

## Main definitions

* `Duration` : the durations.
* `Duration.text` : the text of a duration.
-/

namespace BiblioQuery

/-- A length of time. -/
structure Duration where
  /-- The number of nanoseconds. -/
  nanos : Nat
  deriving DecidableEq

namespace Duration

/-- The duration without length. -/
def zero : Duration := ⟨0⟩

/-- A number of microseconds. -/
def ofMicros (n : Nat) : Duration := ⟨n * 1000⟩

/-- A number of milliseconds. -/
def ofMillis (n : Nat) : Duration := ⟨n * 1000000⟩

/-- A number of seconds. -/
def ofSeconds (n : Nat) : Duration := ⟨n * 1000000000⟩

/-- The first duration is the longer one. -/
def isLongerThan (a b : Duration) : Bool := decide (b.nanos < a.nanos)

/-- A text without the zeros that it ends in. -/
def dropFinalZeros (cs : List Char) : List Char := (cs.reverse.dropWhile (· == '0')).reverse

/-- A number of nanoseconds in a unit of a power of ten of them, with the decimals that it needs. -/
def decimalChars (nanos places : Nat) : List Char :=
  let whole := decimalDigits (nanos / Nat.pow 10 places)
  match dropFinalZeros (paddedDigits places (nanos % Nat.pow 10 places)) with
  | [] => whole
  | fraction => whole ++ '.' :: fraction

/-- The text of a duration. -/
def text (d : Duration) : String :=
  if 1000000000 ≤ d.nanos then String.ofList (decimalChars d.nanos 9) ++ "s"
  else if 1000000 ≤ d.nanos then String.ofList (decimalChars d.nanos 6) ++ "ms"
  else if 1000 ≤ d.nanos then String.ofList (decimalChars d.nanos 3) ++ "µs"
  else String.ofList (decimalDigits d.nanos) ++ "ns"

end Duration

end BiblioQuery
