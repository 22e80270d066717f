import BiblioQuery.Calendar.Moment
import BiblioQuery.Text.Blank

/-!
# Reading dates and times

Three notations are read.  The *strict* one is that of internet timestamps: every number has its
full width, and an offset is required.  The *lenient* one is for literals without offset: a year
with a sign may have any number of digits, other numbers may be short, and blanks may stand before a
number.  The *spaced* one is for instants: lenient numbers, blanks around the separators, and a
required offset.

## Main definitions

* `Calendar.strict?`, `Calendar.lenient?`, `Calendar.lenientDate?` : moments and dates.
* `Instant.parse?` : the instant of a text in the spaced notation.
-/

namespace BiblioQuery.Calendar

/-! ### Parts -/

/-- Reads the given character. -/
def expect? (c : Char) : List Char → Option (List Char)
  | [] => none
  | d :: r => if d = c then some r else none

/-- Reads a number of at least one and at most the given count of digits, as many as there are. -/
def upTo? (count : Nat) (s : List Char) : Option (Nat × List Char) :=
  let ds := (s.takeWhile Char.isDigit).take count
  if ds.isEmpty then none else some (digitsValue ds, s.drop ds.length)

/-- Reads a number of exactly the given count of digits. -/
def exactly? (count : Nat) (s : List Char) : Option (Nat × List Char) :=
  let ds := s.take count
  if ds.length = count && ds.all Char.isDigit then some (digitsValue ds, s.drop count) else none

/-- Reads a number of any count of digits. -/
def unlimited? (s : List Char) : Option (Nat × List Char) :=
  match spanDigits s with
  | ([], _) => none
  | (ds, r) => some (digitsValue ds, r)

/-- Reads the digits of a fraction as nanoseconds; those after the ninth do not count. -/
def nanoseconds? (s : List Char) : Option (Nat × List Char) :=
  match spanDigits s with
  | ([], _) => none
  | (ds, r) =>
    let counted := ds.take 9
    some (digitsValue counted * Nat.pow 10 (9 - counted.length), r)

/-- Reads an optional point with the digits of a fraction. -/
def fraction? : List Char → Option (Nat × List Char)
  | '.' :: r => nanoseconds? r
  | s => some (0, s)

/-- The time of day of an hour, a minute, a second and nanoseconds; the second `60` is a leap
second. -/
def clock? (hour minute second nano : Nat) : Option Clock :=
  if h : hour < 24 ∧ minute < 60 ∧ second < 60 ∧ nano < 1000000000 then
    some ⟨hour * 3600 + minute * 60 + second, nano, by omega, by omega⟩
  else if h : hour < 24 ∧ minute < 60 ∧ second = 60 ∧ nano < 1000000000 then
    some ⟨hour * 3600 + minute * 60 + 59, nano + 1000000000, by omega, by omega⟩
  else none

/-! ### Offsets -/

/-- Reads the sign of an offset; the typographic minus counts too. -/
def offsetSign? : List Char → Option (Bool × List Char)
  | [] => none
  | c :: r =>
    if c = '+' then some (false, r)
    else if c = '-' ∨ c = '−' then some (true, r)
    else none

/-- Reads a sign, two digits of hours, a separator and two digits of minutes. -/
def signedOffset? (separator : List Char → Option (List Char)) (s : List Char) :
    Option (Int × List Char) := do
  let (negative, s) ← offsetSign? s
  let (hours, s) ← exactly? 2 s
  let s ← separator s
  let (minutes, s) ← exactly? 2 s
  if minutes < 60 then
    let seconds : Int := hours * 3600 + minutes * 60
    some (if negative then -seconds else seconds, s)
  else none

/-- Reads the letter for universal time, or a signed offset. -/
def offset? (separator : List Char → Option (List Char)) (s : List Char) :
    Option (Int × List Char) :=
  match s with
  | 'Z' :: r => some (0, r)
  | 'z' :: r => some (0, r)
  | s => signedOffset? separator s

/-! ### The strict notation -/

/-- Reads a letter or a blank between date and time. -/
def dateTimeMark? : List Char → Option (List Char)
  | [] => none
  | c :: r => if c = 'T' ∨ c = 't' ∨ c = ' ' then some r else none

/-- Reads a moment with its offset, every number in full width, that is all of the text. -/
def strict? (s : List Char) : Option (Moment × Offset) := do
  let (year, s) ← exactly? 4 s
  let s ← expect? '-' s
  let (month, s) ← exactly? 2 s
  let s ← expect? '-' s
  let (day, s) ← exactly? 2 s
  let s ← dateTimeMark? s
  let (hour, s) ← exactly? 2 s
  let s ← expect? ':' s
  let (minute, s) ← exactly? 2 s
  let s ← expect? ':' s
  let (second, s) ← exactly? 2 s
  let (nano, s) ← fraction? s
  let (seconds, s) ← offset? (expect? ':') s
  if s.isEmpty then
    let date ← Date.of? year month day
    let clock ← clock? hour minute second nano
    let offset ← Offset.of? seconds
    some (⟨date, clock⟩, offset)
  else none

/-! ### The lenient notation -/

/-- Reads a year: up to four digits, or a sign and any number of digits. -/
def lenientYear? (s : List Char) : Option (Int × List Char) :=
  match Text.trimStart s with
  | '-' :: r => (unlimited? r).map fun p => (-(p.1 : Int), p.2)
  | '+' :: r => (unlimited? r).map fun p => ((p.1 : Int), p.2)
  | s => (upTo? 4 s).map fun p => ((p.1 : Int), p.2)

/-- Reads one or two digits, blanks before them ignored. -/
def lenientPair? (s : List Char) : Option (Nat × List Char) := upTo? 2 (Text.trimStart s)

/-- Reads a date whose separators are each read by the given function. -/
def dateParts? (hyphen : List Char → Option (List Char)) (s : List Char) :
    Option ((Int × Nat × Nat) × List Char) := do
  let (year, s) ← lenientYear? s
  let s ← hyphen s
  let (month, s) ← lenientPair? s
  let s ← hyphen s
  let (day, s) ← lenientPair? s
  some ((year, month, day), s)

/-- Reads a time of day whose separators are each read by the given function. -/
def clockParts? (colon : List Char → Option (List Char)) (s : List Char) :
    Option ((Nat × Nat × Nat × Nat) × List Char) := do
  let (hour, s) ← lenientPair? s
  let s ← colon s
  let (minute, s) ← lenientPair? s
  let s ← colon s
  let (second, s) ← lenientPair? s
  let (nano, s) ← fraction? s
  some ((hour, minute, second, nano), s)

/-- Reads a date in the lenient notation that is all of the text. -/
def lenientDate? (s : List Char) : Option Date := do
  let ((year, month, day), s) ← dateParts? (expect? '-') s
  if s.isEmpty then Date.of? year month day else none

/-- Reads a moment without offset, in the lenient notation, that is all of the text. -/
def lenient? (s : List Char) : Option Moment := do
  let ((year, month, day), s) ← dateParts? (expect? '-') s
  let s ← expect? 'T' s
  let ((hour, minute, second, nano), s) ← clockParts? (expect? ':') s
  if s.isEmpty then
    let date ← Date.of? year month day
    let clock ← clock? hour minute second nano
    some ⟨date, clock⟩
  else none

/-! ### The spaced notation -/

/-- Reads the given character, blanks before it ignored. -/
def spaced? (c : Char) (s : List Char) : Option (List Char) := expect? c (Text.trimStart s)

/-- Reads any number of colons and blanks. -/
def colonsOrBlanks (s : List Char) : List Char := s.dropWhile fun c => c = ':' || Text.isBlank c

/-- Reads the name of universal time in letters of any case, its letter, or a signed offset. -/
def spacedOffset? (s : List Char) : Option (Int × List Char) :=
  if (s.take 3).map Char.toUpper = "UTC".toList then some (0, s.drop 3)
  else offset? (fun r => some (colonsOrBlanks r)) s

end Calendar

open Calendar in
/-- The instant of a text in the spaced notation. -/
def Instant.parse? (text : String) : Option Instant := do
  let ((year, month, day), s) ← dateParts? (spaced? '-') text.toList
  let s ← dateTimeMark? s
  let ((hour, minute, second, nano), s) ← clockParts? (spaced? ':') s
  let (seconds, s) ← spacedOffset? (Text.trimStart s)
  if (Text.trimStart s).isEmpty then
    let date ← Date.of? year month day
    let clock ← clock? hour minute second nano
    let offset ← Offset.of? seconds
    Moment.toInstant? ⟨date, clock⟩ offset
  else none

end BiblioQuery
