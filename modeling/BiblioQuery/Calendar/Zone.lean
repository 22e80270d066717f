import BiblioQuery.Calendar.Moment
import BiblioQuery.Text.Blank
import BiblioQuery.Text.Bytes
import BiblioQuery.Text.Case

/-!
# Time zones

A time zone is named as universal time, or given by its offset: a sign, two digits of hours, a colon
and two digits of minutes.  An offset is read by the bytes at its six places.  That they are digits
and a sign is seen before the text is cut between them, so that no character is cut in two.

## Main definitions

* `Text.hasClockShape` : six bytes have digits and a colon where an offset has them.
* `Offset.ofParts` : the offset of a sign, hours and minutes.
* `Offset.readClock`, `Offset.readZone` : the offset of a text, where a step may have no outcome.
* `Offset.ofZone?` : the offset of a time zone.
-/

namespace BiblioQuery

/-! ### The shape of an offset -/

namespace Text

/-- A byte that stands for a decimal digit. -/
def isDigitByte (b : UInt8) : Bool := 0x30 ≤ b && b ≤ 0x39

/-- There are six bytes, the fourth of them stands for a colon, and the two before it and the two
after it stand for digits. -/
def hasClockShape (bs : List UInt8) : Except StepFault Bool :=
  if bs.length = 6 then do
    let colon ← byteAt bs 3
    if colon = 0x3A then do
      let hours ← bytesBetween bs 1 3
      if hours.all isDigitByte then do
        let minutes ← bytesBetween bs 4 6
        return minutes.all isDigitByte
      else return false
    else return false
  else return false

/-- The sign that a byte stands for, as a factor. -/
def signOf? (b : UInt8) : Option Int :=
  if b = 0x2B then some 1 else if b = 0x2D then some (-1) else none

end Text

/-! ### Offsets -/

namespace Offset

/-- The offset of a sign, hours and minutes, if there are such hours of a day and minutes of an
hour. -/
def ofParts (sign hours minutes : Int) : Except StepFault (Option Offset) :=
  if hours ≤ 23 ∧ minutes ≤ 59 then do
    let fromHours ← fitted (hours * 3600)
    let fromMinutes ← fitted (minutes * 60)
    let sum ← fitted (fromHours + fromMinutes)
    let seconds ← fitted (sign * sum)
    return of? seconds
  else return none

open Text in
/-- The offset of a sign, two digits of hours, a colon and two digits of minutes. -/
def readClock (cs : List Char) : Except StepFault (Option Offset) := do
  let shaped ← hasClockShape (bytes cs)
  if shaped then
    let first ← byteAt (bytes cs) 0
    match signOf? first with
    | none => return none
    | some sign =>
      let hourDigits ← cut cs 1 3
      match int32? hourDigits with
      | none => return none
      | some hours =>
        let minuteDigits ← cut cs 4 6
        match int32? minuteDigits with
        | none => return none
        | some minutes => ofParts sign hours minutes
  else return none

/-- The offset of a time zone: the name of universal time in any case, its letter `Z`, or an offset
with its sign; blanks around it do not matter. -/
def readZone (zone : String) : Except StepFault (Option Offset) :=
  let name := Text.trimmed zone
  if Text.sameLetters name "UTC" ∨ name = "Z" then return of? 0 else readClock name.toList

/-- The offset of a time zone. -/
def ofZone? (zone : String) : Option Offset :=
  match readZone zone with
  | .ok found => found
  | .error _ => none

end Offset

end BiblioQuery
