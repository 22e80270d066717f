import BiblioQuery.Calendar.Moment
import BiblioQuery.Text.Blank

/-!
# Date formats

A date format is a text with specifiers, a percent sign and a letter each.  It is read into items,
each of which writes a part of a date or of a time of day in universal time.  A numeric item is
padded with zeros or blanks to its width, or not at all; a hyphen, a zero or an underscore after the
percent sign chooses the padding.

A format that is read may still fail: an item for the time of day or for the zone has nothing to
write where there is only a date.

## Main definitions

* `Format.Numeric`, `Format.Named`, `Format.Item` : the items.
* `Format.parse?` : the items of a format, if all its specifiers are known.
* `Format.Target` : a date, with or without a time of day.
* `Format.write?` : what a format writes, if each item finds its part.

## Main results

* `Format.writeItems?_append` : what joined lists of items write.
-/

namespace BiblioQuery.Format

/-! ### Items -/

/-- How a number is filled up to its width. -/
inductive Padding where
  /-- Not at all. -/
  | none
  /-- With zeros. -/
  | zero
  /-- With blanks. -/
  | space
  deriving DecidableEq

/-- A numeric part of a date or time. -/
inductive Numeric where
  /-- The year. -/
  | year
  /-- The century. -/
  | century
  /-- The year in its century. -/
  | yearOfCentury
  /-- The year of the week. -/
  | weekYear
  /-- The year of the week in its century. -/
  | weekYearOfCentury
  /-- The quarter of the year. -/
  | quarter
  /-- The month. -/
  | month
  /-- The day of the month. -/
  | day
  /-- The week of the year, weeks starting on Sunday. -/
  | sundayWeek
  /-- The week of the year, weeks starting on Monday. -/
  | mondayWeek
  /-- The week of the year of the week. -/
  | isoWeek
  /-- The days since Sunday. -/
  | daysSinceSunday
  /-- The weekday, Monday being the first. -/
  | weekday
  /-- The day of the year. -/
  | ordinal
  /-- The hour. -/
  | hour
  /-- The hour on a dial with twelve hours. -/
  | dialHour
  /-- The minute. -/
  | minute
  /-- The second. -/
  | second
  /-- The nanoseconds. -/
  | nano
  /-- The seconds since the year 1970. -/
  | timestamp
  deriving DecidableEq

/-- A part of a date or time that is written in one way only. -/
inductive Named where
  /-- The first three letters of the month. -/
  | shortMonth
  /-- The month. -/
  | longMonth
  /-- The first three letters of the weekday. -/
  | shortWeekday
  /-- The weekday. -/
  | longWeekday
  /-- The half of the day in capitals. -/
  | upperHalf
  /-- The half of the day in small letters. -/
  | lowerHalf
  /-- The fraction of the second, as short as it can be. -/
  | fraction
  /-- The fraction of the second with the given number of digits, after a point or without. -/
  | digits (count : Nat) (point : Bool)
  /-- The name of the zone. -/
  | zoneName
  /-- The offset in hours and minutes. -/
  | offset
  /-- The offset in hours and minutes, with a colon. -/
  | offsetColon
  /-- The offset in hours, minutes and seconds, with colons. -/
  | offsetSeconds
  /-- The offset in hours. -/
  | offsetHours
  /-- The whole moment with its offset. -/
  | timestampText
  /-- An offset that can be read only. -/
  | readOnly
  deriving DecidableEq

/-- An item of a format. -/
inductive Item where
  /-- A text that is copied. -/
  | literal (cs : List Char)
  /-- A number. -/
  | numeric (n : Numeric) (p : Padding)
  /-- A part that is written in one way only. -/
  | named (n : Named)
  deriving DecidableEq

/-! ### Reading formats -/

/-- A number filled with zeros. -/
def zeros (n : Numeric) : Item := .numeric n .zero

/-- The items of a specifier with one letter. -/
def letterItems? (c : Char) : Option (List Item) :=
  let colon := Item.literal [':']
  let slash := Item.literal ['/']
  let hyphen := Item.literal ['-']
  let blank := Item.literal [' ']
  let clock := [zeros .hour, colon, zeros .minute, colon, zeros .second]
  let shortDate := [zeros .month, slash, zeros .day, slash, zeros .yearOfCentury]
  match c with
  | 'A' => some [.named .longWeekday]
  | 'B' => some [.named .longMonth]
  | 'C' => some [zeros .century]
  | 'D' => some shortDate
  | 'F' => some [zeros .year, hyphen, zeros .month, hyphen, zeros .day]
  | 'G' => some [zeros .weekYear]
  | 'H' => some [zeros .hour]
  | 'I' => some [zeros .dialHour]
  | 'M' => some [zeros .minute]
  | 'P' => some [.named .lowerHalf]
  | 'R' => some [zeros .hour, colon, zeros .minute]
  | 'S' => some [zeros .second]
  | 'T' => some clock
  | 'U' => some [zeros .sundayWeek]
  | 'V' => some [zeros .isoWeek]
  | 'W' => some [zeros .mondayWeek]
  | 'X' => some clock
  | 'Y' => some [zeros .year]
  | 'Z' => some [.named .zoneName]
  | 'a' => some [.named .shortWeekday]
  | 'b' => some [.named .shortMonth]
  | 'c' =>
    some ([.named .shortWeekday, blank, .named .shortMonth, blank, .numeric .day .space, blank] ++
      clock ++ [blank, zeros .year])
  | 'd' => some [zeros .day]
  | 'e' => some [.numeric .day .space]
  | 'f' => some [zeros .nano]
  | 'g' => some [zeros .weekYearOfCentury]
  | 'h' => some [.named .shortMonth]
  | 'j' => some [zeros .ordinal]
  | 'k' => some [.numeric .hour .space]
  | 'l' => some [.numeric .dialHour .space]
  | 'm' => some [zeros .month]
  | 'n' => some [.literal ['\n']]
  | 'p' => some [.named .upperHalf]
  | 'q' => some [.numeric .quarter .none]
  | 'r' =>
    some [zeros .dialHour, colon, zeros .minute, colon, zeros .second, blank, .named .upperHalf]
  | 's' => some [.numeric .timestamp .none]
  | 't' => some [.literal ['\t']]
  | 'u' => some [.numeric .weekday .none]
  | 'v' =>
    some [.numeric .day .space, hyphen, .named .shortMonth, hyphen, zeros .year]
  | 'w' => some [.numeric .daysSinceSunday .none]
  | 'x' => some shortDate
  | 'y' => some [zeros .yearOfCentury]
  | 'z' => some [.named .offset]
  | '+' => some [.named .timestampText]
  | '%' => some [.literal ['%']]
  | _ => none

/-- The padding that a character after the percent sign chooses. -/
def padding? (c : Char) : Option Padding :=
  if c = '-' then some .none
  else if c = '0' then some .zero
  else if c = '_' then some .space
  else none

/-- The items of a letter whose padding is chosen: it must be a single number. -/
def paddedItems? (p : Padding) (c : Char) : Option (List Item) :=
  match letterItems? c with
  | some [.numeric n _] => some [.numeric n p]
  | _ => none

/-- Reads a specifier after its percent sign. -/
def specifier? : List Char → Option (List Item × List Char)
  | '.' :: 'f' :: r => some ([.named .fraction], r)
  | '.' :: '3' :: 'f' :: r => some ([.named (.digits 3 true)], r)
  | '.' :: '6' :: 'f' :: r => some ([.named (.digits 6 true)], r)
  | '.' :: '9' :: 'f' :: r => some ([.named (.digits 9 true)], r)
  | '3' :: 'f' :: r => some ([.named (.digits 3 false)], r)
  | '6' :: 'f' :: r => some ([.named (.digits 6 false)], r)
  | '9' :: 'f' :: r => some ([.named (.digits 9 false)], r)
  | ':' :: 'z' :: r => some ([.named .offsetColon], r)
  | ':' :: ':' :: 'z' :: r => some ([.named .offsetSeconds], r)
  | ':' :: ':' :: ':' :: 'z' :: r => some ([.named .offsetHours], r)
  | '#' :: 'z' :: r => some ([.named .readOnly], r)
  | [] => none
  | c :: r =>
    match padding? c with
    | none => (letterItems? c).map fun items => (items, r)
    | some p =>
      match r with
      | [] => none
      | d :: r' => (paddedItems? p d).map fun items => (items, r')

/-- The items of a format; the fuel bounds the characters that are left. -/
def itemsFrom? : Nat → List Char → Option (List Item)
  | _, [] => some []
  | 0, _ => none
  | fuel + 1, c :: r =>
    if c = '%' then
      match specifier? r with
      | none => none
      | some (items, r') => (itemsFrom? fuel r').map (items ++ ·)
    else (itemsFrom? fuel r).map (.literal [c] :: ·)

/-- The items of a format, if all its specifiers are known. -/
def parse? (format : String) : Option (List Item) :=
  itemsFrom? format.toList.length format.toList

/-! ### Writing -/

/-- What a format is applied to: a date, and a time of day of universal time where there is one. -/
structure Target where
  /-- The date. -/
  date : Date
  /-- The time of day, if known. -/
  clock : Option Clock

/-- Fills a text up to a width with a character in front. -/
def fill (c : Char) (width : Nat) (cs : List Char) : List Char :=
  List.replicate (width - cs.length) c ++ cs

/-- A number of the given width; the sign counts towards the width. -/
def paddedInt (p : Padding) (width : Nat) (plus : Bool) (n : Int) : List Char :=
  let digits := decimalDigits n.natAbs
  let sign := if n < 0 then ['-'] else if plus then ['+'] else []
  match p with
  | .none => sign ++ digits
  | .zero => sign ++ fill '0' (width - sign.length) digits
  | .space => fill ' ' width (sign ++ digits)

/-- A number in two characters, the first of which counts the tens from the digit zero on. -/
def twoPlaces (p : Padding) (n : Nat) : List Char :=
  let tens := n / 10
  let ones := Nat.digitChar (n % 10)
  match p with
  | .none => if tens = 0 then [ones] else [Char.ofNat ('0'.toNat + tens), ones]
  | .zero => [Char.ofNat ('0'.toNat + tens), ones]
  | .space => if tens = 0 then [' ', ones] else [Char.ofNat ('0'.toNat + tens), ones]

/-- A year: at least four digits, with a sign outside the years that have four. -/
def yearText (p : Padding) (year : Int) : List Char :=
  if 1000 ≤ year ∧ year ≤ 9999 then decimalDigits year.natAbs
  else
    let signed : Bool := year < 0 || 9999 < year
    paddedInt p (if signed then 5 else 4) signed year

/-- The hour on a dial with twelve hours. -/
def dialHour (t : Clock) : Nat := if t.hour % 12 = 0 then 12 else t.hour % 12

/-- The whole seconds from the year 1970 to a moment. -/
def secondsSinceEpoch (d : Date) (t : Clock) : Int :=
  (d.dayNumber - Date.epoch.dayNumber) * 86400 + t.second

/-- The week of the year of a date, where weeks start the given number of days after Monday. -/
def weekOfYear (d : Date) (startsAfterMonday : Nat) : Nat :=
  (d.ordinal + 6 - (d.daysSinceMonday + 7 - startsAfterMonday) % 7) / 7

/-- What a numeric item of a date writes; `none` for items of the time of day. -/
def dateNumber? (p : Padding) (d : Date) : Numeric → Option (List Char)
  | .year => some (yearText p d.year)
  | .century => some (twoPlaces p (d.year / 100 % 256).toNat)
  | .yearOfCentury => some (twoPlaces p (d.year % 100).toNat)
  | .weekYear => some (yearText p d.isoWeek.1)
  | .weekYearOfCentury => some (twoPlaces p (d.isoWeek.1 % 100).toNat)
  | .quarter => some (decimalDigits ((d.month - 1) / 3 + 1))
  | .month => some (twoPlaces p d.month)
  | .day => some (twoPlaces p d.day)
  | .sundayWeek => some (twoPlaces p (weekOfYear d 6))
  | .mondayWeek => some (twoPlaces p (weekOfYear d 0))
  | .isoWeek => some (twoPlaces p d.isoWeek.2)
  | .daysSinceSunday => some (decimalDigits ((d.daysSinceMonday + 1) % 7))
  | .weekday => some (decimalDigits (d.daysSinceMonday + 1))
  | .ordinal => some (paddedInt p 3 false d.ordinal)
  | _ => none

/-- What a numeric item writes. -/
def number? (p : Padding) (t : Target) (n : Numeric) : Option (List Char) :=
  match dateNumber? p t.date n with
  | some cs => some cs
  | none =>
    match t.clock with
    | none => none
    | some c =>
      match n with
      | .hour => some (twoPlaces p c.hour)
      | .dialHour => some (twoPlaces p (dialHour c))
      | .minute => some (twoPlaces p c.minute)
      | .second => some (twoPlaces p c.shownSecond)
      | .nano => some (paddedInt p 9 false c.fraction)
      | .timestamp => some (paddedInt p 9 false (secondsSinceEpoch t.date c))
      | _ => none

/-- The names of the months. -/
def monthNames : List String :=
  ["January", "February", "March", "April", "May", "June", "July", "August", "September", "October",
    "November", "December"]

/-- The names of the weekdays. -/
def weekdayNames : List String :=
  ["Monday", "Tuesday", "Wednesday", "Thursday", "Friday", "Saturday", "Sunday"]

/-- The name at an index of a table. -/
def nameAt (names : List String) (i : Nat) : List Char := (names.getD i "").toList

/-- What a named item of a date writes; `none` for items of the time of day. -/
def dateName? (d : Date) : Named → Option (List Char)
  | .shortMonth => some ((nameAt monthNames (d.month - 1)).take 3)
  | .longMonth => some (nameAt monthNames (d.month - 1))
  | .shortWeekday => some ((nameAt weekdayNames d.daysSinceMonday).take 3)
  | .longWeekday => some (nameAt weekdayNames d.daysSinceMonday)
  | _ => none

/-- What a named item writes. -/
def name? (t : Target) (n : Named) : Option (List Char) :=
  match dateName? t.date n with
  | some cs => some cs
  | none =>
    match t.clock with
    | none => none
    | some c =>
      match n with
      | .upperHalf => some (if c.hour < 12 then "AM".toList else "PM".toList)
      | .lowerHalf => some (if c.hour < 12 then "am".toList else "pm".toList)
      | .fraction => some (fractionChars c.fraction)
      | .digits count point =>
        let ds := paddedDigits count (c.fraction / Nat.pow 10 (9 - count))
        some (if point then '.' :: ds else ds)
      | .zoneName => some "UTC".toList
      | .offset => some "+0000".toList
      | .offsetColon => some "+00:00".toList
      | .offsetSeconds => some "+00:00:00".toList
      | .offsetHours => some "+00".toList
      | .timestampText => some (Moment.chars ⟨t.date, c⟩ ++ "+00:00".toList)
      | _ => none

/-- What an item writes, if it finds its part. -/
def writeItem? (t : Target) : Item → Option (List Char)
  | .literal cs => some cs
  | .numeric n p => number? p t n
  | .named n => name? t n

/-- What items write one after the other, if each finds its part. -/
def writeItems? (t : Target) : List Item → Option (List Char)
  | [] => some []
  | i :: r =>
    match writeItem? t i with
    | none => none
    | some cs => (writeItems? t r).map (cs ++ ·)

/-- What joined lists of items write. -/
theorem writeItems?_append (t : Target) (xs ys : List Item) :
    writeItems? t (xs ++ ys) =
      (writeItems? t xs).bind fun cs => (writeItems? t ys).map (cs ++ ·) := by
  induction xs with
  | nil => simp [writeItems?]
  | cons x xs ih =>
    simp only [List.cons_append, writeItems?]
    cases writeItem? t x with
    | none => rfl
    | some cs =>
      simp only [ih]
      cases writeItems? t xs <;> simp [Function.comp_def]

/-- What a format writes, if its specifiers are known and each finds its part. -/
def write? (t : Target) (format : String) : Option String :=
  ((parse? format).bind (writeItems? t)).map String.ofList

end BiblioQuery.Format
