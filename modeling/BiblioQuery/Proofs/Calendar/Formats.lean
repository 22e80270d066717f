import BiblioQuery.Calendar.Format

/-!
# What formats can write

A format that is understood may still ask for what is not there.  A date has neither a time of day
nor a zone, and it is no number of seconds; a moment has all of these.  One item can be read only,
and is never written.  Whether a format can be written depends on its items alone: not on the date,
not on the time of day, and not on how numbers are padded.

## Main definitions

* `Format.Item.isOfDate` : the item is a part of a date.
* `Format.Item.isWritable` : the item is a part of a moment.
* `Format.Target.offers` : the item finds its part.

## Main results

* `Format.isSome_writeItems?` : items are written if each of them finds its part.
* `Format.exists_write?_iff` : formats are written if they are understood and their items are.
* `Format.forall_isOfDate_iff_of_letterItems?` : the letters that ask for no more than a date.
-/

namespace BiblioQuery.Format

/-! ### Parts -/

/-- The number is a part of a date. -/
def Numeric.isOfDate : Numeric → Bool
  | .hour | .dialHour | .minute | .second | .nano | .timestamp => false
  | _ => true

/-- The name is a part of a date. -/
def Named.isOfDate : Named → Bool
  | .shortMonth | .longMonth | .shortWeekday | .longWeekday => true
  | _ => false

namespace Item

/-- The item is copied or is a part of a date. -/
def isOfDate : Item → Bool
  | .literal _ => true
  | .numeric n _ => n.isOfDate
  | .named n => n.isOfDate

/-- The item is copied or is a part of a moment: all are but an offset that can be read only. -/
def isWritable (i : Item) : Bool := i != .named .readOnly

end Item

/-- The item finds its part in the target. -/
def Target.offers (t : Target) (i : Item) : Bool :=
  match t.clock with
  | none => i.isOfDate
  | some _ => i.isWritable

/-! ### Writing -/

variable (t : Target)

/-- An item is written if it finds its part. -/
theorem isSome_writeItem? (i : Item) : (writeItem? t i).isSome = t.offers i := by
  obtain ⟨d, clock⟩ := t
  cases i with
  | literal cs => cases clock <;> rfl
  | numeric n p => cases clock <;> cases n <;> rfl
  | named n => cases clock <;> cases n <;> rfl

/-- Items are written if each of them finds its part. -/
theorem isSome_writeItems? (items : List Item) :
    (writeItems? t items).isSome = items.all t.offers := by
  induction items with
  | nil => rfl
  | cons i items ih =>
    rw [writeItems?, List.all_cons, ← isSome_writeItem?, ← ih]
    cases writeItem? t i with
    | none => rfl
    | some cs => rw [Option.isSome_map]; rfl

/-- A format is written if it is understood and each of its items finds its part. -/
theorem exists_write?_iff {format : String} :
    (∃ text, write? t format = some text) ↔
      ∃ items, parse? format = some items ∧ ∀ i ∈ items, t.offers i = true := by
  rw [write?, ← Option.isSome_iff_exists, Option.isSome_map]
  cases parse? format with
  | none => simp
  | some items => simp [isSome_writeItems?]

/-! ### Letters -/

/-- The letters that ask for more than a date: for the time of day, for the zone, or for the number
of seconds since 1970. -/
def clockLetters : List Char :=
  ['H', 'I', 'M', 'P', 'R', 'S', 'T', 'X', 'Z', 'c', 'f', 'k', 'l', 'p', 'r', 's', 'z', '+']

/-- Which letters ask for no more than a date; what any letter asks for is a part of a moment. -/
theorem forall_isOfDate_iff_of_letterItems? {c : Char} {items : List Item}
    (h : letterItems? c = some items) :
    ((∀ i ∈ items, i.isOfDate = true) ↔ c ∉ clockLetters) ∧
      ∀ i ∈ items, i.isWritable = true := by
  unfold letterItems? at h
  dsimp only at h
  -- one case for each letter, and one for all other characters
  split at h <;> first | (obtain rfl := Option.some.inj h; decide) | cases h

end BiblioQuery.Format
