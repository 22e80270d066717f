import BiblioQuery.Calendar.Moment

/-!
# Effective windows

A declaration or a rule may hold for a stretch of time only: from its start, included, to its end,
excluded.  Either end may be open.

## Main definitions

* `Window` : a stretch of time.
* `Window.contains` : an instant lies in the window.
* `Window.isEmpty` : the window ends no later than it starts.

## Main results

* `Window.contains_always` : every instant lies in the window without ends.
-/

namespace BiblioQuery

/-- A stretch of time with open or closed ends. -/
structure Window where
  /-- The first instant of the window, if any. -/
  start : Option Instant
  /-- The first instant after the window, if any. -/
  stop : Option Instant
  deriving DecidableEq

namespace Window

/-- The window without ends. -/
def always : Window := ⟨none, none⟩

instance : Inhabited Window := ⟨always⟩

/-- The window that starts with an instant. -/
def starting (start : Instant) : Window := ⟨some start, none⟩

/-- The window between two instants, the second one excluded. -/
def between (start stop : Instant) : Window := ⟨some start, some stop⟩

/-- The instant lies in the window. -/
def contains (w : Window) (i : Instant) : Bool :=
  w.start.all (·.atMost i) && w.stop.all fun stop => !stop.atMost i

/-- The window has two ends and ends no later than it starts. -/
def isEmpty (w : Window) : Bool :=
  match w.start, w.stop with
  | some start, some stop => stop.atMost start
  | _, _ => false

/-- Every instant lies in the window without ends. -/
@[simp]
theorem contains_always (i : Instant) : always.contains i = true := rfl

end Window

end BiblioQuery
