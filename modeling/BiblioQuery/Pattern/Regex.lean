import BiblioQuery.Pattern.CharSet
import BiblioQuery.Pattern.Places

/-!
# Regular expressions

A regular expression describes stretches of a text.  Besides characters, sequences, alternatives and
repetitions it has assertions, which match the empty stretch at some places only.

Matching lays an expression over a text, which tells the places where each of its parts applies, and
then follows all places at once: from the places where a stretch may start it computes those where
it can end.  A repetition is followed breadth first, so that it comes to an end also where its body
matches the empty stretch.

## Main definitions

* `Assertion`, `Regex` : the expressions.
* `Assertion.holds` : an assertion at a place of a text.
* `Regex.Matches` : the stretches that an expression describes, as a relation.
* `Overlay`, `Regex.over` : an expression laid over a text.
* `Overlay.repeated` : a repetition, joined with one inside it where they make one.
* `Overlay.reach` : the places where a match can end.
* `Regex.occursIn` : some stretch of a text matches.

## Main results

* `Overlay.reach_seq`, `Overlay.reach_alt` : the equations of a sequence and of an alternative.
* `Overlay.exactly_succ` : a number of rounds is one round and the others after it.
-/

namespace BiblioQuery

/-- A condition on a place that looks at the words around it. -/
inductive WordPlace where
  /-- A word starts or ends. -/
  | boundary
  /-- No word starts or ends. -/
  | noBoundary
  /-- A word starts. -/
  | start
  /-- A word ends. -/
  | finish
  /-- No character of a word stands before the place. -/
  | startHalf
  /-- No character of a word stands after the place. -/
  | endHalf
  deriving DecidableEq

/-- The condition holds between two characters of which it is known whether they belong to words. -/
def WordPlace.holds (before after : Bool) : WordPlace → Bool
  | .boundary => before != after
  | .noBoundary => before == after
  | .start => !before && after
  | .finish => before && !after
  | .startHalf => !before
  | .endHalf => !after

/-- A condition on a place between two characters. -/
inductive Assertion where
  /-- The start of the text. -/
  | textStart
  /-- The end of the text. -/
  | textEnd
  /-- The start of a line; lines end with a line feed. -/
  | lineStart
  /-- The end of a line; lines end with a line feed. -/
  | lineEnd
  /-- The start of a line; lines end with a line feed, a carriage return or both in turn. -/
  | crlfLineStart
  /-- The end of a line; lines end with a line feed, a carriage return or both in turn. -/
  | crlfLineEnd
  /-- A condition on the words around the place, which are those of ASCII or of any script. -/
  | word (ascii : Bool) (p : WordPlace)
  deriving DecidableEq

/-- A regular expression. -/
inductive Regex where
  /-- The empty stretch. -/
  | empty
  /-- One character of a set. -/
  | chars (s : CharSet)
  /-- The empty stretch at a place that meets a condition. -/
  | assertion (a : Assertion)
  /-- One expression after the other. -/
  | seq (r s : Regex)
  /-- Either expression. -/
  | alt (r s : Regex)
  /-- An expression a number of times, and then up to a number of times more, without limit if none
  is given; a greedy repetition prefers more rounds to fewer. -/
  | repetition (min : Nat) (more : Option Nat) (greedy : Bool) (r : Regex)
  /-- An expression in parentheses, which may keep what it matches. -/
  | group (captured : Bool) (r : Regex)
  deriving DecidableEq

/-- There is a character of a word at the index. -/
def isWordAt (ascii : Bool) (text : Array Char) (i : Nat) : Bool :=
  match text[i]? with
  | some c => Text.isWordChar c && (!ascii || c.toNat < 0x80)
  | none => false

/-- The condition holds before the character at the index. -/
def Assertion.holds (text : Array Char) (i : Nat) : Assertion → Bool
  | .textStart => i == 0
  | .textEnd => i == text.size
  | .lineStart => i == 0 || text[i - 1]? == some '\n'
  | .lineEnd => i == text.size || text[i]? == some '\n'
  | .crlfLineStart =>
    i == 0 || text[i - 1]? == some '\n' || text[i - 1]? == some '\r' && text[i]? != some '\n'
  | .crlfLineEnd =>
    i == text.size || text[i]? == some '\r' ||
      text[i]? == some '\n' && (i == 0 || text[i - 1]? != some '\r')
  | .word ascii p => p.holds (0 < i && isWordAt ascii text (i - 1)) (isWordAt ascii text i)

/-! ### Stretches -/

namespace Regex

/-- The stretch of a text between two places is one that an expression describes. -/
inductive Matches (text : Array Char) : Regex → Nat → Nat → Prop
  /-- The empty expression describes the empty stretch. -/
  | empty (i : Nat) : Matches text .empty i i
  /-- A set describes each of its characters. -/
  | chars {s : CharSet} {i : Nat} {c : Char} : text[i]? = some c → s.mem c = true →
    Matches text (.chars s) i (i + 1)
  /-- An assertion describes the empty stretch where it holds. -/
  | assertion {a : Assertion} {i : Nat} : a.holds text i = true → Matches text (.assertion a) i i
  /-- A sequence describes a stretch of each part. -/
  | seq {r s : Regex} {i j k : Nat} : Matches text r i j → Matches text s j k →
    Matches text (.seq r s) i k
  /-- An alternative describes what its first part does. -/
  | altLeft {r s : Regex} {i j : Nat} : Matches text r i j → Matches text (.alt r s) i j
  /-- An alternative describes what its second part does. -/
  | altRight {r s : Regex} {i j : Nat} : Matches text s i j → Matches text (.alt r s) i j
  /-- A repetition goes on while it needs rounds. -/
  | repetitionNext {min : Nat} {more : Option Nat} {greedy : Bool} {r : Regex} {i j k : Nat} :
    Matches text r i j → Matches text (.repetition min more greedy r) j k →
    Matches text (.repetition (min + 1) more greedy r) i k
  /-- A repetition that needs no more rounds may go on while it has rounds left. -/
  | repetitionMore {more : Option Nat} {greedy : Bool} {r : Regex} {i j k : Nat} :
    more ≠ some 0 → Matches text r i j →
    Matches text (.repetition 0 (more.map (· - 1)) greedy r) j k →
    Matches text (.repetition 0 more greedy r) i k
  /-- A repetition that needs no more rounds may end. -/
  | repetitionDone {more : Option Nat} {greedy : Bool} {r : Regex} {i : Nat} :
    Matches text (.repetition 0 more greedy r) i i
  /-- Parentheses do not change what an expression describes. -/
  | group {captured : Bool} {r : Regex} {i j : Nat} : Matches text r i j →
    Matches text (.group captured r) i j

end Regex

/-! ### Matching -/

/-- An expression laid over a text: the conditions of its parts are the places where they are met.
-/
inductive Overlay where
  /-- The empty stretch at some places. -/
  | stay (ps : Places)
  /-- One character after some places. -/
  | step (ps : Places)
  /-- One part after the other. -/
  | seq (a b : Overlay)
  /-- Either part. -/
  | alt (a b : Overlay)
  /-- A part a number of times, and then up to a number of times more, without limit if none is
  given. -/
  | repetition (min : Nat) (more : Option Nat) (a : Overlay)

/-- A part a number of times, and then up to a number of times more.  Repeating a part that is
already repeated without limit, from at most one round on, only asks for more of its rounds, so that
such repetitions do not nest. -/
def Overlay.repeated : Nat → Option Nat → Overlay → Overlay
  | 0, some 0, a => .repetition 0 (some 0) a
  | _, _, .repetition 0 none b => .repetition 0 none b
  | min, _, .repetition 1 none b => .repetition min none b
  | min, more, a => .repetition min more a

/-- The expression laid over a text. -/
def Regex.over (text : Array Char) : Regex → Overlay
  | .empty => .stay (.below (text.size + 1) fun _ => true)
  | .chars s => .step (.below text.size fun i => text[i]?.any s.mem)
  | .assertion a => .stay (.below (text.size + 1) fun i => a.holds text i)
  | .seq r s => .seq (r.over text) (s.over text)
  | .alt r s => .alt (r.over text) (s.over text)
  | .repetition min more _ r => .repeated min more (r.over text)
  | .group _ r => r.over text

namespace Overlay

/-- The places reached in exactly the given number of rounds. -/
def exactly (round : Places → Places) : Nat → Places → Places
  | 0, ps => ps
  | n + 1, ps =>
    let next := round ps
    if next = ps then ps else exactly round n next

/-- A round that leads back to the same places can be repeated. -/
theorem exactly_eq_of_round_eq {round : Places → Places} {ps : Places} (h : round ps = ps)
    (n : Nat) : exactly round n ps = ps := by
  cases n with
  | zero => rfl
  | succ n => simp [exactly, h]

/-- A number of rounds is one round and the others after it. -/
theorem exactly_succ (round : Places → Places) (n : Nat) (ps : Places) :
    exactly round (n + 1) ps = exactly round n (round ps) := by
  rw [exactly]
  split
  · rename_i h
    rw [h, exactly_eq_of_round_eq h]
  · rfl

/-- The places reached in at most the given number of rounds: those seen before, and those reached
from the places that the last round added. -/
def atMost (round : Places → Places) : Nat → Places → Places → Places
  | 0, seen, _ => seen
  | n + 1, seen, last =>
    let new := (round last).diff seen
    if new.isEmpty then seen else atMost round n (seen.union new) new

/-- The places where a match from one of the given places can end, in a text of which no place lies
beyond the bound.  Each round of a repetition that goes on adds a place, so that the bound also
limits the rounds. -/
def reach (bound : Nat) : Overlay → Places → Places
  | .stay qs, ps => ps.inter qs
  | .step qs, ps => (ps.inter qs).next
  | .seq a b, ps => b.reach bound (a.reach bound ps)
  | .alt a b, ps => (a.reach bound ps).union (b.reach bound ps)
  | .repetition min more a, ps =>
    if ps.isEmpty then ps
    else
      let start := exactly (a.reach bound) min ps
      atMost (a.reach bound) (more.getD (bound + 1)) start start

theorem reach_seq (bound : Nat) (a b : Overlay) (ps : Places) :
    (Overlay.seq a b).reach bound ps = b.reach bound (a.reach bound ps) := by
  rw [reach]

theorem reach_alt (bound : Nat) (a b : Overlay) (ps : Places) :
    (Overlay.alt a b).reach bound ps = (a.reach bound ps).union (b.reach bound ps) := by
  rw [reach]

end Overlay

/-- Some stretch of the text matches. -/
def Regex.occursIn (r : Regex) (text : Array Char) : Bool :=
  !((r.over text).reach text.size (.below (text.size + 1) fun _ => true)).isEmpty

end BiblioQuery
