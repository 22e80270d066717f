import BiblioQuery.Pattern.Shape
import Std.Data.HashMap

/-!
# The size of automata

A pattern is matched by two automata that read the bytes of a text, one forwards and one backwards.
A pattern whose automata take too much room is refused, so the room is part of what a pattern is.

An automaton is laid out state by state.  Every state takes the same room; a state that branches on
several ranges of bytes takes more for each of them, and so does one that branches freely for each
of its ways.  A set of characters beyond ASCII is laid out with common parts of its byte sequences
shared, as far as a table of bounded size remembers them: a part that falls on the slot of another
one replaces it there.

## Main definitions

* `Layout`, `Layout.bytes`, `Layout.limit` : the states so far, their room, and the room there is.
* `Layout.setForward`, `Layout.setBackward` : a set of characters in either direction.
* `Layout.trie?` : a choice between words.
* `Shape.lay` : a shape in either direction.
* `Shape.fits` : both automata of a shape have room.
-/

namespace BiblioQuery

/-! ### Room -/

/-- The part of an automaton that has been laid out. -/
structure Layout where
  /-- The number of states; the next state has this number. -/
  states : Nat
  /-- The bytes that the ways out of states take beside the states. -/
  wayBytes : Nat
  deriving DecidableEq

namespace Layout

/-- The bytes that the states and their ways take. -/
def bytes (l : Layout) : Nat := 32 * l.states + l.wayBytes

/-- The bytes that an automaton may take. -/
def limit : Nat := 10485760

/-- The automaton with more states and ways, if there is room. -/
def add? (l : Layout) (states wayBytes : Nat) : Option Layout :=
  let l' : Layout := ⟨l.states + states, l.wayBytes + wayBytes⟩
  if l'.bytes ≤ limit then some l' else none

end Layout

/-- A part of an automaton after the states before it.  The answer tells besides whether the part
ends in a state that branches freely, which takes one more way to go on from there. -/
abbrev Fragment := Layout → Option (Layout × Bool)

namespace Fragment

/-- A number of states that do not branch freely at their end, with the room for their ways. -/
def block (states wayBytes : Nat) : Fragment := fun l => (l.add? states wayBytes).map (·, false)

/-- The room for the way on from a part, if it takes any. -/
def wayOn (branches : Bool) : Nat := if branches then 4 else 0

/-- The given part after what ends as the flag tells. -/
def goOn (part : Fragment) (l : Layout) (branches : Bool) : Option (Layout × Bool) :=
  match part l with
  | none => none
  | some (l', branches') => (l'.add? 0 (wayOn branches)).map (·, branches')

/-- The given part a number of times after what has been laid out. -/
def copies (part : Fragment) : Nat → Layout → Bool → Option (Layout × Bool)
  | 0, l, branches => some (l, branches)
  | n + 1, l, branches =>
    match part.goOn l branches with
    | none => none
    | some (l', branches') => copies part n l' branches'

/-- The given part exactly a number of times. -/
def exactly (part : Fragment) : Nat → Fragment
  | 0 => block 1 0
  | n + 1 => fun l =>
    match part l with
    | none => none
    | some (l', branches) => copies part n l' branches

/-- A state that branches between the given part and what follows. -/
def optional (part : Fragment) : Fragment := fun l => do
  let l ← l.add? 1 8
  let (l, branches) ← part l
  return (← l.add? 1 (wayOn branches), false)

/-- The given part followed by a state that branches back to its start. -/
def loop (part : Fragment) (l : Layout) (branches : Bool) : Option (Layout × Bool) := do
  let (l, branches') ← part.goOn l branches
  return (← l.add? 1 (4 + wayOn branches'), true)

/-- The given part any number of times.  If it always takes a character, one state branches before
it; if not, a state after it branches back and another one before it branches past it. -/
def star (long : Bool) (part : Fragment) : Fragment := fun l =>
  if long then do
    let l ← l.add? 1 4
    let (l, branches) ← part l
    return (← l.add? 0 (wayOn branches), true)
  else do
    let (l, branches) ← part l
    return (← l.add? 3 (16 + wayOn branches), false)

/-- The given part at least a number of times. -/
def atLeast (long : Bool) (part : Fragment) : Nat → Fragment
  | 0 => star long part
  | 1 => fun l => loop part l false
  | n + 2 => fun l => do
    let (l, branches) ← exactly part (n + 1) l
    loop part l branches

/-- The given part a number of times more, each after a state that branches past all of them. -/
def upTo (part : Fragment) : Nat → Layout → Bool → Option (Layout × Bool)
  | 0, l, branches => some (l, branches)
  | n + 1, l, branches =>
    match l.add? 1 (8 + wayOn branches) with
    | none => none
    | some l' =>
      match part l' with
      | none => none
      | some (l'', branches') => upTo part n l'' branches'

/-- The given part between two numbers of times. -/
def between (part : Fragment) (min max : Nat) : Fragment := fun l => do
  let (l, branches) ← exactly part min l
  let l ← l.add? 1 0
  let (l, branches) ← upTo part (max - min) l branches
  return (← l.add? 0 (wayOn branches), false)

/-- The given part as often as a repetition tells. -/
def repeated (long : Bool) (part : Fragment) (min : Nat) : Option Nat → Fragment
  | none => atLeast long part min
  | some max =>
    if min = 0 ∧ max = 1 then optional part
    else if min = max then exactly part min
    else between part min max

end Fragment

/-! ### Sets of characters -/

namespace Layout

/-- The start of a hash of numbers. -/
def hashStart : UInt64 := 14695981039346656037

/-- The hash of numbers with one more. -/
def hashNext (h : UInt64) (n : Nat) : UInt64 := (h ^^^ n.toUInt64) * 1099511628211

/-- The ways out of a state that reads a byte: the first and the last byte, and the state after. -/
abbrev Ways := List (Nat × Nat × Nat)

/-- The slot of the ways out of a state, among ten thousand. -/
def waysSlot (ways : Ways) : Nat :=
  (ways.foldl (fun h w => hashNext (hashNext (hashNext h w.1) w.2.1) w.2.2) hashStart).toNat % 10000

/-- The states of a set that is laid out forwards, with those that the table remembers. -/
structure Shared where
  /-- The part of the automaton that has been laid out. -/
  layout : Layout
  /-- The ways and the number of the last state on each slot. -/
  table : Std.HashMap Nat (Ways × Nat)

/-- The state on a slot, if it is the one of the given key. -/
def remembered? {κ : Type} [DecidableEq κ] (table : Std.HashMap Nat (κ × Nat)) (slot : Nat)
    (key : κ) : Option Nat :=
  match table[slot]? with
  | some (key', state) => if key' = key then some state else none
  | none => none

/-- The state with the given ways: the one that the table remembers, or a new one. -/
def Shared.state (sh : Shared) (ways : Ways) : Nat × Shared :=
  match sh with
  | ⟨⟨states, wayBytes⟩, table⟩ =>
    let slot := waysSlot ways
    match remembered? table slot ways with
    | some state => (state, ⟨⟨states, wayBytes⟩, table⟩)
    | none =>
      (states, ⟨⟨states + 1, wayBytes + 8 * ways.length⟩, table.insert slot (ways, states)⟩)

/-- Sequences with the same head that follow each other, grouped under it. -/
def groups : List (List (Nat × Nat)) → List ((Nat × Nat) × List (List (Nat × Nat)))
  | [] => []
  | [] :: rest => groups rest
  | (r :: tail) :: rest =>
    match groups rest with
    | (q, tails) :: gs =>
      if q = r then (r, tail :: tails) :: gs else (r, [tail]) :: (q, tails) :: gs
    | [] => [(r, [tail])]

/-- The state from which some sequences of byte ranges lead to the target; the depth bounds their
length. -/
def sequenceState (target : Nat) : Nat → List (List (Nat × Nat)) → Shared → Nat × Shared
  | 0, _, sh => (target, sh)
  | depth + 1, seqs, sh =>
    match groups seqs with
    | [] => (target, sh)
    | gs =>
      let (ways, sh') := gs.foldl (fun (acc : Ways × Shared) g =>
        let (next, sh') := sequenceState target depth g.2 acc.2
        ((g.1.1, g.1.2, next) :: acc.1, sh')) ([], sh)
      sh'.state ways.reverse

/-- The automaton after a set beyond ASCII that is read forwards. -/
def setForward (seqs : List (List (Nat × Nat))) (l : Layout) : Layout :=
  (sequenceState l.states 4 seqs ⟨⟨l.states + 1, l.wayBytes⟩, ∅⟩).2.layout

/-- The slot of a byte range before a state, among a thousand. -/
def rangeSlot (key : Nat × Nat × Nat) : Nat :=
  (hashNext (hashNext (hashNext hashStart key.1) key.2.1) key.2.2).toNat % 1000

/-- The number of the next state of a set that is laid out backwards, with the states that the table
remembers. -/
structure SharedRanges where
  /-- The number of the next state. -/
  next : Nat
  /-- The byte range, the state after it and its own state, for the last one on each slot. -/
  table : Std.HashMap Nat ((Nat × Nat × Nat) × Nat)

/-- The state that reads a byte of a range before the given state. -/
def SharedRanges.state (sh : SharedRanges) (after : Nat) (r : Nat × Nat) : Nat × SharedRanges :=
  match sh with
  | ⟨next, table⟩ =>
    let key := (after, r.1, r.2)
    let slot := rangeSlot key
    match remembered? table slot key with
    | some state => (state, ⟨next, table⟩)
    | none => (next, ⟨next + 1, table.insert slot (key, next)⟩)

/-- The automaton after a set beyond ASCII that is read backwards: one state branches freely to the
last byte of each sequence. -/
def setBackward (seqs : List (List (Nat × Nat))) (l : Layout) : Layout :=
  let laySequence (sh : SharedRanges) (seq : List (Nat × Nat)) : SharedRanges :=
    (seq.foldl (fun (acc : Nat × SharedRanges) r => acc.2.state acc.1 r) (l.states + 1, sh)).2
  let laid := seqs.foldl laySequence ⟨l.states + 2, ∅⟩
  ⟨laid.next, l.wayBytes + 4 * seqs.length⟩

/-- The automaton after a set of characters; a set in ASCII takes one state that branches and one
where the branches meet. -/
def set? (backward : Bool) (rs : List (Nat × Nat)) (l : Layout) : Option Layout :=
  if rs.all fun r => r.2 ≤ 0x7F then l.add? 2 (8 * rs.length)
  else
    let seqs := Utf8Range.sequences rs
    let l' := if backward then setBackward seqs l else setForward seqs l
    l'.add? 0 0

/-! ### Choices between words -/

/-- The words that end before the others at a node, at most as often as the node remembers it, and
the stretches of words between them. -/
def stretches : List (List Nat) → List (List (List Nat))
  | [] => [[]]
  | [] :: rest => [] :: stretches rest
  | word :: rest =>
    match stretches rest with
    | first :: others => (word :: first) :: others
    | [] => [[word]]

/-- The words of a node without the repeated ends before its first byte. -/
def withoutRepeatedEnds (words : List (List Nat)) : List (List Nat) :=
  match words with
  | [] :: rest => [] :: rest.dropWhile (· == [])
  | words => words

/-- The different first bytes of some words. -/
def firstBytes (words : List (List Nat)) : List Nat := (words.filterMap List.head?).eraseDups

/-- The states and the bytes of their ways for a tree of words, without the state where all words
end.  A node branches freely between its stretches and the ends between them, and a stretch on
its bytes; a node without bytes takes no state.  The depth bounds the length of the words. -/
def treeRoom : Nat → List (List Nat) → Nat × Nat
  | 0, _ => (0, 0)
  | depth + 1, words =>
    if words.all (· == []) then (0, 0)
    else
      let parts := stretches (withoutRepeatedEnds words)
      let node : Nat × Nat := (1, 4 * (parts.length - 1))
      parts.foldl (fun acc part =>
        let bytes := firstBytes part
        let own : Nat × Nat :=
          match bytes with
          | [] => (0, 0)
          | [_] => (1, 4)
          | bs => (1, 4 + 8 * bs.length)
        bytes.foldl (fun acc b =>
          let below := treeRoom depth (part.filterMap fun
            | c :: tail => if c = b then some tail else none
            | [] => none)
          (acc.1 + below.1, acc.2 + below.2)) (acc.1 + own.1, acc.2 + own.2)) node

/-- The automaton after a choice between words. -/
def trie? (words : List (List Nat)) (l : Layout) : Option Layout :=
  let depth := words.foldl (fun d w => max d w.length) 0
  let room := treeRoom (depth + 1) words
  l.add? (room.1 + 1) room.2

end Layout

/-! ### Shapes -/

namespace Shape

/-- The bytes of a word. -/
def wordBytes (cs : List Char) : List Nat := cs.flatMap fun c => Utf8Range.encode c.toNat

/-- The bytes of a shape that is a word. -/
def word? : Shape → Option (List Nat)
  | .word cs => some (wordBytes cs)
  | _ => none

mutual

/-- The automaton after a shape.  A shape whose match is kept takes two states more, one on each
side, in the forward direction. -/
def lay (backward : Bool) : Shape → Fragment
  | .empty, l => Fragment.block 1 0 l
  | .word cs, l => Fragment.block (wordBytes cs).length 0 l
  | .chars rs, l => (l.set? backward rs).map (·, false)
  | .assertion _, l => Fragment.block 1 0 l
  | .repetition min max _ s, l =>
    Fragment.repeated (isLong s) (fun l => lay backward s l) min max l
  | .capture s, l =>
    if backward then lay backward s l
    else
      match l.add? 1 0 with
      | none => none
      | some l =>
        match lay backward s l with
        | none => none
        | some (l, branches) => (l.add? 1 (Fragment.wayOn branches)).map (·, false)
  | .sequence ss, l => layRow backward ss l false
  | .choice ss, l =>
    match ss.mapM word? with
    | some words =>
      let words := if backward then words.map List.reverse else words
      (l.trie? words).map (·, false)
    | none => (layChoice backward 0 ss l).map (·, false)

/-- The automaton after some shapes in a row. -/
def layRow (backward : Bool) : List Shape → Layout → Bool → Option (Layout × Bool)
  | [], l, branches => some (l, branches)
  | s :: ss, l, branches =>
    match Fragment.goOn (fun l => lay backward s l) l branches with
    | none => none
    | some (l', branches') => layRow backward ss l' branches'

/-- The automaton after the alternatives of a choice from the given place on.  The state that
branches between them and the one where they meet stand after the first two. -/
def layChoice (backward : Bool) (i : Nat) : List Shape → Layout → Option Layout
  | [], l => some l
  | s :: ss, l =>
    match lay backward s l with
    | none => none
    | some (l', branches) =>
      match l'.add? (if i = 1 then 2 else 0) (4 + Fragment.wayOn branches) with
      | none => none
      | some l'' => layChoice backward (i + 1) ss l''

end

/-- The whole automaton of a shape in one direction.  If not every match starts where the text does,
a loop over all bytes stands before the rest; a state that accepts stands behind it. -/
def layout? (backward : Bool) (s : Shape) : Option Layout := do
  let s := if backward then s.reversed else s
  let anchored := s.startsWith (if backward then .textEnd else .textStart)
  let start ← if anchored then Layout.add? ⟨0, 0⟩ 1 0 else Layout.add? ⟨0, 0⟩ 3 16
  let (l, branches) ← (if backward then lay backward s else lay backward (.capture s)) start
  l.add? 1 (Fragment.wayOn branches)

/-- Both automata of a shape have room. -/
def fits (s : Shape) : Bool := (s.layout? false).isSome && (s.layout? true).isSome

end Shape

end BiblioQuery
