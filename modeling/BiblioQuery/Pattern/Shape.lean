import BiblioQuery.Pattern.Regex
import BiblioQuery.Pattern.Utf8Range

/-!
# Shapes of regular expressions

The shape of a regular expression is what its automaton is laid out from.  It describes the same
stretches of a text, but has no empty parts in its sequences, joins neighbouring characters to
words, gives alternatives that are single characters the form of one set, and draws out what all
alternatives start with.

## Main definitions

* `Shape` : the shapes.
* `Shape.isPossible`, `Shape.isLong`, `Shape.isEmptyOnly` : what is known of the lengths of matches.
* `Shape.startsWith` : every match starts at a place that meets a condition.
* `Shape.ofRanges`, `Shape.andThen`, `Shape.oneOf`, `Shape.repeated` : shapes in simplest form.
* `Shape.reversed` : the shape read from its end.
* `Regex.shape` : the shape of an expression.

## Main results

* `Shape.andThen_empty`, `Shape.empty_andThen` : the empty shape adds nothing to a sequence.
-/

namespace BiblioQuery

/-- A regular expression in simplest form. -/
inductive Shape where
  /-- The empty stretch. -/
  | empty
  /-- A word of one or more characters. -/
  | word (cs : List Char)
  /-- A character of some ranges of code points; without a range nothing matches. -/
  | chars (rs : List (Nat × Nat))
  /-- The empty stretch at a place that meets a condition. -/
  | assertion (a : Assertion)
  /-- A shape a number of times. -/
  | repetition (min : Nat) (max : Option Nat) (greedy : Bool) (s : Shape)
  /-- A shape whose match is kept. -/
  | capture (s : Shape)
  /-- Several shapes, one after the other. -/
  | sequence (ss : List Shape)
  /-- One of several shapes. -/
  | choice (ss : List Shape)

namespace Shape

/-! ### Lengths and places of matches -/

mutual

/-- No part that every match needs is without matches. -/
def isPossible : Shape → Bool
  | .empty => true
  | .word _ => true
  | .chars rs => !rs.isEmpty
  | .assertion _ => true
  | .repetition _ _ _ s => isPossible s
  | .capture s => isPossible s
  | .sequence ss => allPossible ss
  | .choice ss => allPossible ss

/-- All of some shapes are possible. -/
def allPossible : List Shape → Bool
  | [] => true
  | s :: ss => isPossible s && allPossible ss

end

mutual

/-- Every match has a character. -/
def isLong : Shape → Bool
  | .empty => false
  | .word _ => true
  | .chars rs => !rs.isEmpty
  | .assertion _ => false
  | .repetition min _ _ s => min != 0 && isLong s
  | .capture s => isLong s
  | .sequence ss => allPossible ss && anyLong ss
  | .choice ss => allLong ss

/-- Some shape has only matches with a character. -/
def anyLong : List Shape → Bool
  | [] => false
  | s :: ss => isLong s || anyLong ss

/-- All of some shapes have only matches with a character. -/
def allLong : List Shape → Bool
  | [] => true
  | s :: ss => isLong s && allLong ss

end

mutual

/-- Every match is empty. -/
def isEmptyOnly : Shape → Bool
  | .empty => true
  | .word _ => false
  | .chars _ => false
  | .assertion _ => true
  | .repetition _ _ _ s => isEmptyOnly s
  | .capture s => isEmptyOnly s
  | .sequence ss => allEmptyOnly ss
  | .choice ss => allEmptyOnly ss

/-- All of some shapes have empty matches only. -/
def allEmptyOnly : List Shape → Bool
  | [] => true
  | s :: ss => isEmptyOnly s && allEmptyOnly ss

end

mutual

/-- Every match starts at a place that meets the condition. -/
def startsWith (a : Assertion) : Shape → Bool
  | .empty => false
  | .word _ => false
  | .chars _ => false
  | .assertion b => b == a
  | .repetition min _ _ s => min != 0 && startsWith a s
  | .capture s => startsWith a s
  | .sequence ss => leads a ss
  | .choice ss => allStartWith a ss

/-- The condition is met before the first of some shapes in a row that has other matches than empty
ones, or right after. -/
def leads (a : Assertion) : List Shape → Bool
  | [] => false
  | s :: ss => startsWith a s || isEmptyOnly s && leads a ss

/-- The matches of all of some shapes start at a place that meets the condition. -/
def allStartWith (a : Assertion) : List Shape → Bool
  | [] => true
  | s :: ss => startsWith a s && allStartWith a ss

end

/-! ### Equality -/

mutual

/-- Two shapes are the same; shapes that keep their matches differ from each other. -/
def same : Shape → Shape → Bool
  | .empty, .empty => true
  | .word cs, .word ds => cs == ds
  | .chars rs, .chars qs => rs == qs
  | .assertion a, .assertion b => a == b
  | .repetition min max greedy s, .repetition min' max' greedy' t =>
    min == min' && max == max' && greedy == greedy' && same s t
  | .sequence ss, .sequence ts => allSame ss ts
  | .choice ss, .choice ts => allSame ss ts
  | _, _ => false

/-- Two lists of shapes are the same. -/
def allSame : List Shape → List Shape → Bool
  | [], [] => true
  | s :: ss, t :: ts => same s t && allSame ss ts
  | _, _ => false

end

/-! ### Simplest forms -/

/-- One character of some ranges. -/
def ofRanges (rs : List (Nat × Nat)) : Shape :=
  match rs with
  | [(n, m)] => if n = m then .word [Char.ofNat n] else .chars rs
  | _ => .chars rs

/-- The parts of a shape in a row. -/
def parts : Shape → List Shape
  | .empty => []
  | .sequence ss => ss
  | s => [s]

/-- The shape of parts in a row. -/
def ofParts : List Shape → Shape
  | [] => .empty
  | [s] => s
  | ss => .sequence ss

/-- Parts in a row and further ones after them; words that meet become one. -/
def joined : List Shape → List Shape → List Shape
  | [], ts => ts
  | [.word cs], .word ds :: ts => .word (cs ++ ds) :: ts
  | s :: ss, ts => s :: joined ss ts

/-- One shape after the other. -/
def andThen (s t : Shape) : Shape := ofParts (joined s.parts t.parts)

/-- A shape that is a row has several parts. -/
def IsProper : Shape → Prop
  | .sequence ss => 2 ≤ ss.length
  | _ => True

/-- The parts of a shape make that shape. -/
theorem ofParts_parts {s : Shape} (h : s.IsProper) : ofParts s.parts = s := by
  cases s with
  | sequence ss =>
    match ss, h with
    | _ :: _ :: _, _ => rfl
  | _ => rfl

/-- The empty shape before another adds nothing. -/
theorem empty_andThen {s : Shape} (h : s.IsProper) : andThen .empty s = s := by
  rw [andThen, parts, joined, ofParts_parts h]

/-- A list of parts with nothing after it stays as it is. -/
@[simp]
theorem joined_nil (ss : List Shape) : joined ss [] = ss := by
  induction ss with
  | nil => rfl
  | cons s ss ih => cases s <;> cases ss <;> simp_all [joined]

/-- The empty shape after another adds nothing. -/
theorem andThen_empty {s : Shape} (h : s.IsProper) : andThen s .empty = s := by
  rw [andThen, parts, joined_nil, ofParts_parts h]

/-- The character of a word of one character. -/
def letter? : Shape → Option Char
  | .word [c] => some c
  | _ => none

/-- The ranges of a set. -/
def ranges? : Shape → Option (List (Nat × Nat))
  | .chars rs => some rs
  | _ => none

/-- The set that some alternatives make together, if all are single characters or all are sets. -/
def merged? (ss : List Shape) : Option Shape :=
  match ss.mapM letter? with
  | some cs => some (ofRanges (cs.foldr (fun c rs => CodeRange.insert (c.toNat, c.toNat) rs) []))
  | none => (ss.mapM ranges?).map fun rss => ofRanges (rss.foldr CodeRange.union [])

/-- The alternatives of a shape. -/
def alternatives : Shape → List Shape
  | .choice ss => ss
  | s => [s]

/-- One of several shapes, where those that are choices give their alternatives. -/
def choose (ss : List Shape) : Shape :=
  match ss.flatMap alternatives with
  | [s] => s
  | ss' => (merged? ss').getD (.choice ss')

/-- The number of parts that two rows have in common at their start. -/
def commonLength : List Shape → List Shape → Nat
  | s :: ss, t :: ts => if same s t then commonLength ss ts + 1 else 0
  | _, _ => 0

/-- The parts of a row of several. -/
def row? : Shape → Option (List Shape)
  | .sequence ss => some ss
  | _ => none

/-- One of several shapes; what all alternatives start with stands before the choice. -/
def oneOf (ss : List Shape) : Shape :=
  match choose ss with
  | .choice ts =>
    match ts.mapM row? with
    | some (row :: rows) =>
      let n := rows.foldl (fun n r => min n (commonLength row r)) row.length
      if n = 0 then .choice ts
      else andThen (ofParts (row.take n)) (choose ((row :: rows).map fun r => ofParts (r.drop n)))
    | _ => .choice ts
  | s => s

/-- A shape a number of times; the empty stretch is not repeated. -/
def repeated (min : Nat) (max : Option Nat) (greedy : Bool) (s : Shape) : Shape :=
  let min' := if s.isEmptyOnly then Nat.min min 1 else min
  let max' := if s.isEmptyOnly then some ((max.map (Nat.min 1)).getD 1) else max
  if min' = 0 ∧ max' = some 0 then .empty
  else if min' = 1 ∧ max' = some 1 then s
  else .repetition min' max' greedy s

mutual

/-- The shape with its parts in opposite order; words keep theirs. -/
def reversed : Shape → Shape
  | .empty => .empty
  | .word cs => .word cs
  | .chars rs => .chars rs
  | .assertion a => .assertion a
  | .repetition min max greedy s => .repetition min max greedy (reversed s)
  | .capture s => .capture (reversed s)
  | .sequence ss => .sequence (reversedAll ss).reverse
  | .choice ss => .choice (reversedAll ss)

/-- Some shapes, each with its parts in opposite order. -/
def reversedAll : List Shape → List Shape
  | [] => []
  | s :: ss => reversed s :: reversedAll ss

end

end Shape

/-- The shapes of the alternatives of an expression. -/
def Regex.shapes : Regex → List Shape
  | .empty => [.empty]
  | .chars s => [.ofRanges s.ranges]
  | .assertion a => [.assertion a]
  | .seq r s => [(Shape.oneOf r.shapes).andThen (Shape.oneOf s.shapes)]
  | .alt r s => r.shapes ++ s.shapes
  | .repetition min more greedy r =>
    [Shape.repeated min (more.map (min + ·)) greedy (Shape.oneOf r.shapes)]
  | .group captured r =>
    let s := Shape.oneOf r.shapes
    [if captured then .capture s else s]

/-- The shape of an expression. -/
def Regex.shape (r : Regex) : Shape := Shape.oneOf r.shapes

end BiblioQuery
