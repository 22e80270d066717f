import BiblioQuery.Proofs.Json.Scalars

/-!
# JSON read back

The compact text and the indented text of a value differ in blanks only.  A *layout* says where the
blanks stand, and a value is read back from its text in any layout, provided its numbers are whole
numbers of 64-bit words.  The reader allows a given number of arrays and objects to be open at once:
a value nested no deeper is read back, and a deeper one is refused.

## Main definitions

* `Json.IsExact` : all numbers of a value are whole numbers of 64-bit words.
* `Json.Layout` : the blanks of a text, with `Json.Layout.chars`, the text of a value.
* `Json.Layout.compact`, `Json.Layout.indented` : the layouts of the two writers.

## Main results

* `Json.Layout.run_chars` : a value is read from its text if it is not nested too deep, and only
  then.
* `Json.parseWithin?_compact`, `Json.parseWithin?_pretty` : the same of whole texts.
* `Json.compact_injective_of_isExact` : different values have different texts.
-/

namespace BiblioQuery.Json

/-! ### Exact values -/

mutual

/-- All numbers of a value are whole numbers of 64-bit words. -/
def IsExact : Json → Prop
  | .number n => n.IsWord
  | .array items => AreExact items
  | .object fields => FieldsAreExact fields
  | _ => True

/-- All numbers of a list of values are whole numbers of 64-bit words. -/
def AreExact : List Json → Prop
  | [] => True
  | j :: r => IsExact j ∧ AreExact r

/-- All numbers of a list of fields are whole numbers of 64-bit words. -/
def FieldsAreExact : List (String × Json) → Prop
  | [] => True
  | (_, j) :: r => IsExact j ∧ FieldsAreExact r

end

/-! ### Layouts -/

/-- The blanks of a text: at the start of a line, by its level, and after a colon. -/
structure Layout where
  /-- The start of a line at a level. -/
  line : Nat → List Char
  /-- What stands between the colon of a field and its value. -/
  gap : List Char
  /-- A line starts with blanks only. -/
  isSpace_line : ∀ level, ∀ c ∈ line level, isSpace c = true
  /-- Only blanks stand after a colon. -/
  isSpace_gap : ∀ c ∈ gap, isSpace c = true

namespace Layout

mutual

/-- The text of a value at a level. -/
def chars (L : Layout) (level : Nat) : Json → List Char
  | .null => "null".toList
  | .bool b => boolChars b
  | .number n => n.chars
  | .string s => quotedChars s
  | .array [] => ['[', ']']
  | .array (j :: js) =>
    '[' :: (L.line (level + 1) ++ (L.chars (level + 1) j ++ L.moreItems level js))
  | .object [] => ['\x7b', '\x7d']
  | .object ((k, j) :: fs) =>
    '\x7b' :: (L.line (level + 1) ++ (quotedChars k ++
      ':' :: (L.gap ++ (L.chars (level + 1) j ++ L.moreFields level fs))))

/-- The items after the first one, and the closing bracket. -/
def moreItems (L : Layout) (level : Nat) : List Json → List Char
  | [] => L.line level ++ [']']
  | j :: js => ',' :: (L.line (level + 1) ++ (L.chars (level + 1) j ++ L.moreItems level js))

/-- The fields after the first one, and the closing brace. -/
def moreFields (L : Layout) (level : Nat) : List (String × Json) → List Char
  | [] => L.line level ++ ['\x7d']
  | (k, j) :: fs =>
    ',' :: (L.line (level + 1) ++ (quotedChars k ++
      ':' :: (L.gap ++ (L.chars (level + 1) j ++ L.moreFields level fs))))

end

/-- No blanks at all. -/
def compact : Layout where
  line _ := []
  gap := []
  isSpace_line _ _ h := by simp at h
  isSpace_gap _ h := by simp at h

/-- One item or field a line, and a blank after each colon. -/
def indented : Layout where
  line := newLine
  gap := [' ']
  isSpace_line level c h := by
    rcases List.mem_cons.1 h with rfl | h
    · decide
    · rw [List.eq_of_mem_replicate h]
      decide
  isSpace_gap c h := by
    rw [List.mem_singleton.1 h]
    decide

mutual

theorem chars_compact (level : Nat) : (j : Json) → compact.chars level j = compactChars j
  | .null | .bool _ | .number _ | .string _ | .array [] | .object [] => by
    simp [chars, compactChars]
  | .array (j :: js) => by
    simp [chars, compactChars, compact, ← chars_compact (level + 1) j,
      ← moreItems_compact level js]
  | .object ((k, j) :: fs) => by
    simp [chars, compactChars, compact, ← chars_compact (level + 1) j,
      ← moreFields_compact level fs]

theorem moreItems_compact (level : Nat) :
    (js : List Json) → compact.moreItems level js = compactItems js
  | [] => rfl
  | j :: js => by
    simp [moreItems, compactItems, compact, ← chars_compact (level + 1) j,
      ← moreItems_compact level js]

theorem moreFields_compact (level : Nat) :
    (fs : List (String × Json)) → compact.moreFields level fs = compactFields fs
  | [] => rfl
  | (k, j) :: fs => by
    simp [moreFields, compactFields, compact, ← chars_compact (level + 1) j,
      ← moreFields_compact level fs]

end

mutual

theorem chars_indented (level : Nat) : (j : Json) → indented.chars level j = prettyChars level j
  | .null | .bool _ | .number _ | .string _ | .array [] | .object [] => by
    simp [chars, prettyChars]
  | .array (j :: js) => by
    simp [chars, prettyChars, indented, ← chars_indented (level + 1) j,
      ← moreItems_indented level js]
  | .object ((k, j) :: fs) => by
    simp [chars, prettyChars, indented, ← chars_indented (level + 1) j,
      ← moreFields_indented level fs]

theorem moreItems_indented (level : Nat) :
    (js : List Json) → indented.moreItems level js = prettyItems level js
  | [] => rfl
  | j :: js => by
    simp [moreItems, prettyItems, indented, ← chars_indented (level + 1) j,
      ← moreItems_indented level js]

theorem moreFields_indented (level : Nat) :
    (fs : List (String × Json)) → indented.moreFields level fs = prettyFields level fs
  | [] => rfl
  | (k, j) :: fs => by
    simp [moreFields, prettyFields, indented, ← chars_indented (level + 1) j,
      ← moreFields_indented level fs]

end

end Layout

/-! ### Blanks -/

theorem skipSpaces_append {sp : List Char} (h : ∀ c ∈ sp, isSpace c = true) (r : List Char) :
    skipSpaces (sp ++ r) = skipSpaces r := by
  rw [skipSpaces, List.dropWhile_append_of_pos h]
  rfl

theorem skipSpaces_cons {c : Char} (h : isSpace c = false) (r : List Char) :
    skipSpaces (c :: r) = c :: r := by
  simp [skipSpaces, h]

/-! ### Readers of lists -/

namespace Reader

variable {α : Type} {item : Reader α} {close : Char} {s r : List Char} {a : α}

/-- An item is read, and what follows it decides. -/
theorem separated_eq (item : Reader α) (close : Char) (s : List Char) :
    item.separated close s = (item.run (skipSpaces s)).bind fun p =>
      match skipSpaces p.2 with
      | [] => none
      | c :: r =>
        if c = ',' then (item.separated close r).map fun q => (p.1 :: q.1, q.2)
        else if c = close then some ([p.1], r)
        else none := by
  rw [separated]
  split
  · rename_i hread
    rw [hread]
    rfl
  · rename_i hread
    rw [hread, Option.bind_some]
    split <;> rename_i hrest <;> rw [hrest]

/-- An item that cannot be read ends the reading. -/
theorem separated_eq_none (h : item.run (skipSpaces s) = none) : item.separated close s = none := by
  rw [separated_eq, h]
  rfl

/-- After a comma more items are read. -/
theorem separated_of_comma {t : List Char} (h : item.run (skipSpaces s) = some (a, t))
    (ht : skipSpaces t = ',' :: r) :
    item.separated close s = (item.separated close r).map fun p => (a :: p.1, p.2) := by
  rw [separated_eq, h]
  simp [ht]

/-- The closing character ends the list. -/
theorem separated_of_close {t : List Char} (hclose : close ≠ ',')
    (h : item.run (skipSpaces s) = some (a, t)) (ht : skipSpaces t = close :: r) :
    item.separated close s = some ([a], r) := by
  rw [separated_eq, h]
  simp [ht, hclose]

/-- A first item that is read or not, by a condition, and more items that are. -/
theorem separated_of_run {p q : Prop} [Decidable p] [Decidable q] {t : List Char} {as : List α}
    (hrun : item.run (skipSpaces s) = if p then some (a, t) else none)
    (hmore : item.run (skipSpaces s) = some (a, t) →
      item.separated close s = if q then some (a :: as, r) else none) :
    item.separated close s = if p ∧ q then some (a :: as, r) else none := by
  by_cases hp : p
  · rw [if_pos hp] at hrun
    rw [hmore hrun]
    simp [hp]
  · rw [if_neg hp] at hrun
    rw [separated_eq_none hrun, if_neg fun h => hp h.1]

/-- A text that does not close at once has items. -/
theorem enclosed_of_ne {c : Char} (h : skipSpaces s = c :: r) (hc : c ≠ close) :
    item.enclosed close s = item.separated close (c :: r) := by
  rw [enclosed, h]
  exact if_neg hc

end Reader

/-- A field is read by its key, the colon and the value. -/
theorem fieldOf_run (v : Reader Json) (k : String) (s : List Char) :
    (fieldOf v).run (quotedChars k ++ ':' :: s) =
      (v.run (skipSpaces s)).map fun p => ((k, p.1), p.2) := by
  have hcolon : skipSpaces (':' :: s) = ':' :: s := skipSpaces_cons (by decide) s
  rw [quotedChars_append]
  simp [fieldOf, stringBody?_flatMap_escapedChar, hcolon]

/-- A text that opens no array and no object is read as a scalar. -/
theorem run_eq_scalar? {c : Char} (h₁ : c ≠ '[') (h₂ : c ≠ '\x7b') (n : Nat) (r : List Char) :
    (value n).run (c :: r) = scalar? (c :: r) := by
  cases n with
  | zero => rfl
  | succ n => simp [value, h₁, h₂]

/-! ### Starts and ends of texts -/

namespace Layout

variable (L : Layout)

/-- The text of a value starts with a visible character, and not with a closing one. -/
theorem exists_cons_chars {j : Json} (h : j.IsExact) (level : Nat) (r : List Char) :
    ∃ (c : Char) (s : List Char), L.chars level j ++ r = c :: s ∧ isSpace c = false ∧
      c ≠ ']' := by
  match j, h with
  | .null, _ => exact ⟨'n', _, rfl, by decide, by decide⟩
  | .bool true, _ => exact ⟨'t', _, rfl, by decide, by decide⟩
  | .bool false, _ => exact ⟨'f', _, rfl, by decide, by decide⟩
  | .string s, _ => exact ⟨'"', _, quotedChars_append s r, by decide, by decide⟩
  | .array [], _ => exact ⟨'[', _, rfl, by decide, by decide⟩
  | .array (_ :: _), _ => exact ⟨'[', _, rfl, by decide, by decide⟩
  | .object [], _ => exact ⟨'\x7b', _, rfl, by decide, by decide⟩
  | .object (_ :: _), _ => exact ⟨'\x7b', _, rfl, by decide, by decide⟩
  | .number (.binary _), h => exact h.elim
  | .number (.integer n), _ =>
    obtain ⟨c, s, hs, hc⟩ := exists_cons_integerChars n
    refine ⟨c, s ++ r, by rw [chars, Numeral.chars, hs]; rfl, ?_, ?_⟩
    · rcases hc with hc | rfl
      · refine Bool.eq_false_iff.2 fun hspace => ?_
        have hcases : c = ' ' ∨ c = '\t' ∨ c = '\n' ∨ c = '\r' := by
          simpa [isSpace, or_assoc] using hspace
        rcases hcases with rfl | rfl | rfl | rfl <;> exact absurd hc (by decide)
      · decide
    · rcases hc with hc | rfl
      · rintro rfl
        exact absurd hc (by decide)
      · decide

/-- The blanks before a value are skipped, and nothing of the value. -/
theorem skipSpaces_chars {j : Json} (h : j.IsExact) (level : Nat) (r : List Char) :
    skipSpaces (L.chars level j ++ r) = L.chars level j ++ r := by
  obtain ⟨c, s, hs, hc, -⟩ := L.exists_cons_chars h level r
  rw [hs, skipSpaces_cons hc]

theorem skipSpaces_quotedChars (k : String) (r : List Char) :
    skipSpaces (quotedChars k ++ r) = quotedChars k ++ r := by
  rw [quotedChars_append, skipSpaces_cons (by decide)]

/-- A number ends where a line starts that a bracket or a brace closes. -/
theorem numberEnds_line {c : Char} (h : c = ']' ∨ c = '\x7d') (level : Nat) (r : List Char) :
    NumberEnds (L.line level ++ c :: r) := by
  cases hline : L.line level with
  | nil =>
    rcases h with rfl | rfl
    · exact numberEnds_cons (.inr (.inl rfl)) r
    · exact numberEnds_cons (.inr (.inr (.inl rfl))) r
  | cons d s =>
    have hspace := L.isSpace_line level d (by simp [hline])
    exact numberEnds_cons (.inr (.inr (.inr hspace))) _

theorem numberEnds_moreItems (level : Nat) (js : List Json) (r : List Char) :
    NumberEnds (L.moreItems level js ++ r) := by
  cases js with
  | nil =>
    rw [moreItems, List.append_assoc]
    exact L.numberEnds_line (.inl rfl) level r
  | cons j js =>
    rw [moreItems]
    exact numberEnds_cons (.inl rfl) _

theorem numberEnds_moreFields (level : Nat) (fs : List (String × Json)) (r : List Char) :
    NumberEnds (L.moreFields level fs ++ r) := by
  cases fs with
  | nil =>
    rw [moreFields, List.append_assoc]
    exact L.numberEnds_line (.inr rfl) level r
  | cons f fs =>
    rw [moreFields]
    exact numberEnds_cons (.inl rfl) _

/-! ### Values -/

/-- The reader of values with a limit reads a value from its text if it is not nested too deep. -/
def Reads (n level : Nat) (j : Json) : Prop :=
  ∀ r, NumberEnds r →
    (value n).run (L.chars level j ++ r) = if j.levels ≤ n then some (j, r) else none

/-- After an item, the reader of lists reads more items if none is nested too deep. -/
def ReadsItems (n level : Nat) (js : List Json) : Prop :=
  ∀ a s r, (value n).run (skipSpaces s) = some (a, L.moreItems level js ++ r) →
    (value n).separated ']' s = if levelsList js ≤ n then some (a :: js, r) else none

/-- After a field, the reader of lists reads more fields if none is nested too deep. -/
def ReadsFields (n level : Nat) (fs : List (String × Json)) : Prop :=
  ∀ a s r, (fieldOf (value n)).run (skipSpaces s) = some (a, L.moreFields level fs ++ r) →
    (fieldOf (value n)).separated '\x7d' s =
      if levelsFields fs ≤ n then some (a :: fs, r) else none

variable {n level : Nat} {j : Json}

theorem reads_scalar (hlevels : j.levels = 0)
    (hfirst : ∀ r, ∃ (c : Char) (s : List Char),
      L.chars level j ++ r = c :: s ∧ c ≠ '[' ∧ c ≠ '\x7b')
    (hscalar : ∀ r, NumberEnds r → scalar? (L.chars level j ++ r) = some (j, r)) :
    L.Reads n level j := by
  intro r hr
  obtain ⟨c, s, hs, h₁, h₂⟩ := hfirst r
  have hread := hscalar r hr
  rw [hs] at hread ⊢
  rw [run_eq_scalar? h₁ h₂, hread, hlevels, if_pos (Nat.zero_le n)]

theorem skipSpaces_line {c : Char} (h : isSpace c = false) (level : Nat) (r : List Char) :
    skipSpaces (L.line level ++ c :: r) = c :: r := by
  rw [skipSpaces_append (L.isSpace_line level), skipSpaces_cons h]

/-- An item and more items are read as a list. -/
theorem separated_items {js : List Json} (hj : L.Reads n (level + 1) j)
    (hjs : L.ReadsItems n level js) {s r : List Char}
    (hs : skipSpaces s = L.chars (level + 1) j ++ (L.moreItems level js ++ r)) :
    (value n).separated ']' s = if levelsList (j :: js) ≤ n then some (j :: js, r) else none := by
  have hrun := hj _ (L.numberEnds_moreItems level js r)
  rw [← hs] at hrun
  rw [Reader.separated_of_run hrun (hjs j s r)]
  simp only [levelsList, Nat.max_le]

/-- A field and more fields are read as a list. -/
theorem separated_fields {k : String} {fs : List (String × Json)} (hexact : j.IsExact)
    (hj : L.Reads n (level + 1) j) (hfs : L.ReadsFields n level fs) {s r : List Char}
    (hs : skipSpaces s = quotedChars k ++
      ':' :: (L.gap ++ (L.chars (level + 1) j ++ (L.moreFields level fs ++ r)))) :
    (fieldOf (value n)).separated '\x7d' s =
      if levelsFields ((k, j) :: fs) ≤ n then some ((k, j) :: fs, r) else none := by
  have hrun : (fieldOf (value n)).run (skipSpaces s) =
      if j.levels ≤ n then some ((k, j), L.moreFields level fs ++ r) else none := by
    rw [hs, fieldOf_run, skipSpaces_append L.isSpace_gap, L.skipSpaces_chars hexact,
      hj _ (L.numberEnds_moreFields level fs r)]
    split <;> rfl
  rw [Reader.separated_of_run hrun (hfs (k, j) s r)]
  simp only [levelsFields, Nat.max_le]

/-- A list of items is read as an array. -/
theorem reads_array {js : List Json} (hexact : j.IsExact) (hj : ∀ n, L.Reads n (level + 1) j)
    (hjs : ∀ n, L.ReadsItems n level js) : L.Reads n level (.array (j :: js)) := by
  intro r _
  cases n with
  | zero => rfl
  | succ n =>
    obtain ⟨c, s, hs, -, hclose⟩ :=
      L.exists_cons_chars hexact (level + 1) (L.moreItems level js ++ r)
    have hskip : skipSpaces (L.line (level + 1) ++
        (L.chars (level + 1) j ++ (L.moreItems level js ++ r))) = c :: s := by
      rw [skipSpaces_append (L.isSpace_line _), L.skipSpaces_chars hexact, hs]
    have hitems := L.separated_items (hj n) (hjs n) (s := c :: s) (r := r)
      (by rw [← hs, L.skipSpaces_chars hexact])
    have hrun : (value (n + 1)).run (L.chars level (.array (j :: js)) ++ r) =
        ((value n).enclosed ']' (L.line (level + 1) ++
          (L.chars (level + 1) j ++ (L.moreItems level js ++ r)))).map
            fun p => (.array p.1, p.2) := by
      simp only [chars, List.cons_append, List.append_assoc]
      rfl
    rw [hrun, Reader.enclosed_of_ne hskip hclose, hitems]
    simp only [levels, Nat.add_le_add_iff_right]
    split <;> rfl

/-- A list of fields is read as an object. -/
theorem reads_object {k : String} {fs : List (String × Json)} (hexact : j.IsExact)
    (hj : ∀ n, L.Reads n (level + 1) j) (hfs : ∀ n, L.ReadsFields n level fs) :
    L.Reads n level (.object ((k, j) :: fs)) := by
  intro r _
  cases n with
  | zero => rfl
  | succ n =>
    have hquote := quotedChars_append k
      (':' :: (L.gap ++ (L.chars (level + 1) j ++ (L.moreFields level fs ++ r))))
    have hskip := skipSpaces_quotedChars k
      (':' :: (L.gap ++ (L.chars (level + 1) j ++ (L.moreFields level fs ++ r))))
    have hfields := L.separated_fields hexact (hj n) (hfs n) hskip
    have hrun : (value (n + 1)).run (L.chars level (.object ((k, j) :: fs)) ++ r) =
        ((fieldOf (value n)).enclosed '\x7d' (L.line (level + 1) ++ (quotedChars k ++
          ':' :: (L.gap ++ (L.chars (level + 1) j ++ (L.moreFields level fs ++ r)))))).map
            fun p => (.object p.1, p.2) := by
      simp only [chars, List.cons_append, List.append_assoc]
      rfl
    rw [hquote] at hskip hfields
    rw [hrun, hquote, Reader.enclosed_of_ne
      ((skipSpaces_append (L.isSpace_line _) _).trans hskip) (by decide), hfields]
    simp only [levels, Nat.add_le_add_iff_right]
    split <;> rfl

mutual

/-- A value is read from its text if it is not nested too deep, and only then. -/
theorem run_chars : (j : Json) → j.IsExact → ∀ n level, L.Reads n level j
  | .null, _, n, level => by
    refine L.reads_scalar rfl (fun r => ⟨'n', _, rfl, by decide, by decide⟩) fun r _ => ?_
    rw [chars, scalar?_null]
  | .bool b, _, n, level => by
    refine L.reads_scalar rfl (fun r => ?_) fun r _ => ?_
    · cases b with
      | true => exact ⟨'t', _, rfl, by decide, by decide⟩
      | false => exact ⟨'f', _, rfl, by decide, by decide⟩
    · rw [chars, scalar?_boolChars]
  | .string s, _, n, level => by
    refine L.reads_scalar rfl (fun r => ?_) fun r _ => ?_
    · exact ⟨'"', _, quotedChars_append s r, by decide, by decide⟩
    · rw [chars, scalar?_quotedChars]
  | .number m, h, n, level => by
    refine L.reads_scalar rfl (fun r => ?_) fun r hr => ?_
    · cases m with
      | binary x => exact h.elim
      | integer m =>
        obtain ⟨c, s, hs, hc⟩ := exists_cons_integerChars m
        refine ⟨c, s ++ r, by rw [chars, Numeral.chars, hs]; rfl, ?_, ?_⟩ <;>
          · rintro rfl
            revert hc
            decide
    · rw [chars]
      exact scalar?_numeral h hr
  | .array [], _, n, level => by
    intro r _
    cases n <;> rfl
  | .array (j :: js), h, n, level =>
    L.reads_array h.1 (fun n => run_chars j h.1 n (level + 1))
      fun n => separated_moreItems js h.2 n level
  | .object [], _, n, level => by
    intro r _
    cases n <;> rfl
  | .object ((_, j) :: fs), h, n, level =>
    L.reads_object h.1 (fun n => run_chars j h.1 n (level + 1))
      fun n => separated_moreFields fs h.2 n level

/-- After an item has been read, the items after it are read if none is nested too deep. -/
theorem separated_moreItems : (js : List Json) → AreExact js → ∀ n level, L.ReadsItems n level js
  | [], _, n, level => by
    intro a s r hrun
    refine (Reader.separated_of_close (by decide) hrun ?_).trans (if_pos (Nat.zero_le n)).symm
    rw [moreItems, List.append_assoc]
    exact L.skipSpaces_line (by decide) level r
  | j :: js, h, n, level => by
    intro a s r hrun
    have hskip : skipSpaces (L.line (level + 1) ++ (L.chars (level + 1) j ++
        (L.moreItems level js ++ r))) = L.chars (level + 1) j ++ (L.moreItems level js ++ r) := by
      rw [skipSpaces_append (L.isSpace_line _), L.skipSpaces_chars h.1]
    have hcomma : skipSpaces (L.moreItems level (j :: js) ++ r) = ',' :: (L.line (level + 1) ++
        (L.chars (level + 1) j ++ (L.moreItems level js ++ r))) := by
      rw [moreItems, List.cons_append, skipSpaces_cons (by decide)]
      simp
    rw [Reader.separated_of_comma hrun hcomma, L.separated_items (run_chars j h.1 n (level + 1))
      (separated_moreItems js h.2 n level) hskip]
    split <;> rfl

/-- After a field has been read, the fields after it are read if none is nested too deep. -/
theorem separated_moreFields : (fs : List (String × Json)) → FieldsAreExact fs →
    ∀ n level, L.ReadsFields n level fs
  | [], _, n, level => by
    intro a s r hrun
    refine (Reader.separated_of_close (by decide) hrun ?_).trans (if_pos (Nat.zero_le n)).symm
    rw [moreFields, List.append_assoc]
    exact L.skipSpaces_line (by decide) level r
  | (k, j) :: fs, h, n, level => by
    intro a s r hrun
    have hskip := (skipSpaces_append (L.isSpace_line (level + 1)) _).trans
      (skipSpaces_quotedChars k
        (':' :: (L.gap ++ (L.chars (level + 1) j ++ (L.moreFields level fs ++ r)))))
    have hcomma : skipSpaces (L.moreFields level ((k, j) :: fs) ++ r) =
        ',' :: (L.line (level + 1) ++ (quotedChars k ++
          ':' :: (L.gap ++ (L.chars (level + 1) j ++ (L.moreFields level fs ++ r))))) := by
      rw [moreFields, List.cons_append, skipSpaces_cons (by decide)]
      simp
    rw [Reader.separated_of_comma hrun hcomma, L.separated_fields h.1
      (run_chars j h.1 n (level + 1)) (separated_moreFields fs h.2 n level) hskip]
    split <;> rfl

end

/-- A text of a value in any layout is the text of a document with that value. -/
theorem parseWithin?_chars {j : Json} (h : j.IsExact) (n : Nat) :
    parseWithin? n (String.ofList (L.chars 0 j)) = if j.levels ≤ n then some j else none := by
  have hskip := L.skipSpaces_chars h 0 []
  have hread := L.run_chars j h n 0 [] numberEnds_nil
  rw [List.append_nil] at hskip hread
  rw [parseWithin?, String.toList_ofList, hskip, hread]
  by_cases hlevels : j.levels ≤ n
  · rw [if_pos hlevels, if_pos hlevels]
    rfl
  · rw [if_neg hlevels, if_neg hlevels]

end Layout

/-! ### Documents -/

/-- The compact text of a value is read back if the value is not nested too deep, and refused
otherwise. -/
theorem parseWithin?_compact {j : Json} (h : j.IsExact) (n : Nat) :
    parseWithin? n j.compact = if j.levels ≤ n then some j else none := by
  rw [compact, ← Layout.chars_compact 0]
  exact Layout.compact.parseWithin?_chars h n

/-- The indented text of a value is read back if the value is not nested too deep, and refused
otherwise. -/
theorem parseWithin?_pretty {j : Json} (h : j.IsExact) (n : Nat) :
    parseWithin? n j.pretty = if j.levels ≤ n then some j else none := by
  rw [pretty, ← Layout.chars_indented 0]
  exact Layout.indented.parseWithin?_chars h n

/-- Different values have different compact texts, however deep they are nested. -/
theorem compact_injective_of_isExact {j k : Json} (hj : j.IsExact) (hk : k.IsExact)
    (h : j.compact = k.compact) : j = k := by
  have hread := parseWithin?_compact hj (max j.levels k.levels)
  rw [h, parseWithin?_compact hk, if_pos (Nat.le_max_left ..),
    if_pos (Nat.le_max_right ..)] at hread
  exact (Option.some.inj hread).symm

end BiblioQuery.Json
