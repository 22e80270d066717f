import BiblioQuery.Json.Basic

/-!
# Reading JSON

A JSON text is read strictly: no comments, no trailing commas, no leading zeros, no raw controls in
strings, no unpaired surrogates, and nothing but blanks after the value.  Arrays and objects may be
open up to a given number of levels at once.

A number without point and exponent that fits a 64-bit word is exact.  Any other number is the
significand, as far as its digits fit a 64-bit word, scaled by a power of ten: the significand and
the power are each rounded to the nearest finite value, and so is their product or quotient.

## Main definitions

* `Json.Reader` : a function that reads something off the front of a text and always consumes some
  of it, so that reading repeatedly comes to an end.
* `Json.stringBody?`, `Json.numeral?` : strings and numbers.
* `Json.value` : the reader of a value with a limit on nesting.
* `Json.parse?` : the value of a whole text.
-/

namespace BiblioQuery.Json

/-- A JSON blank. -/
def isSpace (c : Char) : Bool := c = ' ' || c = '\t' || c = '\n' || c = '\r'

/-- A text without the blanks it starts with. -/
def skipSpaces (s : List Char) : List Char := s.dropWhile isSpace

theorem length_skipSpaces_le (s : List Char) : (skipSpaces s).length ≤ s.length :=
  List.dropWhile_sublist isSpace |>.length_le

/-! ### Strings -/

/-- The value of a hexadecimal digit. -/
def hexValue? (c : Char) : Option Nat :=
  if '0' ≤ c ∧ c ≤ '9' then some (c.toNat - '0'.toNat)
  else if 'a' ≤ c ∧ c ≤ 'f' then some (c.toNat - 'a'.toNat + 10)
  else if 'A' ≤ c ∧ c ≤ 'F' then some (c.toNat - 'A'.toNat + 10)
  else none

/-- The number of four hexadecimal digits. -/
def hexQuad? (a b c d : Char) : Option Nat :=
  match hexValue? a, hexValue? b, hexValue? c, hexValue? d with
  | some w, some x, some y, some z => some (((w * 16 + x) * 16 + y) * 16 + z)
  | _, _, _, _ => none

/-- The character that a one-letter escape stands for. -/
def simpleEscape? (c : Char) : Option Char :=
  if c = '"' ∨ c = '\\' ∨ c = '/' then some c
  else if c = 'b' then some '\x08'
  else if c = 'f' then some '\x0c'
  else if c = 'n' then some '\n'
  else if c = 'r' then some '\r'
  else if c = 't' then some '\t'
  else none

/-- A unit that starts a pair of surrogates. -/
def isHighSurrogate (n : Nat) : Bool := 0xD800 ≤ n && n ≤ 0xDBFF

/-- A unit that ends a pair of surrogates. -/
def isLowSurrogate (n : Nat) : Bool := 0xDC00 ≤ n && n ≤ 0xDFFF

/-- The character of a pair of surrogates. -/
def pairedChar (high low : Nat) : Char :=
  Char.ofNat (0x10000 + (high - 0xD800) * 0x400 + (low - 0xDC00))

/-- Reads a string after its opening quote, up to the closing one. -/
def stringBody? : List Char → Option (List Char × List Char)
  | [] => none
  | '"' :: r => some ([], r)
  | '\\' :: 'u' :: a :: b :: c :: d :: r =>
    match hexQuad? a b c d with
    | none => none
    | some n =>
      if isHighSurrogate n then
        match r with
        | '\\' :: 'u' :: e :: f :: g :: h :: r' =>
          match hexQuad? e f g h with
          | none => none
          | some m =>
            if isLowSurrogate m then
              (stringBody? r').map fun p => (pairedChar n m :: p.1, p.2)
            else none
        | _ => none
      else if isLowSurrogate n then none
      else (stringBody? r).map fun p => (Char.ofNat n :: p.1, p.2)
  | '\\' :: c :: r =>
    match simpleEscape? c with
    | none => none
    | some d => (stringBody? r).map fun p => (d :: p.1, p.2)
  | c :: r =>
    if c = '\\' ∨ c.toNat < 0x20 then none
    else (stringBody? r).map fun p => (c :: p.1, p.2)

/-- Reading a string body consumes its closing quote at least. -/
theorem length_stringBody? {s cs r : List Char} (h : stringBody? s = some (cs, r)) :
    r.length < s.length := by
  fun_induction stringBody? s generalizing cs r with
  | case1 | case3 | case4 | case6 | case7 | case8 | case10 | case12 => simp at h
  | case2 => simp only [Option.some.injEq, Prod.mk.injEq] at h; simp [← h.2]
  | case5 =>
    rename_i ih
    obtain ⟨⟨_, _⟩, h₁, h₂⟩ := Option.map_eq_some_iff.1 h
    simp only [Prod.mk.injEq] at h₂
    have := ih h₁
    simp only [← h₂.2, List.length_cons]
    omega
  | case9 =>
    rename_i ih
    obtain ⟨⟨_, _⟩, h₁, h₂⟩ := Option.map_eq_some_iff.1 h
    simp only [Prod.mk.injEq] at h₂
    have := ih h₁
    simp only [← h₂.2, List.length_cons]
    omega
  | case11 =>
    rename_i ih
    obtain ⟨⟨_, _⟩, h₁, h₂⟩ := Option.map_eq_some_iff.1 h
    simp only [Prod.mk.injEq] at h₂
    have := ih h₁
    simp only [← h₂.2, List.length_cons]
    omega
  | case13 =>
    rename_i ih
    obtain ⟨⟨_, _⟩, h₁, h₂⟩ := Option.map_eq_some_iff.1 h
    simp only [Prod.mk.injEq] at h₂
    have := ih h₁
    simp only [← h₂.2, List.length_cons]
    omega

/-! ### Numbers -/

/-- Extends a significand by the digits that fit a 64-bit word, and counts the digits left out. -/
def fitDigits (n : Nat) : List Char → Nat × Nat
  | [] => (n, 0)
  | c :: r =>
    let m := 10 * n + digitValue c
    if m < UInt64.size then fitDigits m r else (n, r.length + 1)

/-- Divides the value of a rank by a power of ten, in steps of the greatest finite power. -/
def divPowerOfTen (rank e : Nat) : Nat :=
  if e ≤ 308 then Number.divRank rank (Number.decimalRank 1 e)
  else if rank = 0 then 0
  else divPowerOfTen (Number.divRank rank (Number.decimalRank 1 308)) (e - 308)
termination_by e

/-- The rank of a significand scaled by a power of ten; `none` where the power overflows. -/
def scaledRank? (significand : Nat) (e : Int) : Option Nat :=
  let rank := Number.ratioRank significand 1
  if e < 0 then some (divPowerOfTen rank (-e).toNat)
  else if e ≤ 308 then some (Number.mulRank rank (Number.decimalRank 1 e))
  else if rank = 0 then some 0
  else none

/-- The binary number of the digits before and after the point and an exponent. -/
def binary? (negative : Bool) (whole fraction : List Char) (e : Int) : Option Number :=
  let (n, dropped) := fitDigits 0 whole
  let (m, ignored) := fitDigits n fraction
  let shift := (dropped : Int) - (fraction.length - ignored : Nat)
  (scaledRank? m (e + shift)).bind (Number.ofRank? negative)

/-- The number of a literal without point and exponent. -/
def wholeNumeral? (negative : Bool) (whole : List Char) : Option Numeral :=
  let n := digitsValue whole
  if negative then
    if 0 < n ∧ 2 * n ≤ UInt64.size then some (.integer (-n))
    else (binary? true whole [] 0).map .binary
  else if n < UInt64.size then some (.integer n)
  else (binary? false whole [] 0).map .binary

/-- Splits off the minus sign, if any. -/
def splitMinus : List Char → Bool × List Char
  | '-' :: r => (true, r)
  | r => (false, r)

/-- The digits before the point: a lone zero, or digits that start with another one. -/
def wholeDigits? (s : List Char) : Option (List Char × List Char) :=
  match spanDigits s with
  | ([], _) => none
  | ('0' :: _ :: _, _) => none
  | (ds, r) => some (ds, r)

/-- The digits after the point, where there is one: at least one. -/
def fractionDigits? : List Char → Option (Option (List Char) × List Char)
  | '.' :: r =>
    match spanDigits r with
    | ([], _) => none
    | (ds, r') => some (some ds, r')
  | r => some (none, r)

/-- The exponent, where there is one: a letter, an optional sign and at least one digit. -/
def exponentPart? : List Char → Option (Option Int × List Char)
  | [] => some (none, [])
  | c :: r =>
    if c = 'e' ∨ c = 'E' then
      let (negative, r') := Number.splitSign r
      match spanDigits r' with
      | ([], _) => none
      | (ds, r'') =>
        some (some (if negative then -(digitsValue ds : Int) else digitsValue ds), r'')
    else some (none, c :: r)

/-- Reads a number. -/
def numeral? (s : List Char) : Option (Numeral × List Char) :=
  let (negative, r₀) := splitMinus s
  match wholeDigits? r₀ with
  | none => none
  | some (whole, r₁) =>
    match fractionDigits? r₁ with
    | none => none
    | some (fraction, r₂) =>
      match exponentPart? r₂ with
      | none => none
      | some (e, r₃) =>
        let n :=
          if fraction.isNone && e.isNone then wholeNumeral? negative whole
          else (binary? negative whole (fraction.getD []) (e.getD 0)).map .binary
        n.map fun n => (n, r₃)

theorem length_splitMinus_le (s : List Char) : (splitMinus s).2.length ≤ s.length := by
  unfold splitMinus
  split <;> simp

theorem length_splitSign_le (s : List Char) : (Number.splitSign s).2.length ≤ s.length := by
  unfold Number.splitSign
  split <;> simp

theorem length_spanDigits (s : List Char) :
    (spanDigits s).1.length + (spanDigits s).2.length = s.length := by
  rw [← List.length_append]
  exact congrArg _ List.takeWhile_append_dropWhile

theorem length_wholeDigits? {s ds r : List Char} (h : wholeDigits? s = some (ds, r)) :
    r.length < s.length := by
  have hs := length_spanDigits s
  unfold wholeDigits? at h
  split at h
  · cases h
  · cases h
  · rename_i ds' r' hne _ heq
    rw [heq] at hs
    simp only [Option.some.injEq, Prod.mk.injEq] at h
    obtain ⟨rfl, rfl⟩ := h
    cases ds' with
    | nil => exact (hne rfl).elim
    | cons c ds' => simp only [List.length_cons] at hs; omega

theorem length_fractionDigits? {s r : List Char} {o : Option (List Char)}
    (h : fractionDigits? s = some (o, r)) : r.length ≤ s.length := by
  unfold fractionDigits? at h
  split at h
  · rename_i t
    have ht := length_spanDigits t
    split at h
    · cases h
    · rename_i heq
      rw [heq] at ht
      simp only [Option.some.injEq, Prod.mk.injEq] at h
      obtain ⟨_, rfl⟩ := h
      simp only [List.length_cons] at ht ⊢
      omega
  · simp only [Option.some.injEq, Prod.mk.injEq] at h
    simp [h.2]

theorem length_exponentPart? {s r : List Char} {o : Option Int}
    (h : exponentPart? s = some (o, r)) : r.length ≤ s.length := by
  unfold exponentPart? at h
  split at h
  · simp_all
  · rename_i c t
    split at h
    · have h₁ := length_splitSign_le t
      have h₂ := length_spanDigits (Number.splitSign t).2
      dsimp only at h
      split at h
      · cases h
      · rename_i heq
        rw [heq] at h₂
        simp only [Option.some.injEq, Prod.mk.injEq] at h
        obtain ⟨_, rfl⟩ := h
        simp only [List.length_cons] at h₂ ⊢
        omega
    · simp only [Option.some.injEq, Prod.mk.injEq] at h
      simp [h.2]

/-- Reading a number consumes a digit at least. -/
theorem length_numeral? {s r : List Char} {n : Numeral} (h : numeral? s = some (n, r)) :
    r.length < s.length := by
  have h₀ := length_splitMinus_le s
  unfold numeral? at h
  dsimp only at h
  split at h
  · cases h
  rename_i whole r₁ h₁
  split at h
  · cases h
  rename_i fraction r₂ h₂
  split at h
  · cases h
  rename_i e r₃ h₃
  obtain ⟨_, _, h₄⟩ := Option.map_eq_some_iff.1 h
  simp only [Prod.mk.injEq] at h₄
  have := length_wholeDigits? h₁
  have := length_fractionDigits? h₂
  have := length_exponentPart? h₃
  rw [← h₄.2]
  omega

/-! ### Values -/

/-- A function that reads something off the front of a text and always consumes some of it. -/
structure Reader (α : Type) where
  /-- What is read, and the rest of the text. -/
  run : List Char → Option (α × List Char)
  /-- The rest is shorter than the text. -/
  shrinks : ∀ {s a r}, run s = some (a, r) → r.length < s.length

namespace Reader

variable {α : Type}

/-- Reads one or more items with commas between them, up to a closing character. -/
def separated (item : Reader α) (close : Char) (s : List Char) : Option (List α × List Char) :=
  match _read : item.run (skipSpaces s) with
  | none => none
  | some (a, r) =>
    match _rest : skipSpaces r with
    | [] => none
    | c :: r' =>
      if c = ',' then (separated item close r').map fun p => (a :: p.1, p.2)
      else if c = close then some ([a], r')
      else none
termination_by s.length
decreasing_by
  have h₁ := item.shrinks _read
  have h₂ := length_skipSpaces_le s
  have h₃ := length_skipSpaces_le r
  rw [_rest] at h₃
  simp only [List.length_cons] at h₃
  omega

/-- Reading items consumes the closing character at least. -/
theorem length_separated {item : Reader α} {close : Char} {s r : List Char} {as : List α}
    (h : item.separated close s = some (as, r)) : r.length < s.length := by
  fun_induction separated item close s generalizing as r with
  | case1 | case2 | case5 => simp at h
  | case3 s a r₁ h₁ r' h₂ ih =>
    obtain ⟨⟨_, _⟩, h₃, h₄⟩ := Option.map_eq_some_iff.1 h
    simp only [Prod.mk.injEq] at h₄
    have := ih h₃
    have := item.shrinks h₁
    have := length_skipSpaces_le s
    have := length_skipSpaces_le r₁
    simp only [h₂, List.length_cons] at this
    rw [← h₄.2]
    omega
  | case4 s a r₁ h₁ r' h₂ =>
    simp only [Option.some.injEq, Prod.mk.injEq] at h
    have := item.shrinks h₁
    have := length_skipSpaces_le s
    have := length_skipSpaces_le r₁
    simp only [h₂, List.length_cons] at this
    rw [← h.2]
    omega

/-- Reads the items after an opening character, none if the closing one follows at once. -/
def enclosed (item : Reader α) (close : Char) (s : List Char) : Option (List α × List Char) :=
  match skipSpaces s with
  | [] => none
  | c :: r => if c = close then some ([], r) else item.separated close (c :: r)

theorem length_enclosed {item : Reader α} {close : Char} {s r : List Char} {as : List α}
    (h : item.enclosed close s = some (as, r)) : r.length < s.length := by
  have hs := length_skipSpaces_le s
  unfold enclosed at h
  split at h
  · cases h
  · rename_i heq
    rw [heq] at hs
    split at h
    · simp only [Option.some.injEq, Prod.mk.injEq] at h
      simp only [List.length_cons, h.2] at hs
      omega
    · have := length_separated h
      omega

end Reader

/-- Reads a field: a string, a colon and a value. -/
def fieldOf (value : Reader Json) : Reader (String × Json) where
  run
    | '"' :: s =>
      match stringBody? s with
      | none => none
      | some (key, r) =>
        match skipSpaces r with
        | ':' :: r' =>
          (value.run (skipSpaces r')).map fun p => ((String.ofList key, p.1), p.2)
        | _ => none
    | _ => none
  shrinks := by
    intro s a r h
    split at h
    · split at h
      · cases h
      · rename_i s key r₁ h₁
        have h₂ := length_stringBody? h₁
        have h₃ := length_skipSpaces_le r₁
        split at h
        · rename_i r' heq
          obtain ⟨⟨_, _⟩, h₄, h₅⟩ := Option.map_eq_some_iff.1 h
          simp only [Prod.mk.injEq] at h₅
          have h₆ := value.shrinks h₄
          have h₇ := length_skipSpaces_le r'
          rw [heq] at h₃
          simp only [← h₅.2, List.length_cons] at h₃ ⊢
          omega
        · cases h
    · cases h

/-- The rest of a text after a given word. -/
def after? (word s : List Char) : Option (List Char) :=
  if word.isPrefixOf s then some (s.drop word.length) else none

/-- Reads a value that is no array and no object. -/
def scalar? (s : List Char) : Option (Json × List Char) :=
  match s with
  | '"' :: r => (stringBody? r).map fun p => (.string (String.ofList p.1), p.2)
  | 'n' :: r => (after? "ull".toList r).map (.null, ·)
  | 't' :: r => (after? "rue".toList r).map (.bool true, ·)
  | 'f' :: r => (after? "alse".toList r).map (.bool false, ·)
  | s => (numeral? s).map fun p => (.number p.1, p.2)

theorem length_after?_le {word s r : List Char} (h : after? word s = some r) :
    r.length ≤ s.length := by
  unfold after? at h
  split at h
  · simp only [Option.some.injEq] at h
    simp [← h]
  · cases h

theorem length_scalar? {s r : List Char} {j : Json} (h : scalar? s = some (j, r)) :
    r.length < s.length := by
  unfold scalar? at h
  split at h
  · obtain ⟨⟨_, _⟩, h₁, h₂⟩ := Option.map_eq_some_iff.1 h
    simp only [Prod.mk.injEq] at h₂
    have := length_stringBody? h₁
    simp only [← h₂.2, List.length_cons]
    omega
  iterate 3
    obtain ⟨_, h₁, h₂⟩ := Option.map_eq_some_iff.1 h
    simp only [Prod.mk.injEq] at h₂
    have := length_after?_le h₁
    simp only [← h₂.2, List.length_cons]
    omega
  · obtain ⟨⟨_, _⟩, h₁, h₂⟩ := Option.map_eq_some_iff.1 h
    simp only [Prod.mk.injEq] at h₂
    have := length_numeral? h₁
    simp only [← h₂.2]
    omega

/-- Reads a value of which at most the given number of arrays and objects are open at once. -/
def value : Nat → Reader Json
  | 0 => ⟨scalar?, length_scalar?⟩
  | levels + 1 =>
    { run := fun s =>
        match s with
        | '[' :: r => ((value levels).enclosed ']' r).map fun p => (.array p.1, p.2)
        | '\x7b' :: r =>
          ((fieldOf (value levels)).enclosed '\x7d' r).map fun p => (.object p.1, p.2)
        | s => scalar? s
      shrinks := by
        intro s a r h
        split at h
        · obtain ⟨⟨_, _⟩, h₁, h₂⟩ := Option.map_eq_some_iff.1 h
          simp only [Prod.mk.injEq] at h₂
          have := Reader.length_enclosed h₁
          simp only [← h₂.2, List.length_cons]
          omega
        · obtain ⟨⟨_, _⟩, h₁, h₂⟩ := Option.map_eq_some_iff.1 h
          simp only [Prod.mk.injEq] at h₂
          have := Reader.length_enclosed h₁
          simp only [← h₂.2, List.length_cons]
          omega
        · exact length_scalar? h }

/-- The number of arrays and objects that may be open at once in a document. -/
def maxLevels : Nat := 127

/-- The value of a whole text, nested no deeper than the given number of levels. -/
def parseWithin? (levels : Nat) (text : String) : Option Json :=
  match (value levels).run (skipSpaces text.toList) with
  | none => none
  | some (j, r) => if skipSpaces r = [] then some j else none

/-- The value of a whole text. -/
def parse? (text : String) : Option Json := parseWithin? maxLevels text

end BiblioQuery.Json
