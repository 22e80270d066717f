import BiblioQuery.Pattern.Escape
import BiblioQuery.Proofs.Pattern.Readers

/-!
# Escapes and counts are read locally

What is skipped, the digits and names that stand in braces, escapes and the counts of quantifiers
are read without a look at what follows them.  There is one exception: a brace after a word
assertion may start the name of a condition or a count, which is told by what stands in the brace,
although only a name is taken.

## Main definitions

* `Regex.GoesOn` : what follows a sign is more than what is skipped.
* `Regex.braced?`, `Regex.firstCount?`, `Regex.secondCount?`, `Regex.boundaryName?` : parts of the
  readers that are readers of their own.

## Main results

* `Regex.dropsStart_skip` : what is skipped is the start of a text.
* `Regex.takeKind_eq_of_le` : the bound on the characters taken does not matter if it is large.
* `Regex.isLocal_counts` : counts are read locally.
* `Regex.isLocalIf_escape` : escapes are read locally, but for the exception.
-/

namespace BiblioQuery.Regex

variable {f : Flags} {kind : Char → Bool} {s t r ds : List Char} {n : Nat}

/-! ### What is skipped -/

theorem skipFrom_suffix (comment : Bool) (s : List Char) : skipFrom comment s <:+ s := by
  fun_induction skipFrom comment s with
  | case1 => exact List.suffix_refl _
  | case5 => exact List.suffix_refl _
  | case2 c r ih => exact ih.trans (List.suffix_cons c r)
  | case3 c r _ ih => exact ih.trans (List.suffix_cons c r)
  | case4 r _ ih => exact ih.trans (List.suffix_cons '#' r)

theorem skipFrom_cut {comment : Bool} (h : skipFrom comment (s ++ t) = r ++ t) :
    skipFrom comment s = r := by
  fun_induction skipFrom comment s with
  | case1 => exact (eq_nil_of_append_suffix (h ▸ skipFrom_suffix _ t)).symm
  | case2 c s ih => exact ih (by simpa [skipFrom] using h)
  | case3 c s hblank ih => exact ih (by simpa [skipFrom, hblank] using h)
  | case4 s hblank ih => exact ih (by simpa [skipFrom, hblank] using h)
  | case5 c s hblank hsign =>
    have h' : c :: s ++ t = r ++ t := by simpa [skipFrom, hblank, hsign] using h
    exact (List.append_left_inj t).1 h'

theorem skipFrom_append {comment : Bool} (h : skipFrom comment s ≠ []) :
    skipFrom comment (s ++ t) = skipFrom comment s ++ t := by
  fun_induction skipFrom comment s with
  | case1 => exact absurd rfl h
  | case2 c s ih => simpa [skipFrom] using ih h
  | case3 c s hblank ih => simpa [skipFrom, hblank] using ih h
  | case4 s hblank ih => simpa [skipFrom, hblank] using ih h
  | case5 c s hblank hsign => simp [skipFrom, hblank, hsign]

/-- What is skipped is the start of a text. -/
theorem dropsStart_skip (f : Flags) : DropsStart (skip f) := by
  unfold skip
  cases f.verbose with
  | true => exact ⟨skipFrom_suffix false, skipFrom_cut⟩
  | false => exact .id

theorem skip_suffix (f : Flags) (s : List Char) : skip f s <:+ s := (dropsStart_skip f).suffix s

theorem skip_cut (h : skip f (s ++ t) = r ++ t) : skip f s = r := (dropsStart_skip f).cut h

/-- A character that is neither blank nor starts a comment is not skipped. -/
theorem skip_cons {c : Char} (hblank : Text.isBlank c = false) (hsign : c ≠ '#') (s : List Char) :
    skip f (c :: s) = c :: s := by
  rw [skip]
  split
  · rw [skipFrom, if_neg (by simp [hblank]), if_neg hsign]
  · rfl

theorem skip_append (h : skip f s ≠ []) : skip f (s ++ t) = skip f s ++ t := by
  rw [skip] at h ⊢
  rw [skip]
  split <;> rename_i hverbose
  · exact skipFrom_append (by simpa [hverbose] using h)
  · rfl

/-! ### Characters of a kind -/

section

variable {c : Char}

theorem takeKind_of_skip_eq_nil (h : skip f s = []) : takeKind f kind (n + 1) s = ([], []) := by
  rw [takeKind, h]

theorem takeKind_of_kind (h : skip f s = c :: r) (hc : kind c = true) :
    takeKind f kind (n + 1) s = (c :: (takeKind f kind n r).1, (takeKind f kind n r).2) := by
  rw [takeKind, h]
  exact if_pos hc

theorem takeKind_of_not_kind (h : skip f s = c :: r) (hc : kind c = false) :
    takeKind f kind (n + 1) s = ([], c :: r) := by
  rw [takeKind, h]
  exact if_neg (by simp [hc])

end

theorem takeKind_suffix (f : Flags) (kind : Char → Bool) (n : Nat) (s : List Char) :
    (takeKind f kind n s).2 <:+ s := by
  induction n generalizing s with
  | zero => exact List.suffix_refl s
  | succ n ih =>
    have hskip := skip_suffix f s
    cases hs : skip f s with
    | nil => exact takeKind_of_skip_eq_nil hs ▸ List.nil_suffix
    | cons c r =>
      rw [hs] at hskip
      cases hc : kind c with
      | true => exact takeKind_of_kind hs hc ▸ ((ih r).trans (List.suffix_cons c r)).trans hskip
      | false => exact takeKind_of_not_kind hs hc ▸ hskip

/-- Any bound that leaves room for all characters gives the same. -/
theorem takeKind_eq_of_le {m : Nat} (hn : s.length ≤ n) (hm : s.length ≤ m) :
    takeKind f kind n s = takeKind f kind m s := by
  induction n generalizing m s with
  | zero =>
    obtain rfl := List.length_eq_zero_iff.1 (Nat.le_zero.1 hn)
    cases m with
    | zero => rfl
    | succ m => exact (takeKind_of_skip_eq_nil (List.suffix_nil.1 (skip_suffix f []))).symm
  | succ n ih =>
    cases m with
    | zero =>
      obtain rfl := List.length_eq_zero_iff.1 (Nat.le_zero.1 hm)
      exact takeKind_of_skip_eq_nil (List.suffix_nil.1 (skip_suffix f []))
    | succ m =>
      have hskip := (skip_suffix f s).length_le
      cases hs : skip f s with
      | nil => rw [takeKind_of_skip_eq_nil hs, takeKind_of_skip_eq_nil hs]
      | cons c r =>
        rw [hs, List.length_cons] at hskip
        cases hc : kind c with
        | true =>
          rw [takeKind_of_kind hs hc, takeKind_of_kind hs hc, ih (m := m) (by omega) (by omega)]
        | false => rw [takeKind_of_not_kind hs hc, takeKind_of_not_kind hs hc]

theorem takeKind_cut (h : takeKind f kind n (s ++ t) = (ds, r ++ t)) :
    takeKind f kind n s = (ds, r) := by
  induction n generalizing s ds with
  | zero =>
    obtain ⟨hds, hr⟩ := Prod.mk.inj (show ([], s ++ t) = (ds, r ++ t) from h)
    exact Prod.ext hds (List.append_cancel_right hr)
  | succ n ih =>
    cases hs : skip f (s ++ t) with
    | nil =>
      rw [takeKind_of_skip_eq_nil hs] at h
      obtain ⟨hds, hr⟩ := Prod.mk.inj h
      obtain ⟨rfl, rfl⟩ := List.append_eq_nil_iff.1 hr.symm
      rw [List.append_nil] at hs
      exact hds ▸ takeKind_of_skip_eq_nil hs
    | cons c w =>
      cases hc : kind c with
      | true =>
        rw [takeKind_of_kind hs hc] at h
        obtain ⟨hds, hr⟩ := Prod.mk.inj h
        obtain ⟨w, rfl⟩ := exists_eq_append_of_suffix (hr ▸ takeKind_suffix f kind n w)
        have hcut := ih (Prod.ext rfl hr)
        rw [takeKind_of_kind (skip_cut (r := c :: w) hs) hc, hcut, hds]
      | false =>
        rw [takeKind_of_not_kind hs hc] at h
        obtain ⟨hds, hr⟩ := Prod.mk.inj h
        have hcut := skip_cut (hs.trans hr)
        cases r with
        | nil => exact hds ▸ takeKind_of_skip_eq_nil hcut
        | cons d r =>
          obtain rfl := (List.cons.inj hr).1
          exact hds ▸ takeKind_of_not_kind hcut hc

/-- Taking characters of a kind, at most as many as given. -/
theorem isLocal_takeKind (f : Flags) (kind : Char → Bool) (n : Nat) :
    IsLocal fun s => some (takeKind f kind n s) where
  suffix {s r v} h := by
    have hsuffix := takeKind_suffix f kind n s
    rwa [Option.some.inj h] at hsuffix
  cut _ h := congrArg some (takeKind_cut (Option.some.inj h))

/-- Taking all characters of a kind. -/
theorem isLocal_takeAll (f : Flags) (kind : Char → Bool) :
    IsLocal fun s => some (takeKind f kind (s.length + 1) s) where
  suffix {s r v} h := (isLocal_takeKind f kind (s.length + 1)).suffix h
  cut {s t r v} _ h := by
    have hlength : s.length ≤ (s ++ t).length + 1 := by rw [List.length_append]; omega
    have htake := takeKind_cut (Option.some.inj h)
    rw [takeKind_eq_of_le (m := s.length + 1) hlength (Nat.le_succ _)] at htake
    exact congrArg some htake

/-- Reads the characters of a kind up to the closing brace. -/
def braced? (f : Flags) (kind : Char → Bool) (s : List Char) : Option (List Char × List Char) :=
  (some (takeKind f kind (s.length + 1) s)).bind fun p => expectSign? '\x7d' p.1 p.2

theorem isLocal_braced (f : Flags) (kind : Char → Bool) : IsLocal (braced? f kind) :=
  (isLocal_takeAll f kind).andThen fun ds => .expect '\x7d' ds

theorem bind_braced? {α : Type} (f : Flags) (kind : Char → Bool) (s : List Char)
    (g : List Char × List Char → Option α) : (braced? f kind s).bind g =
      match takeKind f kind (s.length + 1) s with
      | (ds, '\x7d' :: rest) => g (ds, rest)
      | _ => none := by
  rw [braced?, Option.bind_some]
  obtain ⟨ds, _ | ⟨c, rest⟩⟩ := takeKind f kind (s.length + 1) s
  · rfl
  · by_cases hc : c = '\x7d'
    · subst hc
      rfl
    · simp [expectSign?, hc]

/-! ### Characters given by numbers, properties -/

theorem isLocal_hexEscape (f : Flags) (digits : Nat) : IsLocal (hexEscape? f digits) := by
  have hbraces : IsLocal _ := (isLocal_braced f fun c => (hexDigit? c).isSome).filterMap hexChar?
  have hplain : IsLocal _ := (isLocal_takeKind f (fun c => (hexDigit? c).isSome) digits).filterMap
    fun ds => if ds.length = digits then hexChar? ds else none
  refine .onSign (dropsStart_skip f) '\x7b' hbraces hplain (fun s r hs => ?_) fun s hs => ?_
  · rw [bind_braced?, hexEscape?, hs]
    rfl
  · unfold hexEscape?
    split
    · rename_i r hr
      exact absurd hr (hs r)
    · simp only [Option.bind_some]
      split <;> rfl

/-- Digits, or braces around them, are more than what is skipped. -/
theorem skip_ne_nil_of_hexEscape {x : Char × List Char} (h : hexEscape? f 2 s = some x) :
    skip f s ≠ [] := by
  intro hnil
  have hnone : skip f [] = [] := (dropsStart_skip f).drop_nil
  simp [hexEscape?, hnil, takeKind_of_skip_eq_nil hnone] at h

theorem isLocal_byteEscape (f : Flags) : IsLocal (byteEscape? f) where
  suffix {s r v} h := by
    rw [byteEscape?] at h
    split at h
    · rename_i c w hw
      split at h
      · cases h
        exact (isLocal_hexEscape f 2).suffix hw
      · cases h
    · cases h
  cut {s t r v} _ h := by
    rw [byteEscape?] at h
    split at h
    · rename_i c w hw
      split at h
      · rename_i hallowed
        cases h
        have hcut := (isLocal_hexEscape f 2).cut trivial hw
        have hskip := skip_ne_nil_of_hexEscape hcut
        rw [skip_append hskip, List.head?_append_of_ne_nil _ hskip] at hallowed
        rw [byteEscape?, hcut]
        exact if_pos hallowed
      · cases h
    · cases h

/-- Reads the property that one letter names. -/
def letterProperty? : List Char → Option (CharSet × List Char)
  | [] => none
  | c :: r => if c = '\\' then none else (propertySet? [c]).map fun set => (set, r)

theorem isLocal_letterProperty : IsLocal letterProperty? :=
  .of_cons rfl fun c => by
    by_cases hc : c = '\\'
    · simpa only [letterProperty?, if_pos hc] using .fail
    · simpa only [letterProperty?, if_neg hc] using .leaveMap (propertySet? [c]) fun set => set

theorem isLocal_property (f : Flags) : IsLocal (property? f) := by
  have hbraces : IsLocal _ := (isLocal_braced f (· != '\x7d')).filterMap propertySet?
  refine .onSign (dropsStart_skip f) '\x7b' hbraces isLocal_letterProperty (fun s r hs => ?_)
    fun s hs => ?_
  · rw [bind_braced?, property?, hs]
    rfl
  · rw [property?]
    split
    · rename_i hnil
      rw [hnil]
      rfl
    · rename_i r hr
      exact absurd hr (hs r)
    · rename_i c r _ hr
      rw [hr]
      rfl

/-! ### Counts -/

theorem isLocal_countNumber (f : Flags) : IsLocal (countNumber? f) := by
  have htrim : DropsStart Text.trimStart := .dropWhile Text.isBlank
  have hread : IsLocal _ := (((isLocal_takeAll f Char.isDigit).filterMap fun ds =>
    if ds ≠ [] ∧ digitsValue ds < UInt32.size then some (digitsValue ds) else none).dropLast
      htrim).dropFirst (htrim.comp (dropsStart_skip f))
  convert hread using 1
  funext s
  have hlength := ((htrim.comp (dropsStart_skip f)).suffix s).length_le
  rw [countNumber?, takeKind_eq_of_le (m := (Text.trimStart (skip f s)).length + 1)
    (by omega) (by omega), Option.bind_some]
  obtain ⟨_ | ⟨d, ds⟩, r⟩ := takeKind f Char.isDigit _ (Text.trimStart (skip f s))
  · simp
  · dsimp only
    split <;> simp_all

/-- Reads the second count of a quantifier and the brace after it. -/
def secondCount? (f : Flags) (n : Nat) (s : List Char) : Option ((Nat × Option Nat) × List Char) :=
  ((countNumber? f s).bind fun p => expectSign? '\x7d' p.1 p.2).bind fun p =>
    (if n ≤ p.1 then some (n, some p.1) else none).map fun v => (v, p.2)

theorem isLocal_secondCount (f : Flags) (n : Nat) : IsLocal (secondCount? f n) :=
  ((isLocal_countNumber f).andThen fun m => .expect '\x7d' m).filterMap
    fun m => if n ≤ m then some (n, some m) else none

theorem secondCount?_eq (f : Flags) (n : Nat) (s : List Char) : secondCount? f n s =
    match countNumber? f s with
    | some (m, '\x7d' :: r) => if n ≤ m then some ((n, some m), r) else none
    | _ => none := by
  rw [secondCount?]
  cases countNumber? f s with
  | none => rfl
  | some p =>
    obtain ⟨m, _ | ⟨c, r⟩⟩ := p
    · rfl
    · by_cases hc : c = '\x7d'
      · subst hc
        by_cases hle : n ≤ m <;> simp [expectSign?, hle]
      · simp [expectSign?, hc]

/-- Reads what follows the first count of a quantifier. -/
def firstCount? (f : Flags) (n : Nat) : List Char → Option ((Nat × Option Nat) × List Char)
  | '\x7d' :: r => some ((n, some n), r)
  | ',' :: r =>
    match skip f r with
    | '\x7d' :: r' => some ((n, none), r')
    | r' => secondCount? f n r'
  | _ => none

theorem firstCount?_open (f : Flags) (n : Nat) (h : skip f s = '\x7d' :: r) :
    firstCount? f n (',' :: s) = some ((n, none), r) := by
  rw [firstCount?, h]
  rfl

theorem firstCount?_closed (f : Flags) (n : Nat) (h : ∀ r, skip f s ≠ '\x7d' :: r) :
    firstCount? f n (',' :: s) = secondCount? f n (skip f s) := by
  rw [firstCount?]
  split
  · rename_i r hr
    exact absurd hr (h r)
  · rfl

theorem isLocal_firstCount (f : Flags) (n : Nat) : IsLocal (firstCount? f n) :=
  .of_cons rfl fun c => by
    by_cases hbrace : c = '\x7d'
    · subst hbrace
      exact .leave (n, some n)
    · by_cases hcomma : c = ','
      · subst hcomma
        exact .onSign (dropsStart_skip f) '\x7d' (.leave (n, none)) (isLocal_secondCount f n)
          (fun s r hs => firstCount?_open f n hs) fun s hs => firstCount?_closed f n hs
      · simpa [firstCount?, hbrace, hcomma] using .fail

theorem counts?_eq (f : Flags) (s : List Char) :
    counts? f s = (countNumber? f s).bind fun p => firstCount? f p.1 p.2 := by
  rw [counts?]
  cases countNumber? f s with
  | none => rfl
  | some p =>
    obtain ⟨n, _ | ⟨c, r⟩⟩ := p
    · rfl
    · by_cases hbrace : c = '\x7d'
      · subst hbrace
        rfl
      · by_cases hcomma : c = ','
        · subst hcomma
          simp only [Option.bind_some]
          split
          · rename_i w hw
            exact (firstCount?_open f n hw).symm
          · rename_i hother
            exact (secondCount?_eq f n (skip f r)).symm.trans (firstCount?_closed f n hother).symm
        · simp [firstCount?, hbrace, hcomma]

theorem isLocal_counts (f : Flags) : IsLocal (counts? f) := by
  have hread : IsLocal _ := (isLocal_countNumber f).andThen (isLocal_firstCount f)
  rwa [funext (counts?_eq f)]

/-! ### Escapes -/

/-- What follows the sign that a text starts with does not only consist of what is skipped. -/
def GoesOn (f : Flags) (sign : Char) (s : List Char) : Prop := ∀ r, s = sign :: r → skip f r ≠ []

/-- A character of the name of a condition. -/
def isNamePart (c : Char) : Bool := c.isAlpha || c == '-'

/-- Reads the name of a condition and the brace after it. -/
def boundaryName? (f : Flags) (s : List Char) : Option (WordPlace × List Char) :=
  (braced? f isNamePart s).bind fun p => (wordPlace? p.1).map fun v => (v, p.2)

theorem isLocal_boundaryName (f : Flags) : IsLocal (boundaryName? f) :=
  (isLocal_braced f isNamePart).filterMap wordPlace?

theorem boundaryName?_nil (f : Flags) : boundaryName? f [] = none := by
  rw [boundaryName?, braced?, takeKind_of_skip_eq_nil (dropsStart_skip f).drop_nil]
  rfl

/-- The condition after a word assertion is read locally if a brace that is left for a count starts
one. -/
theorem isLocalIf_boundary (f : Flags) :
    IsLocalIf (fun _ r => GoesOn f '\x7b' r) (boundary? f) := by
  refine .onSignIf .id '\x7b' (.dropFirst (dropsStart_skip f) (isLocal_boundaryName f)) .boundary
    (fun w => (skip f w).head?.all isNamePart) (fun w x hread hskip => ?_) (fun w t hskip => ?_)
    (fun s w hs htakes => ?_) (fun s w hs htakes => ?_) fun s hs => ?_
  -- A brace is taken if a part of a name stands next behind it, which can be seen if anything does.
  · rw [hskip, boundaryName?_nil] at hread
    cases hread
  · rw [skip_append hskip, List.head?_append_of_ne_nil _ hskip]
  · subst hs
    cases hw : skip f w with
    | nil => rw [boundary?, hw, boundaryName?_nil]
    | cons c r =>
      rw [hw] at htakes
      rw [boundaryName?, bind_braced?, takeKind_eq_of_le (m := r.length + 1) (by simp) (by simp),
        boundary?, hw]
      exact if_pos htakes
  · subst hs
    cases hw : skip f w with
    | nil => simp [hw] at htakes
    | cons c r =>
      rw [hw] at htakes
      rw [boundary?, hw]
      exact if_neg (by simpa [isNamePart] using htakes)
  · unfold boundary?
    split
    · exact absurd rfl (hs _)
    · rfl

/-- An escape is read locally, but for the condition that an assertion may have in braces after it.
-/
theorem isLocalIf_escape (f : Flags) :
    IsLocalIf (fun e r => (∃ a, e = .assertion a) → GoesOn f '\x7b' r) (escape? f) :=
  .of_cons rfl fun c => by
    unfold escape?
    dsimp only
    split
    case h_1 => exact (isLocal_byteEscape f).map Escape.char fun _ _ _ => trivial
    case h_2 => exact (isLocal_hexEscape f 4).map Escape.char fun _ _ _ => trivial
    case h_3 => exact (isLocal_hexEscape f 8).map Escape.char fun _ _ _ => trivial
    case h_5 | h_7 | h_9 => exact .leaveMap _ Escape.set
    case h_10 =>
      cases f.unicode with
      | true => exact (isLocal_property f).map Escape.set fun _ _ _ => trivial
      | false => exact .fail
    case h_11 =>
      convert (isLocal_property f).filterMap fun set => (f.compl? set).map Escape.set using 2
      rename_i s
      cases property? f s with
      | none => rfl
      | some p => simp [Function.comp_def]
    case h_20 =>
      refine (isLocalIf_boundary f).map (fun p => Escape.assertion (.word (!f.unicode) p)) ?_
      exact fun _ _ hopen => hopen ⟨_, rfl⟩
    case h_24 =>
      split
      · exact .leave _
      · exact .fail
    all_goals exact .leave _

end BiblioQuery.Regex
