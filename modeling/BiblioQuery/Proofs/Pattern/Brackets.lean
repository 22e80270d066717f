import BiblioQuery.Pattern.Bracket
import BiblioQuery.Proofs.Pattern.Escapes

/-!
# Classes are read locally

A class in square brackets is read without a look at what follows it.  Inside of it there are looks
ahead: after an item, a hyphen is taken if the next sign shows that it makes a range.  The hyphen is
left otherwise, and then the rest of the class starts with it and ends within the text, so that the
sign was part of what the class takes.

A class is read by steps, each of which leaves a shorter text; the number of steps that is allowed
does not matter if it is large.

## Main definitions

* `Regex.afterItem?`, `Regex.classOpening`, `Regex.classStep?` : parts of the reader of classes that
  are readers of their own.

## Main results

* `Regex.isLocalIf_afterItem` : ranges are read locally, but for a hyphen that is left.
* `Regex.skip_ne_nil_of_classFrom` : what follows a hyphen that is left.
* `Regex.classFrom?_succ`, `Regex.isLocal_classStep` : one step.
* `Regex.classFrom?_eq_of_lt` : the bound on the steps does not matter if it is large.
* `Regex.isLocal_bracket` : classes are read locally.
-/

namespace BiblioQuery.Regex

variable {f : Flags} {s t r w : List Char} {n m : Nat}

/-! ### Items and ranges -/

/-- The item that an escape is. -/
def Escape.item? : Escape → Option ClassItem
  | .char c => some (.char c)
  | .set s => some (.set s)
  | .assertion _ => none

theorem classItem?_escape (f : Flags) (s : List Char) : classItem? f ('\\' :: s) =
    (escape? f s).bind fun p => p.1.item?.map fun v => (v, p.2) := by
  rw [classItem?]
  cases escape? f s with
  | none => rfl
  | some p => obtain ⟨_ | _ | _, r⟩ := p <;> rfl

theorem isLocal_classItem_cons (f : Flags) (c : Char) : IsLocal fun s => classItem? f (c :: s) := by
  by_cases hc : c = '\\'
  · subst hc
    simp only [classItem?_escape]
    refine (isLocalIf_escape f).andThenIf
      (fun e => .leaveMap e.item? fun v => v) fun e s x hx hassertion => ?_
    obtain ⟨a, rfl⟩ := hassertion
    cases hx
  · simpa [classItem?, hc] using .leave (ClassItem.char c)

theorem isLocal_classItem (f : Flags) : IsLocal (classItem? f) :=
  .of_cons rfl (isLocal_classItem_cons f)

theorem skipFrom_dropWhile (s : List Char) :
    skipFrom false (s.dropWhile Text.isBlank) = skipFrom false s := by
  induction s with
  | nil => rfl
  | cons c s ih =>
    rw [List.dropWhile_cons]
    split
    · rename_i hblank
      rw [ih, skipFrom, if_pos hblank]
    · rfl

theorem skipFrom_eq_nil {comment : Bool} (h : s.dropWhile Text.isBlank = []) :
    skipFrom comment s = [] := by
  induction s generalizing comment with
  | nil => cases comment <;> rfl
  | cons c s ih =>
    rw [List.dropWhile_cons] at h
    split at h
    · rename_i hblank
      cases comment with
      | true => exact ih h
      | false => rw [skipFrom, if_pos hblank, ih h]
    · cases h

theorem dropWhile_append_of_ne_nil {p : Char → Bool} (h : s.dropWhile p ≠ []) :
    (s ++ t).dropWhile p = s.dropWhile p ++ t := by
  rw [List.dropWhile_append, if_neg (by simpa using h)]

/-- What stands after a hyphen can be seen if not everything after it is skipped. -/
theorem afterHyphen_append (h : skip f s ≠ []) : afterHyphen f (s ++ t) = afterHyphen f s := by
  rw [skip] at h
  rw [afterHyphen, afterHyphen]
  split <;> rename_i hverbose
  · rw [if_pos hverbose] at h
    rw [← skipFrom_dropWhile] at h
    have hne : s.dropWhile Text.isBlank ≠ [] := fun hnil => h (by rw [hnil]; rfl)
    rw [dropWhile_append_of_ne_nil hne]
    cases hs : s.dropWhile Text.isBlank with
    | nil => exact absurd hs hne
    | cons c r =>
      by_cases hc : c = '#'
      · subst hc
        rw [hs] at h
        have hrest : r.dropWhile Text.isBlank ≠ [] := fun hnil => h (by
          rw [skipFrom, if_neg (by decide), if_pos rfl, skipFrom_eq_nil hnil])
        simp only [List.cons_append, dropWhile_append_of_ne_nil hrest]
        exact List.head?_append_of_ne_nil _ hrest
      · simp [hc]
  · rw [if_neg hverbose] at h
    exact List.head?_append_of_ne_nil _ h

/-- The range from an item to another one. -/
def rangeSet? (f : Flags) : ClassItem → ClassItem → Option CharSet
  | .char a, .char b => if a ≤ b ∧ (ClassItem.char b).isAllowed f then some (.range a b) else none
  | _, _ => none

/-- Reads the end of a range that starts with an item. -/
def rangeEnd? (f : Flags) (item : ClassItem) (s : List Char) : Option (CharSet × List Char) :=
  (classItem? f (skip f s)).bind fun p => (rangeSet? f item p.1).map fun v => (v, p.2)

theorem isLocal_rangeEnd (f : Flags) (item : ClassItem) : IsLocal (rangeEnd? f item) :=
  ((isLocal_classItem f).dropFirst (dropsStart_skip f)).filterMap (rangeSet? f item)

/-- A hyphen that is not the last sign of a part of a class stands for a range. -/
def isRange (f : Flags) (s : List Char) : Bool :=
  afterHyphen f s != some ']' && afterHyphen f s != some '-'

/-- Reads what may make an item a range. -/
def afterItem? (f : Flags) (item : ClassItem) (s : List Char) : Option (CharSet × List Char) :=
  match skip f s with
  | '-' :: r => if isRange f r then rangeEnd? f item r else some (item.toSet, '-' :: r)
  | r => some (item.toSet, r)

theorem isLocalIf_afterItem (f : Flags) (item : ClassItem) :
    IsLocalIf (fun _ r => GoesOn f '-' r) (afterItem? f item) := by
  refine .onSignIf (dropsStart_skip f) '-' (isLocal_rangeEnd f item) item.toSet (isRange f)
    (fun w x hread hskip => ?_) (fun w t hskip => ?_) (fun s w hs htakes => ?_)
    (fun s w hs htakes => ?_) fun s hs => ?_
  · rw [rangeEnd?, hskip] at hread
    cases hread
  · rw [isRange, isRange, afterHyphen_append hskip]
  · rw [afterItem?, hs]
    exact if_pos htakes
  · rw [afterItem?, hs]
    exact if_neg (by simp [htakes])
  · unfold afterItem?
    split
    · rename_i r hr
      exact absurd hr (hs r)
    · rfl

theorem rangeEnd?_eq (f : Flags) (item : ClassItem) (s : List Char) : rangeEnd? f item s =
    match item, classItem? f (skip f s) with
    | .char a, some (.char b, rest) =>
      if a ≤ b ∧ (ClassItem.char b).isAllowed f then some (.range a b, rest) else none
    | _, _ => none := by
  rw [rangeEnd?]
  cases classItem? f (skip f s) with
  | none => cases item <;> rfl
  | some p =>
    obtain ⟨_ | _, r⟩ := p <;> cases item
    · simp only [Option.bind_some, rangeSet?]
      split <;> rfl
    all_goals rfl

theorem classRange?_eq (f : Flags) (s : List Char) : classRange? f s =
    (classItem? f s).bind fun p => if p.1.isAllowed f then afterItem? f p.1 p.2 else none := by
  rw [classRange?]
  cases classItem? f s with
  | none => rfl
  | some p =>
    obtain ⟨item, r⟩ := p
    simp only [Option.bind_some, afterItem?]
    congr 1
    cases skip f r with
    | nil => rfl
    | cons c w =>
      by_cases hc : c = '-'
      · subst hc
        by_cases hend : afterHyphen f w = some ']' ∨ afterHyphen f w = some '-'
        · have hrange : isRange f w = false := by simpa [isRange, imp_iff_not_or] using hend
          simp [hend, hrange]
        · have hrange : isRange f w = true := by simpa [isRange] using hend
          simp only [if_neg hend, if_pos hrange]
          exact (rangeEnd?_eq f item w).symm
      · simp [hc]

theorem isLocalIf_classRange_cons (f : Flags) (c : Char) :
    IsLocalIf (fun _ r => GoesOn f '-' r) fun s => classRange? f (c :: s) := by
  have hafter : ∀ item : ClassItem, IsLocalIf (fun _ r => GoesOn f '-' r)
      fun s => if item.isAllowed f then afterItem? f item s else none := fun item => by
    cases item.isAllowed f with
    | true => exact isLocalIf_afterItem f item
    | false => exact .fail
  simp only [classRange?_eq]
  exact (isLocal_classItem_cons f c).andThen hafter

/-! ### Named classes -/

/-- Reads the name of a class of ASCII with the colon and the bracket after it. -/
def asciiName? (negated : Bool) (s : List Char) : Option ((Bool × CharSet) × List Char) :=
  (((some (s.takeWhile (· != ':'), s.dropWhile (· != ':'))).bind fun p =>
    expectSign? ':' p.1 p.2).bind fun p => expectSign? ']' p.1 p.2).bind fun p =>
      ((asciiClass? p.1).map fun set => (negated, set)).map fun v => (v, p.2)

theorem isLocal_asciiName (negated : Bool) : IsLocal (asciiName? negated) :=
  (((IsLocalIf.span (· != ':')).andThen fun name => .expect ':' name).andThen fun name =>
    .expect ']' name).filterMap fun name => (asciiClass? name).map fun set => (negated, set)

theorem asciiName?_eq (negated : Bool) (s : List Char) : asciiName? negated s =
    match asciiClass? (s.takeWhile (· != ':')), s.dropWhile (· != ':') with
    | some set, ':' :: ']' :: r => some ((negated, set), r)
    | _, _ => none := by
  rw [asciiName?, Option.bind_some]
  generalize s.takeWhile (· != ':') = name
  rcases s.dropWhile (· != ':') with _ | ⟨c, _ | ⟨d, r⟩⟩
  · cases asciiClass? name <;> rfl
  · by_cases hc : c = ':' <;> cases asciiClass? name <;> simp [expectSign?, hc]
  · by_cases hc : c = ':' <;> by_cases hd : d = ']' <;> cases hname : asciiClass? name <;>
      simp [expectSign?, hc, hd, hname]

theorem asciiName?_append {negated : Bool} {v : Bool × CharSet}
    (h : asciiName? negated s = some (v, r)) : asciiName? negated (s ++ t) = some (v, r ++ t) := by
  rw [asciiName?_eq] at h ⊢
  split at h
  · rename_i set w hset hw
    cases h
    have hdrop : (s ++ t).dropWhile (· != ':') = ':' :: ']' :: (r ++ t) := by
      rw [dropWhile_append_of_ne_nil (by simp [hw]), hw, List.cons_append, List.cons_append]
    have htake : (s ++ t).takeWhile (· != ':') = s.takeWhile (· != ':') := by
      rw [List.takeWhile_append, if_neg]
      intro hlength
      have hwhole := congrArg List.length
        (List.takeWhile_append_dropWhile (p := (· != ':')) (l := s))
      rw [List.length_append, hw, List.length_cons] at hwhole
      omega
    rw [hdrop, htake, hset]
    rfl
  · cases h

theorem namedClass?_caret (s : List Char) : namedClass? (':' :: '^' :: s) = asciiName? true s := by
  rw [asciiName?_eq]
  rfl

theorem namedClass?_of_ne_caret (h : ∀ r, s ≠ '^' :: r) :
    namedClass? (':' :: s) = asciiName? false s := by
  cases s with
  | nil => rfl
  | cons c s =>
    simp only [namedClass?]
    exact (asciiName?_eq false (c :: s)).symm

theorem isLocal_namedClass : IsLocal namedClass? :=
  .of_cons rfl fun c => by
    by_cases hc : c = ':'
    · subst hc
      refine .onSign .id '^' (isLocal_asciiName true) (isLocal_asciiName false)
        (fun s r hs => hs ▸ namedClass?_caret r) fun s hs => namedClass?_of_ne_caret hs
    · simpa [namedClass?, hc] using .fail

/-- With more text behind it a named class is still one. -/
theorem namedClass?_eq_none_of_append (s t : List Char) (h : namedClass? (s ++ t) = none) :
    namedClass? s = none := by
  rw [Option.eq_none_iff_forall_ne_some] at h ⊢
  rintro ⟨v, r⟩ hs
  cases s with
  | nil => cases hs
  | cons c s =>
    by_cases hc : c = ':'
    · subst hc
      by_cases hcaret : ∃ w, s = '^' :: w
      · obtain ⟨w, rfl⟩ := hcaret
        rw [namedClass?_caret] at hs
        refine h _ ((namedClass?_caret (w ++ t)).trans (asciiName?_append hs))
      · rw [namedClass?_of_ne_caret (not_exists.1 hcaret)] at hs
        have hmore := asciiName?_append (t := t) hs
        rw [← namedClass?_of_ne_caret] at hmore
        · exact h _ hmore
        · rintro w hw
          cases s with
          | nil => cases hs
          | cons d s => exact hcaret ⟨s, by rw [(List.cons.inj hw).1]⟩
    · simp [namedClass?, hc] at hs

/-! ### The start of a class -/

/-- Reads a closing bracket where a class may have one as a plain character. -/
def headBracket (f : Flags) (part : ClassPart) : List Char → ClassPart × List Char
  | ']' :: r => if part.count = 0 then (part.add ⟨.single ']', 0⟩, skip f r) else (part, ']' :: r)
  | s => (part, s)

theorem isLocal_headBracket (f : Flags) (part : ClassPart) :
    IsLocal fun s => some (headBracket f part s) := by
  by_cases hcount : part.count = 0
  · have htaken : IsLocal fun s => some (part.add ⟨.single ']', 0⟩, skip f s) :=
      (IsLocalIf.leave (part.add ⟨.single ']', 0⟩)).dropLast (dropsStart_skip f)
    refine .onSign .id ']' htaken (.leave part) (fun s r hs => ?_) fun s hs => ?_
    · rw [hs, headBracket, if_pos hcount]
    · unfold headBracket
      split
      · exact absurd rfl (hs _)
      · rfl
  · convert IsLocalIf.leave part using 3
    unfold headBracket
    split
    · exact if_neg hcount
    · rfl

theorem classHead_of_ne {part : ClassPart} (h : ∀ r, s ≠ '-' :: r) :
    classHead f (n + 1) part s = headBracket f part s := by
  unfold classHead headBracket
  split
  · exact absurd rfl (h _)
  · rfl
  · split
    · exact absurd rfl (‹∀ r, ']' :: _ = ']' :: r → False› _)
    · rfl

theorem isLocal_classHead (f : Flags) (n : Nat) (part : ClassPart) :
    IsLocal fun s => some (classHead f n part s) := by
  induction n generalizing part with
  | zero => exact .leave part
  | succ n ih =>
    refine .onSign .id '-' (.dropFirst (dropsStart_skip f) (ih (part.add ⟨.single '-', 0⟩)))
      (isLocal_headBracket f part) (fun s r hs => ?_) fun s hs => ?_
    · rw [hs]
      rfl
    · rw [classHead_of_ne hs]

theorem classHead_eq_of_le {part : ClassPart} (hn : s.length ≤ n) (hm : s.length ≤ m) :
    classHead f n part s = classHead f m part s := by
  induction n generalizing m part s with
  | zero =>
    obtain rfl := List.length_eq_zero_iff.1 (Nat.le_zero.1 hn)
    cases m <;> rfl
  | succ n ih =>
    cases m with
    | zero =>
      obtain rfl := List.length_eq_zero_iff.1 (Nat.le_zero.1 hm)
      rfl
    | succ m =>
      by_cases hs : ∃ r, s = '-' :: r
      · obtain ⟨r, rfl⟩ := hs
        have hskip := (skip_suffix f r).length_le
        rw [List.length_cons] at hn hm
        exact ih (by omega) (by omega)
      · rw [classHead_of_ne (not_exists.1 hs), classHead_of_ne (not_exists.1 hs)]

/-- Reads the plain characters that a class may start with. -/
theorem isLocal_classHeadAll (f : Flags) (part : ClassPart) :
    IsLocal fun s => some (classHead f s.length part s) where
  suffix {s r v} h := (isLocal_classHead f s.length part).suffix h
  cut {s t r v} _ h := by
    have hcut := (isLocal_classHead f (s ++ t).length part).cut trivial h
    rwa [classHead_eq_of_le (m := s.length) (by rw [List.length_append]; omega) (Nat.le_refl _)]
      at hcut

/-- The start of a class as a reader. -/
def classOpening (f : Flags) (s : List Char) : (Bool × ClassPart) × List Char :=
  (((classStart f s).1, (classStart f s).2.1), (classStart f s).2.2)

theorem isLocal_classOpening (f : Flags) : IsLocal fun s => some (classOpening f s) := by
  have hhead : ∀ negated : Bool, IsLocal _ := fun negated =>
    (isLocal_classHeadAll f .empty).map (fun part => (negated, part)) fun _ _ h => h
  refine .onSign (dropsStart_skip f) '^' (.dropFirst (dropsStart_skip f) (hhead true)) (hhead false)
    (fun s r hs => ?_) fun s hs => ?_
  · have hskip := (skip_suffix f r).length_le
    rw [Option.map_some, classHead_eq_of_le (m := r.length + 1) (Nat.le_refl _) (by omega),
      classOpening, classStart, hs]
    rfl
  · rw [Option.map_some, classHead_eq_of_le (m := (skip f s).length + 1) (Nat.le_refl _) (by omega),
      classOpening, classStart]
    split
    · rename_i r hr
      exact absurd hr (hs r)
    · rfl

/-! ### Whole classes -/

section

/-- The rest of a class after some of its parts. -/
abbrev ClassReader := Bool → ClassPrefix → ClassPart → List Char → Option (Bracket × List Char)

variable {rest : ClassReader}

/-- Reads an item or a range and then the rest of a class. -/
def rangeStep? (f : Flags) (rest : ClassReader) (negated : Bool) (before : ClassPrefix)
    (part : ClassPart) (s : List Char) : Option (Bracket × List Char) :=
  (classRange? f s).bind fun p => rest negated before (part.add ⟨p.1, 0⟩) p.2

/-- Reads a class inside a class and then the rest of the outer one. -/
def nestedStep? (f : Flags) (rest : ClassReader) (negated : Bool) (before : ClassPrefix)
    (part : ClassPart) (s : List Char) : Option (Bracket × List Char) :=
  ((some (classOpening f s)).bind fun p => rest p.1.1 none p.1.2 p.2).bind fun p =>
    rest negated before (part.add p.1) p.2

/-- Reads a named class and then the rest of the class that it stands in. -/
def namedStep? (f : Flags) (rest : ClassReader) (negated : Bool) (before : ClassPrefix)
    (part : ClassPart) (named : Bool × CharSet) (s : List Char) : Option (Bracket × List Char) :=
  (if named.1 then f.compl? named.2 else some named.2).bind fun set =>
    rest negated before (part.add ⟨set, 0⟩) s

/-- Reads what stands next in a class, and its rest. -/
def classStep? (f : Flags) (rest : ClassReader) (negated : Bool) (before : ClassPrefix)
    (part : ClassPart) : List Char → Option (Bracket × List Char)
  | [] => none
  | ']' :: r =>
    let b := before.close part
    if negated then (f.compl? b.set).map fun set => (⟨set, b.depth + 1⟩, r)
    else some (⟨b.set, b.depth + 1⟩, r)
  | '&' :: '&' :: r => rest negated (some (before.close part, .inter)) .empty r
  | '-' :: '-' :: r => rest negated (some (before.close part, .diff)) .empty r
  | '~' :: '~' :: r => rest negated (some (before.close part, .symmDiff)) .empty r
  | '[' :: r =>
    match namedClass? r with
    | some ((complement, set), r') => namedStep? f rest negated before part (complement, set) r'
    | none => nestedStep? f rest negated before part r
  | s => rangeStep? f rest negated before part s

theorem classFrom?_succ (n : Nat) (negated : Bool) (before : ClassPrefix) (part : ClassPart)
    (s : List Char) : classFrom? f (n + 1) negated before part s =
      classStep? f (classFrom? f n) negated before part (skip f s) := by
  rw [classFrom?]
  split
  case h_6 r h =>
    rw [h]
    simp only [classStep?]
    cases namedClass? r with
    | none =>
      simp only [nestedStep?, Option.bind_some, classOpening]
      cases classFrom? f n (classStart f r).1 none (classStart f r).2.1 (classStart f r).2.2 <;> rfl
    | some p =>
      obtain ⟨⟨complement, set⟩, r'⟩ := p
      simp only [namedStep?]
      cases (if complement then f.compl? set else some set) <;> rfl
  case h_7 =>
    have hstep : classStep? f (classFrom? f n) negated before part (skip f s) =
        rangeStep? f (classFrom? f n) negated before part (skip f s) := by
      rw [classStep?] <;> assumption
    rw [hstep, rangeStep?]
    cases classRange? f (skip f s) <;> rfl
  all_goals
    rename_i h
    rw [h]
    rfl

variable {negated : Bool} {before : ClassPrefix} {part : ClassPart} {c : Char}

/-- The operation whose sign is doubled. -/
def ClassOp.ofSign? : Char → Option ClassOp
  | '&' => some .inter
  | '-' => some .diff
  | '~' => some .symmDiff
  | _ => none

theorem classStep?_op {op : ClassOp} (hop : ClassOp.ofSign? c = some op) (s : List Char) :
    classStep? f rest negated before part (c :: c :: s) =
      rest negated (some (before.close part, op)) .empty s := by
  unfold ClassOp.ofSign? at hop
  split at hop <;> cases hop <;> rfl

theorem classStep?_of_range (hclose : c ≠ ']') (hopen : c ≠ '[')
    (hop : ∀ r, s = c :: r → ClassOp.ofSign? c = none) :
    classStep? f rest negated before part (c :: s) =
      rangeStep? f rest negated before part (c :: s) := by
  unfold classStep?
  split
  case h_7 => rfl
  all_goals simp_all [ClassOp.ofSign?]

variable (hrest : ∀ negated before part, IsLocal (rest negated before part))
  (hhyphen : ∀ negated before part w x, rest negated before part ('-' :: w) = some x →
    skip f w ≠ [])

include hrest

theorem isLocal_nestedStep (f : Flags) (negated : Bool) (before : ClassPrefix)
    (part : ClassPart) : IsLocal (nestedStep? f rest negated before part) :=
  ((isLocal_classOpening f).andThen fun start => hrest start.1 none start.2).andThen fun b =>
    hrest negated before (part.add b)

theorem isLocal_namedStep (f : Flags) (negated : Bool) (before : ClassPrefix) (part : ClassPart)
    (named : Bool × CharSet) : IsLocal (namedStep? f rest negated before part named) := by
  unfold namedStep?
  cases (if named.1 then f.compl? named.2 else some named.2) with
  | none => exact .fail
  | some set => exact hrest negated before (part.add ⟨set, 0⟩)

include hhyphen

theorem isLocal_rangeStep_cons (negated : Bool) (before : ClassPrefix) (part : ClassPart)
    (c : Char) : IsLocal fun s => rangeStep? f rest negated before part (c :: s) :=
  (isLocalIf_classRange_cons f c).andThenIf (fun set => hrest negated before (part.add ⟨set, 0⟩))
    fun set _ x hx w hw => hhyphen negated before (part.add ⟨set, 0⟩) w x (hw ▸ hx)

theorem isLocal_classStep (negated : Bool) (before : ClassPrefix) (part : ClassPart) :
    IsLocal (classStep? f rest negated before part) :=
  .of_cons rfl fun c => by
    have hrange := isLocal_rangeStep_cons hrest hhyphen negated before part c
    by_cases hclose : c = ']'
    · subst hclose
      cases negated with
      | true =>
        exact .leaveMap (f.compl? (before.close part).set) fun set =>
          (⟨set, (before.close part).depth + 1⟩ : Bracket)
      | false => exact .leave _
    by_cases hopen : c = '['
    · subst hopen
      refine isLocal_namedClass.ifTaken namedClass?_eq_none_of_append
        (isLocal_namedStep hrest f negated before part)
        (isLocal_nestedStep hrest f negated before part) (fun s p hs => ?_) fun s hs => ?_
      · rw [classStep?, hs]
      · rw [classStep?, hs]
    cases hop : ClassOp.ofSign? c with
    | none =>
      simp only [classStep?_of_range hclose hopen fun _ _ => hop]
      exact hrange
    | some op =>
      refine .onSign .id c (hrest negated (some (before.close part, op)) .empty) hrange
        (fun s r hs => ?_) fun s hs => ?_
      · rw [hs, classStep?_op hop]
      · exact classStep?_of_range hclose hopen fun r hr => absurd hr (hs r)

end

theorem classFrom?_nil (f : Flags) (n : Nat) (negated : Bool) (before : ClassPrefix)
    (part : ClassPart) : classFrom? f n negated before part [] = none := by
  cases n with
  | zero => rfl
  | succ n => rw [classFrom?_succ, (dropsStart_skip f).drop_nil, classStep?]

/-- A hyphen that starts the rest of a class is followed by more than what is skipped. -/
theorem skip_ne_nil_of_classFrom {negated : Bool} {before : ClassPrefix} {part : ClassPart}
    {x : Bracket × List Char} (h : classFrom? f n negated before part ('-' :: w) = some x) :
    skip f w ≠ [] := by
  intro hnil
  cases n with
  | zero => cases h
  | succ n =>
    have hhyphen : ∀ r, w ≠ '-' :: r := by
      rintro r rfl
      rw [skip_cons (by decide) (by decide)] at hnil
      cases hnil
    rw [classFrom?_succ, skip_cons (by decide) (by decide), classStep?_of_range (by decide)
      (by decide) fun r hr => absurd hr (hhyphen r), rangeStep?, classRange?_eq, classItem?,
      Option.bind_some] at h
    · split at h
      · rw [afterItem?, hnil, Option.bind_some, classFrom?_nil] at h
        cases h
      · cases h
    · decide

theorem isLocal_classFrom (f : Flags) (n : Nat) (negated : Bool) (before : ClassPrefix)
    (part : ClassPart) : IsLocal (classFrom? f n negated before part) := by
  -- The same bound is kept while the text is cut, so that the induction can be on the bound.
  induction n generalizing negated before part with
  | zero => exact .fail
  | succ n ih =>
    rw [funext (classFrom?_succ n negated before part)]
    exact (isLocal_classStep ih (fun _ _ _ _ _ h => skip_ne_nil_of_classFrom h)
      negated before part).dropFirst (dropsStart_skip f)

/-- What stands next in a class leaves less text, so that the rest of the class has to be known for
shorter texts only. -/
theorem classStep?_congr {rest rest' : ClassReader} {negated : Bool} {before : ClassPrefix}
    {part : ClassPart} (hrest : ∀ negated before part, IsLocal (rest negated before part))
    (h : ∀ negated before part r, r.length < s.length →
      rest negated before part r = rest' negated before part r) :
    classStep? f rest negated before part s = classStep? f rest' negated before part s := by
  unfold classStep?
  split
  case h_1 => rfl
  case h_2 => rfl
  case h_3 r | h_4 r | h_5 r => exact h _ _ _ r (by simp only [List.length_cons]; omega)
  case h_6 r =>
    split
    · rename_i complement set w hw
      have hlength := (isLocal_namedClass.suffix hw).length_le
      refine Option.bind_congr fun set _ => h _ _ _ w ?_
      rw [List.length_cons]
      omega
    · have hlength : (classOpening f r).2.length ≤ r.length :=
        ((isLocal_classOpening f).suffix rfl).length_le
      rw [nestedStep?, nestedStep?, Option.bind_some, Option.bind_some,
        ← h _ _ _ _ (by rw [List.length_cons]; omega)]
      refine Option.bind_congr fun p hp => h _ _ _ p.2 ?_
      have hlength' := ((hrest _ _ _).suffix hp).length_le
      rw [List.length_cons]
      omega
  case h_7 hnil _ _ _ _ _ =>
    cases s with
    | nil => exact absurd rfl hnil
    | cons c s =>
      refine Option.bind_congr fun p hp => h _ _ _ p.2 ?_
      have hlength := ((isLocalIf_classRange_cons f c).suffix hp).length_le
      rw [List.length_cons]
      omega

/-- Any bound above the number of characters gives the same class. -/
theorem classFrom?_eq_of_lt {negated : Bool} {before : ClassPrefix} {part : ClassPart}
    (hn : s.length < n) (hm : s.length < m) :
    classFrom? f n negated before part s = classFrom? f m negated before part s := by
  induction n generalizing m negated before part s with
  | zero => omega
  | succ n ih =>
    cases m with
    | zero => omega
    | succ m =>
      have hskip := (skip_suffix f s).length_le
      rw [classFrom?_succ, classFrom?_succ]
      exact classStep?_congr (isLocal_classFrom f n) fun _ _ _ r hr => ih (by omega) (by omega)

theorem bracket?_eq (f : Flags) (s : List Char) : bracket? f s =
    (some (classOpening f s)).bind fun p => classFrom? f (p.2.length + 1) p.1.1 none p.1.2 p.2 := by
  have hlength : (classOpening f s).2.length ≤ s.length :=
    ((isLocal_classOpening f).suffix rfl).length_le
  rw [Option.bind_some, classFrom?_eq_of_lt (m := s.length + 1) (Nat.lt_succ_self _) (by omega)]
  rfl

theorem isLocal_classFromAll (f : Flags) (negated : Bool) (before : ClassPrefix)
    (part : ClassPart) : IsLocal fun s => classFrom? f (s.length + 1) negated before part s where
  suffix {s r v} h := (isLocal_classFrom f _ negated before part).suffix h
  cut {s t r v} _ h := by
    have hcut := (isLocal_classFrom f _ negated before part).cut trivial h
    rwa [classFrom?_eq_of_lt (m := s.length + 1) (by rw [List.length_append]; omega)
      (Nat.lt_succ_self _)] at hcut

/-- Classes are read locally. -/
theorem isLocal_bracket (f : Flags) : IsLocal (bracket? f) := by
  rw [funext (bracket?_eq f)]
  exact (isLocal_classOpening f).andThen fun start => isLocal_classFromAll f start.1 none start.2

end BiblioQuery.Regex
