import BiblioQuery.Pattern.Reader
import BiblioQuery.Proofs.Pattern.Brackets

/-!
# Tokens are read locally

A token of a regular expression is read without a look at what follows it, but for a word assertion
before a brace.  What is left after such an assertion then starts with the brace of a count.  If a
token can be read there, the count goes on after the brace.

## Main results

* `Regex.switchLetters?_cons` : what a letter of a switch does.
* `Regex.isLocal_opening` : what follows an opening parenthesis is read locally.
* `Regex.isLocalIf_token` : tokens are read locally, but for the exception.
* `Regex.goesOn_of_token` : a token that starts with a brace settles the exception.
* `Regex.eq_of_token_closing` : only a closing parenthesis is read as one.
-/

namespace BiblioQuery.Regex

variable {f : Flags} {s t r : List Char}

theorem isLocal_marked (min : Nat) (max : Option Nat) :
    IsLocal fun s => some (marked min max s) := by
  refine .onSign .id '?' (.leave (.quantifier min max true)) (.leave (.quantifier min max false))
    (fun s r hs => ?_) fun s hs => ?_
  · rw [hs, marked]
  · unfold marked
    split
    · exact absurd rfl (hs _)
    · rfl

theorem marked_ne_closing {min : Nat} {max : Option Nat} {v : Token}
    (h : some (marked min max s) = some (v, r)) : v ≠ .closing := by
  unfold marked at h
  split at h <;> cases h <;> nofun

/-! ### Opening parentheses -/

/-- A letter of a switch makes it fail, ends it, or is followed by the others. -/
theorem switchLetters?_cons (negative : Bool) (w : FlagSwitch) (c : Char) :
    (∀ s, switchLetters? negative w (c :: s) = none) ∨
      (∃ v, v ≠ .closing ∧ ∀ s, switchLetters? negative w (c :: s) = some (v, s)) ∨
      ∃ negative' w', ∀ s, switchLetters? negative w (c :: s) = switchLetters? negative' w' s := by
  simp only [switchLetters?]
  split
  · split
    · exact .inl fun _ => rfl
    · exact .inr (.inl ⟨.switch w, nofun, fun _ => rfl⟩)
  split
  · split
    · exact .inl fun _ => rfl
    · exact .inr (.inl ⟨.opening w, nofun, fun _ => rfl⟩)
  split
  · split
    · exact .inl fun _ => rfl
    · exact .inr (.inr ⟨_, _, fun _ => rfl⟩)
  split
  · exact .inl fun _ => rfl
  split
  · exact .inr (.inr ⟨_, _, fun _ => rfl⟩)
  · exact .inr (.inr ⟨_, _, fun _ => rfl⟩)

theorem switchLetters?_suffix {negative : Bool} {w : FlagSwitch} {v : Token} {c : Char}
    (h : switchLetters? negative w (c :: s) = some (v, r)) : r <:+ s := by
  induction s generalizing negative w c with
  | nil =>
    obtain hnone | ⟨u, -, hu⟩ | ⟨negative', w', hmore⟩ := switchLetters?_cons negative w c
    · simp [hnone] at h
    · rw [hu] at h
      cases h
      exact List.suffix_refl _
    · rw [hmore] at h
      cases h
  | cons d s ih =>
    obtain hnone | ⟨u, -, hu⟩ | ⟨negative', w', hmore⟩ := switchLetters?_cons negative w c
    · simp [hnone] at h
    · rw [hu] at h
      cases h
      exact List.suffix_refl _
    · exact (ih (hmore (d :: s) ▸ h)).trans (List.suffix_cons d s)

theorem switchLetters?_cut {negative : Bool} {w : FlagSwitch} {v : Token}
    (h : switchLetters? negative w (s ++ t) = some (v, r ++ t)) :
    switchLetters? negative w s = some (v, r) := by
  induction s generalizing negative w with
  | nil =>
    cases t with
    | nil => exact (List.append_nil r) ▸ h
    | cons c t => exact absurd (switchLetters?_suffix h) (not_append_cons_suffix c)
  | cons c s ih =>
    rw [List.cons_append] at h
    obtain hnone | ⟨u, -, hu⟩ | ⟨negative', w', hmore⟩ := switchLetters?_cons negative w c
    · rw [hnone] at h
      cases h
    · rw [hu] at h ⊢
      obtain ⟨rfl, hs⟩ := Prod.mk.inj (Option.some.inj h)
      rw [(List.append_left_inj t).1 hs]
    · rw [hmore] at h ⊢
      exact ih h

theorem switchLetters?_ne_closing {negative : Bool} {w : FlagSwitch} {v : Token}
    (h : switchLetters? negative w s = some (v, r)) : v ≠ .closing := by
  induction s generalizing negative w with
  | nil => cases h
  | cons c s ih =>
    obtain hnone | ⟨u, hne, hu⟩ | ⟨negative', w', hmore⟩ := switchLetters?_cons negative w c
    · simp [hnone] at h
    · rw [hu] at h
      cases h
      exact hne
    · exact ih (hmore s ▸ h)

theorem isLocal_switchLetters_cons (negative : Bool) (w : FlagSwitch) (c : Char) :
    IsLocal fun s => switchLetters? negative w (c :: s) where
  suffix := switchLetters?_suffix
  cut _ h := switchLetters?_cut h

/-- The name that a group gets from a text. -/
def captureName? : List Char → Option Token
  | [] => none
  | c :: name =>
    if (c = '_' || Text.isAlphabetic c) && name.all isNameChar then
      some (.capture (some (c :: name)))
    else none

theorem groupName?_eq (s : List Char) : groupName? s =
    ((some (s.takeWhile (· != '>'), s.dropWhile (· != '>'))).bind fun p =>
      expectSign? '>' p.1 p.2).bind fun p => (captureName? p.1).map fun v => (v, p.2) := by
  rw [groupName?, Option.bind_some]
  generalize s.takeWhile (· != '>') = name
  rcases s.dropWhile (· != '>') with _ | ⟨d, r⟩
  · cases name <;> rfl
  · by_cases hd : d = '>' <;> cases name <;> simp [expectSign?, captureName?, hd]

theorem isLocal_groupName : IsLocal groupName? := by
  rw [funext groupName?_eq]
  exact ((IsLocalIf.span (· != '>')).andThen fun name => .expect '>' name).filterMap captureName?

/-- Reads what follows an opening parenthesis and a question mark. -/
def afterMark? : List Char → Option (Token × List Char)
  | 'P' :: '<' :: r => groupName? r
  | '<' :: r => groupName? r
  | r => switchLetters? false ⟨[], []⟩ r

theorem isLocal_afterMark : IsLocal afterMark? :=
  .of_cons rfl fun c => by
    by_cases hsign : c = '<'
    · subst hsign
      exact isLocal_groupName
    · by_cases hletter : c = 'P'
      · subst hletter
        refine .onSign .id '<' isLocal_groupName .fail (fun s r hs => ?_) fun s hs => ?_
        · rw [hs, afterMark?]
        · cases s with
          | nil => rfl
          | cons d s =>
            have hd : d ≠ '<' := fun hd => hs s (by rw [hd])
            have hnone : switchLetters? false ⟨[], []⟩ ('P' :: d :: s) = none := rfl
            simp [afterMark?, hd, hnone]
      · simpa [afterMark?, hsign, hletter] using isLocal_switchLetters_cons false ⟨[], []⟩ c

theorem opening?_mark (s : List Char) : opening? ('?' :: s) = afterMark? s := by
  rcases s with _ | ⟨c, s⟩
  · rfl
  by_cases hsign : c = '<'
  · subst hsign
    rfl
  by_cases hletter : c = 'P'
  · subst hletter
    rcases s with _ | ⟨d, s⟩
    · rfl
    · by_cases hd : d = '<'
      · subst hd
        rfl
      · simp [opening?, afterMark?, hd]
  · simp [opening?, afterMark?, hsign, hletter]

theorem isLocal_opening : IsLocal opening? := by
  refine .onSign .id '?' isLocal_afterMark (.leave (.capture none))
    (fun s r hs => hs ▸ opening?_mark r) fun s hs => ?_
  unfold opening?
  split
  case h_4 => rfl
  all_goals exact absurd rfl (hs _)

/-! ### Tokens -/

/-- Reads the counts of a quantifier and the mark after it. -/
def countsMarked? (f : Flags) (s : List Char) : Option (Token × List Char) :=
  (counts? f s).bind fun p => some (marked p.1.1 p.1.2 (skip f p.2))

theorem isLocal_countsMarked (f : Flags) : IsLocal (countsMarked? f) :=
  (isLocal_counts f).andThen fun v => .dropFirst (dropsStart_skip f) (isLocal_marked v.1 v.2)

/-- The token that an escape is. -/
def Escape.token : Escape → Token
  | .char c => .literal c
  | .set s => .set ⟨s, 0⟩
  | .assertion a => .assertion a

theorem token?_counts (f : Flags) (s : List Char) : token? f ('\x7b' :: s) = countsMarked? f s := by
  rw [token?, countsMarked?]
  cases counts? f s <;> rfl

/-- A token is read locally, but for the condition that an assertion may have in braces after it. -/
theorem isLocalIf_token_cons (f : Flags) (c : Char) :
    IsLocalIf (fun x r => (∃ a, x = Token.assertion a) → GoesOn f '\x7b' r)
      fun s => token? f (c :: s) := by
  have hmarked : ∀ min max, IsLocalIf
      (fun x r => (∃ a, x = Token.assertion a) → GoesOn f '\x7b' r) _ := fun min max =>
    (isLocal_marked min max).mono fun _ _ _ => trivial
  have hcounts : IsLocalIf (fun x r => (∃ a, x = Token.assertion a) → GoesOn f '\x7b' r)
      fun s => token? f ('\x7b' :: s) := by
    simp only [token?_counts]
    exact (isLocal_countsMarked f).mono fun _ _ _ => trivial
  unfold token?
  dsimp only
  split
  case h_1 =>
    refine (isLocalIf_escape f).map Escape.token fun e r hopen ⟨a, ha⟩ => hopen ⟨a, ?_⟩
    rw [ha, Escape.token]
  case h_2 => exact (isLocal_bracket f).map Token.set fun _ _ _ => trivial
  case h_3 => exact .dropFirst (dropsStart_skip f) (isLocal_opening.mono fun _ _ _ => trivial)
  case h_9 => exact hmarked 0 none
  case h_10 => exact hmarked 1 none
  case h_11 => exact hmarked 0 (some 1)
  case h_12 => exact hcounts
  all_goals exact .leave _

theorem isLocalIf_token (f : Flags) :
    IsLocalIf (fun x r => (∃ a, x = Token.assertion a) → GoesOn f '\x7b' r) (token? f) :=
  .of_cons rfl (isLocalIf_token_cons f)

/-- A brace that starts a token is followed by more than what is skipped. -/
theorem goesOn_of_token {x : Token × List Char} (h : token? f s = some x) : GoesOn f '\x7b' s := by
  rintro w rfl hskip
  have hnone : countNumber? f w = none := by
    have htake : takeKind f Char.isDigit (w.length + 1) (Text.trimStart (skip f w)) = ([], []) := by
      rw [hskip]
      exact takeKind_of_skip_eq_nil (dropsStart_skip f).drop_nil
    rw [countNumber?, htake]
  rw [token?_counts, countsMarked?, counts?_eq, hnone] at h
  cases h

/-- A token takes at least one character. -/
theorem length_lt_of_token {x : Token} (h : token? f s = some (x, r)) : r.length < s.length := by
  cases s with
  | nil => cases h
  | cons c s => exact Nat.lt_succ_of_le ((isLocalIf_token_cons f c).suffix h).length_le

theorem groupName?_ne_closing {v : Token} (h : groupName? s = some (v, r)) : v ≠ .closing := by
  rw [groupName?] at h
  split at h
  · split at h
    · cases h
      nofun
    · cases h
  · cases h

theorem opening?_ne_closing {v : Token} (h : opening? s = some (v, r)) : v ≠ .closing := by
  unfold opening? at h
  split at h
  · exact groupName?_ne_closing h
  · exact groupName?_ne_closing h
  · exact switchLetters?_ne_closing h
  · cases h
    nofun

/-- Only a closing parenthesis is read as one. -/
theorem eq_of_token_closing (h : token? f s = some (.closing, r)) : s = ')' :: r := by
  cases s with
  | nil => cases h
  | cons c s =>
    unfold token? at h
    dsimp only at h
    split at h
    case h_1 =>
      obtain ⟨⟨e, w⟩, -, he⟩ := Option.map_eq_some_iff.1 h
      cases e <;> cases he
    case h_2 =>
      obtain ⟨p, -, hp⟩ := Option.map_eq_some_iff.1 h
      cases hp
    case h_3 => exact absurd rfl (opening?_ne_closing h)
    case h_4 => cases h; rfl
    case h_9 | h_10 | h_11 => exact absurd rfl (marked_ne_closing h)
    case h_12 =>
      obtain ⟨p, -, hp⟩ := Option.map_eq_some_iff.1 h
      exact absurd rfl (marked_ne_closing (congrArg some hp))
    all_goals cases h

end BiblioQuery.Regex
