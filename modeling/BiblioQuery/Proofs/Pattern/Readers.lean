import Mathlib.Data.List.Basic

/-!
# Readers that do not look ahead

A reader takes something off the start of a text and leaves the rest.  It is *local* if what it
takes does not depend on how the rest goes on, so that of the same text with less of the rest, or
with none of it, it takes the same.  Some readers look at the start of what they leave; they are
local under a condition on what they have taken and what is left.

Readers are put together from smaller ones, and with them the reasons why they are local.

## Main definitions

* `DropsStart` : a function drops the start of a text and does not look further.
* `IsLocalIf`, `IsLocal` : local readers.
* `expectSign?` : a reader of one sign.

## Main results

* `IsLocalIf.andThen` : one reader after the other.
* `IsLocalIf.of_cons` : a reader that is told by the first character.
* `IsLocalIf.onSign` : a reader for texts with a sign in front, and one for the others.
-/

namespace BiblioQuery

variable {α β : Type} {s t r : List Char}

/-- A text that has an end within a given end of it has that end. -/
theorem exists_eq_append_of_suffix (h : r ++ t <:+ s) : ∃ w, s = w ++ t := by
  obtain ⟨w, rfl⟩ := h
  exact ⟨w ++ r, (List.append_assoc w r t).symm⟩

/-- Nothing ends in more than itself. -/
theorem eq_nil_of_append_suffix (h : r ++ t <:+ t) : r = [] := by
  have hlength := h.length_le
  rw [List.length_append] at hlength
  exact List.length_eq_zero_iff.1 (by omega)

theorem not_append_cons_suffix (c : Char) : ¬r ++ c :: t <:+ t := fun h => by
  have hlength := h.length_le
  rw [List.length_append, List.length_cons] at hlength
  omega

/-! ### Dropping the start -/

/-- A function drops the start of a text, and without the end of what is left it drops the same. -/
structure DropsStart (drop : List Char → List Char) : Prop where
  /-- What is left is an end of the text. -/
  suffix : ∀ s, drop s <:+ s
  /-- Without the end of what is left the same is dropped. -/
  cut : ∀ {s t r}, drop (s ++ t) = r ++ t → drop s = r

namespace DropsStart

/-- Nothing is dropped. -/
theorem id : DropsStart fun s => s := ⟨List.suffix_refl, List.append_cancel_right⟩

/-- Something is dropped after something else. -/
theorem comp {drop drop' : List Char → List Char} (h : DropsStart drop) (h' : DropsStart drop') :
    DropsStart fun s => drop (drop' s) where
  suffix s := (h.suffix _).trans (h'.suffix s)
  cut {s t r} hdrop := by
    obtain ⟨w, hw⟩ := exists_eq_append_of_suffix (hdrop ▸ h.suffix (drop' (s ++ t)))
    rw [h'.cut hw]
    exact h.cut (hw ▸ hdrop)

/-- Characters of a kind are dropped. -/
theorem dropWhile (p : Char → Bool) : DropsStart (List.dropWhile p) where
  suffix _ := List.dropWhile_suffix p
  cut {s t r} h := by
    induction s with
    | nil => exact (eq_nil_of_append_suffix (h ▸ List.dropWhile_suffix p)).symm
    | cons c s ih =>
      rw [List.cons_append, List.dropWhile_cons] at h
      rw [List.dropWhile_cons]
      split at h <;> rename_i hc
      · rw [if_pos hc, ih h]
      · rw [if_neg hc]
        exact (List.append_left_inj t).1 h

theorem drop_nil {drop : List Char → List Char} (h : DropsStart drop) : drop [] = [] :=
  List.suffix_nil.1 (h.suffix [])

end DropsStart

/-! ### Readers -/

/-- A reader takes the start of a text, and without the end of what is left it takes the same, under
a condition on what is taken and what is left. -/
structure IsLocalIf (ok : α → List Char → Prop) (read : List Char → Option (α × List Char)) :
    Prop where
  /-- What is left is an end of the text. -/
  suffix : ∀ {s r v}, read s = some (v, r) → r <:+ s
  /-- Without the end of what is left the same is taken. -/
  cut : ∀ {s t r v}, ok v r → read (s ++ t) = some (v, r ++ t) → read s = some (v, r)

/-- A reader takes the start of a text, and without the end of what is left it takes the same. -/
abbrev IsLocal (read : List Char → Option (α × List Char)) : Prop :=
  IsLocalIf (fun _ _ => True) read

/-- Takes a sign off the start of a text. -/
def expectSign? (sign : Char) (v : α) : List Char → Option (α × List Char)
  | [] => none
  | c :: s => if c = sign then some (v, s) else none

namespace IsLocalIf

variable {ok : α → List Char → Prop} {ok' : β → List Char → Prop}
  {read read' : List Char → Option (α × List Char)} {next : α → List Char → Option (β × List Char)}
  {drop : List Char → List Char}

theorem mono {ok' : α → List Char → Prop} (h : IsLocalIf ok read)
    (hok : ∀ v r, ok' v r → ok v r) : IsLocalIf ok' read where
  suffix := h.suffix
  cut hv := h.cut (hok _ _ hv)

/-- Taking nothing. -/
theorem leave (v : α) : IsLocalIf ok fun s => some (v, s) where
  suffix h := by
    cases h
    exact List.suffix_refl _
  cut {s t r w} _ h := by
    obtain ⟨rfl, hs⟩ := Prod.mk.inj (Option.some.inj h)
    rw [(List.append_left_inj t).1 hs]

/-- Taking no text at all. -/
theorem fail : IsLocalIf ok fun _ => (none : Option (α × List Char)) := ⟨nofun, nofun⟩

/-- Taking nothing, if there is something to give for it. -/
theorem leaveMap (o : Option β) (g : β → α) : IsLocalIf ok fun s => o.map fun v => (g v, s) := by
  cases o with
  | none => exact fail
  | some v => exact leave (g v)

/-- One reader after the other, where what the second one needs makes the first one local. -/
theorem andThenIf (h : IsLocalIf ok read) (hnext : ∀ v, IsLocalIf ok' (next v))
    (hok : ∀ v s x, next v s = some x → ok v s) :
    IsLocalIf ok' fun s => (read s).bind fun p => next p.1 p.2 where
  suffix hread := by
    obtain ⟨⟨v, w⟩, hv, hw⟩ := Option.bind_eq_some_iff.1 hread
    exact ((hnext v).suffix hw).trans (h.suffix hv)
  cut hvr hread := by
    obtain ⟨⟨v, w⟩, hv, hw⟩ := Option.bind_eq_some_iff.1 hread
    obtain ⟨w, rfl⟩ := exists_eq_append_of_suffix ((hnext v).suffix hw)
    have hcut := (hnext v).cut hvr hw
    exact Option.bind_eq_some_iff.2 ⟨_, h.cut (hok v w _ hcut) hv, hcut⟩

/-- One reader after the other. -/
theorem andThen (h : IsLocal read) (hnext : ∀ v, IsLocalIf ok' (next v)) :
    IsLocalIf ok' fun s => (read s).bind fun p => next p.1 p.2 :=
  h.andThenIf hnext fun _ _ _ _ => trivial

/-- What is made of what a reader takes. -/
theorem map (h : IsLocalIf ok read) (g : α → β) (hok : ∀ v r, ok' (g v) r → ok v r) :
    IsLocalIf ok' fun s => (read s).map fun p => (g p.1, p.2) where
  suffix hread := by
    obtain ⟨⟨v, r⟩, hv, hp⟩ := Option.map_eq_some_iff.1 hread
    cases hp
    exact h.suffix hv
  cut hvr hread := by
    obtain ⟨⟨v, r⟩, hv, hp⟩ := Option.map_eq_some_iff.1 hread
    cases hp
    exact Option.map_eq_some_iff.2 ⟨_, h.cut (hok _ _ hvr) hv, rfl⟩

/-- What is made of what a reader takes, if anything is. -/
theorem filterMap (h : IsLocal read) (g : α → Option β) :
    IsLocalIf ok' fun s => (read s).bind fun p => (g p.1).map fun v => (v, p.2) :=
  h.andThen fun v => leaveMap (g v) fun w => w

/-- Dropping something before reading. -/
theorem dropFirst (hdrop : DropsStart drop) (h : IsLocalIf ok read) :
    IsLocalIf ok fun s => read (drop s) where
  suffix hread := (h.suffix hread).trans (hdrop.suffix _)
  cut hok hread := by
    obtain ⟨w, hw⟩ := exists_eq_append_of_suffix (h.suffix hread)
    rw [hdrop.cut hw]
    exact h.cut hok (hw ▸ hread)

/-- Dropping something after reading. -/
theorem dropLast (hdrop : DropsStart drop) (h : IsLocal read) :
    IsLocalIf ok fun s => (read s).map fun p => (p.1, drop p.2) where
  suffix hread := by
    obtain ⟨⟨v, r⟩, hv, hp⟩ := Option.map_eq_some_iff.1 hread
    cases hp
    exact (hdrop.suffix r).trans (h.suffix hv)
  cut _ hread := by
    obtain ⟨⟨v, w⟩, hv, hp⟩ := Option.map_eq_some_iff.1 hread
    obtain ⟨rfl, hdropped⟩ := Prod.mk.inj hp
    obtain ⟨w, rfl⟩ := exists_eq_append_of_suffix (hdropped ▸ hdrop.suffix w)
    refine Option.map_eq_some_iff.2 ⟨_, h.cut trivial hv, ?_⟩
    rw [hdrop.cut hdropped]

/-- A reader that takes at least the first character, which tells how it goes on. -/
theorem of_cons (hnil : read [] = none) (h : ∀ c, IsLocalIf ok fun s => read (c :: s)) :
    IsLocalIf ok read where
  suffix {s r v} hread := by
    cases s with
    | nil => rw [hnil] at hread; cases hread
    | cons c s => exact ((h c).suffix hread).trans (List.suffix_cons c s)
  cut {s t r v} hok hread := by
    cases s with
    | cons c s => exact (h c).cut hok hread
    | nil =>
      cases t with
      | nil => exact (List.append_nil r) ▸ hread
      | cons c t => exact absurd ((h c).suffix hread) (not_append_cons_suffix c)

/-- Taking a sign. -/
theorem expect (sign : Char) (v : α) : IsLocalIf ok (expectSign? sign v) :=
  .of_cons rfl fun c => by
    by_cases hc : c = sign
    · simpa only [expectSign?, if_pos hc] using .leave v
    · simpa only [expectSign?, if_neg hc] using .fail

/-- After something has been dropped, a reader for texts that start with a sign, which is taken, and
another one for all others. -/
theorem onSign (hdrop : DropsStart drop) (sign : Char) (h : IsLocalIf ok read)
    (h' : IsLocalIf ok read') {both : List Char → Option (α × List Char)}
    (hsign : ∀ s r, drop s = sign :: r → both s = read r)
    (hother : ∀ s, (∀ r, drop s ≠ sign :: r) → both s = read' (drop s)) : IsLocalIf ok both where
  suffix {s r v} hread := by
    by_cases hs : ∃ w, drop s = sign :: w
    · obtain ⟨w, hw⟩ := hs
      rw [hsign s w hw] at hread
      exact ((h.suffix hread).trans (List.suffix_cons sign w)).trans (hw ▸ hdrop.suffix s)
    · rw [hother s (not_exists.1 hs)] at hread
      exact (h'.suffix hread).trans (hdrop.suffix s)
  cut {s t r v} hok hread := by
    by_cases hs : ∃ w, drop (s ++ t) = sign :: w
    · obtain ⟨w, hw⟩ := hs
      rw [hsign _ w hw] at hread
      obtain ⟨w, rfl⟩ := exists_eq_append_of_suffix (h.suffix hread)
      have hcut := hdrop.cut (r := sign :: w) hw
      rw [hsign s w hcut]
      exact h.cut hok hread
    · rw [hother _ (not_exists.1 hs)] at hread
      obtain ⟨w, hw⟩ := exists_eq_append_of_suffix (h'.suffix hread)
      have hcut := hdrop.cut hw
      rw [hother s fun x hx => hs ⟨x ++ t, by rw [hw, ← hcut, hx, List.cons_append]⟩, hcut]
      exact h'.cut hok (hw ▸ hread)

/-- After something has been dropped, a reader for texts that start with a sign, if what follows the
sign tells to take it; the sign is left otherwise, and other texts are left as they are.  What tells
it can be seen if what follows goes on. -/
theorem onSignIf (hdrop : DropsStart drop) (sign : Char) (h : IsLocal read) (v : α)
    (takes : List Char → Bool) {goesOn : List Char → Prop}
    (hread : ∀ w x, read w = some x → goesOn w)
    (htakes : ∀ w t, goesOn w → takes (w ++ t) = takes w)
    {both : List Char → Option (α × List Char)}
    (hyes : ∀ s w, drop s = sign :: w → takes w = true → both s = read w)
    (hno : ∀ s w, drop s = sign :: w → takes w = false → both s = some (v, sign :: w))
    (hother : ∀ s, (∀ w, drop s ≠ sign :: w) → both s = some (v, drop s)) :
    IsLocalIf (fun _ r => ∀ w, r = sign :: w → goesOn w) both where
  suffix {s r u} hboth := by
    by_cases hs : ∃ w, drop s = sign :: w
    · obtain ⟨w, hw⟩ := hs
      have hsuffix := hw ▸ hdrop.suffix s
      cases ht : takes w with
      | true =>
        rw [hyes s w hw ht] at hboth
        exact ((h.suffix hboth).trans (List.suffix_cons sign w)).trans hsuffix
      | false =>
        rw [hno s w hw ht] at hboth
        cases hboth
        exact hsuffix
    · rw [hother s (not_exists.1 hs)] at hboth
      cases hboth
      exact hdrop.suffix s
  cut {s t r u} hok hboth := by
    by_cases hs : ∃ w, drop (s ++ t) = sign :: w
    · obtain ⟨w, hw⟩ := hs
      cases ht : takes w with
      | true =>
        rw [hyes _ w hw ht] at hboth
        obtain ⟨w, rfl⟩ := exists_eq_append_of_suffix (h.suffix hboth)
        have hcut := h.cut trivial hboth
        rw [htakes w t (hread w _ hcut)] at ht
        rwa [hyes s w (hdrop.cut (r := sign :: w) hw) ht]
      | false =>
        rw [hno _ w hw ht] at hboth
        obtain ⟨rfl, hr⟩ := Prod.mk.inj (Option.some.inj hboth)
        have hcut := hdrop.cut (hw.trans hr)
        cases r with
        | nil => rw [hother s (by simp [hcut]), hcut]
        | cons c r =>
          obtain ⟨rfl, rfl⟩ := List.cons.inj hr
          exact hno s r hcut ((htakes r t (hok r rfl)).symm.trans ht)
    · rw [hother _ (not_exists.1 hs)] at hboth
      obtain ⟨rfl, hr⟩ := Prod.mk.inj (Option.some.inj hboth)
      have hcut := hdrop.cut hr
      rw [hother s fun w hw => hs ⟨w ++ t, by rw [hr, ← hcut, hw, List.cons_append]⟩, hcut]

/-- A reader after another one where that one takes something, and a third one in its place where it
does not.  With more text the other one does not stop taking something. -/
theorem ifTaken (h : IsLocal read) (hmore : ∀ s t, read (s ++ t) = none → read s = none)
    (hnext : ∀ v, IsLocalIf ok' (next v)) {instead : List Char → Option (β × List Char)}
    (hinstead : IsLocalIf ok' instead) {both : List Char → Option (β × List Char)}
    (hsome : ∀ s p, read s = some p → both s = next p.1 p.2)
    (hnone : ∀ s, read s = none → both s = instead s) : IsLocalIf ok' both where
  suffix {s r v} hboth := by
    cases hs : read s with
    | none => exact hinstead.suffix (hnone s hs ▸ hboth)
    | some p => exact ((hnext p.1).suffix (hsome s p hs ▸ hboth)).trans (h.suffix hs)
  cut {s t r v} hok hboth := by
    cases hs : read (s ++ t) with
    | none =>
      rw [hnone s (hmore s t hs)]
      exact hinstead.cut hok (hnone _ hs ▸ hboth)
    | some p =>
      obtain ⟨u, w⟩ := p
      rw [hsome _ _ hs] at hboth
      obtain ⟨w, rfl⟩ := exists_eq_append_of_suffix ((hnext u).suffix hboth)
      rw [hsome s _ (h.cut trivial hs)]
      exact (hnext u).cut hok hboth

/-- Taking the characters of a kind. -/
theorem span (p : Char → Bool) : IsLocal fun s => some (s.takeWhile p, s.dropWhile p) where
  suffix {s r v} h := by
    cases h
    exact List.dropWhile_suffix p
  cut {s t r v} _ h := by
    obtain ⟨htake, hdrop⟩ := Prod.mk.inj (Option.some.inj h)
    have hcut := (DropsStart.dropWhile p).cut hdrop
    have hwhole : s.takeWhile p ++ s.dropWhile p = s := List.takeWhile_append_dropWhile
    have hlonger : (s ++ t).takeWhile p ++ (s ++ t).dropWhile p = s ++ t :=
      List.takeWhile_append_dropWhile
    rw [hdrop, htake, ← List.append_assoc, List.append_left_inj, ← hwhole, hcut,
      List.append_left_inj] at hlonger
    rw [hcut, hlonger]

end IsLocalIf

end BiblioQuery
