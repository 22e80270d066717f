import BiblioQuery.Proofs.Pattern.Tokens

/-!
# Reading the start of a text

A text is read token by token, from a reading to a reading.  What is read of a whole text, up to its
end, therefore starts with what is read of its start.  The other way round, what is read of the
start of a text is what is read of it as a text of its own, because tokens are read locally.  A
token that looks at what it leaves is followed by another one, which settles what it sees.

## Main definitions

* `Reading.run?` : what has been read at the end of a text.
* `Reading.Reads` : some tokens lead from a reading before a text to a reading before an end of it.

## Main results

* `Reading.exists_reads_of_run` : the tokens of a whole text.
* `Reading.Reads.run?_eq` : reading some tokens does not change what will have been read at the end.
* `Reading.Reads.cut` : without the end of what is left the same tokens are read.
-/

namespace BiblioQuery.Regex

variable {f : Flags} {st st' st'' : Reading} {s s' s'' t r w : List Char} {x : Token} {n m : Nat}

/-! ### The whole run -/

/-- What has been read at the end of a text, if all of it is read. -/
def Reading.run? (st : Reading) (s : List Char) : Option Reading := readFrom? s.length st s

theorem readFrom?_of_skip_eq_nil (h : skip st.group.flags s = []) : readFrom? n st s = some st := by
  rw [readFrom?.eq_def]
  simp only [h]

theorem readFrom?_of_push (hx : token? st.group.flags (skip st.group.flags s) = some (x, r))
    (hpush : push? st x = some st') : readFrom? (n + 1) st s = readFrom? n st' r := by
  cases hs : skip st.group.flags s with
  | nil => rw [hs] at hx; cases hx
  | cons c w =>
    rw [hs] at hx
    rw [readFrom?.eq_def]
    simp only [hs, hx, hpush]

theorem readFrom?_of_push_eq_none
    (hx : token? st.group.flags (skip st.group.flags s) = some (x, r)) (hpush : push? st x = none) :
    readFrom? n st s = none := by
  cases hs : skip st.group.flags s with
  | nil => rw [hs] at hx; cases hx
  | cons c w =>
    rw [hs] at hx
    rw [readFrom?.eq_def]
    cases n <;> simp only [hs, hx, hpush]

theorem readFrom?_of_token_eq_none (hs : skip st.group.flags s ≠ [])
    (hx : token? st.group.flags (skip st.group.flags s) = none) : readFrom? n st s = none := by
  obtain ⟨c, w, hw⟩ := List.exists_cons_of_ne_nil hs
  rw [hw] at hx
  rw [readFrom?.eq_def]
  cases n <;> simp only [hw, hx]

/-- What a token leaves is shorter than what stands before it. -/
theorem length_lt_of_token_skip (hx : token? f (skip f s) = some (x, r)) : r.length < s.length :=
  Nat.lt_of_lt_of_le (length_lt_of_token hx) (skip_suffix f s).length_le

/-- Any bound that leaves room for all characters gives the same reading. -/
theorem readFrom?_eq_of_le (hn : s.length ≤ n) (hm : s.length ≤ m) :
    readFrom? n st s = readFrom? m st s := by
  induction n generalizing m st s with
  | zero =>
    have hnil : skip st.group.flags s = [] :=
      List.suffix_nil.1 (List.length_eq_zero_iff.1 (Nat.le_zero.1 hn) ▸ skip_suffix _ s)
    rw [readFrom?_of_skip_eq_nil hnil, readFrom?_of_skip_eq_nil hnil]
  | succ n ih =>
    by_cases hs : skip st.group.flags s = []
    · rw [readFrom?_of_skip_eq_nil hs, readFrom?_of_skip_eq_nil hs]
    cases hx : token? st.group.flags (skip st.group.flags s) with
    | none => rw [readFrom?_of_token_eq_none hs hx, readFrom?_of_token_eq_none hs hx]
    | some p =>
      obtain ⟨x, r⟩ := p
      have hlength := length_lt_of_token_skip hx
      cases hpush : push? st x with
      | none => rw [readFrom?_of_push_eq_none hx hpush, readFrom?_of_push_eq_none hx hpush]
      | some st' =>
        cases m with
        | zero => omega
        | succ m =>
          rw [readFrom?_of_push hx hpush, readFrom?_of_push hx hpush]
          exact ih (by omega) (by omega)

namespace Reading

theorem run?_of_skip_eq_nil (h : skip st.group.flags s = []) : st.run? s = some st :=
  readFrom?_of_skip_eq_nil h

theorem run?_of_push (hx : token? st.group.flags (skip st.group.flags s) = some (x, r))
    (hpush : push? st x = some st') : st.run? s = st'.run? r := by
  have hlength := length_lt_of_token_skip hx
  rw [run?, readFrom?_eq_of_le (m := s.length + 1) (Nat.le_refl _) (by omega),
    readFrom?_of_push hx hpush]
  exact readFrom?_eq_of_le (by omega) (Nat.le_refl _)

theorem run?_of_push_eq_none (hx : token? st.group.flags (skip st.group.flags s) = some (x, r))
    (hpush : push? st x = none) : st.run? s = none :=
  readFrom?_of_push_eq_none hx hpush

/-- A text that is read to its end is over, or a token is read off its start and then the rest. -/
theorem run?_cases (h : st.run? s = some st'') :
    (skip st.group.flags s = [] ∧ st'' = st) ∨
      ∃ x r st', token? st.group.flags (skip st.group.flags s) = some (x, r) ∧
        push? st x = some st' ∧ st'.run? r = some st'' := by
  by_cases hs : skip st.group.flags s = []
  · rw [run?_of_skip_eq_nil hs] at h
    exact .inl ⟨hs, (Option.some.inj h).symm⟩
  cases hx : token? st.group.flags (skip st.group.flags s) with
  | none =>
    rw [run?, readFrom?_of_token_eq_none hs hx] at h
    cases h
  | some p =>
    obtain ⟨x, r⟩ := p
    cases hpush : push? st x with
    | none =>
      rw [run?_of_push_eq_none hx hpush] at h
      cases h
    | some st' => exact .inr ⟨x, r, st', rfl, hpush, run?_of_push hx hpush ▸ h⟩

end Reading

/-! ### Parts of a run -/

/-- Some tokens are read off the start of a text. -/
inductive Reading.Reads : Reading → List Char → Reading → List Char → Prop
  /-- No token is read. -/
  | refl (st : Reading) (s : List Char) : Reads st s st s
  /-- One token is read, and then others. -/
  | step {st st' st'' : Reading} {s r s'' : List Char} {x : Token} :
    token? st.group.flags (skip st.group.flags s) = some (x, r) → push? st x = some st' →
    Reads st' r st'' s'' → Reads st s st'' s''

namespace Reading

/-- The tokens of a text that is read to its end. -/
theorem exists_reads_of_run (h : st.run? s = some st') :
    ∃ w, st.Reads s st' w ∧ skip st'.group.flags w = [] := by
  generalize hn : s.length = n
  induction n using Nat.strongRecOn generalizing st s with
  | ind n ih =>
    obtain ⟨hs, rfl⟩ | ⟨x, r, u, hx, hpush, hrest⟩ := run?_cases h
    · exact ⟨s, .refl _ s, hs⟩
    · have hlength := length_lt_of_token_skip hx
      obtain ⟨w, hreads, hw⟩ := ih r.length (by omega) hrest rfl
      exact ⟨w, .step hx hpush hreads, hw⟩

theorem Reads.run?_eq (h : Reads st s st' s') : st.run? s = st'.run? s' := by
  induction h with
  | refl => rfl
  | step hx hpush _ ih => exact (run?_of_push hx hpush).trans ih

theorem Reads.suffix (h : Reads st s st' s') : s' <:+ s := by
  induction h with
  | refl st s => exact List.suffix_refl s
  | step hx _ _ ih =>
    exact (ih.trans ((isLocalIf_token _).suffix hx)).trans (skip_suffix _ _)

/-- If a text starts with a brace, the token that it starts takes more than what is skipped after
the brace; so it does if no token is read but there is no brace. -/
theorem Reads.goesOn (h : Reads st s st' s') (hend : ∀ w, s' ≠ '\x7b' :: w) :
    GoesOn st.group.flags '\x7b' s := by
  cases h with
  | refl => exact fun w hw => absurd hw (hend w)
  | step hx hpush hrest =>
    rintro w rfl
    rw [skip_cons (by decide) (by decide)] at hx
    exact goesOn_of_token hx w rfl

theorem flags_of_push_assertion {a : Assertion} (h : push? st (.assertion a) = some st') :
    st'.group.flags = st.group.flags := by
  cases h
  rfl

/-- Without the end of what is left the same tokens are read. -/
theorem Reads.cut (h : Reads st (s ++ t) st' (w ++ t)) (hend : ∀ r, w ≠ '\x7b' :: r) :
    Reads st s st' w := by
  generalize hS : s ++ t = S at h
  generalize hW : w ++ t = W at h
  induction h generalizing s with
  | refl =>
    obtain rfl : s = w := (List.append_left_inj t).1 (hS.trans hW.symm)
    exact .refl _ s
  | step hx hpush hrest ih =>
    subst hS
    obtain ⟨r, rfl⟩ := exists_eq_append_of_suffix (hW ▸ hrest.suffix)
    have hcut := ih rfl hW
    refine .step ((isLocalIf_token _).dropFirst (dropsStart_skip _) |>.cut ?_ hx) hpush hcut
    -- An assertion keeps the flags, so that the next token tells what it has seen behind it.
    rintro ⟨a, rfl⟩
    rw [← flags_of_push_assertion hpush]
    exact hcut.goesOn hend

end Reading

end BiblioQuery.Regex
