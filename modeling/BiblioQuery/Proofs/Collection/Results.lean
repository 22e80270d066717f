import Mathlib.Data.List.Forall2

/-!
# Results of steps

A step gives a value or an error.  How several steps end in turn tells how each of them ended, for
two steps, for a step whose value or error is mapped, and for the steps of a pass over a list.

## Main results

* `ok_of_bind_eq_ok`, `ok_of_map_eq_ok`, `ok_of_mapError_eq_ok` : where a value comes from.
* `error_or_of_bind_eq_error`, `error_of_map_eq_error`, `error_of_mapError_eq_error` : where an
  error comes from.
* `mapError_eq_self`, `bind_eq_mapError_bind` : errors that are mapped step by step.
* `forM_eq_ok_iff`, `forall₂_of_mapM_eq_ok`, `error_of_mapM_eq_error` : passes over lists.
-/

namespace BiblioQuery

variable {ε ε' α β : Type}

/-! ### Values -/

section

variable {r : Except ε α}

/-- What follows a step with a value. -/
theorem bind_eq_of_eq_ok {a : α} {f : α → Except ε β} (h : r = .ok a) : r >>= f = f a := by
  rw [h]
  rfl

/-- What follows a step with a value, where there are no errors. -/
theorem bind_eq_of_eq_some {o : Option α} {a : α} {f : α → Option β} (h : o = some a) :
    o >>= f = f a := by
  rw [h]
  rfl

/-- The value of two steps in turn is the value of the second one. -/
theorem ok_of_bind_eq_ok {f : α → Except ε β} {b : β} (h : r >>= f = .ok b) :
    ∃ a, r = .ok a ∧ f a = .ok b := by
  cases r with
  | error e => cases h
  | ok a => exact ⟨a, rfl, h⟩

/-- The value of a mapped result is the image of a value. -/
theorem ok_of_map_eq_ok {f : α → β} {b : β} (h : r.map f = .ok b) : ∃ a, r = .ok a ∧ f a = b := by
  cases r with
  | error e => cases h
  | ok a => exact ⟨a, rfl, Except.ok.inj h⟩

/-- A result whose error is mapped has the value that it had. -/
theorem ok_of_mapError_eq_ok {f : ε → ε'} {a : α} (h : r.mapError f = .ok a) : r = .ok a := by
  cases r with
  | error e => cases h
  | ok a' => exact congrArg _ (Except.ok.inj h)

/-- Two steps without value succeed if and only if both do. -/
theorem bind_eq_ok_iff {first second : Except ε Unit} :
    (first >>= fun _ => second) = .ok () ↔ first = .ok () ∧ second = .ok () := by
  cases first with
  | error e => exact ⟨fun h => (nomatch h), fun h => (nomatch h.1)⟩
  | ok u => exact ⟨fun h => ⟨rfl, h⟩, fun h => h.2⟩

end

/-! ### Errors -/

section

variable {r r' : Except ε α}

/-- The error of two steps in turn is the error of one of them. -/
theorem error_or_of_bind_eq_error {f : α → Except ε β} {e : ε} (h : r >>= f = .error e) :
    r = .error e ∨ ∃ a, r = .ok a ∧ f a = .error e := by
  cases r with
  | error e' => exact .inl (congrArg _ (Except.error.inj h))
  | ok a => exact .inr ⟨a, rfl, h⟩

/-- What holds of the errors of two steps holds of the errors of both in turn. -/
theorem error_of_bind_eq_error {P : ε → Prop} {f : α → Except ε β}
    (hfirst : ∀ e, r = .error e → P e) (hsecond : ∀ a e, f a = .error e → P e) :
    ∀ e, (r >>= f) = .error e → P e := by
  intro e h
  obtain h | ⟨a, -, h⟩ := error_or_of_bind_eq_error h
  · exact hfirst e h
  · exact hsecond a e h

/-- The error of a mapped result is the error of the result. -/
theorem error_of_map_eq_error {f : α → β} {e : ε} (h : r.map f = .error e) : r = .error e := by
  cases r with
  | error e' => exact congrArg _ (Except.error.inj h)
  | ok a => cases h

/-- A mapped error is the image of an error. -/
theorem error_of_mapError_eq_error {f : ε → ε'} {e' : ε'} (h : r.mapError f = .error e') :
    ∃ e, r = .error e ∧ f e = e' := by
  cases r with
  | error e => exact ⟨e, rfl, Except.error.inj h⟩
  | ok a => cases h

/-- A value has no error to be mapped. -/
theorem mapError_ok (f : ε → ε') (a : α) : (Except.ok a).mapError f = .ok a := rfl

/-- Results stay as they are where their errors do. -/
theorem mapError_eq_self {g : ε → ε} (h : ∀ e, r = .error e → g e = e) : r.mapError g = r := by
  cases r with
  | error e => exact congrArg Except.error (h e rfl)
  | ok a => rfl

/-- The errors of two steps in turn may be mapped in each of them. -/
theorem bind_eq_mapError_bind {g : ε → ε} {f f' : α → Except ε β} (hr : r' = r.mapError g)
    (hf : ∀ a, f' a = (f a).mapError g) : r' >>= f' = (r >>= f).mapError g := by
  subst hr
  cases r with
  | error e => rfl
  | ok a => exact hf a

end

/-! ### Passes over lists -/

section

variable {f : α → Except ε β} {as : List α}

/-- A pass without values succeeds if and only if each of its steps does. -/
theorem forM_eq_ok_iff {f : α → Except ε Unit} :
    as.forM f = .ok () ↔ ∀ a ∈ as, f a = .ok () := by
  induction as with
  | nil => exact ⟨fun _ => List.forall_mem_nil _, fun _ => rfl⟩
  | cons a as ih => rw [List.forall_mem_cons, ← ih, ← bind_eq_ok_iff]; rfl

/-- Steps that all have a value have it one by one. -/
theorem forall₂_of_mapM_eq_ok {bs : List β} (h : as.mapM f = .ok bs) :
    List.Forall₂ (fun a b => f a = .ok b) as bs := by
  induction as generalizing bs with
  | nil =>
    rw [← Except.ok.inj h]
    exact .nil
  | cons a as ih =>
    rw [List.mapM_cons] at h
    obtain ⟨b, hb, h⟩ := ok_of_bind_eq_ok h
    obtain ⟨rest, hrest, h⟩ := ok_of_bind_eq_ok h
    rw [← Except.ok.inj h]
    exact .cons hb (ih hrest)

/-- What holds of the errors of all steps holds of the errors of the pass. -/
theorem error_of_mapM_eq_error {P : ε → Prop} (h : ∀ a e, f a = .error e → P e) (as : List α) :
    ∀ e, as.mapM f = .error e → P e := by
  induction as with
  | nil => exact fun e he => nomatch he
  | cons a as ih =>
    rw [List.mapM_cons]
    exact error_of_bind_eq_error (h a) fun b =>
      error_of_bind_eq_error ih fun bs e he => nomatch he

end

end BiblioQuery
