import BiblioQuery.Proofs.Collection.Results
import BiblioQuery.Proofs.Expr.ReadBack
import BiblioQuery.Query.Rendering

/-!
# Where faults come from

What is found while an expression is written comes from its atoms, from the dialect, or from a
parameter below a disjunction or a negation.  What is found at an atom comes from the choice of a
rule, from the rule that was chosen, or from the dialect; and what comes from a rule is a slot
without text or a bound of the value.  Each relation here says no more than where a fault may come
from: not every fault that it allows is found in each case.

## Main definitions

* `Rule.Finds`, `Atom.Finds`, `Expr.Finds` : the faults that may come from a rule, an atom and an
  expression.

## Main results

* `Atom.finds_of_write` : where the faults of atoms come from.
* `Expr.finds_of_mem_faults` : where the faults of expressions come from.
* `Expr.Finds.exists_unwritableBound` : what fails for a format.
* `Atom.severity_of_write`, `Dialect.severity_of_deny` : these faults are errors.
-/

namespace BiblioQuery

/-! ### Rules -/

/-- What may be found while a rule writes a value of a field. -/
inductive Rule.Finds (r : Rule) (assumed : Offset) (field : String) (v : AtomValue) :
    RenderFault → Prop
  /-- A slot of one of its templates has no text. -/
  | unbound (slot : Placeholder) (template : String) :
    Finds r assumed field v (.unboundInRule field r.id slot template)
  /-- A bound of the value cannot be written. -/
  | unwritable {b : Bound} {reason : BoundFault} (hb : b ∈ v.bounds)
    (hreason : r.boundText assumed b = .error reason) :
    Finds r assumed field v (.unwritableBound field r.id b reason)

namespace Rule

variable (r : Rule) (assumed : Offset) (field : String) (v : AtomValue)

theorem finds_of_fill (t : Template) (own : Placeholder → Option String) :
    ∀ f, r.fill field t own = .error f → r.Finds assumed field v f := by
  intro f h
  rw [fill] at h
  split at h
  · cases h
  · exact Except.error.inj h ▸ .unbound _ _

theorem finds_of_itemText (value : String) :
    ∀ f, r.itemText field value = .error f → r.Finds assumed field v f := by
  intro f h
  rw [itemText] at h
  split at h
  · cases h
  · exact r.finds_of_fill assumed field v _ _ f h

variable {v}

theorem finds_of_endText {b : Option Bound} (hb : ∀ x ∈ b, x ∈ v.bounds) :
    ∀ f, r.endText assumed field b = .error f → r.Finds assumed field v f := by
  intro f h
  cases b with
  | none => cases h
  | some b =>
    rw [endText] at h
    split at h
    · cases h
    · next hreason => exact Except.error.inj h ▸ .unwritable (hb b rfl) hreason

variable (v)

theorem finds_of_slots (joiner : String) :
    ∀ f, r.slots joiner assumed field v = .error f → r.Finds assumed field v f := by
  cases v with
  | term t => exact fun f h => nomatch h
  | member v =>
    exact error_of_bind_eq_error (error_of_mapM_eq_error (r.finds_of_itemText assumed field _) _)
      fun items f h => nomatch h
  | range v =>
    have hlower : ∀ x ∈ v.lower, x ∈ (AtomValue.range v).bounds := fun x hx =>
      List.mem_append_left _ (Option.mem_toList.2 hx)
    have hupper : ∀ x ∈ v.upper, x ∈ (AtomValue.range v).bounds := fun x hx =>
      List.mem_append_right _ (Option.mem_toList.2 hx)
    exact error_of_bind_eq_error (r.finds_of_endText assumed field hlower) fun lower =>
      error_of_bind_eq_error (r.finds_of_endText assumed field hupper) fun upper f h => nomatch h
  | presence expected => exact fun f h => nomatch h
  | token t => exact fun f h => nomatch h

/-- What keeps a rule from writing an atom. -/
theorem finds_of_write (d : Dialect) (a : Atom) :
    ∀ f, r.write d assumed a = .error f → r.Finds assumed a.field a.value f :=
  error_of_bind_eq_error (r.finds_of_slots assumed a.field a.value _)
    fun own => r.finds_of_fill assumed a.field a.value r.template own

end Rule

/-! ### Atoms -/

/-- What keeps the dialect from denying a fragment. -/
theorem Dialect.fault_of_deny {d : Dialect} {field : Option String} {inner : String}
    {f : RenderFault} (h : d.deny field inner = .error f) :
    f = .noNegation field ∨ ∃ slot template, f = .unboundInDialect slot template := by
  rw [deny] at h
  split at h
  · exact .inl (Except.error.inj h).symm
  · split at h
    · cases h
    · exact .inr ⟨_, _, (Except.error.inj h).symm⟩

theorem Dialect.severity_of_deny {d : Dialect} {field : Option String} {inner : String}
    {f : RenderFault} (h : d.deny field inner = .error f) : f.severity = .error := by
  obtain rfl | ⟨_, _, rfl⟩ := fault_of_deny h <;> rfl

theorem Dialect.code_ne_of_deny {d : Dialect} {field : Option String} {inner : String}
    {f : RenderFault} (h : d.deny field inner = .error f) : f.code ≠ .renderFormatFailed := by
  intro hcode
  obtain rfl | ⟨_, _, rfl⟩ := fault_of_deny h <;> cases hcode

/-- What may be found while an atom is written. -/
inductive Atom.Finds (s : Snapshot) (assumed : Offset) (a : Atom) : RenderFault → Prop
  /-- No rule fits the atom. -/
  | noRule (h : s.ruleFor? a = none) :
    Finds s assumed a (.noRule a.field a.operator a.negated)
  /-- The rule of the atom cannot write it. -/
  | ofRule {r : Rule} {denied : Bool} {f : RenderFault} (hrule : s.ruleFor? a = some (r, denied))
    (hf : r.Finds assumed a.field a.value f) : Finds s assumed a f
  /-- What the rule wrote cannot be denied. -/
  | ofDenial {inner : String} {f : RenderFault}
    (hf : s.dialect.deny (some a.field) inner = .error f) : Finds s assumed a f

namespace Atom

variable {s : Snapshot} {assumed : Offset} {a : Atom} {f : RenderFault}

/-- What keeps an atom from being written. -/
theorem finds_of_write : ∀ f, a.write s assumed = .error f → a.Finds s assumed f := by
  rw [write]
  split
  · next hrule => exact fun f h => Except.error.inj h ▸ .noRule hrule
  · next r denied hrule =>
    have htext : ∀ f, r.write s.dialect assumed a = .error f → a.Finds s assumed f :=
      fun f h => .ofRule hrule (r.finds_of_write assumed s.dialect a f h)
    refine error_of_bind_eq_error htext fun text => ?_
    dsimp only
    split
    · exact error_of_bind_eq_error (fun f h => .ofDenial h) fun fragment f h => nomatch h
    · exact fun f h => nomatch h

/-- What may be found while an atom is written is an error. -/
theorem Finds.severity_eq (h : a.Finds s assumed f) : f.severity = .error := by
  cases h with
  | noRule => rfl
  | ofRule _ hf => cases hf <;> rfl
  | ofDenial hf => exact Dialect.severity_of_deny hf

/-- What fails for a format at an atom is a bound that the rule of the atom cannot write. -/
theorem Finds.eq_unwritableBound (h : a.Finds s assumed f) (hcode : f.code = .renderFormatFailed) :
    ∃ r denied b reason, s.ruleFor? a = some (r, denied) ∧ b ∈ a.value.bounds ∧
      r.boundText assumed b = .error reason ∧ f = .unwritableBound a.field r.id b reason := by
  cases h with
  | noRule => cases hcode
  | ofDenial hf => exact absurd hcode (Dialect.code_ne_of_deny hf)
  | ofRule hrule hf =>
    cases hf with
    | unbound => cases hcode
    | unwritable hb hreason => exact ⟨_, _, _, _, hrule, hb, hreason, rfl⟩

/-- What keeps an atom from being written is an error. -/
theorem severity_of_write (h : a.write s assumed = .error f) : f.severity = .error :=
  (finds_of_write f h).severity_eq

end Atom

/-! ### Expressions -/

/-- What may be found while an expression is written. -/
inductive Expr.Finds (s : Snapshot) (assumed : Offset) (e : Expr) : RenderFault → Prop
  /-- An atom cannot be written. -/
  | ofAtom {a : Atom} {f : RenderFault} (ha : a ∈ e.atoms) (hf : a.Finds s assumed f) :
    Finds s assumed e f
  /-- The fragment of an atom goes to a parameter, which holds for the whole. -/
  | ofParam {a : Atom} (key : String) (ha : a ∈ e.atoms) :
    Finds s assumed e (.unconditionalParam a.field key)
  /-- A group cannot be denied. -/
  | ofDenial {inner : String} {f : RenderFault} (hf : s.dialect.deny none inner = .error f) :
    Finds s assumed e f
  /-- Falsity cannot be written. -/
  | noMatchNothing : Finds s assumed e .noMatchNothing

namespace Expr

variable {s : Snapshot} {assumed : Offset} {f : RenderFault}

/-- What may be found in a part may be found in the whole. -/
theorem Finds.mono {e e' : Expr} (h : e.Finds s assumed f) (hatoms : e.atoms ⊆ e'.atoms) :
    e'.Finds s assumed f := by
  cases h with
  | ofAtom ha hf => exact .ofAtom (hatoms ha) hf
  | ofParam key ha => exact .ofParam key (hatoms ha)
  | ofDenial hf => exact .ofDenial hf
  | noMatchNothing => exact .noMatchNothing

/-- What fails for a format is a bound of an atom. -/
theorem Finds.exists_unwritableBound {e : Expr} (h : e.Finds s assumed f)
    (hcode : f.code = .renderFormatFailed) :
    ∃ a r denied b reason, a ∈ e.atoms ∧ s.ruleFor? a = some (r, denied) ∧ b ∈ a.value.bounds ∧
      r.boundText assumed b = .error reason ∧ f = .unwritableBound a.field r.id b reason := by
  cases h with
  | noMatchNothing => cases hcode
  | ofParam key ha => cases hcode
  | ofDenial hf => exact absurd hcode (Dialect.code_ne_of_deny hf)
  | ofAtom ha hf =>
    obtain ⟨r, denied, b, reason, hfound⟩ := hf.eq_unwritableBound hcode
    exact ⟨_, r, denied, b, reason, ha, hfound⟩

mutual

-- A group finds what its members find, and a negation what the denial finds besides, so that each
-- fault goes back to an atom or to the dialect.

/-- Where the faults of an expression come from. -/
theorem finds_of_mem_faults (conditional : Bool) : (e : Expr) →
    ∀ f ∈ (e.write s assumed conditional).faults, e.Finds s assumed f
  | .const true => fun f hf => nomatch hf
  | .const false => by
    intro f hf
    rw [write] at hf
    split at hf
    · cases hf
    · exact List.mem_singleton.1 hf ▸ .noMatchNothing
  | .atom a => by
    intro f hf
    rw [write] at hf
    split at hf
    · next w _ =>
      rw [Applied.writing] at hf
      split at hf
      · cases hf
      · next key _ =>
        obtain ⟨-, rfl⟩ : _ ∧ f = .unconditionalParam a.field key := by simpa using hf
        exact .ofParam key (List.mem_singleton_self a)
    · next f' hwrite =>
      obtain rfl := List.mem_singleton.1 hf
      exact .ofAtom (List.mem_singleton_self a) (Atom.finds_of_write f hwrite)
  | .group c xs => by
    intro f hf
    rw [write] at hf
    obtain ⟨w, hw, hf⟩ := List.mem_flatMap.1 hf
    exact finds_of_mem_faultsOfList (conditional || c == .any) c xs w hw f hf
  | .not x => by
    intro f hf
    rw [write, Dialect.denyWriting] at hf
    have hinside : ∀ f ∈ (x.write s assumed true).faults, (Expr.not x).Finds s assumed f :=
      fun f hf => (finds_of_mem_faults true x f hf).mono (List.Subset.refl _)
    split at hf
    · exact hinside f hf
    · split at hf
      · exact hinside f hf
      · next f' hdeny =>
        rcases List.mem_append.1 hf with hf | hf
        · exact hinside f hf
        · exact List.mem_singleton.1 hf ▸ .ofDenial hdeny

theorem finds_of_mem_faultsOfList (conditional : Bool) (c : Connective) : (xs : List Expr) →
    ∀ w ∈ writeList s assumed conditional xs, ∀ f ∈ w.faults, (group c xs).Finds s assumed f
  | [] => fun w hw => nomatch hw
  | x :: xs => by
    rw [writeList, List.forall_mem_cons]
    refine ⟨fun f hf => ?_, fun w hw f hf => ?_⟩
    · exact (finds_of_mem_faults conditional x f hf).mono (List.subset_append_left _ _)
    · exact (finds_of_mem_faultsOfList conditional c xs w hw f hf).mono
        (List.subset_append_right _ _)

end

end Expr

end BiblioQuery
