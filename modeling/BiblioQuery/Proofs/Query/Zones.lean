import BiblioQuery.Proofs.Query.FaultSources

/-!
# What the time zone is for

Moments without offset are written as if they had the offset of the time zone, and the zone is used
for nothing else.  So an expression whose naive bounds are given that offset is written the same in
every zone.  Only where a bound cannot be written is there a difference, in the text of the bound
that the fault names.

This is proved as an equation for all expressions, in which the bounds that faults name are given
the offset too; it then says of an expression without such faults, and of one without naive bounds,
that nothing changes.

## Main definitions

* `DateTime.zoned`, `Bound.zoned`, `Expr.zoned` : naive literals given an offset.
* `RenderFault.zoned` : a fault that names such a bound.
* `Bound.IsNaive` : the bound is a moment without offset.

## Main results

* `Atom.write_zoned`, `Expr.write_zoned` : how zoned atoms and expressions are written.
* `Expr.render_zoned` : what the time zone means for a query.
-/

namespace BiblioQuery

/-! ### Naive literals given an offset -/

/-- The same literal, with the given offset if it has none. -/
def DateTime.zoned (assumed : Offset) (t : DateTime) : DateTime :=
  ⟨t.wall, some (t.offset.getD assumed)⟩

namespace Bound

/-- The same bound, with the given offset if it is a moment without one. -/
def zoned (assumed : Offset) : Bound → Bound
  | .dateTime t => .dateTime (t.zoned assumed)
  | b => b

/-- The bound is a moment without offset. -/
def IsNaive : Bound → Prop
  | .dateTime t => t.offset = none
  | _ => False

/-- Bounds that are not naive stay as they are. -/
theorem zoned_of_not_isNaive {assumed : Offset} {b : Bound} (h : ¬b.IsNaive) :
    b.zoned assumed = b := by
  cases b with
  | dateTime t =>
    obtain ⟨wall, offset⟩ := t
    cases offset with
    | none => exact absurd rfl h
    | some o => rfl
  | _ => rfl

end Bound

/-- The same range, with the given offset for naive bounds. -/
def RangeValue.zoned (assumed : Offset) (r : RangeValue) : RangeValue :=
  { r with
    lower := r.lower.map (Bound.zoned assumed)
    upper := r.upper.map (Bound.zoned assumed) }

/-- The same value, with the given offset for naive bounds. -/
def AtomValue.zoned (assumed : Offset) : AtomValue → AtomValue
  | .range r => .range (r.zoned assumed)
  | v => v

/-- The same atom, with the given offset for naive bounds. -/
def Atom.zoned (assumed : Offset) (a : Atom) : Atom := { a with value := a.value.zoned assumed }

namespace Expr

mutual

/-- The same expression, with the given offset for naive bounds. -/
def zoned (assumed : Offset) : Expr → Expr
  | .const b => .const b
  | .atom a => .atom (a.zoned assumed)
  | .group c xs => .group c (zonedList assumed xs)
  | .not x => .not (zoned assumed x)

/-- The same list of expressions, with the given offset for naive bounds. -/
def zonedList (assumed : Offset) : List Expr → List Expr
  | [] => []
  | x :: xs => zoned assumed x :: zonedList assumed xs

end

end Expr

/-- The same fault, with the given offset if it names a naive bound. -/
def RenderFault.zoned (assumed : Offset) : RenderFault → RenderFault
  | .unwritableBound field rule b reason => .unwritableBound field rule (b.zoned assumed) reason
  | f => f

/-! ### Where nothing changes -/

section

variable {assumed : Offset}

/-- Options of bounds that are not naive stay as they are. -/
theorem Bound.map_zoned_of_not_isNaive {b : Option Bound} (h : ∀ x ∈ b, ¬x.IsNaive) :
    b.map (Bound.zoned assumed) = b := by
  cases b with
  | none => rfl
  | some b => rw [Option.map_some, zoned_of_not_isNaive (h b rfl)]

/-- Values without naive bounds stay as they are. -/
theorem AtomValue.zoned_of_not_isNaive {v : AtomValue} (h : ∀ b ∈ v.bounds, ¬b.IsNaive) :
    v.zoned assumed = v := by
  cases v with
  | range r =>
    have hlower : ∀ x ∈ r.lower, ¬x.IsNaive := fun x hx =>
      h x (List.mem_append_left _ (Option.mem_toList.2 hx))
    have hupper : ∀ x ∈ r.upper, ¬x.IsNaive := fun x hx =>
      h x (List.mem_append_right _ (Option.mem_toList.2 hx))
    simp [zoned, RangeValue.zoned, Bound.map_zoned_of_not_isNaive hlower,
      Bound.map_zoned_of_not_isNaive hupper]
  | _ => rfl

mutual

/-- Expressions without naive bounds stay as they are. -/
theorem Expr.zoned_of_not_isNaive : (e : Expr) →
    (∀ a ∈ e.atoms, ∀ b ∈ a.value.bounds, ¬b.IsNaive) → e.zoned assumed = e
  | .const b, _ => by rw [zoned]
  | .atom a, h => by
    rw [zoned, Atom.zoned, AtomValue.zoned_of_not_isNaive (h a (List.mem_singleton_self a))]
  | .group c xs, h => by rw [zoned, zonedList_of_not_isNaive xs h]
  | .not x, h => by rw [zoned, zoned_of_not_isNaive x h]

theorem Expr.zonedList_of_not_isNaive : (xs : List Expr) →
    (∀ a ∈ atomsOfList xs, ∀ b ∈ a.value.bounds, ¬b.IsNaive) → zonedList assumed xs = xs
  | [], _ => rfl
  | x :: xs, h => by
    rw [atomsOfList, List.forall_mem_append] at h
    rw [zonedList, zoned_of_not_isNaive x h.1, zonedList_of_not_isNaive xs h.2]

end

namespace RenderFault

/-- Faults that name no bound stay as they are. -/
theorem zoned_of_code_ne {f : RenderFault} (h : f.code ≠ .renderFormatFailed) :
    f.zoned assumed = f := by
  cases f with
  | unwritableBound => exact absurd rfl h
  | _ => rfl

/-- What is found at a value is named by a fault about the zoned value. -/
theorem zoned_of_bounds_eq_nil {r : Rule} {field : String} {v : AtomValue} {f : RenderFault}
    (hf : r.Finds assumed field v f) (hv : v.bounds = []) : f.zoned assumed = f := by
  cases hf with
  | unbound => rfl
  | unwritable hb => simp [hv] at hb

end RenderFault

end

/-! ### How zoned atoms are written -/

section

variable (r : Rule) (assumed other : Offset)

/-- A zoned bound is written in every zone as the bound is in the zone whose offset it was given. -/
theorem Rule.boundText_zoned (b : Bound) :
    r.boundText other (b.zoned assumed) = r.boundText assumed b := by
  cases b <;> rfl

theorem Rule.endText_zoned (field : String) (b : Option Bound) :
    r.endText other field (b.map (Bound.zoned assumed)) =
      (r.endText assumed field b).mapError (RenderFault.zoned assumed) := by
  cases b with
  | none => rfl
  | some b =>
    rw [Option.map_some, endText, endText, r.boundText_zoned assumed other b]
    cases r.boundText assumed b <;> rfl

theorem Rule.slots_zoned (joiner field : String) (v : AtomValue) :
    r.slots joiner other field (v.zoned assumed) =
      (r.slots joiner assumed field v).mapError (RenderFault.zoned assumed) := by
  have hsame : ∀ v : AtomValue, v.bounds = [] → r.slots joiner assumed field v =
      (r.slots joiner assumed field v).mapError (RenderFault.zoned assumed) := fun v hv =>
    (mapError_eq_self fun f hf =>
      RenderFault.zoned_of_bounds_eq_nil (r.finds_of_slots assumed field v joiner f hf) hv).symm
  cases v with
  | range v =>
    exact bind_eq_mapError_bind (r.endText_zoned assumed other field v.lower) fun lower =>
      bind_eq_mapError_bind (r.endText_zoned assumed other field v.upper) fun upper => rfl
  | term t => exact hsame (.term t) rfl
  | member v => exact hsame (.member v) rfl
  | presence expected => exact hsame (.presence expected) rfl
  | token t => exact hsame (.token t) rfl

theorem Rule.write_zoned (d : Dialect) (a : Atom) :
    r.write d other (a.zoned assumed) =
      (r.write d assumed a).mapError (RenderFault.zoned assumed) := by
  refine bind_eq_mapError_bind (r.slots_zoned assumed other _ a.field a.value) fun own => ?_
  refine (mapError_eq_self fun f hf => ?_).symm
  exact RenderFault.zoned_of_bounds_eq_nil
    (r.finds_of_fill assumed a.field (.presence true) r.template own f hf) rfl

variable (s : Snapshot) (a : Atom)

/-- The operator does not depend on offsets. -/
theorem Atom.operator_zoned : (a.zoned assumed).operator = a.operator := by
  obtain ⟨field, value, negated⟩ := a
  cases value <;> rfl

/-- The choice of a rule does not depend on offsets. -/
theorem RuleQuery.ofAtom_zoned : RuleQuery.ofAtom (a.zoned assumed) = RuleQuery.ofAtom a := by
  obtain ⟨field, value, negated⟩ := a
  cases value <;> rfl

theorem Snapshot.ruleFor?_zoned : s.ruleFor? (a.zoned assumed) = s.ruleFor? a := by
  simp only [ruleFor?, selectDenial?, select?, RuleQuery.ofAtom_zoned]
  rfl

theorem TraceRecord.of_zoned (w : Applied) :
    TraceRecord.of (a.zoned assumed) w = TraceRecord.of a w := by
  simp only [of, a.operator_zoned assumed]
  rfl

/-- A zoned atom is written in every zone as the atom is in the zone whose offset it was given, but
for the bounds that faults name. -/
theorem Atom.write_zoned : (a.zoned assumed).write s other =
    (a.write s assumed).mapError (RenderFault.zoned assumed) := by
  simp only [write, s.ruleFor?_zoned assumed a]
  cases s.ruleFor? a with
  | none => simp only [a.operator_zoned assumed]; rfl
  | some found =>
    obtain ⟨r, denied⟩ := found
    refine bind_eq_mapError_bind (r.write_zoned assumed other s.dialect a) fun text => ?_
    refine (mapError_eq_self fun f hf => RenderFault.zoned_of_code_ne ?_).symm
    -- what is left to fail is the denial
    cases denied with
    | false => cases hf
    | true =>
      have hdenial : ∀ f, s.dialect.deny (some a.field)
          (if r.wrapGroup then s.dialect.group text else text) = .error f →
          f.code ≠ .renderFormatFailed := fun f => Dialect.code_ne_of_deny
      refine error_of_bind_eq_error hdenial (fun fragment f h => ?_) f hf
      cases h

end

/-! ### How zoned expressions are written -/

/-- The same writing, with the given offset for naive bounds that faults name. -/
def Writing.zoned (assumed : Offset) (w : Writing) : Writing :=
  { w with faults := w.faults.map (RenderFault.zoned assumed) }

/-- Offsets do not matter for the writing of an atom that is written. -/
theorem Applied.writing_zoned (assumed : Offset) (conditional : Bool) (a : Atom) (w : Applied) :
    w.writing conditional (a.zoned assumed) = (w.writing conditional a).zoned assumed := by
  simp only [writing, Writing.zoned, TraceRecord.of_zoned]
  cases w.rule.paramTarget? with
  | none => rfl
  | some key =>
    rw [Atom.zoned]
    cases conditional || a.negated <;> rfl

namespace Dialect

variable (d : Dialect) (assumed : Offset)

theorem joinWritings_zoned (c : Connective) (ws : List Writing) :
    d.joinWritings c (ws.map (Writing.zoned assumed)) =
      (d.joinWritings c ws).zoned assumed := by
  simp [joinWritings, Writing.zoned, List.map_flatMap, List.flatMap_map, Function.comp_def]

theorem denyWriting_zoned (w : Writing) :
    d.denyWriting (w.zoned assumed) = (d.denyWriting w).zoned assumed := by
  have htext : (w.zoned assumed).text = w.text := rfl
  rw [denyWriting, denyWriting, htext]
  split
  · rfl
  · cases hdeny : d.deny none w.text with
    | ok text => rfl
    | error f => simp [Writing.zoned, RenderFault.zoned_of_code_ne (code_ne_of_deny hdeny)]

end Dialect

namespace Expr

variable (s : Snapshot) (assumed other : Offset)

mutual

/-- A zoned expression is written in every zone as the expression is in the zone whose offset it was
given, but for the bounds that faults name. -/
theorem write_zoned (conditional : Bool) : (e : Expr) →
    (e.zoned assumed).write s other conditional = (e.write s assumed conditional).zoned assumed
  | .const true => rfl
  | .const false => by
    simp only [zoned, write]
    split <;> rfl
  | .atom a => by
    simp only [zoned, write, a.write_zoned assumed other s]
    cases a.write s assumed with
    | ok w => exact w.writing_zoned assumed conditional a
    | error f => rfl
  | .group c xs => by
    rw [zoned, write, writeList_zoned (conditional || c == .any) xs, write,
      s.dialect.joinWritings_zoned]
  | .not x => by rw [zoned, write, write_zoned true x, s.dialect.denyWriting_zoned, write]

theorem writeList_zoned (conditional : Bool) : (xs : List Expr) →
    writeList s other conditional (zonedList assumed xs) =
      (writeList s assumed conditional xs).map (Writing.zoned assumed)
  | [] => rfl
  | x :: xs => by
    rw [zonedList, writeList, write_zoned conditional x, writeList_zoned conditional xs, writeList,
      List.map_cons]

end

variable {s assumed other}

/-- Where no fault names a naive bound, a zoned expression is written as the expression is. -/
theorem render_eq_of_write_zoned {e e' : Expr} (traced : Bool)
    (h : e'.write s other false = (e.write s assumed false).zoned assumed)
    (hfaults : ∀ f ∈ (e.write s assumed false).faults, f.zoned assumed = f) :
    e'.render s other traced = e.render s assumed traced := by
  have hwritten : (e.write s assumed false).zoned assumed = e.write s assumed false := by
    rw [Writing.zoned, List.map_congr_left hfaults, List.map_id']
  rw [render, h, hwritten, render]

/-- The time zone says what offset naive moments have, and nothing else.  A query whose expression
has it written into the naive bounds is the same in every zone, with its parameters, its issues and
its trace, unless a bound cannot be written; and an expression without naive bounds gives the same
query in every zone. -/
theorem render_zoned (s : Snapshot) (assumed other : Offset) (traced : Bool) (e : Expr) :
    ((∀ i ∈ (e.render s assumed traced).issues, i.code ≠ .renderFormatFailed) →
        (e.zoned assumed).render s other traced = e.render s assumed traced) ∧
      ((∀ a ∈ e.atoms, ∀ b ∈ a.value.bounds, ¬b.IsNaive) →
        e.render s other traced = e.render s assumed traced) := by
  have hwrite := write_zoned s assumed other false e
  refine ⟨fun h => render_eq_of_write_zoned traced hwrite fun f hf => ?_, fun h => ?_⟩
  · exact RenderFault.zoned_of_code_ne (h f.issue (List.mem_map_of_mem hf))
  · rw [zoned_of_not_isNaive e h] at hwrite
    refine render_eq_of_write_zoned traced hwrite fun f hf => ?_
    by_cases hcode : f.code = .renderFormatFailed
    · obtain ⟨a, r, denied, b, reason, ha, -, hb, -, rfl⟩ :=
        (finds_of_mem_faults false e f hf).exists_unwritableBound hcode
      rw [RenderFault.zoned, Bound.zoned_of_not_isNaive (h a ha b hb)]
    · exact RenderFault.zoned_of_code_ne hcode

end Expr

end BiblioQuery
