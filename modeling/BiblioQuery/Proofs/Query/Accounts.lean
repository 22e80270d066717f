import BiblioQuery.Proofs.Query.Passing
import Mathlib.Data.List.Induction
import Mathlib.Logic.Basic

/-!
# The accounts of a query

Writing an expression can be seen as one pass over it.  The pass stops at every atom, in the order
of the expression, and at falsities and negations, which may be found impossible to write.  Three
accounts are kept on the way: the parameters, the issues and, if it is wanted, the trace.  A stop at
an atom always shows in one of them: the atom is entered in the trace, or there is an error.  So no
atom is lost, and the trace tells all that went to the parameters.

## Main definitions

* `Ledger` : the accounts, with `Ledger.visit` for one stop.
* `Stop`, `Expr.stops` : where a pass over an expression stops.
* `Ledger.Enters`, `Ledger.Fails` : how a stop at an atom shows.
* `Dialect.Holds` : the parameters hold the fragments of records.

## Main results

* `Ledger.enters_xor_fails` : a stop at an atom shows in one way.
* `Expr.foldl_visit_stops` : the accounts after the pass over an expression.
* `Dialect.holds_params` : what the parameters of records hold.
* `Expr.accounts_of_render` : a query accounts for all atoms.
-/

namespace BiblioQuery

/-! ### Accounts -/

/-- What is kept while an expression is written. -/
@[ext]
structure Ledger where
  /-- The parameters. -/
  params : SortedMap String String
  /-- What was found. -/
  issues : List Issue
  /-- How the atoms were written, if that is wanted. -/
  trace : Option (List TraceRecord)

namespace Ledger

/-- The accounts at the start. -/
def opening (traced : Bool) : Ledger := ⟨.empty, [], if traced then some [] else none⟩

/-- The accounts with one more issue. -/
def note (l : Ledger) (f : RenderFault) : Ledger := { l with issues := l.issues ++ [f.issue] }

/-- The accounts with one more record, if there is a trace. -/
def enter (l : Ledger) (r : TraceRecord) : Ledger := { l with trace := l.trace.map (· ++ [r]) }

/-- The accounts with a fragment sent to a parameter. -/
def send (l : Ledger) (d : Dialect) (key fragment : String) : Ledger :=
  { l with params := d.addParam l.params key fragment }

/-- The accounts with all that belongs to a writing. -/
def book (l : Ledger) (d : Dialect) (w : Writing) : Ledger where
  params := w.records.foldl d.addRecord l.params
  issues := l.issues ++ w.faults.map RenderFault.issue
  trace := l.trace.map (· ++ w.records)

/-- The errors among the issues. -/
def errors (l : Ledger) : List Issue := l.issues.filter Issue.isError

end Ledger

/-- The accounts of a query. -/
def Rendered.ledger (r : Rendered) : Ledger := ⟨r.params, r.issues, r.trace⟩

/-! ### Stops -/

/-- Where a pass over an expression stops. -/
inductive Stop where
  /-- An atom; `conditional` says that a disjunction or a negation stands above it. -/
  | atom (a : Atom) (conditional : Bool)
  /-- A falsity. -/
  | falsity
  /-- A negation, after the fragment below it was written. -/
  | negation (inner : String)

/-- The atom that a pass stops at. -/
def Stop.atom? : Stop → Option Atom
  | .atom a _ => some a
  | _ => none

namespace Expr

mutual

/-- The stops of a pass over an expression. -/
def stops (s : Snapshot) (assumed : Offset) (conditional : Bool) : Expr → List Stop
  | .const true => []
  | .const false => [.falsity]
  | .atom a => [.atom a conditional]
  | .group c xs => stopsOfList s assumed (conditional || c == .any) xs
  | .not x => stops s assumed true x ++ [.negation (x.write s assumed true).text]

/-- The stops of a pass over a list of expressions. -/
def stopsOfList (s : Snapshot) (assumed : Offset) (conditional : Bool) : List Expr → List Stop
  | [] => []
  | x :: xs => stops s assumed conditional x ++ stopsOfList s assumed conditional xs

end

mutual

/-- A pass stops at every atom once, in their order. -/
theorem filterMap_atom?_stops (s : Snapshot) (assumed : Offset) (conditional : Bool) :
    (e : Expr) → (e.stops s assumed conditional).filterMap Stop.atom? = e.atoms
  | .const true => rfl
  | .const false => rfl
  | .atom _ => rfl
  | .group c xs => filterMap_atom?_stopsOfList s assumed (conditional || c == .any) xs
  | .not x => by
    rw [stops, List.filterMap_append, filterMap_atom?_stops s assumed true x]
    exact List.append_nil _

theorem filterMap_atom?_stopsOfList (s : Snapshot) (assumed : Offset) (conditional : Bool) :
    (xs : List Expr) → (stopsOfList s assumed conditional xs).filterMap Stop.atom? = atomsOfList xs
  | [] => rfl
  | x :: xs => by
    rw [stopsOfList, List.filterMap_append, filterMap_atom?_stops s assumed conditional x,
      filterMap_atom?_stopsOfList s assumed conditional xs, atomsOfList]

end

end Expr

/-! ### One stop -/

/-- A record goes where its rule sends it. -/
@[simp]
theorem TraceRecord.paramTarget?_of (a : Atom) (w : Applied) :
    (TraceRecord.of a w).paramTarget? = w.rule.paramTarget? := rfl

namespace Ledger

/-- The accounts after a stop at an atom: an atom that cannot be written is an error, and one that
is written is entered in the trace, before its fragment is sent to a parameter. -/
def visitAtom (s : Snapshot) (assumed : Offset) (conditional : Bool) (a : Atom) (l : Ledger) :
    Ledger :=
  match a.write s assumed with
  | .error f => l.note f
  | .ok w =>
    let entered := l.enter (.of a w)
    match w.rule.paramTarget? with
    | none => entered
    | some key =>
      let warned :=
        if conditional || a.negated then entered.note (.unconditionalParam a.field key) else entered
      warned.send s.dialect key w.fragment

/-- The accounts after a stop. -/
def visit (s : Snapshot) (assumed : Offset) (l : Ledger) : Stop → Ledger
  | .atom a conditional => l.visitAtom s assumed conditional a
  | .falsity =>
    match s.dialect.matchNothing with
    | some _ => l
    | none => l.note .noMatchNothing
  | .negation inner =>
    if inner.isEmpty then l
    else
      match s.dialect.deny none inner with
      | .ok _ => l
      | .error f => l.note f

/-! ### The pass over an expression -/

/-- A writing without faults and records leaves the accounts as they are. -/
theorem book_of_nil (l : Ledger) (d : Dialect) (text : String) : l.book d ⟨text, [], []⟩ = l := by
  ext1 <;> simp [book]

/-- The writings of two parts are booked one after the other. -/
theorem book_book (l : Ledger) (d : Dialect) (v w : Writing) (text : String) :
    (l.book d v).book d w = l.book d ⟨text, v.faults ++ w.faults, v.records ++ w.records⟩ := by
  ext1
  · simp [book]
  · simp [book]
  · cases h : l.trace <;> simp [book, h]

/-- A stop at an atom books the writing of the atom. -/
theorem visit_atom (s : Snapshot) (assumed : Offset) (l : Ledger) (a : Atom) (conditional : Bool) :
    l.visit s assumed (.atom a conditional) =
      l.book s.dialect ((Expr.atom a).write s assumed conditional) := by
  rw [visit, visitAtom, Expr.write]
  cases a.write s assumed with
  | error f => simp [book, note]
  | ok w =>
    cases htarget : w.rule.paramTarget? with
    | none => simp [Applied.writing, htarget, book, enter, Dialect.addRecord]
    | some key =>
      simp only [Applied.writing, htarget, book, Dialect.addRecord, List.foldl_cons, List.foldl_nil,
        TraceRecord.paramTarget?_of]
      split
      · simp [send, note, enter, TraceRecord.of]
      · simp [send, enter, TraceRecord.of]

/-- A stop at a falsity books the writing of the falsity. -/
theorem visit_falsity (s : Snapshot) (assumed : Offset) (l : Ledger) (conditional : Bool) :
    l.visit s assumed .falsity =
      l.book s.dialect ((Expr.const false).write s assumed conditional) := by
  rw [visit, Expr.write]
  cases s.dialect.matchNothing with
  | none => simp [book, note]
  | some marker => exact (l.book_of_nil _ _).symm

/-- A stop at a negation books what the denial adds to the writing of its inside. -/
theorem visit_negation (s : Snapshot) (assumed : Offset) (l : Ledger) (w : Writing) :
    (l.book s.dialect w).visit s assumed (.negation w.text) =
      l.book s.dialect (s.dialect.denyWriting w) := by
  rw [visit, Dialect.denyWriting]
  split
  · rfl
  · cases s.dialect.deny none w.text with
    | ok text => rfl
    | error f => simp [book, note]

end Ledger

namespace Expr

open Ledger in
mutual

-- The stops of an expression are those of its parts, and the last one of a negation adds what the
-- denial finds, so the writings of the parts are booked one after the other.

/-- After the pass over an expression its writing is booked. -/
theorem foldl_visit_stops (s : Snapshot) (assumed : Offset) (conditional : Bool) :
    (e : Expr) → (l : Ledger) → (e.stops s assumed conditional).foldl (visit s assumed) l =
      l.book s.dialect (e.write s assumed conditional)
  | .const true, l => (l.book_of_nil _ _).symm
  | .const false, l => visit_falsity s assumed l conditional
  | .atom a, l => visit_atom s assumed l a conditional
  | .group c xs, l => by
    rw [stops, foldl_visit_stopsOfList, write]
    rfl
  | .not x, l => by
    rw [stops, List.foldl_append, foldl_visit_stops s assumed true x, write]
    exact visit_negation s assumed l _

theorem foldl_visit_stopsOfList (s : Snapshot) (assumed : Offset) (conditional : Bool) :
    (xs : List Expr) → (l : Ledger) →
      (stopsOfList s assumed conditional xs).foldl (visit s assumed) l =
        l.book s.dialect ⟨"", (writeList s assumed conditional xs).flatMap Writing.faults,
          (writeList s assumed conditional xs).flatMap Writing.records⟩
  | [], l => (l.book_of_nil _ _).symm
  | x :: xs, l => by
    rw [stopsOfList, List.foldl_append, foldl_visit_stops s assumed conditional x,
      foldl_visit_stopsOfList s assumed conditional xs, l.book_book _ _ _ ""]
    rfl

end

/-- The accounts of a query are those of the pass over its expression. -/
theorem foldl_visit_eq_ledger (s : Snapshot) (assumed : Offset) (traced : Bool) (e : Expr) :
    (e.stops s assumed false).foldl (Ledger.visit s assumed) (.opening traced) =
      (e.render s assumed traced).ledger := by
  rw [foldl_visit_stops]
  cases traced <;> rfl

end Expr

/-! ### How a stop shows -/

namespace Ledger

/-- From `l` to `l'` the atom was entered in the trace, and no error was found. -/
def Enters (a : Atom) (l l' : Ledger) : Prop :=
  ∃ r : TraceRecord, r.field = a.field ∧ r.operator = a.operator ∧ r.negated = a.negated ∧
    l'.trace = l.trace.map (· ++ [r]) ∧ l'.errors = l.errors

/-- From `l` to `l'` one error was found, and nothing else happened. -/
def Fails (l l' : Ledger) : Prop :=
  ∃ i : Issue, i.isError = true ∧ l'.issues = l.issues ++ [i] ∧ l'.trace = l.trace ∧
    l'.params = l.params

theorem errors_note (l : Ledger) (f : RenderFault) :
    (l.note f).errors = l.errors ++ [f.issue].filter Issue.isError :=
  List.filter_append _ _

/-- What is entered and found without error is no failure. -/
theorem Enters.not_fails {a : Atom} {l l' : Ledger} (h : l.Enters a l') : ¬l.Fails l' := by
  obtain ⟨r, -, -, -, -, herrors⟩ := h
  rintro ⟨i, hi, hissues, -, -⟩
  rw [errors, errors, hissues, List.filter_append, List.filter_cons_of_pos hi] at herrors
  exact List.cons_ne_nil _ _ (List.append_right_eq_self.1 herrors)

/-- An atom that cannot be written is an error. -/
theorem fails_note (l : Ledger) {f : RenderFault} (h : f.severity = .error) : l.Fails (l.note f) :=
  ⟨f.issue, by simp [Issue.isError, RenderFault.issue, h], rfl, rfl, rfl⟩

/-- An atom that is written is entered, with or without a warning. -/
theorem enters_visitAtom {s : Snapshot} {assumed : Offset} {a : Atom} {w : Applied}
    (h : a.write s assumed = .ok w) (conditional : Bool) (l : Ledger) :
    l.Enters a (l.visitAtom s assumed conditional a) := by
  refine ⟨.of a w, rfl, rfl, rfl, ?_⟩
  simp only [visitAtom, h]
  cases w.rule.paramTarget? with
  | none => exact ⟨rfl, rfl⟩
  | some key =>
    dsimp only
    split
    · exact ⟨rfl, (errors_note _ _).trans (List.append_nil _)⟩
    · exact ⟨rfl, rfl⟩

/-- A stop at an atom shows in one way: the atom is entered or it is an error. -/
theorem enters_xor_fails (s : Snapshot) (assumed : Offset) (a : Atom) (conditional : Bool)
    (l : Ledger) :
    Xor (l.Enters a (l.visit s assumed (.atom a conditional)))
      (l.Fails (l.visit s assumed (.atom a conditional))) := by
  cases hw : a.write s assumed with
  | ok w =>
    have henters := enters_visitAtom hw conditional l
    exact .inl ⟨henters, henters.not_fails⟩
  | error f =>
    have hfails : l.Fails (l.visit s assumed (.atom a conditional)) := by
      simp only [visit, visitAtom, hw]
      exact l.fails_note (Atom.severity_of_write hw)
    exact .inr ⟨hfails, fun henters => henters.not_fails hfails⟩

/-- A stop that is not at an atom leaves the trace and the parameters as they are. -/
theorem visit_of_atom?_eq_none (s : Snapshot) (assumed : Offset) {stop : Stop}
    (h : stop.atom? = none) (l : Ledger) :
    (l.visit s assumed stop).trace = l.trace ∧ (l.visit s assumed stop).params = l.params := by
  cases stop with
  | atom a conditional => cases h
  | falsity =>
    rw [visit]
    split <;> exact ⟨rfl, rfl⟩
  | negation inner =>
    rw [visit]
    split
    · exact ⟨rfl, rfl⟩
    · split <;> exact ⟨rfl, rfl⟩

end Ledger

/-! ### What the parameters hold -/

/-- The fragment of a record is sent to a parameter. -/
def TraceRecord.IsSentTo (key : String) (r : TraceRecord) : Prop :=
  r.emit = .params ∧ r.paramKey = some key

instance (key : String) : DecidablePred (TraceRecord.IsSentTo key) :=
  fun r => inferInstanceAs (Decidable (r.emit = .params ∧ r.paramKey = some key))

theorem TraceRecord.paramTarget?_eq_some_iff {r : TraceRecord} {key : String} :
    r.paramTarget? = some key ↔ r.IsSentTo key := by
  rw [paramTarget?, IsSentTo]
  cases r.emit <;> simp

/-- The fragments that records send to a parameter, in their order. -/
def TraceRecord.sentTo (key : String) (records : List TraceRecord) : List String :=
  (records.filter (·.IsSentTo key)).map TraceRecord.fragment

theorem TraceRecord.sentTo_append (key : String) (rs rs' : List TraceRecord) :
    sentTo key (rs ++ rs') = sentTo key rs ++ sentTo key rs' := by
  rw [sentTo, List.filter_append, List.map_append, sentTo, sentTo]

theorem TraceRecord.sentTo_eq_nil_iff {key : String} {records : List TraceRecord} :
    sentTo key records = [] ↔ ∀ r ∈ records, ¬r.IsSentTo key := by
  simp [sentTo, List.filter_eq_nil_iff]

namespace Dialect

open TraceRecord (sentTo)

/-- A record puts its fragment behind what its parameter holds, and leaves the others. -/
theorem get?_addRecord (d : Dialect) (params : SortedMap String String) (r : TraceRecord)
    (key : String) :
    (d.addRecord params r).get? key =
      if r.IsSentTo key then
        some (match params.get? key with
          | none => r.fragment
          | some held => held ++ d.paramJoiner ++ r.fragment)
      else params.get? key := by
  simp only [← TraceRecord.paramTarget?_eq_some_iff, addRecord]
  cases r.paramTarget? with
  | none => simp
  | some key' =>
    simp only [addParam, SortedMap.get?_insert, Option.some.injEq]
    split
    · next h =>
      subst h
      rfl
    · rfl

/-- A parameter is there if something is sent to it, and holds what is sent to it. -/
theorem get?_params (d : Dialect) (records : List TraceRecord) (key : String) :
    (d.params records).get? key =
      if sentTo key records = [] then none
      else some (d.paramJoiner.intercalate (sentTo key records)) := by
  induction records using List.reverseRecOn with
  | nil => rfl
  | append_singleton records r ih =>
    have hstep : (d.params (records ++ [r])).get? key =
        (d.addRecord (d.params records) r).get? key := by
      rw [params, List.foldl_append]
      rfl
    rw [hstep, get?_addRecord, ih, TraceRecord.sentTo_append]
    by_cases hr : r.IsSentTo key
    · have hsent : sentTo key [r] = [r.fragment] := by simp [sentTo, hr]
      by_cases hnone : sentTo key records = []
      · simp [hr, hsent, hnone]
      · simp [hr, hsent, hnone, String.intercalate_append_of_ne_nil hnone]
    · have hsent : sentTo key [r] = [] := by simp [sentTo, hr]
      simp [hr, hsent]

/-- Parameters hold what records send to them, and nothing else. -/
structure Holds (d : Dialect) (params : SortedMap String String) (records : List TraceRecord) :
    Prop where
  /-- The parameters are those that records are sent to. -/
  contains_iff : ∀ key, params.contains key = true ↔ ∃ r ∈ records, r.IsSentTo key
  /-- A parameter holds the fragments that are sent to it with the joiner between them. -/
  eq_of_get? : ∀ key text, params.get? key = some text →
    text = d.paramJoiner.intercalate (sentTo key records)

/-- The parameters of records hold what the records send to them. -/
theorem holds_params (d : Dialect) (records : List TraceRecord) :
    d.Holds (d.params records) records where
  contains_iff key := by
    rw [SortedMap.contains, get?_params]
    split
    · next h => simpa using TraceRecord.sentTo_eq_nil_iff.1 h
    · next h => simpa [TraceRecord.sentTo_eq_nil_iff] using h
  eq_of_get? key text h := by
    rw [get?_params] at h
    split at h
    · cases h
    · exact (Option.some.inj h).symm

end Dialect

/-! ### Queries -/

namespace Expr

/-- The trace is kept beside the query and does not touch it. -/
theorem render_false (s : Snapshot) (assumed : Offset) (e : Expr) :
    e.render s assumed false = { e.render s assumed true with trace := none } :=
  rfl

/-- A query accounts for all atoms.  A pass over the expression stops at each of its atoms once, in
their order, and leaves the accounts of the query; at each atom it enters the atom in the trace or
finds one error, and at its other stops it changes neither the trace nor the parameters.  The
parameters hold what the records of the trace send to them, and without the trace all else is the
same. -/
theorem accounts_of_render (s : Snapshot) (assumed : Offset) (e : Expr) :
    (e.stops s assumed false).filterMap Stop.atom? = e.atoms ∧
      (∀ traced, (e.stops s assumed false).foldl (Ledger.visit s assumed) (.opening traced) =
        (e.render s assumed traced).ledger) ∧
      (∀ (l : Ledger) (a : Atom) (conditional : Bool),
        Xor (l.Enters a (l.visit s assumed (.atom a conditional)))
          (l.Fails (l.visit s assumed (.atom a conditional)))) ∧
      (∀ (l : Ledger) (stop : Stop), stop.atom? = none →
        (l.visit s assumed stop).trace = l.trace ∧
          (l.visit s assumed stop).params = l.params) ∧
      (∃ records, (e.render s assumed true).trace = some records ∧
        s.dialect.Holds (e.render s assumed true).params records) ∧
      e.render s assumed false = { e.render s assumed true with trace := none } := by
  refine ⟨e.filterMap_atom?_stops s assumed false, fun traced => e.foldl_visit_eq_ledger s assumed
    traced, fun l a conditional => l.enters_xor_fails s assumed a conditional,
    fun l stop hstop => l.visit_of_atom?_eq_none s assumed hstop, ?_, e.render_false s assumed⟩
  exact ⟨(e.write s assumed false).records, rfl, s.dialect.holds_params _⟩

end Expr

end BiblioQuery
