import BiblioQuery.Proofs.Archive.Changes

/-!
# Archives whose documents are tampered with

While an archive is open, anything may happen to its disk from outside: documents may be deleted,
cut short, overwritten, swapped, or put back as they once were.  The manifest in memory is out of
reach, and it has the digest of the last document of each key.  So whatever is loaded is what was
last saved, as long as no two of the byte strings in question have one digest.  Nothing is supposed
about the disk.

## Main definitions

* `Store.Event` : a change that the archive makes, or one from outside.
* `Store.run`, `Store.heldAfter` : events in a row, and what is held after them.

## Main results

* `Store.Holds.run` : the manifest in memory lists what is held after any events.
* `Store.held_of_load_after_run` : what is loaded after any events is held.
-/

namespace BiblioQuery.Store

variable {σ : Type} {disk : Disk σ} {st st' : Store} {d d' : σ} {held : Key → Option Snapshot}

/-- What happens to an archive and its disk. -/
inductive Event (σ : Type) where
  /-- The archive makes a change. -/
  | change (c : Change)
  /-- Something changes the disk from outside. -/
  | outside (f : σ → σ)

namespace Event

/-- What happens at an event. -/
def perform (disk : Disk σ) : Event σ → StoreAction σ Unit
  | .change c => c.perform disk
  | .outside f => modify fun (st, d) => (st, f d)

/-- The snapshots that are held under keys after an event. -/
def hold (held : Key → Option Snapshot) : Event σ → Key → Option Snapshot
  | .change c => c.hold held
  | .outside _ => held

end Event

/-- Events one after the other, up to the first change that fails. -/
def run (disk : Disk σ) (events : List (Event σ)) : StoreAction σ Unit :=
  events.forM (Event.perform disk)

/-- The snapshots that are held under keys after events. -/
def heldAfter (held : Key → Option Snapshot) (events : List (Event σ)) : Key → Option Snapshot :=
  events.foldl Event.hold held

/-- After events whose changes all succeed the manifest in memory lists what is held then. -/
theorem Holds.run {events : List (Event σ)} (h : st.Holds held)
    (hshown : ∀ c, .change c ∈ events → c.Shown)
    (hrun : Store.run disk events (st, d) = (.ok (), (st', d'))) :
    st'.Holds (heldAfter held events) := by
  induction events generalizing st d held with
  | nil =>
    obtain ⟨rfl, rfl⟩ := Prod.mk.inj (Prod.mk.inj hrun).2
    exact h
  | cons event rest ih =>
    change (event.perform disk >>= fun _ => Store.run disk rest) (st, d) = _ at hrun
    rw [bind_apply] at hrun
    rcases hevent : event.perform disk (st, d) with ⟨_ | _, st₁, d₁⟩
    · rw [hevent] at hrun
      cases hrun
    rw [hevent] at hrun
    have hrest : ∀ c, .change c ∈ rest → c.Shown :=
      fun c hc => hshown c (List.mem_cons_of_mem event hc)
    cases event with
    | change c => exact ih (h.perform (hshown c List.mem_cons_self) hevent) hrest hrun
    | outside f =>
      obtain ⟨rfl, -⟩ := Prod.mk.inj (Prod.mk.inj hevent).2
      exact ih h hrest hrun

/-- What is loaded after changes that succeed, with anything done to the disk from outside in
between, is what is held, unless the document that is read collides with the one that was saved; and
what is fetched had been taken by then, as well. -/
theorem held_of_load_after_run {events : List (Event σ)} (hopen : st.Holds held)
    (hshown : ∀ c, .change c ∈ events → c.Shown)
    (hrun : run disk events (st, d) = (.ok (), (st', d')))
    (hcollision : ∀ key t bytes, heldAfter held events key = some t →
      (disk.read key.documentPath d').1 = .ok bytes →
        ¬ Sha256.Collision bytes (Sha256.textBytes t.pretty))
    (key : Key) (s : Snapshot) (w : Store × σ) :
    (load disk key (st', d') = (.ok s, w) → heldAfter held events key = some s) ∧
      ∀ asOf, fetch disk key asOf (st', d') = (.ok s, w) →
        heldAfter held events key = some s ∧ s.capturedAt.atMost asOf = true := by
  have hholds := hopen.run hshown hrun
  have hload (hs : load disk key (st', d') = (.ok s, w)) : heldAfter held events key = some s :=
    hholds.held_of_load_eq_ok hs (hcollision key)
  refine ⟨hload, fun asOf hfetch => ?_⟩
  obtain ⟨hs, hasOf⟩ := fetch_eq_ok hfetch
  exact ⟨hload hs, hasOf⟩

/-- A snapshot is saved, and its document is deleted from outside and put back. -/
def putBack (s : Snapshot) : List (Event FileTree) :=
  let path := s.key.documentPath
  [.change (.save .epoch s), .outside fun t => (t.unlink path).toOption.getD t,
    .outside fun t => t.put path (.file (Sha256.textBytes s.pretty))]

/-- A document that was deleted and put back is loaded. -/
theorem held_of_load_put_back :
    ∃ st t, run FileTree.disk (putBack (.blank "a" 1)) (⟨"root", .empty .epoch⟩, .empty none) =
        (.ok (), (st, t)) ∧
      fetch FileTree.disk (Snapshot.blank "a" 1).key .epoch (st, t) =
        (.ok (.blank "a" 1), (st, t)) ∧
      heldAfter (fun _ => none) (putBack (.blank "a" 1)) (Snapshot.blank "a" 1).key =
        some (.blank "a" 1) := by
  have hopen : Holds ⟨"root", .empty .epoch⟩ fun _ => none := holds_empty "root" .epoch
  have hshown : ∀ c, .change c ∈ putBack (.blank "a" 1) → c.Shown := by
    intro c hmem
    simp only [putBack, List.mem_cons, Event.change.injEq, reduceCtorEq, List.not_mem_nil,
      or_false] at hmem
    rw [hmem]
    exact (Snapshot.storable_blank (by decide) 1).shown
  obtain ⟨w, hrun, hread⟩ : ∃ w : Store × FileTree,
      run FileTree.disk (putBack (.blank "a" 1)) (⟨"root", .empty .epoch⟩, .empty none) =
        (.ok (), w) ∧
      FileTree.disk.read (Snapshot.blank "a" 1).key.documentPath w.2 =
        (.ok (Sha256.textBytes (Snapshot.blank "a" 1).pretty), w.2) :=
    ⟨_, Prod.ext rfl rfl, rfl⟩
  obtain ⟨st, t⟩ := w
  generalize hs : Snapshot.blank "a" 1 = s at *
  have hheld : heldAfter (fun _ => none) (putBack s) =
      Function.update (fun _ => none) s.key (some s) := rfl
  have hload : load FileTree.disk s.key (st, t) = (.ok s, (st, t)) :=
    (hopen.run hshown hrun).load_of_read (by rw [hheld, Function.update_self]) hread
  have hfetch : fetch FileTree.disk s.key .epoch (st, t) = (.ok s, (st, t)) := by
    rw [fetch, hload, ← hs]
    rfl
  -- The bytes that are read are the ones that were saved.
  have hcollision : ∀ key u bytes, heldAfter (fun _ => none) (putBack s) key = some u →
      (FileTree.disk.read key.documentPath t).1 = .ok bytes →
        ¬ Sha256.Collision bytes (Sha256.textBytes u.pretty) := by
    intro key u bytes hu hbytes
    by_cases hkey : key = s.key
    · rw [hkey, hheld, Function.update_self] at hu
      rw [hkey, hread] at hbytes
      rw [← Option.some.inj hu, ← Except.ok.inj hbytes]
      exact fun hcollides => hcollides.1 rfl
    · rw [hheld, Function.update_of_ne hkey] at hu
      cases hu
  obtain ⟨-, hheldOf⟩ := held_of_load_after_run hopen hshown hrun hcollision s.key s (st, t)
  exact ⟨st, t, hrun, hfetch, (hheldOf .epoch hfetch).1⟩

end BiblioQuery.Store
