/-!
# Sorted maps

A finite map kept as a list of keys with their values, in strictly ascending order of keys.  As the
order is part of the type, two maps with the same entries are equal, and a map is written out in one
way only.  A sorted set is a map without values.

## Main definitions

* `SortedMap` : maps, with `SortedMap.get?`, `SortedMap.insert`, `SortedMap.erase` and
  `SortedMap.ofList`.
* `SortedSet` : sets, with `SortedSet.toList`, `SortedSet.insert` and `SortedSet.ofList`.

## Main results

* `SortedMap.get?_insert`, `SortedMap.get?_erase` : what is found after a change.
* `SortedMap.ext_get?` : a map is known by what is found in it.
* `SortedMap.ofList_entries` : a map is rebuilt from its entries.
-/

namespace BiblioQuery

/-- A finite map with its keys in strictly ascending order. -/
structure SortedMap (κ β : Type) [Ord κ] where
  /-- The keys with their values. -/
  entries : List (κ × β)
  /-- Every key comes before the keys after it. -/
  sorted : entries.Pairwise fun p q => compare p.1 q.1 = .lt

namespace SortedMap

variable {κ β : Type} [Ord κ]

theorem ext_entries {m n : SortedMap κ β} (h : m.entries = n.entries) : m = n := by
  cases m
  cases n
  cases h
  rfl

instance [DecidableEq κ] [DecidableEq β] : DecidableEq (SortedMap κ β) := fun m n =>
  if h : m.entries = n.entries then .isTrue (ext_entries h) else .isFalse fun h' => h (h' ▸ rfl)

/-- The map without entries. -/
def empty : SortedMap κ β := ⟨[], .nil⟩

instance : Inhabited (SortedMap κ β) := ⟨empty⟩

/-- The keys in ascending order. -/
def keys (m : SortedMap κ β) : List κ := m.entries.map Prod.fst

/-- The values in the order of their keys. -/
def values (m : SortedMap κ β) : List β := m.entries.map Prod.snd

/-- The number of keys. -/
def size (m : SortedMap κ β) : Nat := m.entries.length

/-! ### Changes -/

/-- A list of entries with the value of a key set. -/
def insertEntry (k : κ) (v : β) : List (κ × β) → List (κ × β)
  | [] => [(k, v)]
  | (k', v') :: r =>
    match compare k k' with
    | .lt => (k, v) :: (k', v') :: r
    | .eq => (k, v) :: r
    | .gt => (k', v') :: insertEntry k v r

theorem mem_insertEntry {k : κ} {v : β} {l : List (κ × β)} {p : κ × β}
    (h : p ∈ insertEntry k v l) : p = (k, v) ∨ p ∈ l := by
  induction l with
  | nil => exact .inl (List.mem_singleton.1 h)
  | cons q r ih =>
    rw [insertEntry] at h
    split at h
    · exact List.mem_cons.1 h
    · exact (List.mem_cons.1 h).imp_right (List.mem_cons_of_mem _)
    · rcases List.mem_cons.1 h with rfl | h
      · exact .inr List.mem_cons_self
      · exact (ih h).imp_right (List.mem_cons_of_mem _)

/-- A list of entries without a key. -/
def eraseEntry (k : κ) (l : List (κ × β)) : List (κ × β) :=
  l.filter fun p => compare p.1 k != .eq

/-- The map without a key. -/
def erase (m : SortedMap κ β) (k : κ) : SortedMap κ β :=
  ⟨eraseEntry k m.entries, m.sorted.filter _⟩

/-- The value of a key. -/
def get? (m : SortedMap κ β) (k : κ) : Option β :=
  (m.entries.find? fun p => compare p.1 k == .eq).map Prod.snd

/-- Some value belongs to the key. -/
def contains (m : SortedMap κ β) (k : κ) : Bool := (m.get? k).isSome

/-- The map with every value changed by a function of its key. -/
def mapValues {γ : Type} (f : κ → β → γ) (m : SortedMap κ β) : SortedMap κ γ where
  entries := m.entries.map fun p => (p.1, f p.1 p.2)
  sorted := List.pairwise_map.2 m.sorted

@[simp]
theorem get?_empty (k : κ) : (empty : SortedMap κ β).get? k = none := rfl

/-- A key has a value if they are an entry. -/
theorem get?_eq_some_iff [Std.LawfulEqOrd κ] {m : SortedMap κ β} {k : κ} {v : β} :
    m.get? k = some v ↔ (k, v) ∈ m.entries := by
  obtain ⟨l, h⟩ := m
  simp only [get?]
  induction l with
  | nil => simp
  | cons q r ih =>
    obtain ⟨k', v'⟩ := q
    rw [List.pairwise_cons] at h
    by_cases hq : k' = k
    · subst hq
      have : (k', v) ∉ r := fun h' => by simpa using h.1 _ h'
      simp [this, eq_comm]
    · simpa [hq, Ne.symm hq] using ih h.2

/-- After a key is erased nothing is found under it, and all else is as it was. -/
theorem get?_erase [Std.LawfulEqOrd κ] [DecidableEq κ] (m : SortedMap κ β) (k k' : κ) :
    (m.erase k).get? k' = if k = k' then none else m.get? k' := by
  simp only [get?, erase, eraseEntry, List.find?_filter]
  split
  · rename_i h
    subst h
    rw [List.find?_eq_none.2]
    · rfl
    · simp
  · rename_i h
    congr 2
    funext p
    by_cases hp : p.1 = k'
    · have : ¬p.1 = k := fun h' => h (h'.symm.trans hp)
      simp [hp, Ne.symm h]
    · simp [hp]

theorem find?_insertEntry [Std.LawfulEqOrd κ] [DecidableEq κ] (k k' : κ) (v : β)
    (l : List (κ × β)) :
    (insertEntry k v l).find? (fun p => compare p.1 k' == .eq) =
      if k = k' then some (k, v) else l.find? fun p => compare p.1 k' == .eq := by
  induction l with
  | nil => by_cases hk : k = k' <;> simp [insertEntry, hk]
  | cons q r ih =>
    rw [insertEntry]
    split
    · by_cases hk : k = k' <;> simp [hk]
    · rename_i hq
      have hq := Std.LawfulEqCmp.compare_eq_iff_eq.1 hq
      by_cases hk : k = k'
      · simp [hk]
      · have hk' : ¬q.1 = k' := hq ▸ hk
        simp [hk, hk']
    · rename_i hq
      by_cases hk : k = k'
      · have hk' : ¬q.1 = k' := by
          rintro rfl
          simp [hk] at hq
        rw [List.find?_cons, ih]
        simp only [hk, if_true]
        split
        · simp_all
        · rfl
      · simp only [List.find?_cons, ih, hk, if_false]

variable [Std.TransOrd κ]

theorem pairwise_insertEntry {k : κ} {v : β} {l : List (κ × β)}
    (h : l.Pairwise fun p q => compare p.1 q.1 = .lt) :
    (insertEntry k v l).Pairwise fun p q => compare p.1 q.1 = .lt := by
  induction l with
  | nil => exact List.pairwise_singleton _ _
  | cons q r ih =>
    rw [List.pairwise_cons] at h
    rw [insertEntry]
    split
    · rename_i hk
      refine List.pairwise_cons.2 ⟨fun p hp => ?_, List.pairwise_cons.2 h⟩
      rcases List.mem_cons.1 hp with rfl | hp
      · exact hk
      · exact Std.TransCmp.lt_trans hk (h.1 p hp)
    · rename_i hk
      refine List.pairwise_cons.2 ⟨fun p hp => ?_, h.2⟩
      exact Std.TransCmp.lt_of_eq_of_lt hk (h.1 p hp)
    · rename_i hk
      refine List.pairwise_cons.2 ⟨fun p hp => ?_, ih h.2⟩
      rcases mem_insertEntry hp with rfl | hp
      · exact Std.OrientedCmp.gt_iff_lt.1 hk
      · exact h.1 p hp

/-- The map with the value of a key set. -/
def insert (m : SortedMap κ β) (k : κ) (v : β) : SortedMap κ β :=
  ⟨insertEntry k v m.entries, pairwise_insertEntry m.sorted⟩

/-- The map of a list of entries; of entries with one key the last counts. -/
def ofList (l : List (κ × β)) : SortedMap κ β := l.foldl (fun m p => m.insert p.1 p.2) empty

theorem insertEntry_append {k : κ} {v : β} {l : List (κ × β)}
    (h : ∀ p ∈ l, compare p.1 k = .lt) : insertEntry k v l = l ++ [(k, v)] := by
  induction l with
  | nil => rfl
  | cons q r ih =>
    have hq : compare k q.1 = .gt := Std.OrientedCmp.gt_iff_lt.2 (h q List.mem_cons_self)
    rw [insertEntry, hq, List.cons_append, ih fun p hp => h p (List.mem_cons_of_mem _ hp)]

theorem entries_foldl_insert {l : List (κ × β)} (m : SortedMap κ β)
    (h : (m.entries ++ l).Pairwise fun p q => compare p.1 q.1 = .lt) :
    (l.foldl (fun m p => m.insert p.1 p.2) m).entries = m.entries ++ l := by
  induction l generalizing m with
  | nil => simp
  | cons q r ih =>
    have hq : ∀ p ∈ m.entries, compare p.1 q.1 = .lt := fun p hp =>
      (List.pairwise_append.1 h).2.2 p hp q List.mem_cons_self
    have hm : (m.insert q.1 q.2).entries = m.entries ++ [q] := insertEntry_append hq
    rw [List.foldl_cons, ih _ (by rw [hm]; simpa using h), hm]
    simp

/-- A map is rebuilt from its entries. -/
@[simp]
theorem ofList_entries (m : SortedMap κ β) : ofList m.entries = m := by
  refine ext_entries ?_
  rw [ofList, entries_foldl_insert]
  · rfl
  · exact m.sorted

/-! ### Looking up -/

variable [Std.LawfulEqOrd κ]

/-- After a value is set it is found under its key, and all else is as it was. -/
theorem get?_insert [DecidableEq κ] (m : SortedMap κ β) (k k' : κ) (v : β) :
    (m.insert k v).get? k' = if k = k' then some v else m.get? k' := by
  rw [get?, insert, find?_insertEntry k k' v m.entries]
  split <;> rfl

/-- A map is known by what is found in it. -/
theorem ext_get? {m n : SortedMap κ β} (h : ∀ k, m.get? k = n.get? k) : m = n := by
  have hmem : ∀ p, p ∈ m.entries ↔ p ∈ n.entries := fun p => by
    rw [← get?_eq_some_iff, ← get?_eq_some_iff, h]
  clear h
  obtain ⟨l, hl⟩ := m
  obtain ⟨l', hl'⟩ := n
  refine ext_entries ?_
  simp only at hmem ⊢
  induction l generalizing l' with
  | nil => exact (List.eq_nil_iff_forall_not_mem.2 fun p hp => by simpa using (hmem p).2 hp).symm
  | cons p r ih =>
    cases l' with
    | nil => simpa using (hmem p).1 List.mem_cons_self
    | cons p' r' =>
      rw [List.pairwise_cons] at hl hl'
      have hp : p = p' := by
        rcases List.mem_cons.1 ((hmem p).1 List.mem_cons_self) with h | h
        · exact h
        rcases List.mem_cons.1 ((hmem p').2 List.mem_cons_self) with h' | h'
        · exact h'.symm
        have := Std.TransCmp.lt_trans (hl.1 _ h') (hl'.1 _ h)
        simp at this
      subst hp
      refine congrArg (p :: ·) (ih hl.2 r' hl'.2 fun q => ?_)
      have hr : p ∉ r := fun h => by simpa using hl.1 _ h
      have hr' : p ∉ r' := fun h => by simpa using hl'.1 _ h
      have hq := hmem q
      simp only [List.mem_cons] at hq
      constructor
      · intro h
        exact (hq.1 (.inr h)).resolve_left fun e => hr (e ▸ h)
      · intro h
        exact (hq.2 (.inr h)).resolve_left fun e => hr' (e ▸ h)

end SortedMap

/-! ### Sets -/

/-- A finite set with its members in strictly ascending order. -/
abbrev SortedSet (κ : Type) [Ord κ] : Type := SortedMap κ Unit

namespace SortedSet

variable {κ : Type} [Ord κ]

/-- The members in ascending order. -/
def toList (s : SortedSet κ) : List κ := s.keys

/-- A value belongs to the set. -/
def has (s : SortedSet κ) (k : κ) : Bool := SortedMap.contains s k

variable [Std.TransOrd κ]

/-- The set with a member added. -/
def add (s : SortedSet κ) (k : κ) : SortedSet κ := SortedMap.insert s k ()

/-- The set of the members of a list. -/
def ofList (l : List κ) : SortedSet κ := SortedMap.ofList (l.map fun k => (k, ()))

/-- A set is rebuilt from its members. -/
@[simp]
theorem ofList_toList (s : SortedSet κ) : ofList (toList s) = s := by
  rw [ofList, toList, SortedMap.keys, List.map_map]
  simp [Function.comp_def]

end SortedSet

end BiblioQuery
