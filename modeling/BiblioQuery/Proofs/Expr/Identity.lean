import BiblioQuery.Proofs.Expr.ReadBack
import BiblioQuery.Query.Compile

/-!
# What identifies an expression

The compact text of an expression identifies it among all expressions whose bounds are of the kinds
of their ranges and denoted by some text, however deep they are: a reader that allows enough levels
gives both expressions back.  The digest of the text identifies the expression too, unless it is the
digest of other bytes as well, and the key of a compilation identifies the normal form in the same
way.

## Main results

* `Expr.toJson_inj` : different expressions have different JSON values.
* `Expr.eq_or_collision_of_hash_eq` : expressions with one digest are equal, or their texts collide.
* `Expr.canonical_eq_canonical_iff` : expressions with one text are equal.
-/

namespace BiblioQuery

namespace Expr

variable {e f : Expr}

/-- Different expressions have different JSON values. -/
theorem toJson_inj (he : e.Denotable) (hf : f.Denotable) (h : e.toJson = f.toJson) : e = f := by
  have hread := ofJson_toJson e he
  rw [h, ofJson_toJson f hf] at hread
  exact (Except.ok.inj hread).symm

/-- Different expressions have different texts. -/
theorem canonical_inj (he : e.Denotable) (hf : f.Denotable)
    (h : e.canonical = f.canonical) : e = f :=
  toJson_inj he hf (Json.compact_injective_of_isExact (isExact_toJson e) (isExact_toJson f) h)

/-- Expressions with one digest are equal, or the bytes of their texts collide. -/
theorem eq_or_collision_of_hash_eq (he : e.Denotable) (hf : f.Denotable) (h : e.hash = f.hash) :
    e = f ∨ Sha256.Collision (Sha256.textBytes e.canonical) (Sha256.textBytes f.canonical) := by
  have hdigest := Sha256.hexOfText_eq_iff.1 h
  by_cases hbytes : Sha256.textBytes e.canonical = Sha256.textBytes f.canonical
  · exact .inl (canonical_inj he hf (Sha256.textBytes_inj hbytes))
  · exact .inr ⟨hbytes, hdigest⟩

/-- Two expressions whose bounds are of the kinds of their ranges and denoted by some text have one
text only if they are one expression.  Compilations whose normal forms they are have one key only
then, or where the digest fails to tell two texts apart. -/
theorem canonical_eq_canonical_iff (he : e.Denotable) (hf : f.Denotable) :
    (e.canonical = f.canonical ↔ e = f) ∧
      ∀ c d : Compiled, c.normalized = e → d.normalized = f →
        c.idempotencyKey = d.idempotencyKey →
          e = f ∨
            Sha256.Collision (Sha256.textBytes e.canonical) (Sha256.textBytes f.canonical) := by
  refine ⟨⟨canonical_inj he hf, fun h => h ▸ rfl⟩, ?_⟩
  rintro c d rfl rfl hkey
  exact eq_or_collision_of_hash_eq he hf hkey

/-- The range that starts with a date-time literal. -/
def since (t : DateTime) : Expr := .atom (.range "seen" (.dateTimes (some t) none))

theorem denotable_since {t : DateTime} (ht : t.Readable) : (since t).Denotable := by
  intro a ha
  obtain rfl := List.mem_singleton.1 ha
  refine AtomValue.denotable_range_iff.2 ⟨RangeValue.kindsMatch_dateTimes _ _, fun t' ht' => ?_⟩
  obtain rfl : t' = t := by
    simpa [AtomValue.bounds, RangeValue.dateTimes, RangeValue.between] using ht'
  exact ht

/-- One instant, shown by a clock that is an hour ahead and by one of universal time, starts two
ranges with different texts. -/
theorem canonical_ne_canonical_sameInstant :
    let ahead : DateTime :=
      ⟨⟨Date.epoch, ⟨3600, 0, by decide, by decide⟩⟩, some ⟨3600, by decide⟩⟩
    let universal : DateTime := ⟨⟨Date.epoch, Clock.midnight⟩, some .utc⟩
    ahead.toInstant? .utc = universal.toInstant? .utc ∧
      (since ahead).Denotable ∧ (since universal).Denotable ∧
      (since ahead).canonical ≠ (since universal).canonical := by
  intro ahead universal
  have hahead : ahead.Readable :=
    ⟨.inl (by decide), fun _ _ => by decide, fun o ho => by cases ho; decide⟩
  have huniversal : universal.Readable :=
    ⟨.inl (by decide), fun _ _ => by decide, fun o ho => by cases ho; decide⟩
  have he := denotable_since hahead
  have hf := denotable_since huniversal
  refine ⟨by decide, he, hf, fun h => ?_⟩
  exact absurd ((canonical_eq_canonical_iff he hf).1.1 h) (by decide)

end Expr

end BiblioQuery
