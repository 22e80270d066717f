import BiblioQuery.Calendar.Zone
import BiblioQuery.Proofs.Calendar.ReadBack
import Mathlib.Tactic.SplitIfs

/-!
# The texts of time zones

The reader of time zones goes to fixed places of a text that can hold any characters, and yet none
of its steps can fail.  Where there are not six bytes it looks at none of them.  A byte that stands
for a sign, a digit or a colon is a character of its own, as all other characters have bytes from
128 on only, so when the text is cut all its characters have one byte.  The hours and minutes are
below a hundred then and fit 32 bits in every step.

## Main definitions

* `Offset.DenotesClock`, `Offset.DenotesZone` : the texts of offsets and of time zones, with the
  seconds that they denote.

## Main results

* `Text.exists_eq_cons_of_bytes` : a byte below 128 is a character of its own.
* `Text.hasClockShape_spec` : the shape of an offset is seen, whatever the bytes are.
* `Offset.ofParts_eq_ok` : no step of the sum of hours and minutes fails.
* `Offset.readClock_spec` : an offset is read exactly if a text denotes one.
* `Offset.ofZone?_eq_some_iff_denotesZone` : no step fails, a time zone is read exactly if a text
  denotes one, and offsets of whole minutes are read back.
-/

namespace BiblioQuery

namespace Text

variable {cs ds : List Char} {bs : List UInt8} {b : UInt8} {c : Char}

/-! ### Bytes of one character -/

theorem bytes_cons (c : Char) (cs : List Char) :
    bytes (c :: cs) = String.utf8EncodeChar c ++ bytes cs := rfl

/-- A character below 128 has one byte, with its number. -/
theorem utf8EncodeChar_of_lt (h : c.toNat < 128) :
    String.utf8EncodeChar c = [UInt8.ofNat c.toNat] := by
  simp only [String.utf8EncodeChar]
  exact if_pos (Nat.le_of_lt_succ h)

/-- Every byte of another character is 128 or more. -/
theorem le_toNat_of_mem_utf8EncodeChar (h : ¬c.toNat < 128) :
    ∀ b ∈ String.utf8EncodeChar c, 128 ≤ b.toNat := by
  simp only [String.utf8EncodeChar, Char.toNat] at *
  rw [if_neg (by omega)]
  split_ifs
  all_goals
    simp only [List.forall_mem_cons, List.not_mem_nil, false_implies, implies_true, and_true,
      UInt8.toNat_ofNat']
    omega

/-- A byte below 128 is a character of its own. -/
theorem exists_eq_cons_of_bytes (h : bytes cs = b :: bs) (hb : b.toNat < 128) :
    ∃ c ds, cs = c :: ds ∧ c.toNat = b.toNat ∧ bytes ds = bs := by
  cases cs with
  | nil => cases h
  | cons c ds =>
    rw [bytes_cons] at h
    by_cases hc : c.toNat < 128
    · rw [utf8EncodeChar_of_lt hc, List.singleton_append, List.cons.injEq] at h
      obtain ⟨rfl, hds⟩ := h
      refine ⟨c, ds, rfl, ?_, hds⟩
      rw [UInt8.toNat_ofNat']
      omega
    · have hmem : b ∈ String.utf8EncodeChar c := by
        cases hcode : String.utf8EncodeChar c with
        | nil => simp [String.utf8EncodeChar_ne_nil] at hcode
        | cons x xs =>
          rw [hcode] at h
          exact (List.cons.inj h).1 ▸ List.mem_cons_self
      have hle := le_toNat_of_mem_utf8EncodeChar hc b hmem
      omega

theorem eq_nil_of_bytes (h : bytes cs = []) : cs = [] := by
  cases cs with
  | nil => rfl
  | cons c cs => exact absurd (List.append_eq_nil_iff.1 h).1 String.utf8EncodeChar_ne_nil

/-! ### Texts of characters with one byte -/

/-- All characters of the text have one byte. -/
def IsNarrow (cs : List Char) : Prop := ∀ c ∈ cs, c.toNat < 128

theorem bytes_of_isNarrow (h : IsNarrow cs) : bytes cs = cs.map fun c => UInt8.ofNat c.toNat := by
  induction cs with
  | nil => rfl
  | cons c cs ih =>
    obtain ⟨hc, hcs⟩ := List.forall_mem_cons.1 h
    rw [bytes_cons, utf8EncodeChar_of_lt hc, ih hcs]
    rfl

/-- A text is split behind characters with one byte at their number. -/
theorem splitBytes_append (h : IsNarrow cs) (ds : List Char) :
    splitBytes (cs ++ ds) cs.length = .ok (cs, ds) := by
  induction cs with
  | nil =>
    cases ds with
    | nil => rfl
    | cons d ds => rfl
  | cons c cs ih =>
    obtain ⟨hc, hcs⟩ := List.forall_mem_cons.1 h
    have hsize : c.utf8Size = 1 := by
      rw [Char.utf8Size_eq_one_iff, UInt32.le_iff_toNat_le]
      exact Nat.le_of_lt_succ hc
    rw [List.cons_append, List.length_cons, splitBytes, hsize, if_pos (Nat.le_add_left 1 _),
      Nat.add_sub_cancel, ih hcs]
    rfl

/-- A part is cut out of a text where all before its end have one byte. -/
theorem cut_append {before part : List Char} (hbefore : IsNarrow before) (hpart : IsNarrow part)
    (ds : List Char) :
    cut (before ++ (part ++ ds)) before.length (before.length + part.length) = .ok part := by
  rw [cut, if_pos (Nat.le_add_right _ _), Nat.add_sub_cancel_left]
  refine (bind_eq_of_eq_ok (splitBytes_append hbefore _)).trans ?_
  exact bind_eq_of_eq_ok (splitBytes_append hpart ds)

/-! ### Pairs of digits -/

/-- The text has two characters, both of them digits. -/
def IsPair (cs : List Char) : Prop := cs.length = 2 ∧ ∀ c ∈ cs, c.isDigit = true

theorem toNat_of_isDigit (h : c.isDigit = true) : 48 ≤ c.toNat ∧ c.toNat ≤ 57 := by
  simpa [Char.isDigit, Char.le_def, UInt32.le_iff_toNat_le] using h

theorem isDigitByte_ofNat (h : c.isDigit = true) : isDigitByte (UInt8.ofNat c.toNat) = true := by
  have hc := toNat_of_isDigit h
  simp only [isDigitByte, Bool.and_eq_true, decide_eq_true_eq, UInt8.le_iff_toNat_le,
    UInt8.toNat_ofNat']
  change 48 ≤ _ ∧ _ ≤ 57
  omega

theorem toNat_lt_of_isDigitByte (h : isDigitByte b = true) : b.toNat < 128 := by
  simp only [isDigitByte, Bool.and_eq_true, decide_eq_true_eq, UInt8.le_iff_toNat_le] at h
  exact Nat.lt_of_le_of_lt h.2 (by decide)

theorem toNat_lt_of_signOf? {factor : Int} (h : signOf? b = some factor) : b.toNat < 128 := by
  rw [signOf?] at h
  split at h
  · next hplus => rw [hplus]; decide
  · split at h
    · next hminus => rw [hminus]; decide
    · cases h

theorem isDigit_of_isDigitByte (h : isDigitByte b = true) (hc : c.toNat = b.toNat) :
    c.isDigit = true := by
  simp only [isDigitByte, Bool.and_eq_true, decide_eq_true_eq, UInt8.le_iff_toNat_le] at h
  simpa [Char.isDigit, Char.le_def, UInt32.le_iff_toNat_le, ← hc] using h

namespace IsPair

theorem exists_eq (h : IsPair cs) : ∃ c d, cs = [c, d] ∧ c.isDigit = true ∧ d.isDigit = true :=
  match cs, h with
  | [c, d], ⟨_, hdigits⟩ => ⟨c, d, rfl, hdigits c (by simp), hdigits d (by simp)⟩

theorem isNarrow (h : IsPair cs) : IsNarrow cs := fun c hc => by
  have hbound := toNat_of_isDigit (h.2 c hc)
  omega

theorem digitsValue_lt (h : IsPair cs) : digitsValue cs < 100 := by
  have hlt := BiblioQuery.digitsValue_lt h.2
  rwa [h.1] at hlt

/-- Two digits are read as the number that they denote. -/
theorem int32?_eq (h : IsPair cs) : int32? cs = some (digitsValue cs : Int) := by
  have hlt := h.digitsValue_lt
  have hall : cs.all Char.isDigit = true := List.all_eq_true.2 h.2
  have hfits : FitsInt32 (digitsValue cs) := by
    rw [FitsInt32]
    omega
  obtain ⟨c, d, rfl, hc, -⟩ := h.exists_eq
  have hsign : Number.splitSign [c, d] = (false, [c, d]) := by
    rw [Number.splitSign]
    · rintro r ⟨⟩
      exact absurd hc (by decide)
    · rintro r ⟨⟩
      exact absurd hc (by decide)
  rw [int32?, hsign]
  simp [hall, hfits]

end IsPair

/-! ### The shape of an offset -/

theorem hasClockShape_six (s a b m c d : UInt8) :
    hasClockShape [s, a, b, m, c, d] =
      .ok (m == 0x3A && [a, b].all isDigitByte && [c, d].all isDigitByte) := by
  have hshape : hasClockShape [s, a, b, m, c, d] =
      if m = 0x3A then
        if [a, b].all isDigitByte then .ok ([c, d].all isDigitByte) else .ok false
      else .ok false := rfl
  rw [hshape]
  split
  · next hcolon =>
    split
    · next hhours => simp [hcolon, hhours]
    · next hhours => simp [Bool.eq_false_iff.2 hhours]
  · next hcolon => simp [hcolon]

/-- The shape of an offset is seen, whatever the bytes are: no byte is looked at that is not
there. -/
theorem hasClockShape_spec (bs : List UInt8) : ∃ shaped, hasClockShape bs = .ok shaped ∧
    (shaped = true ↔ ∃ s a b c d, bs = [s, a, b, 0x3A, c, d] ∧
      (isDigitByte a = true ∧ isDigitByte b = true) ∧
        isDigitByte c = true ∧ isDigitByte d = true) := by
  by_cases hlength : bs.length = 6
  · obtain ⟨s, a, b, m, c, d, rfl⟩ : ∃ s a b m c d, bs = [s, a, b, m, c, d] :=
      match bs, hlength with
      | [s, a, b, m, c, d], _ => ⟨s, a, b, m, c, d, rfl⟩
    refine ⟨_, hasClockShape_six s a b m c d, ?_⟩
    constructor
    · intro h
      simp only [Bool.and_eq_true, beq_iff_eq, List.all_cons, List.all_nil, and_true] at h
      obtain ⟨⟨rfl, hhours⟩, hminutes⟩ := h
      exact ⟨s, a, b, c, d, rfl, hhours, hminutes⟩
    · rintro ⟨s', a', b', c', d', h, hhours, hminutes⟩
      simp only [List.cons.injEq, and_true] at h
      obtain ⟨rfl, rfl, rfl, rfl, rfl, rfl⟩ := h
      simp [hhours, hminutes]
  · refine ⟨false, if_neg hlength, nofun, ?_⟩
    rintro ⟨s, a, b, c, d, rfl, -⟩
    exact absurd rfl hlength

end Text

/-! ### Texts of offsets -/

namespace Offset

open Text

/-- A sign, as a character and as a factor. -/
inductive IsSign : Char → Int → Prop
  /-- Ahead of universal time. -/
  | plus : IsSign '+' 1
  /-- Behind universal time. -/
  | minus : IsSign '-' (-1)

/-- The text is a sign, two digits of hours, a colon and two digits of minutes. -/
structure IsClock (cs : List Char) (sign : Char) (factor : Int) (hours minutes : List Char) :
    Prop where
  /-- The parts of the text. -/
  eq_parts : cs = sign :: (hours ++ ':' :: minutes)
  /-- The sign. -/
  sign : IsSign sign factor
  /-- The digits of the hours. -/
  hours : IsPair hours
  /-- The digits of the minutes. -/
  minutes : IsPair minutes

/-- The text is an offset with an hour of the day and a minute of the hour, and denotes these as
seconds, with its sign. -/
def DenotesClock (cs : List Char) (seconds : Int) : Prop :=
  ∃ sign factor hours minutes, IsClock cs sign factor hours minutes ∧
    digitsValue hours ≤ 23 ∧ digitsValue minutes ≤ 59 ∧
      seconds = factor * (digitsValue hours * 3600 + digitsValue minutes * 60)

/-- The text is a time zone and denotes the seconds that its clocks are ahead of universal time. -/
inductive DenotesZone (cs : List Char) : Int → Prop
  /-- The name of universal time, in letters of any case. -/
  | name (h : cs.map Char.toLower = ['u', 't', 'c']) : DenotesZone cs 0
  /-- The letter of universal time. -/
  | letter (h : cs = ['Z']) : DenotesZone cs 0
  /-- An offset. -/
  | clock {seconds : Int} (h : DenotesClock cs seconds) : DenotesZone cs seconds

variable {cs hours minutes hours' minutes' : List Char} {sign sign' : Char} {factor factor' : Int}

theorem IsSign.signOf?_eq (h : IsSign sign factor) :
    signOf? (UInt8.ofNat sign.toNat) = some factor := by
  cases h <;> rfl

theorem IsSign.factor_eq (h : IsSign sign factor) : factor = 1 ∨ factor = -1 := by
  cases h
  · exact .inl rfl
  · exact .inr rfl

theorem IsSign.toNat_lt (h : IsSign sign factor) : sign.toNat < 128 := by
  cases h <;> decide

/-- A byte that is taken for a sign is one. -/
theorem isSign_of_signOf? {s : UInt8} (h : signOf? s = some factor) (hs : sign.toNat = s.toNat) :
    IsSign sign factor := by
  have hsign : sign = Char.ofNat s.toNat := by rw [← hs, Char.ofNat_toNat]
  rw [signOf?] at h
  split at h
  · next hplus =>
    obtain rfl := Option.some.inj h
    rw [hplus] at hsign
    exact hsign ▸ .plus
  · split at h
    · next hminus =>
      obtain rfl := Option.some.inj h
      rw [hminus] at hsign
      exact hsign ▸ .minus
    · cases h

namespace IsClock

theorem isNarrow (h : IsClock cs sign factor hours minutes) : IsNarrow cs := by
  rw [h.eq_parts, IsNarrow, List.forall_mem_cons, List.forall_mem_append, List.forall_mem_cons]
  exact ⟨h.sign.toNat_lt, h.hours.isNarrow, by decide, h.minutes.isNarrow⟩

/-- An offset has its parts in one way. -/
theorem unique (h : IsClock cs sign factor hours minutes)
    (h' : IsClock cs sign' factor' hours' minutes') :
    factor = factor' ∧ hours = hours' ∧ minutes = minutes' := by
  have hparts := h.eq_parts.symm.trans h'.eq_parts
  obtain ⟨rfl, htail⟩ := List.cons.inj hparts
  obtain ⟨rfl, hrest⟩ := List.append_inj htail (h.hours.1.trans h'.hours.1.symm)
  have hsigns : factor = factor' := by
    cases h.sign <;> cases h'.sign <;> rfl
  exact ⟨hsigns, rfl, (List.cons.inj hrest).2⟩

/-- The parts of an offset are found by their places. -/
theorem readClock_eq (h : IsClock cs sign factor hours minutes) :
    readClock cs = ofParts factor (digitsValue hours) (digitsValue minutes) := by
  obtain ⟨a, b, hab, ha, hb⟩ := h.hours.exists_eq
  obtain ⟨c, d, hcd, hc, hd⟩ := h.minutes.exists_eq
  have hbytes := bytes_of_isNarrow h.isNarrow
  have hhours : cut cs 1 3 = .ok hours := by
    have hbefore : IsNarrow [sign] := by
      refine fun x hx => h.isNarrow x ?_
      rw [h.eq_parts, List.mem_singleton.1 hx]
      exact List.mem_cons_self
    have hcut := cut_append hbefore h.hours.isNarrow (':' :: minutes)
    rwa [h.hours.1, List.singleton_append, ← h.eq_parts] at hcut
  have hminutes : cut cs 4 6 = .ok minutes := by
    have hbefore : IsNarrow [sign, a, b, ':'] := by
      refine fun x hx => h.isNarrow x ?_
      rw [h.eq_parts, hab]
      exact List.mem_append_left minutes hx
    have hcut := cut_append hbefore h.minutes.isNarrow []
    rw [h.minutes.1, List.append_nil] at hcut
    rw [h.eq_parts, hab]
    exact hcut
  have hshape : hasClockShape (bytes cs) = .ok true := by
    rw [hbytes, h.eq_parts, hab, hcd]
    refine (hasClockShape_six _ _ _ _ _ _).trans ?_
    simp [isDigitByte_ofNat, ha, hb, hc, hd]
  have hfirst : byteAt (bytes cs) 0 = .ok (UInt8.ofNat sign.toNat) :=
    byteAt_eq_ok (by rw [hbytes, h.eq_parts]; rfl)
  rw [readClock]
  refine (bind_eq_of_eq_ok hshape).trans ?_
  refine (bind_eq_of_eq_ok hfirst).trans ?_
  rw [h.sign.signOf?_eq]
  refine (bind_eq_of_eq_ok hhours).trans ?_
  rw [h.hours.int32?_eq]
  refine (bind_eq_of_eq_ok hminutes).trans ?_
  rw [h.minutes.int32?_eq]

end IsClock

/-! ### What the reader accepts -/

/-- No result is too large for hours of a day and minutes of an hour. -/
theorem ofParts_eq_ok {sign hours minutes : Int} (hsign : sign = 1 ∨ sign = -1)
    (hhours : 0 ≤ hours ∧ hours ≤ 23) (hminutes : 0 ≤ minutes ∧ minutes ≤ 59) :
    ofParts sign hours minutes = .ok (of? (sign * (hours * 3600 + minutes * 60))) := by
  have hsum : FitsInt32 (sign * (hours * 3600 + minutes * 60)) := by
    rcases hsign with rfl | rfl
    · rw [FitsInt32]
      omega
    · rw [FitsInt32]
      omega
  rw [ofParts, if_pos ⟨hhours.2, hminutes.2⟩]
  refine (bind_eq_of_eq_ok (fitted_eq_ok (by rw [FitsInt32]; omega))).trans ?_
  refine (bind_eq_of_eq_ok (fitted_eq_ok (by rw [FitsInt32]; omega))).trans ?_
  refine (bind_eq_of_eq_ok (fitted_eq_ok (by rw [FitsInt32]; omega))).trans ?_
  exact bind_eq_of_eq_ok (fitted_eq_ok hsum)

/-- Bytes that have the shape of an offset with a sign are those of an offset. -/
theorem exists_isClock_of_bytes {s a b c d : UInt8} (h : bytes cs = [s, a, b, 0x3A, c, d])
    (hs : signOf? s = some factor) (hhours : isDigitByte a = true ∧ isDigitByte b = true)
    (hminutes : isDigitByte c = true ∧ isDigitByte d = true) :
    ∃ sign hours minutes, IsClock cs sign factor hours minutes := by
  obtain ⟨sign, cs₁, rfl, hsign, h₁⟩ := exists_eq_cons_of_bytes h (toNat_lt_of_signOf? hs)
  obtain ⟨a', cs₂, rfl, ha, h₂⟩ := exists_eq_cons_of_bytes h₁ (toNat_lt_of_isDigitByte hhours.1)
  obtain ⟨b', cs₃, rfl, hb, h₃⟩ := exists_eq_cons_of_bytes h₂ (toNat_lt_of_isDigitByte hhours.2)
  obtain ⟨colon, cs₄, rfl, hcolon, h₄⟩ := exists_eq_cons_of_bytes h₃ (by decide)
  obtain ⟨c', cs₅, rfl, hc, h₅⟩ := exists_eq_cons_of_bytes h₄ (toNat_lt_of_isDigitByte hminutes.1)
  obtain ⟨d', cs₆, rfl, hd, h₆⟩ := exists_eq_cons_of_bytes h₅ (toNat_lt_of_isDigitByte hminutes.2)
  obtain rfl := eq_nil_of_bytes h₆
  obtain rfl : colon = ':' := by
    rw [← Char.ofNat_toNat colon, hcolon]
    rfl
  have hpair {x y : Char} {u v : UInt8} (hu : isDigitByte u = true ∧ isDigitByte v = true)
      (hx : x.toNat = u.toNat) (hy : y.toNat = v.toNat) : IsPair [x, y] := by
    refine ⟨rfl, ?_⟩
    rw [List.forall_mem_cons, List.forall_mem_singleton]
    exact ⟨isDigit_of_isDigitByte hu.1 hx, isDigit_of_isDigitByte hu.2 hy⟩
  exact ⟨sign, [a', b'], [c', d'], rfl, isSign_of_signOf? hs hsign, hpair hhours ha hb,
    hpair hminutes hc hd⟩

/-- What is no offset is refused. -/
theorem readClock_eq_none (h : ∀ sign factor hours minutes, ¬IsClock cs sign factor hours minutes) :
    readClock cs = .ok none := by
  obtain ⟨shaped, hshaped, hiff⟩ := hasClockShape_spec (bytes cs)
  rw [readClock]
  refine (bind_eq_of_eq_ok hshaped).trans ?_
  cases shaped with
  | false => rfl
  | true =>
    obtain ⟨s, a, b, c, d, hbytes, hhours, hminutes⟩ := hiff.1 rfl
    have hfirst : byteAt (bytes cs) 0 = .ok s := byteAt_eq_ok (by rw [hbytes]; rfl)
    refine (bind_eq_of_eq_ok hfirst).trans ?_
    cases hs : signOf? s with
    | none => rfl
    | some factor =>
      obtain ⟨sign, hours, minutes, hclock⟩ := exists_isClock_of_bytes hbytes hs hhours hminutes
      exact absurd hclock (h sign factor hours minutes)

theorem of?_eq_some_iff {seconds : Int} {o : Offset} :
    of? seconds = some o ↔ o.seconds = seconds := by
  rw [of?]
  constructor
  · intro h
    split at h
    · rw [← Option.some.inj h]
    · cases h
  · rintro rfl
    exact dif_pos o.seconds_mem

/-- No step of the reader of offsets fails, and it reads exactly what denotes an offset. -/
theorem readClock_spec (cs : List Char) : ∃ found, readClock cs = .ok found ∧
    ∀ o : Offset, found = some o ↔ DenotesClock cs o.seconds := by
  by_cases hclock : ∃ sign factor hours minutes, IsClock cs sign factor hours minutes
  · obtain ⟨sign, factor, hours, minutes, hclock⟩ := hclock
    rw [hclock.readClock_eq]
    by_cases hbounds : digitsValue hours ≤ 23 ∧ digitsValue minutes ≤ 59
    · refine ⟨_, ofParts_eq_ok hclock.sign.factor_eq ⟨by omega, by omega⟩ ⟨by omega, by omega⟩,
        fun o => ?_⟩
      rw [of?_eq_some_iff]
      constructor
      · exact fun h => ⟨sign, factor, hours, minutes, hclock, hbounds.1, hbounds.2, h⟩
      · rintro ⟨sign', factor', hours', minutes', hclock', -, -, hseconds⟩
        obtain ⟨rfl, rfl, rfl⟩ := hclock.unique hclock'
        exact hseconds
    · refine ⟨none, ?_, fun o => iff_of_false (fun h => nomatch h) ?_⟩
      · rw [ofParts, if_neg (by omega)]
        rfl
      · rintro ⟨sign', factor', hours', minutes', hclock', hhours, hminutes, -⟩
        obtain ⟨rfl, rfl, rfl⟩ := hclock.unique hclock'
        exact hbounds ⟨hhours, hminutes⟩
  · refine ⟨none, readClock_eq_none fun sign factor hours minutes h =>
      hclock ⟨sign, factor, hours, minutes, h⟩, fun o => iff_of_false (fun h => nomatch h) ?_⟩
    rintro ⟨sign, factor, hours, minutes, h, -⟩
    exact hclock ⟨sign, factor, hours, minutes, h⟩

/-- An offset is no name of universal time, as it starts with a sign. -/
theorem DenotesClock.head {seconds : Int} (h : DenotesClock cs seconds) :
    cs.head? = some '+' ∨ cs.head? = some '-' := by
  obtain ⟨sign, factor, hours, minutes, hclock, -⟩ := h
  rw [hclock.eq_parts, List.head?_cons]
  cases hclock.sign
  · exact .inl rfl
  · exact .inr rfl

/-- A name of universal time denotes no other offset. -/
theorem DenotesZone.eq_zero {seconds : Int} (h : DenotesZone cs seconds)
    (hname : cs.map Char.toLower = ['u', 't', 'c'] ∨ cs = ['Z']) : seconds = 0 := by
  cases h with
  | name => rfl
  | letter => rfl
  | clock h =>
    rcases hname with hname | rfl
    · have hhead : (cs.head?).map Char.toLower = some 'u' := by
        rw [← List.head?_map, hname]
        rfl
      rcases h.head with h | h
      · rw [h] at hhead
        exact absurd hhead (by decide)
      · rw [h] at hhead
        exact absurd hhead (by decide)
    · exact absurd h.head (by decide)

/-- A time zone that is not named is given by its offset. -/
theorem DenotesZone.denotesClock {seconds : Int} (h : DenotesZone cs seconds)
    (hname : ¬(cs.map Char.toLower = ['u', 't', 'c'] ∨ cs = ['Z'])) : DenotesClock cs seconds := by
  cases h with
  | name h => exact absurd (.inl h) hname
  | letter h => exact absurd (.inr h) hname
  | clock h => exact h

/-- No step of the reader of time zones fails, and it reads exactly what denotes a time zone. -/
theorem readZone_spec (zone : String) : ∃ found, readZone zone = .ok found ∧
    ∀ o : Offset, found = some o ↔ DenotesZone (trim zone.toList) o.seconds := by
  generalize hcs : trim zone.toList = cs
  have hname : (sameLetters (String.ofList cs) "UTC" = true ∨ String.ofList cs = "Z") ↔
      cs.map Char.toLower = ['u', 't', 'c'] ∨ cs = ['Z'] := by
    rw [sameLetters, beq_iff_eq, ← String.toList_inj, String.toList_ofList]
    rfl
  simp only [readZone, trimmed, hcs, hname, String.toList_ofList]
  split
  · next hnamed =>
    refine ⟨_, rfl, fun o => ?_⟩
    rw [of?_eq_some_iff]
    constructor
    · intro hzero
      rw [hzero]
      exact hnamed.elim .name .letter
    · exact fun h => h.eq_zero hnamed
  · next hunnamed =>
    obtain ⟨found, hfound, hiff⟩ := readClock_spec cs
    exact ⟨found, hfound, fun o => (hiff o).trans ⟨.clock, fun h => h.denotesClock hunnamed⟩⟩

/-! ### Texts of offsets read back -/

theorem isPair_paddedDigits {n : Nat} (h : n < 100) : IsPair (paddedDigits 2 n) :=
  ⟨length_paddedDigits (by decide) h, fun _ hc => isDigit_of_mem_paddedDigits hc⟩

/-- An offset of whole minutes is denoted by its text. -/
theorem denotesClock_chars {o : Offset} (h : o.seconds % 60 = 0) :
    DenotesClock o.chars o.seconds := by
  have hmem := o.seconds_mem
  have hchars := Calendar.offsetChars_of_wholeMinutes h
  have hhours := isPair_paddedDigits (n := o.seconds.natAbs / 3600) (by omega)
  have hminutes := isPair_paddedDigits (n := o.seconds.natAbs / 60 % 60) (by omega)
  by_cases hneg : o.seconds < 0
  · rw [if_pos hneg] at hchars
    refine ⟨_, _, _, _, ⟨hchars, .minus, hhours, hminutes⟩, ?_⟩
    simp only [digitsValue_paddedDigits]
    omega
  · rw [if_neg hneg] at hchars
    refine ⟨_, _, _, _, ⟨hchars, .plus, hhours, hminutes⟩, ?_⟩
    simp only [digitsValue_paddedDigits]
    omega

/-- No step of the reader of time zones fails, whatever the text is, and its answer is the offset
that the text denotes without outer blanks, if it denotes one.  So an offset of whole minutes is
read back from its text, which is a sign, two digits of hours, a colon and two digits of minutes. -/
theorem ofZone?_eq_some_iff_denotesZone :
    (∀ zone : String, readZone zone = .ok (ofZone? zone) ∧
      ∀ o : Offset, ofZone? zone = some o ↔ DenotesZone (trim zone.toList) o.seconds) ∧
    ∀ o : Offset, o.seconds % 60 = 0 →
      DenotesClock o.chars o.seconds ∧ ofZone? (String.ofList o.chars) = some o := by
  have hread (zone : String) : readZone zone = .ok (ofZone? zone) ∧
      ∀ o : Offset, ofZone? zone = some o ↔ DenotesZone (trim zone.toList) o.seconds := by
    obtain ⟨found, hfound, hiff⟩ := readZone_spec zone
    have hzone : ofZone? zone = found := by rw [ofZone?, hfound]
    exact ⟨hzone ▸ hfound, hzone ▸ hiff⟩
  refine ⟨hread, fun o ho => ⟨denotesClock_chars ho, ((hread _).2 o).2 (.clock ?_)⟩⟩
  rw [String.toList_ofList, trim_eq_self (noBlanks_offsetChars o)]
  exact denotesClock_chars ho

/-- Three hours and a half behind universal time. -/
theorem ofZone?_eq_some_iff_denotesZone_halfHour :
    let o : Offset := ⟨-12600, by decide⟩
    o.seconds % 60 = 0 ∧ o.chars = "-03:30".toList ∧ ofZone? (String.ofList o.chars) = some o := by
  intro o
  have hminutes : o.seconds % 60 = 0 := by decide
  exact ⟨hminutes, by decide, (ofZone?_eq_some_iff_denotesZone.2 o hminutes).2⟩

/-- Six bytes with a colon at its place, where the text could not be cut behind the first digit of
the hours. -/
example : cut "+é:00".toList 1 2 = .error .insideCharacter ∧ readZone "+é:00" = .ok none :=
  ⟨rfl, rfl⟩

end Offset

end BiblioQuery
