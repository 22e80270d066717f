/-!
# The SHA-256 digest

The digest of a list of bytes: the bytes are padded to whole blocks of sixteen words, and each block
is mixed into eight registers in sixty-four rounds.

## Main definitions

* `Sha256.padded` : the bytes with their padding.
* `Sha256.digest` : the thirty-two bytes of the digest.
* `Sha256.hex`, `Sha256.hexOfText` : the digest in hexadecimal.
* `Sha256.Collision` : different bytes with one digest.

## Main results

* `Sha256.length_padded_mod` : the padding fills the last block.
* `Sha256.length_digest` : a digest has thirty-two bytes.
* `Sha256.hexOfText_eq_iff` : texts with one hexadecimal digest have bytes with one digest.
* `Sha256.textBytes_inj` : different texts have different bytes.
-/

namespace BiblioQuery.Sha256

/-- The eight registers. -/
structure Registers where
  /-- The first register. -/
  a : UInt32
  /-- The second register. -/
  b : UInt32
  /-- The third register. -/
  c : UInt32
  /-- The fourth register. -/
  d : UInt32
  /-- The fifth register. -/
  e : UInt32
  /-- The sixth register. -/
  f : UInt32
  /-- The seventh register. -/
  g : UInt32
  /-- The eighth register. -/
  h : UInt32
  deriving DecidableEq

/-- The registers before the first block. -/
def Registers.initial : Registers :=
  ⟨0x6a09e667, 0xbb67ae85, 0x3c6ef372, 0xa54ff53a, 0x510e527f, 0x9b05688c, 0x1f83d9ab, 0x5be0cd19⟩

/-- The constants of the sixty-four rounds. -/
def roundConstants : List UInt32 :=
  [0x428a2f98, 0x71374491, 0xb5c0fbcf, 0xe9b5dba5, 0x3956c25b, 0x59f111f1, 0x923f82a4, 0xab1c5ed5,
   0xd807aa98, 0x12835b01, 0x243185be, 0x550c7dc3, 0x72be5d74, 0x80deb1fe, 0x9bdc06a7, 0xc19bf174,
   0xe49b69c1, 0xefbe4786, 0x0fc19dc6, 0x240ca1cc, 0x2de92c6f, 0x4a7484aa, 0x5cb0a9dc, 0x76f988da,
   0x983e5152, 0xa831c66d, 0xb00327c8, 0xbf597fc7, 0xc6e00bf3, 0xd5a79147, 0x06ca6351, 0x14292967,
   0x27b70a85, 0x2e1b2138, 0x4d2c6dfc, 0x53380d13, 0x650a7354, 0x766a0abb, 0x81c2c92e, 0x92722c85,
   0xa2bfe8a1, 0xa81a664b, 0xc24b8b70, 0xc76c51a3, 0xd192e819, 0xd6990624, 0xf40e3585, 0x106aa070,
   0x19a4c116, 0x1e376c08, 0x2748774c, 0x34b0bcb5, 0x391c0cb3, 0x4ed8aa4a, 0x5b9cca4f, 0x682e6ff3,
   0x748f82ee, 0x78a5636f, 0x84c87814, 0x8cc70208, 0x90befffa, 0xa4506ceb, 0xbef9a3f7, 0xc67178f2]

/-- A word rotated to the right. -/
def rotateRight (x n : UInt32) : UInt32 := (x >>> n) ||| (x <<< (32 - n))

/-- The word that follows sixteen words of the schedule. -/
def nextWord (window : Vector UInt32 16) : UInt32 :=
  let x := window[1]
  let y := window[14]
  let s₀ := rotateRight x 7 ^^^ rotateRight x 18 ^^^ (x >>> 3)
  let s₁ := rotateRight y 17 ^^^ rotateRight y 19 ^^^ (y >>> 10)
  window[0] + s₀ + window[9] + s₁

/-- The window one word later. -/
def slide (window : Vector UInt32 16) : Vector UInt32 16 :=
  Vector.ofFn fun i => if h : i.val + 1 < 16 then window[i.val + 1] else nextWord window

/-- One round with its constant and its word of the schedule. -/
def Registers.step (r : Registers) (k w : UInt32) : Registers :=
  let s₁ := rotateRight r.e 6 ^^^ rotateRight r.e 11 ^^^ rotateRight r.e 25
  let choice := (r.e &&& r.f) ^^^ ((~~~ r.e) &&& r.g)
  let t₁ := r.h + s₁ + choice + k + w
  let s₀ := rotateRight r.a 2 ^^^ rotateRight r.a 13 ^^^ rotateRight r.a 22
  let majority := (r.a &&& r.b) ^^^ (r.a &&& r.c) ^^^ (r.b &&& r.c)
  ⟨t₁ + (s₀ + majority), r.a, r.b, r.c, r.d + t₁, r.e, r.f, r.g⟩

/-- The rounds of the given constants, the window starting with the word of the first of them. -/
def rounds : List UInt32 → Vector UInt32 16 → Registers → Registers
  | [], _, r => r
  | k :: ks, window, r => rounds ks (slide window) (r.step k window[0])

/-- The sum of two states, register by register. -/
def Registers.add (r s : Registers) : Registers :=
  ⟨r.a + s.a, r.b + s.b, r.c + s.c, r.d + s.d, r.e + s.e, r.f + s.f, r.g + s.g, r.h + s.h⟩

/-- Mixes one block into the registers. -/
def compress (r : Registers) (block : Vector UInt32 16) : Registers :=
  r.add (rounds roundConstants block r)

/-! ### Bytes and blocks -/

/-- The bytes of a number, the most significant first. -/
def bigEndian : Nat → Nat → List UInt8
  | 0, _ => []
  | width + 1, n => UInt8.ofNat (n >>> (8 * width)) :: bigEndian width n

@[simp]
theorem length_bigEndian (width n : Nat) : (bigEndian width n).length = width := by
  induction width with
  | zero => rfl
  | succ width ih => simp [bigEndian, ih]

/-- The number of zeros in the padding of a message of the given length. -/
def paddingZeros (length : Nat) : Nat := (119 - length % 64) % 64

/-- A message with its padding: a set bit, zeros, and the length in bits. -/
def padded (bytes : List UInt8) : List UInt8 :=
  bytes ++ 0x80 :: List.replicate (paddingZeros bytes.length) 0 ++ bigEndian 8 (8 * bytes.length)

/-- The padding fills the last block. -/
theorem length_padded_mod (bytes : List UInt8) : (padded bytes).length % 64 = 0 := by
  simp only [padded, paddingZeros, List.length_append, List.length_cons, List.length_replicate,
    length_bigEndian]
  omega

/-- The word at an index of a block of bytes; bytes past the end count as zero. -/
def wordAt (bytes : Array UInt8) (start : Nat) : UInt32 :=
  let byte i := (bytes.getD (start + i) 0).toUInt32
  (byte 0 <<< 24) ||| (byte 1 <<< 16) ||| (byte 2 <<< 8) ||| byte 3

/-- The block that starts at an index. -/
def blockAt (bytes : Array UInt8) (start : Nat) : Vector UInt32 16 :=
  Vector.ofFn fun i => wordAt bytes (start + 4 * i)

/-- The registers after all blocks of a message. -/
def absorb (bytes : List UInt8) : Registers :=
  let message := (padded bytes).toArray
  (List.range (message.size / 64)).foldl
    (fun r i => compress r (blockAt message (64 * i))) Registers.initial

/-- The bytes of a register. -/
def wordBytes (w : UInt32) : List UInt8 := bigEndian 4 w.toNat

/-- The digest of a message. -/
def digest (bytes : List UInt8) : List UInt8 :=
  let r := absorb bytes
  wordBytes r.a ++ wordBytes r.b ++ wordBytes r.c ++ wordBytes r.d ++
    wordBytes r.e ++ wordBytes r.f ++ wordBytes r.g ++ wordBytes r.h

/-- A digest has thirty-two bytes. -/
@[simp]
theorem length_digest (bytes : List UInt8) : (digest bytes).length = 32 := by
  simp [digest, wordBytes]

/-- A byte as two hexadecimal digits. -/
def byteHex (b : UInt8) : List Char :=
  [Nat.digitChar (b.toNat / 16), Nat.digitChar (b.toNat % 16)]

/-- The digest of a message, in hexadecimal. -/
def hex (bytes : List UInt8) : String := String.ofList ((digest bytes).flatMap byteHex)

/-- The bytes of a text. -/
def textBytes (s : String) : List UInt8 := s.toUTF8.toList

/-- The digest of the bytes of a text, in hexadecimal. -/
def hexOfText (s : String) : String := hex (textBytes s)

/-- Different bytes have one digest. -/
def Collision (as bs : List UInt8) : Prop := as ≠ bs ∧ digest as = digest bs

/-! ### What hexadecimal digests tell -/

theorem digitChar_inj {m n : Nat} (hm : m < 16) (hn : n < 16)
    (h : Nat.digitChar m = Nat.digitChar n) : m = n := by
  have hall : ∀ m < 16, ∀ n < 16, Nat.digitChar m = Nat.digitChar n → m = n := by decide
  exact hall m hm n hn h

/-- Two digits determine a byte. -/
theorem byteHex_inj {a b : UInt8} (h : byteHex a = byteHex b) : a = b := by
  have ha := a.toNat_lt
  have hb := b.toNat_lt
  simp only [byteHex, List.cons.injEq, and_true] at h
  have hhigh := digitChar_inj (by omega) (by omega) h.1
  have hlow := digitChar_inj (by omega) (by omega) h.2
  exact UInt8.toNat_inj.1 (by omega)

theorem flatMap_byteHex_inj {as bs : List UInt8} (h : as.flatMap byteHex = bs.flatMap byteHex) :
    as = bs := by
  induction as generalizing bs with
  | nil =>
    cases bs with
    | nil => rfl
    | cons b bs => simp [byteHex] at h
  | cons a as ih =>
    cases bs with
    | nil => simp [byteHex] at h
    | cons b bs =>
      rw [List.flatMap_cons, List.flatMap_cons] at h
      obtain ⟨hfirst, hrest⟩ := List.append_inj h rfl
      rw [byteHex_inj hfirst, ih hrest]

/-- Bytes with one hexadecimal digest have one digest. -/
theorem hex_eq_iff {as bs : List UInt8} : hex as = hex bs ↔ digest as = digest bs := by
  constructor
  · exact fun h => flatMap_byteHex_inj (String.ofList_injective h)
  · exact fun h => by rw [hex, hex, h]

/-- Texts with one hexadecimal digest have bytes with one digest. -/
theorem hexOfText_eq_iff {s t : String} :
    hexOfText s = hexOfText t ↔ digest (textBytes s) = digest (textBytes t) := hex_eq_iff

theorem byteArray_toList_loop (bytes : ByteArray) (i : Nat) (r : List UInt8) :
    ByteArray.toList.loop bytes i r = r.reverse ++ bytes.data.toList.drop i := by
  fun_induction ByteArray.toList.loop bytes i r with
  | case1 i r h ih =>
    have hi : i < bytes.data.size := h
    rw [ih, List.drop_eq_getElem_cons (i := i) (by simpa using hi)]
    simp [ByteArray.get!, getElem!_pos bytes.data i hi]
  | case2 i r h => simpa using Nat.le_of_not_lt h

/-- The bytes of a text as an array again. -/
theorem toArray_textBytes (s : String) : ⟨(textBytes s).toArray⟩ = s.toByteArray := by
  simp [textBytes, ByteArray.toList, byteArray_toList_loop]

/-- Different texts have different bytes. -/
theorem textBytes_inj {s t : String} (h : textBytes s = textBytes t) : s = t := by
  rw [← String.toByteArray_inj, ← toArray_textBytes, h, toArray_textBytes]

end BiblioQuery.Sha256
