import Mathlib.Data.List.GetD
import JooanW3U.Library.BlockHash

/-!
Owns SHA-256 as its standard defines it (the message schedule as a recurrence, the
compression of a block, the digest of a message), the loop over an array of words that
computes a compression, and that the two agree.

Does not own any table of constants but the standard's, nor how a message comes in.
-/

namespace JooanW3U.Library.Sha256

open Sha1 (Word bigEndian wordsOf)
open BlockHash (Bytes)

/-! ## The standard -/

def constants : List Word :=
  [0x428a2f98, 0x71374491, 0xb5c0fbcf, 0xe9b5dba5, 0x3956c25b, 0x59f111f1, 0x923f82a4, 0xab1c5ed5,
   0xd807aa98, 0x12835b01, 0x243185be, 0x550c7dc3, 0x72be5d74, 0x80deb1fe, 0x9bdc06a7, 0xc19bf174,
   0xe49b69c1, 0xefbe4786, 0x0fc19dc6, 0x240ca1cc, 0x2de92c6f, 0x4a7484aa, 0x5cb0a9dc, 0x76f988da,
   0x983e5152, 0xa831c66d, 0xb00327c8, 0xbf597fc7, 0xc6e00bf3, 0xd5a79147, 0x06ca6351, 0x14292967,
   0x27b70a85, 0x2e1b2138, 0x4d2c6dfc, 0x53380d13, 0x650a7354, 0x766a0abb, 0x81c2c92e, 0x92722c85,
   0xa2bfe8a1, 0xa81a664b, 0xc24b8b70, 0xc76c51a3, 0xd192e819, 0xd6990624, 0xf40e3585, 0x106aa070,
   0x19a4c116, 0x1e376c08, 0x2748774c, 0x34b0bcb5, 0x391c0cb3, 0x4ed8aa4a, 0x5b9cca4f, 0x682e6ff3,
   0x748f82ee, 0x78a5636f, 0x84c87814, 0x8cc70208, 0x90befffa, 0xa4506ceb, 0xbef9a3f7, 0xc67178f2]

/-- The eight chaining words. -/
structure Digest where
  a : Word
  b : Word
  c : Word
  d : Word
  e : Word
  f : Word
  g : Word
  h : Word
  deriving Repr, DecidableEq

def initial : Digest :=
  ⟨0x6a09e667, 0xbb67ae85, 0x3c6ef372, 0xa54ff53a, 0x510e527f, 0x9b05688c, 0x1f83d9ab, 0x5be0cd19⟩

def Digest.add (v w : Digest) : Digest :=
  ⟨v.a + w.a, v.b + w.b, v.c + w.c, v.d + w.d, v.e + w.e, v.f + w.f, v.g + w.g, v.h + w.h⟩

/-- The words most significant byte first. -/
def Digest.bytes (v : Digest) : Bytes :=
  [v.a, v.b, v.c, v.d, v.e, v.f, v.g, v.h].flatMap fun word => bigEndian 4 word.toNat

def choice (x y z : Word) : Word := (x &&& y) ^^^ (~~~x &&& z)
def majority (x y z : Word) : Word := (x &&& y) ^^^ (x &&& z) ^^^ (y &&& z)
def upperZero (x : Word) : Word := x.rotateRight 2 ^^^ x.rotateRight 13 ^^^ x.rotateRight 22
def upperOne (x : Word) : Word := x.rotateRight 6 ^^^ x.rotateRight 11 ^^^ x.rotateRight 25
def lowerZero (x : Word) : Word := x.rotateRight 7 ^^^ x.rotateRight 18 ^^^ x >>> 3
def lowerOne (x : Word) : Word := x.rotateRight 17 ^^^ x.rotateRight 19 ^^^ x >>> 10

/-- The message schedule of a block. -/
def schedule (block : List Word) (t : Nat) : Word :=
  if t < 16 then block.getD t 0
  else
    lowerOne (schedule block (t - 2)) + schedule block (t - 7) +
      lowerZero (schedule block (t - 15)) + schedule block (t - 16)
termination_by t

def round (constant word : Word) (v : Digest) : Digest :=
  let first := v.h + upperOne v.e + choice v.e v.f v.g + constant + word
  let second := upperZero v.a + majority v.a v.b v.c
  ⟨first + second, v.a, v.b, v.c, v.d + first, v.e, v.f, v.g⟩

def compress (v : Digest) (block : Bytes) : Digest :=
  ((List.range 64).foldl
    (fun w t => round (constants.getD t 0) (schedule (wordsOf block) t) w) v).add v

/-- The digest of a message. -/
def hash (message : Bytes) : Bytes := (BlockHash.digest compress initial message).bytes

/-! ## The computation over an array -/

section Loop

variable (rotate : Word → Nat → Word) (load : UInt8 → UInt8 → UInt8 → UInt8 → Word)
variable (table : List Word)

/-- The first words of the array are those of the block. -/
def loaded (block : Bytes) : List Word :=
  (List.range 16).map fun i =>
    load (block.getD (4 * i) 0) (block.getD (4 * i + 1) 0) (block.getD (4 * i + 2) 0)
      (block.getD (4 * i + 3) 0)

/-- The next `count` words of the array, each from four before it. -/
def extended : Nat → List Word → List Word
  | 0, w => w
  | count + 1, w =>
      let i := w.length
      let x := w.getD (i - 15) 0
      let y := w.getD (i - 2) 0
      extended count
        (w ++ [(rotate x 7 ^^^ rotate x 18 ^^^ x >>> 3) + w.getD (i - 16) 0 +
          (rotate y 17 ^^^ rotate y 19 ^^^ y >>> 10) + w.getD (i - 7) 0])

def turn (constant word : Word) (v : Digest) : Digest :=
  let t1 := v.h + (rotate v.e 6 ^^^ rotate v.e 11 ^^^ rotate v.e 25) +
    ((v.e &&& v.f) ^^^ (~~~v.e &&& v.g)) + constant + word
  let t2 := (rotate v.a 2 ^^^ rotate v.a 13 ^^^ rotate v.a 22) +
    ((v.a &&& v.b) ^^^ (v.a &&& v.c) ^^^ (v.b &&& v.c))
  ⟨t1 + t2, v.a, v.b, v.c, v.d + t1, v.e, v.f, v.g⟩

/-- The block taken in: the array filled, 64 turns, and the words added up. -/
def transform (v : Digest) (block : Bytes) : Digest :=
  let w := extended rotate 48 (loaded load block)
  v.add ((List.range 64).foldl (fun u i => turn rotate (table.getD i 0) (w.getD i 0) u) v)

variable {rotate load table}

theorem wordsOf_getD {i : Nat} {bytes : Bytes} (inside : 4 * i + 3 < bytes.length) :
    (wordsOf bytes).getD i 0 =
      BitVec.ofNat 32 ((bytes.getD (4 * i) 0).toNat * 2 ^ 24 +
        (bytes.getD (4 * i + 1) 0).toNat * 2 ^ 16 + (bytes.getD (4 * i + 2) 0).toNat * 2 ^ 8 +
          (bytes.getD (4 * i + 3) 0).toNat) := by
  induction i generalizing bytes with
  | zero =>
      match bytes, inside with
      | a :: b :: c :: d :: rest, _ => rfl
  | succ i inductionHypothesis =>
      match bytes, inside with
      | a :: b :: c :: d :: rest, inside =>
          have shorter : 4 * i + 3 < rest.length := by
            simp only [List.length_cons] at inside
            omega
          have later := inductionHypothesis shorter
          simpa [wordsOf, Nat.mul_add] using later

/-- The code's rotation, for the distances that a word has. -/
def Rotates (rotate : Word → Nat → Word) : Prop :=
  ∀ x n, n < 32 → rotate x n = x.rotateRight n

/-- The code's reading of a word from its bytes. -/
def Loads (load : UInt8 → UInt8 → UInt8 → UInt8 → Word) : Prop :=
  ∀ a b c d, load a b c d =
    BitVec.ofNat 32 (a.toNat * 2 ^ 24 + b.toNat * 2 ^ 16 + c.toNat * 2 ^ 8 + d.toNat)

theorem getD_map_range (f : Nat → Word) {i n : Nat} (inside : i < n) :
    ((List.range n).map f).getD i 0 = f i := by
  simp [List.getD_eq_getElem?_getD, inside]

theorem loaded_eq (loads : Loads load) {block : Bytes} (whole : block.length = 64) :
    loaded load block = (List.range 16).map (schedule (wordsOf block)) := by
  apply List.map_congr_left
  intro i listed
  have first : i < 16 := List.mem_range.mp listed
  have inside : 4 * i + 3 < block.length := by omega
  rw [schedule, if_pos first, wordsOf_getD inside]
  exact loads _ _ _ _

/-- The array holds the schedule, however far it is filled. -/
theorem extended_eq (rotates : Rotates rotate) (block : List Word) {filled : Nat}
    (begun : 16 ≤ filled) (count : Nat) :
    extended rotate count ((List.range filled).map (schedule block)) =
      (List.range (filled + count)).map (schedule block) := by
  induction count generalizing filled with
  | zero => rfl
  | succ count inductionHypothesis =>
      have beyond : ¬filled < 16 := Nat.not_lt_of_le begun
      have next : schedule block filled =
          lowerZero (schedule block (filled - 15)) + schedule block (filled - 16) +
            lowerOne (schedule block (filled - 2)) + schedule block (filled - 7) := by
        rw [schedule, if_neg beyond]
        ac_rfl
      have one_more : (List.range filled).map (schedule block) ++ [schedule block filled] =
          (List.range (filled + 1)).map (schedule block) := by
        rw [List.range_succ, List.map_append, List.map_singleton]
      have total : filled + (count + 1) = filled + 1 + count := by omega
      rw [total, ← inductionHypothesis (Nat.le_add_right_of_le begun), ← one_more, next]
      simp only [extended, List.length_map, List.length_range, lowerZero, lowerOne]
      rw [getD_map_range _ (by omega), getD_map_range _ (by omega), getD_map_range _ (by omega),
        getD_map_range _ (by omega), rotates _ 7 (by decide), rotates _ 18 (by decide),
        rotates _ 17 (by decide), rotates _ 19 (by decide)]

theorem turn_eq (rotates : Rotates rotate) (constant word : Word) (v : Digest) :
    turn rotate constant word v = round constant word v := by
  simp only [turn, round, upperOne, upperZero, choice, majority, rotates _ 6 (by decide),
    rotates _ 11 (by decide), rotates _ 25 (by decide), rotates _ 2 (by decide),
    rotates _ 13 (by decide), rotates _ 22 (by decide)]

theorem Digest.add_comm (v w : Digest) : v.add w = w.add v := by
  simp only [Digest.add, BitVec.add_comm]

/-- The array computes the compression of the standard. -/
theorem transform_eq (rotates : Rotates rotate) (loads : Loads load) (v : Digest) {block : Bytes}
    (whole : block.length = 64) : transform rotate load constants v block = compress v block := by
  have turns : ∀ w, ∀ i ∈ List.range 64,
      turn rotate (constants.getD i 0)
          (((List.range (16 + 48)).map (schedule (wordsOf block))).getD i 0) w =
        round (constants.getD i 0) (schedule (wordsOf block) i) w := by
    intro w i listed
    rw [turn_eq rotates, getD_map_range _ (List.mem_range.mp listed)]
  rw [transform, compress, loaded_eq loads whole, extended_eq rotates _ (Nat.le_refl 16),
    Digest.add_comm]
  exact congrArg (fun w => w.add v) (List.foldl_ext _ _ v turns)

/-- Whatever is hashed by such a loop has the digest of the standard. -/
theorem digest_transform (rotates : Rotates rotate) (loads : Loads load) (message : Bytes) :
    (BlockHash.digest (transform rotate load constants) initial message).bytes = hash message := by
  rw [hash, BlockHash.digest_congr fun v block whole => transform_eq rotates loads v whole]

end Loop

/-! ### Words by shifts -/

theorem rotates_shifts : Rotates fun x n => x >>> n ||| x <<< (32 - n) := by
  intro x n inside
  rw [BitVec.rotateRight_def, Nat.mod_eq_of_lt inside]

theorem loads_shifts : Loads fun a b c d =>
    BitVec.ofNat 32 a.toNat <<< 24 ||| BitVec.ofNat 32 b.toNat <<< 16 |||
      BitVec.ofNat 32 c.toNat <<< 8 ||| BitVec.ofNat 32 d.toNat := by
  intro a b c d
  have ha := a.toNat_lt
  have hb := b.toNat_lt
  have hc := c.toNat_lt
  have hd := d.toNat_lt
  have first : a.toNat * 2 ^ 24 ||| b.toNat * 2 ^ 16 = 2 ^ 16 * (2 ^ 8 * a.toNat + b.toNat) := by
    rw [Nat.mul_comm a.toNat, ← Nat.two_pow_add_eq_or_of_lt (by omega)]
    omega
  have second : 2 ^ 16 * (2 ^ 8 * a.toNat + b.toNat) ||| c.toNat * 2 ^ 8 =
      2 ^ 8 * (2 ^ 16 * a.toNat + 2 ^ 8 * b.toNat + c.toNat) := by
    rw [← Nat.two_pow_add_eq_or_of_lt (by omega)]
    omega
  have third : 2 ^ 8 * (2 ^ 16 * a.toNat + 2 ^ 8 * b.toNat + c.toNat) ||| d.toNat =
      a.toNat * 2 ^ 24 + b.toNat * 2 ^ 16 + c.toNat * 2 ^ 8 + d.toNat := by
    rw [← Nat.two_pow_add_eq_or_of_lt (by omega)]
    omega
  apply BitVec.eq_of_toNat_eq
  simp only [BitVec.toNat_or, BitVec.toNat_shiftLeft, BitVec.toNat_ofNat, Nat.shiftLeft_eq]
  simp (disch := omega) only [Nat.mod_eq_of_lt]
  rw [first, second, third]

/-- A word written byte by byte. -/
def storedWord (word : Word) : Bytes :=
  [UInt8.ofNat (word >>> 24).toNat, UInt8.ofNat (word >>> 16).toNat,
    UInt8.ofNat (word >>> 8).toNat, UInt8.ofNat word.toNat]

def Digest.stored (v : Digest) : Bytes :=
  [v.a, v.b, v.c, v.d, v.e, v.f, v.g, v.h].flatMap storedWord

theorem storedWord_eq (word : Word) : storedWord word = bigEndian 4 word.toNat := by
  simp only [storedWord, BitVec.toNat_ushiftRight]
  rfl

theorem Digest.stored_eq (v : Digest) : v.stored = v.bytes := by
  rw [Digest.stored, Digest.bytes, funext storedWord_eq]

/-- However a message is cut, its hash by such a loop is the standard's. -/
theorem stored_updates {rotate : Word → Nat → Word} {load : UInt8 → UInt8 → UInt8 → UInt8 → Word}
    (rotates : Rotates rotate) (loads : Loads load) (pieces : List Bytes) :
    (BlockHash.finish (transform rotate load constants)
      (pieces.foldl (BlockHash.update (transform rotate load constants))
        (BlockHash.Context.init initial))).stored = hash pieces.flatten := by
  rw [BlockHash.finish_updates, Digest.stored_eq, digest_transform rotates loads]

theorem length_hash (message : Bytes) : (hash message).length = 32 := by
  simp [hash, Digest.bytes, BlockHash.length_bigEndian]

end JooanW3U.Library.Sha256
