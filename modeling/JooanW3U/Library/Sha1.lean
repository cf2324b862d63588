import Mathlib.Algebra.Group.Nat.Defs
import Mathlib.Data.List.Basic

/-!
Owns the SHA-1 digest over byte lists, in executable form.

Does not own any use of the digest.
-/

namespace JooanW3U.Library.Sha1

abbrev Word := BitVec 32

/-- The five chaining words. -/
structure Digest where
  a : Word
  b : Word
  c : Word
  d : Word
  e : Word
deriving Repr, DecidableEq

def initial : Digest := ⟨0x67452301, 0xEFCDAB89, 0x98BADCFE, 0x10325476, 0xC3D2E1F0⟩

/-- The bytes of `value`, most significant first. -/
def bigEndian (count value : Nat) : List UInt8 :=
  (List.range count).reverse.map fun index => UInt8.ofNat (value >>> (8 * index))

/-- The message, the bit `1`, zeros up to eight bytes below a block boundary, and
the bit length. -/
def padded (message : List UInt8) : List UInt8 :=
  message ++ 0x80 :: List.replicate ((119 - message.length % 64) % 64) 0 ++
    bigEndian 8 (8 * message.length)

def wordsOf : List UInt8 → List Word
  | a :: b :: c :: d :: rest =>
      BitVec.ofNat 32 (a.toNat * 2 ^ 24 + b.toNat * 2 ^ 16 + c.toNat * 2 ^ 8 + d.toNat) ::
        wordsOf rest
  | _ => []

/-- The last words of the schedule, newest first, extended by `count` more. -/
def extend : Nat → List Word → List Word
  | 0, newest => newest
  | count + 1, newest =>
      extend count
        ((newest.getD 2 0 ^^^ newest.getD 7 0 ^^^ newest.getD 13 0 ^^^
          newest.getD 15 0).rotateLeft 1 :: newest)

/-- The 80 words of one block's schedule. -/
def schedule (block : List Word) : List Word := (extend 64 block.reverse).reverse

def mix (round : Nat) (b c d : Word) : Word :=
  if round < 20 then (b &&& c) ||| (~~~b &&& d)
  else if round < 40 then b ^^^ c ^^^ d
  else if round < 60 then (b &&& c) ||| (b &&& d) ||| (c &&& d)
  else b ^^^ c ^^^ d

def constant (round : Nat) : Word :=
  if round < 20 then 0x5A827999
  else if round < 40 then 0x6ED9EBA1
  else if round < 60 then 0x8F1BBCDC
  else 0xCA62C1D6

def round (index : Nat) (word : Word) (v : Digest) : Digest :=
  ⟨v.a.rotateLeft 5 + mix index v.b v.c v.d + v.e + constant index + word,
    v.a, v.b.rotateLeft 30, v.c, v.d⟩

def rounds : Nat → List Word → Digest → Digest
  | _, [], v => v
  | index, word :: rest, v => rounds (index + 1) rest (round index word v)

def compress (v : Digest) (block : List Word) : Digest :=
  let w := rounds 0 (schedule block) v
  ⟨v.a + w.a, v.b + w.b, v.c + w.c, v.d + w.d, v.e + w.e⟩

/-- The chaining value after `count` blocks of words. -/
def blocks : Nat → List Word → Digest → Digest
  | 0, _, v => v
  | count + 1, words, v => blocks count (words.drop 16) (compress v (words.take 16))

/-- The SHA-1 digest of a message. -/
def sha1 (message : List UInt8) : List UInt8 :=
  let bytes := padded message
  let v := blocks (bytes.length / 64) (wordsOf bytes) initial
  [v.a, v.b, v.c, v.d, v.e].flatMap fun word => bigEndian 4 word.toNat

theorem sha1_length (message : List UInt8) : (sha1 message).length = 20 := by
  simp [sha1, bigEndian]

example : (sha1 ("abc".toList.map fun c => UInt8.ofNat c.toNat)).take 4 =
    [0xA9, 0x99, 0x3E, 0x36] := by
  decide +kernel

end JooanW3U.Library.Sha1
