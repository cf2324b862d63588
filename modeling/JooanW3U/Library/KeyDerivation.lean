import JooanW3U.Library.BlockHash

/-!
Owns the keyed hash and the derivation of keys from passwords, as their standards define
them over any hash of 64-byte blocks.

Does not own a hash.
-/

namespace JooanW3U.Library.KeyDerivation

open Sha1 (bigEndian)
open BlockHash (Bytes)

/-- The key filled up to a block, every byte of it changed by `fill`. -/
def pad (fill : UInt8) (key : Bytes) : Bytes :=
  (key ++ List.replicate (64 - key.length) 0).map (· ^^^ fill)

/-- The keyed hash; a key longer than a block is hashed first. -/
def hmac (hash : Bytes → Bytes) (key text : Bytes) : Bytes :=
  let key := if 64 < key.length then hash key else key
  hash (pad 0x5c key ++ hash (pad 0x36 key ++ text))

def exclusiveOr (x y : Bytes) : Bytes := List.zipWith (· ^^^ ·) x y

section Derivation

variable (prf : Bytes → Bytes → Bytes) (width : Nat) (password salt : Bytes)

/-- The function of the salt and the block's index, and of its own value from then on. -/
def iterated (index : Nat) : Nat → Bytes
  | 0 => prf password (salt ++ bigEndian 4 index)
  | round + 1 => prf password (iterated index round)

/-- The first values put together. -/
def mixed (index : Nat) : Nat → Bytes
  | 0 => iterated prf password salt index 0
  | round + 1 =>
      exclusiveOr (mixed index round) (iterated prf password salt index (round + 1))

/-- `count` blocks of the key, from this index on. -/
def blocks (rounds first count : Nat) : Bytes :=
  (List.range count).flatMap fun i => mixed prf password salt (first + i) (rounds - 1)

/-- The derived key: there is none without a round, nor one longer than `2 ^ 32 - 1` blocks. -/
def pbkdf2 (rounds length : Nat) : Option Bytes :=
  if rounds = 0 ∨ (2 ^ 32 - 1) * width < length then none
  else some ((blocks prf password salt rounds 1 ((length + width - 1) / width)).take length)

variable {prf width password salt}

theorem length_mixed (wide : ∀ text, (prf password text).length = width) (index rounds : Nat) :
    (mixed prf password salt index rounds).length = width := by
  induction rounds with
  | zero => exact wide _
  | succ rounds inductionHypothesis =>
      rw [mixed, exclusiveOr, List.length_zipWith, inductionHypothesis, iterated, wide, Nat.min_self]

theorem blocks_succ (rounds first count : Nat) :
    blocks prf password salt rounds first (count + 1) =
      mixed prf password salt first (rounds - 1) ++
        blocks prf password salt rounds (first + 1) count := by
  rw [blocks, List.range_succ_eq_map, List.flatMap_cons, List.flatMap_map, Nat.add_zero, blocks]
  have shifted : (fun i => mixed prf password salt (first + Nat.succ i) (rounds - 1)) =
      fun i => mixed prf password salt (first + 1 + i) (rounds - 1) := by
    funext i
    rw [Nat.succ_eq_add_one, Nat.add_assoc, Nat.add_comm 1 i]
  rw [shifted]

end Derivation

end JooanW3U.Library.KeyDerivation
