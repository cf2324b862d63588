import JooanW3U.Library.Sha256

/-!
Owns the guard's SHA-256: the context that `sha256_update` fills and the digest that
`sha256_final` writes.

Does not own the files and texts the guard hashes.
-/

namespace JooanW3U.Guard.Sha256

open JooanW3U.Library
open JooanW3U.Library.Sha1 (Word)
open JooanW3U.Library.BlockHash (Bytes Context)

def round_constants : List Word :=
  [0x428a2f98, 0x71374491, 0xb5c0fbcf, 0xe9b5dba5,
   0x3956c25b, 0x59f111f1, 0x923f82a4, 0xab1c5ed5,
   0xd807aa98, 0x12835b01, 0x243185be, 0x550c7dc3,
   0x72be5d74, 0x80deb1fe, 0x9bdc06a7, 0xc19bf174,
   0xe49b69c1, 0xefbe4786, 0x0fc19dc6, 0x240ca1cc,
   0x2de92c6f, 0x4a7484aa, 0x5cb0a9dc, 0x76f988da,
   0x983e5152, 0xa831c66d, 0xb00327c8, 0xbf597fc7,
   0xc6e00bf3, 0xd5a79147, 0x06ca6351, 0x14292967,
   0x27b70a85, 0x2e1b2138, 0x4d2c6dfc, 0x53380d13,
   0x650a7354, 0x766a0abb, 0x81c2c92e, 0x92722c85,
   0xa2bfe8a1, 0xa81a664b, 0xc24b8b70, 0xc76c51a3,
   0xd192e819, 0xd6990624, 0xf40e3585, 0x106aa070,
   0x19a4c116, 0x1e376c08, 0x2748774c, 0x34b0bcb5,
   0x391c0cb3, 0x4ed8aa4a, 0x5b9cca4f, 0x682e6ff3,
   0x748f82ee, 0x78a5636f, 0x84c87814, 0x8cc70208,
   0x90befffa, 0xa4506ceb, 0xbef9a3f7, 0xc67178f2]

def rotate_right (value : Word) (amount : Nat) : Word :=
  (value >>> amount) ||| (value <<< (32 - amount))

def load_be32 (a b c d : UInt8) : Word :=
  (BitVec.ofNat 32 a.toNat <<< 24) ||| (BitVec.ofNat 32 b.toNat <<< 16) |||
    (BitVec.ofNat 32 c.toNat <<< 8) ||| BitVec.ofNat 32 d.toNat

def sha256_transform : Sha256.Digest → Bytes → Sha256.Digest :=
  Sha256.transform rotate_right load_be32 round_constants

def initial_state : Sha256.Digest :=
  ⟨0x6a09e667, 0xbb67ae85, 0x3c6ef372, 0xa54ff53a, 0x510e527f, 0x9b05688c, 0x1f83d9ab, 0x5be0cd19⟩

def sha256_init : Context Sha256.Digest := Context.init initial_state

def sha256_update (context : Context Sha256.Digest) (input : Bytes) : Context Sha256.Digest :=
  BlockHash.update sha256_transform context input

def sha256_final (context : Context Sha256.Digest) : Bytes :=
  (BlockHash.finish sha256_transform context).stored

/-- Whatever calls of `sha256_update` take the message in. -/
theorem sha256_final_updates (pieces : List Bytes) :
    sha256_final (pieces.foldl sha256_update sha256_init) = Sha256.hash pieces.flatten := by
  have table : round_constants = Sha256.constants := rfl
  have start : initial_state = Sha256.initial := rfl
  have whole := Sha256.stored_updates Sha256.rotates_shifts Sha256.loads_shifts pieces
  rw [← table, ← start] at whole
  exact whole

end JooanW3U.Guard.Sha256
