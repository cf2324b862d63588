import JooanW3U.Library.KeyDerivation
import JooanW3U.Guard.Sha256

/-!
Owns the daemon's SHA-256, keyed hash and key derivation, and that they and the guard's
SHA-256 compute what the standards define, however the bytes come in.

Does not own the passwords and files they are used on.
-/

namespace JooanW3U.Daemon.Crypto

open JooanW3U.Library
open JooanW3U.Library.Sha1 (Word bigEndian)
open JooanW3U.Library.BlockHash (Bytes Context)

/-! ## SHA-256 -/

def rr (x : Word) (n : Nat) : Word := (x >>> n) ||| (x <<< (32 - n))

def K : List Word :=
  [0x428a2f98, 0x71374491, 0xb5c0fbcf, 0xe9b5dba5, 0x3956c25b, 0x59f111f1, 0x923f82a4, 0xab1c5ed5,
   0xd807aa98, 0x12835b01, 0x243185be, 0x550c7dc3, 0x72be5d74, 0x80deb1fe, 0x9bdc06a7, 0xc19bf174,
   0xe49b69c1, 0xefbe4786, 0x0fc19dc6, 0x240ca1cc, 0x2de92c6f, 0x4a7484aa, 0x5cb0a9dc, 0x76f988da,
   0x983e5152, 0xa831c66d, 0xb00327c8, 0xbf597fc7, 0xc6e00bf3, 0xd5a79147, 0x06ca6351, 0x14292967,
   0x27b70a85, 0x2e1b2138, 0x4d2c6dfc, 0x53380d13, 0x650a7354, 0x766a0abb, 0x81c2c92e, 0x92722c85,
   0xa2bfe8a1, 0xa81a664b, 0xc24b8b70, 0xc76c51a3, 0xd192e819, 0xd6990624, 0xf40e3585, 0x106aa070,
   0x19a4c116, 0x1e376c08, 0x2748774c, 0x34b0bcb5, 0x391c0cb3, 0x4ed8aa4a, 0x5b9cca4f, 0x682e6ff3,
   0x748f82ee, 0x78a5636f, 0x84c87814, 0x8cc70208, 0x90befffa, 0xa4506ceb, 0xbef9a3f7, 0xc67178f2]

/-- The word that `block` makes of four bytes. -/
def word (a b c d : UInt8) : Word :=
  (BitVec.ofNat 32 a.toNat <<< 24) ||| (BitVec.ofNat 32 b.toNat <<< 16) |||
    (BitVec.ofNat 32 c.toNat <<< 8) ||| BitVec.ofNat 32 d.toNat

def block : Sha256.Digest → Bytes → Sha256.Digest := Sha256.transform rr word K

def init : Context Sha256.Digest :=
  Context.init
    ⟨0x6a09e667, 0xbb67ae85, 0x3c6ef372, 0xa54ff53a, 0x510e527f, 0x9b05688c, 0x1f83d9ab, 0x5be0cd19⟩

def upd (s : Context Sha256.Digest) (v : Bytes) : Context Sha256.Digest :=
  BlockHash.update block s v

def fin (s : Context Sha256.Digest) : Bytes := (BlockHash.finish block s).stored

def joan_sha256 (d : Bytes) : Bytes := fin (upd init d)

/-- Whatever calls of `upd` take the message in. -/
theorem fin_updates (pieces : List Bytes) :
    fin (pieces.foldl upd init) = Sha256.hash pieces.flatten := by
  have table : K = Sha256.constants := rfl
  have whole := Sha256.stored_updates Sha256.rotates_shifts Sha256.loads_shifts pieces
  rw [← table] at whole
  exact whole

theorem joan_sha256_eq (d : Bytes) : joan_sha256 d = Sha256.hash d := by
  have whole := fin_updates [d]
  rw [List.flatten_singleton] at whole
  exact whole

/-! ## The keyed hash -/

def hmac (k d : Bytes) : Bytes :=
  let k := if 64 < k.length then joan_sha256 k else k
  let kb := k ++ List.replicate (64 - k.length) 0
  let ip := kb.map (· ^^^ 0x36)
  let op := kb.map (· ^^^ 0x5c)
  let x := fin (upd (upd init ip) d)
  fin (upd (upd init op) x)

theorem hmac_eq (k d : Bytes) : hmac k d = KeyDerivation.hmac Sha256.hash k d := by
  have two : ∀ first second, fin (upd (upd init first) second) = Sha256.hash (first ++ second) := by
    intro first second
    have whole := fin_updates [first, second]
    rw [List.flatten_cons, List.flatten_singleton] at whole
    exact whole
  simp only [hmac, two, joan_sha256_eq]
  rfl

theorem length_hmac (k d : Bytes) : (hmac k d).length = 32 := by
  rw [hmac_eq, KeyDerivation.hmac, Sha256.length_hash]

/-! ## The derivation -/

/-- The rounds after the first, of which this many are left. -/
def mixRounds (pw : Bytes) : Nat → Bytes → Bytes → Bytes
  | 0, _, t => t
  | left + 1, u, t =>
      let u := hmac pw u
      mixRounds pw left u (List.zipWith (· ^^^ ·) t u)

/-- The loop over the blocks of the key, with fuel: a block writes a byte or more. -/
def deriveBlocks (pw salt : Bytes) (rounds : Nat) : Nat → Nat → Nat → Bytes
  | 0, _, _ => []
  | fuel + 1, bi, left =>
      if left = 0 then []
      else
        let u := hmac pw (salt ++ [UInt8.ofNat (bi >>> 24), UInt8.ofNat (bi >>> 16),
          UInt8.ofNat (bi >>> 8), UInt8.ofNat bi])
        let t := mixRounds pw (rounds - 1) u u
        let take := if left < 32 then left else 32
        t.take take ++ deriveBlocks pw salt rounds fuel ((bi + 1) % 2 ^ 32) (left - take)

/-- What is written to `out`, if anything is. -/
def joan_pbkdf2_sha256 (pw salt : Bytes) (rounds on : Nat) : Option Bytes :=
  if 123 < salt.length ∨ rounds = 0 then none
  else some (deriveBlocks pw salt rounds on 1 on)

theorem mixRounds_eq {pw salt : Bytes} {index : Nat} (left done : Nat) :
    mixRounds pw left (KeyDerivation.iterated hmac pw salt index done)
        (KeyDerivation.mixed hmac pw salt index done) =
      KeyDerivation.mixed hmac pw salt index (done + left) := by
  induction left generalizing done with
  | zero => rfl
  | succ left inductionHypothesis =>
      have later := inductionHypothesis (done + 1)
      rw [Nat.add_right_comm] at later
      exact later

theorem deriveBlocks_done (pw salt : Bytes) (rounds fuel index : Nat) :
    deriveBlocks pw salt rounds fuel index 0 = [] := by
  cases fuel with
  | zero => rfl
  | succ fuel => rfl

/-- The mixed block that a turn of the loop computes. -/
theorem mixRounds_first (pw salt : Bytes) (rounds index : Nat) :
    mixRounds pw rounds (hmac pw (salt ++ bigEndian 4 index))
        (hmac pw (salt ++ bigEndian 4 index)) =
      KeyDerivation.mixed hmac pw salt index rounds := by
  have mixed := @mixRounds_eq pw salt index rounds 0
  rw [Nat.zero_add] at mixed
  exact mixed

/-- The blocks are those of the standard while their index does not wrap. -/
theorem deriveBlocks_eq {pw salt : Bytes} {rounds fuel index left : Nat} (enough : left ≤ fuel)
    (unwrapped : index + (left + 31) / 32 ≤ 2 ^ 32) :
    deriveBlocks pw salt rounds fuel index left =
      (KeyDerivation.blocks hmac pw salt rounds index ((left + 31) / 32)).take left := by
  induction fuel generalizing index left with
  | zero =>
      have nothing : left = 0 := Nat.le_zero.mp enough
      rw [nothing, List.take_zero]
      rfl
  | succ fuel inductionHypothesis =>
      by_cases nothing : left = 0
      · rw [nothing, List.take_zero]
        rfl
      have width : (KeyDerivation.mixed hmac pw salt index (rounds - 1)).length = 32 :=
        KeyDerivation.length_mixed (length_hmac pw) index (rounds - 1)
      have written : [UInt8.ofNat (index >>> 24), UInt8.ofNat (index >>> 16),
          UInt8.ofNat (index >>> 8), UInt8.ofNat index] = bigEndian 4 index := rfl
      simp only [deriveBlocks, if_neg nothing, written, mixRounds_first]
      by_cases last : left ≤ 32
      · have one : (left + 31) / 32 = 0 + 1 := by omega
        have take : (if left < 32 then left else 32) = left := by
          split <;> omega
        rw [take, Nat.sub_self, deriveBlocks_done, one, KeyDerivation.blocks_succ,
          List.append_nil, List.take_append_of_le_length (by omega)]
      · have take : (if left < 32 then left else 32) = 32 := if_neg (by omega)
        have more : (left + 31) / 32 = (left - 32 + 31) / 32 + 1 := by omega
        have low : (index + 1) % 2 ^ 32 = index + 1 := Nat.mod_eq_of_lt (by omega)
        have rest := @inductionHypothesis (index + 1) (left - 32) (by omega) (by omega)
        have covered : (KeyDerivation.mixed hmac pw salt index (rounds - 1)).take left =
            KeyDerivation.mixed hmac pw salt index (rounds - 1) :=
          List.take_of_length_le (by omega)
        have whole : (KeyDerivation.mixed hmac pw salt index (rounds - 1)).take 32 =
            KeyDerivation.mixed hmac pw salt index (rounds - 1) :=
          List.take_of_length_le (Nat.le_of_eq width)
        rw [take, low, rest, more, KeyDerivation.blocks_succ, whole, List.take_append, width, covered]

/-- The bytes of any text hashed, and of any key derived, are those of the standards. -/
theorem digests_standard :
    (∀ pieces : List Bytes,
      fin (pieces.foldl upd init) = Sha256.hash pieces.flatten ∧
        Guard.Sha256.sha256_final (pieces.foldl Guard.Sha256.sha256_update
          Guard.Sha256.sha256_init) = Sha256.hash pieces.flatten) ∧
    (∀ key text, hmac key text = KeyDerivation.hmac Sha256.hash key text) ∧
    ∀ pw salt rounds on, salt.length ≤ 123 →
      (rounds = 0 → joan_pbkdf2_sha256 pw salt rounds on = none) ∧
        ∀ key, KeyDerivation.pbkdf2 (KeyDerivation.hmac Sha256.hash) 32 pw salt rounds on =
            some key →
          joan_pbkdf2_sha256 pw salt rounds on = some key := by
  refine ⟨fun pieces => ⟨fin_updates pieces, Guard.Sha256.sha256_final_updates pieces⟩, hmac_eq, ?_⟩
  intro pw salt rounds on short
  have same : hmac = KeyDerivation.hmac Sha256.hash := by
    funext key text
    exact hmac_eq key text
  refine ⟨fun none_left => if_pos (Or.inr none_left), ?_⟩
  intro key derived
  rw [← same, KeyDerivation.pbkdf2] at derived
  split at derived
  · contradiction
  · next defined =>
      have some_rounds : ¬(123 < salt.length ∨ rounds = 0) := by omega
      rw [joan_pbkdf2_sha256, if_neg some_rounds, deriveBlocks_eq (Nat.le_refl on) (by omega)]
      exact derived

theorem digests_standard_sample :
    [7, 8].length ≤ 123 ∧
      joan_pbkdf2_sha256 [1] [7, 8] 0 20 = none ∧
        joan_pbkdf2_sha256 [1] [7, 8] 2 40 =
          KeyDerivation.pbkdf2 (KeyDerivation.hmac Sha256.hash) 32 [1] [7, 8] 2 40 :=
  ⟨by decide, (digests_standard.2.2 [1] [7, 8] 0 20 (by decide)).1 rfl,
    (digests_standard.2.2 [1] [7, 8] 2 40 (by decide)).2 _ rfl⟩

/-- The padding of a text of 56 bytes spills into a second block. -/
example : (joan_sha256 (List.replicate 56 97)).take 4 = [0xb3, 0x54, 0x39, 0xa4] := by
  decide +kernel

end JooanW3U.Daemon.Crypto
