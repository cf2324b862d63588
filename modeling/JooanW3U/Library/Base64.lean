import Mathlib.Data.List.Basic

/-!
Owns padded base64: encoding, strict decoding, and the length of an encoding.

Does not own buffers or capacities.
-/

namespace JooanW3U.Library.Base64

def alphabet : List Char :=
  "ABCDEFGHIJKLMNOPQRSTUVWXYZabcdefghijklmnopqrstuvwxyz0123456789+/".toList

/-- The character of a six-bit value. -/
def digit (value : Nat) : Char := alphabet.getD (value % 64) 'A'

/-- Three bytes a group; the last group is padded. -/
def encode : List UInt8 → List Char
  | a :: b :: c :: rest =>
      let n := a.toNat * 65536 + b.toNat * 256 + c.toNat
      digit (n / 262144) :: digit (n / 4096) :: digit (n / 64) :: digit n :: encode rest
  | [a, b] =>
      let n := a.toNat * 65536 + b.toNat * 256
      [digit (n / 262144), digit (n / 4096), digit (n / 64), '=']
  | [a] =>
      let n := a.toNat * 65536
      [digit (n / 262144), digit (n / 4096), '=', '=']
  | [] => []

/-- The value of a character, when it is of the alphabet. -/
def value (c : Char) : Option Nat := alphabet.findIdx? (· == c)

/-- Whole groups only; padding only in the last group. -/
def decode : List Char → Option (List UInt8)
  | [] => some []
  | [a, b, '=', '='] => do
      let n := (← value a) * 262144 + (← value b) * 4096
      return [UInt8.ofNat (n / 65536)]
  | [a, b, c, '='] => do
      let n := (← value a) * 262144 + (← value b) * 4096 + (← value c) * 64
      return [UInt8.ofNat (n / 65536), UInt8.ofNat (n / 256)]
  | a :: b :: c :: d :: rest => do
      let n := (← value a) * 262144 + (← value b) * 4096 + (← value c) * 64 + (← value d)
      let tail ← decode rest
      return UInt8.ofNat (n / 65536) :: UInt8.ofNat (n / 256) :: UInt8.ofNat n :: tail
  | _ => none

theorem encode_length (bytes : List UInt8) :
    (encode bytes).length = 4 * ((bytes.length + 2) / 3) := by
  induction bytes using encode.induct with
  | case1 a b c rest inductionHypothesis =>
      simp only [encode, List.length_cons, inductionHypothesis]
      omega
  | case2 => simp [encode]
  | case3 => simp [encode]
  | case4 => rfl

example : encode [0x66, 0x6F, 0x6F, 0x62] = "Zm9vYg==".toList := by decide

end JooanW3U.Library.Base64
