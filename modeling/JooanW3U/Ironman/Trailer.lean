import JooanW3U.Library.AdjacentSwaps
import Mathlib.Data.Nat.Bitwise

/-!
Owns the trailer codec of `trailer.py`: `qa_decode`, and `qa_encode` with its
refusals. Main results: every trailer has an encoding, and `qa_encode` finds one
unless the exchanges of its stride overlap.

Does not own the fields of a trailer, or the `size` argument, which is the length of
a trailer in every call.
-/

namespace JooanW3U.Ironman.Trailer

open JooanW3U.Library.AdjacentSwaps

abbrev Bytes := List UInt8

def TRAILER_LEN : Nat := 0x60

/-! ### The codec -/

/-- A byte of a list that is long enough. -/
def byteAt (data : Bytes) (offset : Nat) : Nat := (data.getD offset 0).toNat

/-- `… & 0xFF`. -/
def byte (value : Nat) : UInt8 := UInt8.ofNat (value &&& 0xFF)

/-- The stride the last byte of an encoding names. -/
def strideOf (data : Bytes) : Nat := ((byteAt data (TRAILER_LEN - 1) >>> 2) &&& 0x0F) + 1

/-- The offsets of the exchanges, from the last one down. -/
def offsets (stride : Nat) : Nat → List Nat
  | 0 => []
  | count + 1 => (count + 1) * stride :: offsets stride count

/-- `_swap_pairs`, also the first part of `qa_decode`. -/
def swapPairs (data : Bytes) (stride : Nat) : Bytes :=
  swaps data (offsets stride ((TRAILER_LEN - 3) / stride))

/-- The second part of `qa_decode`: the bits turn right by two. -/
def rotateRightTwo (swapped : Bytes) : Bytes :=
  (List.range TRAILER_LEN).map fun offset =>
    byte ((byteAt swapped offset >>> 2) |||
      (byteAt swapped (if offset = 0 then TRAILER_LEN - 1 else offset - 1) <<< 6))

/-- `_rotate_left_two`. -/
def rotateLeftTwo (decoded : Bytes) : Bytes :=
  (List.range TRAILER_LEN).map fun offset =>
    byte ((byteAt decoded offset <<< 2) |||
      (byteAt decoded (if offset = TRAILER_LEN - 1 then 0 else offset + 1) >>> 6))

/-- `qa_decode`; `none` is its `ValueError`. -/
def qaDecode (raw : Bytes) : Option Bytes :=
  if raw.length < TRAILER_LEN then none
  else
    let swapped := raw.take TRAILER_LEN
    some (rotateRightTwo (swapPairs swapped (strideOf swapped)))

inductive EncodeError
  | valueError
  | unencodableTrailer
deriving Repr, DecidableEq

/-- `qa_encode`. -/
def qaEncode (decoded : Bytes) : Except EncodeError Bytes :=
  if decoded.length ≠ TRAILER_LEN then .error .valueError
  else
    let rotated := rotateLeftTwo decoded
    let encoded := swapPairs rotated (strideOf rotated)
    if qaDecode encoded ≠ some decoded then .error .unencodableTrailer else .ok encoded

/-! ### Bytes -/

theorem byte_right (current previous : Nat) (small : current < 256) :
    (byte ((current >>> 2) ||| (previous <<< 6))).toNat = current / 4 + 64 * (previous % 4) := by
  have low : current >>> 2 < 2 ^ 6 := by
    rw [Nat.shiftRight_eq_div_pow]
    omega
  rw [byte, Nat.or_comm, ← Nat.shiftLeft_add_eq_or_of_lt low, Nat.shiftLeft_eq,
    Nat.shiftRight_eq_div_pow, show (0xFF : Nat) = 2 ^ 8 - 1 by rfl,
    Nat.and_two_pow_sub_one_eq_mod, UInt8.toNat_ofNat']
  omega

theorem byte_left (current next : Nat) (small : next < 256) :
    (byte ((current <<< 2) ||| (next >>> 6))).toNat = 4 * (current % 64) + next / 64 := by
  have low : next >>> 6 < 2 ^ 2 := by
    rw [Nat.shiftRight_eq_div_pow]
    omega
  rw [byte, ← Nat.shiftLeft_add_eq_or_of_lt low, Nat.shiftLeft_eq,
    Nat.shiftRight_eq_div_pow, show (0xFF : Nat) = 2 ^ 8 - 1 by rfl,
    Nat.and_two_pow_sub_one_eq_mod, UInt8.toNat_ofNat']
  omega

theorem byteAt_lt (data : Bytes) (offset : Nat) : byteAt data offset < 256 := UInt8.toNat_lt _

@[simp] theorem rotateRightTwo_length (data : Bytes) :
    (rotateRightTwo data).length = TRAILER_LEN := by
  rw [rotateRightTwo, List.length_map, List.length_range]

@[simp] theorem rotateLeftTwo_length (data : Bytes) :
    (rotateLeftTwo data).length = TRAILER_LEN := by
  rw [rotateLeftTwo, List.length_map, List.length_range]

theorem rotateRightTwo_at (data : Bytes) {offset : Nat} (inside : offset < TRAILER_LEN) :
    byteAt (rotateRightTwo data) offset = byteAt data offset / 4 +
      64 * (byteAt data (if offset = 0 then TRAILER_LEN - 1 else offset - 1) % 4) := by
  have item : (rotateRightTwo data)[offset]? = _ :=
    List.getElem?_map.trans (congrArg _ (List.getElem?_range inside))
  rw [byteAt, List.getD_eq_getElem?_getD, item]
  exact byte_right _ _ (byteAt_lt data offset)

theorem rotateLeftTwo_at (data : Bytes) {offset : Nat} (inside : offset < TRAILER_LEN) :
    byteAt (rotateLeftTwo data) offset = 4 * (byteAt data offset % 64) +
      byteAt data (if offset = TRAILER_LEN - 1 then 0 else offset + 1) / 64 := by
  have item : (rotateLeftTwo data)[offset]? = _ :=
    List.getElem?_map.trans (congrArg _ (List.getElem?_range inside))
  rw [byteAt, List.getD_eq_getElem?_getD, item]
  exact byte_left _ _ (byteAt_lt data _)

theorem ext_at {first second : Bytes} (firstLength : first.length = TRAILER_LEN)
    (secondLength : second.length = TRAILER_LEN)
    (same : ∀ offset < TRAILER_LEN, byteAt first offset = byteAt second offset) : first = second := by
  apply List.ext_getElem (firstLength.trans secondLength.symm)
  intro offset inFirst inSecond
  have bytes := same offset (firstLength ▸ inFirst)
  rw [byteAt, byteAt, List.getD_eq_getElem _ _ inFirst, List.getD_eq_getElem _ _ inSecond] at bytes
  exact UInt8.toNat_inj.mp bytes

theorem rotateRight_left {decoded : Bytes} (length : decoded.length = TRAILER_LEN) :
    rotateRightTwo (rotateLeftTwo decoded) = decoded := by
  apply ext_at (rotateRightTwo_length _) length
  intro offset inside
  have size : TRAILER_LEN = 96 := rfl
  have small := byteAt_lt decoded offset
  have next := byteAt_lt decoded (if offset = TRAILER_LEN - 1 then 0 else offset + 1)
  rw [rotateRightTwo_at _ inside, rotateLeftTwo_at _ inside]
  by_cases first : offset = 0
  · subst first
    have previous : byteAt (rotateLeftTwo decoded) (TRAILER_LEN - 1) =
        4 * (byteAt decoded (TRAILER_LEN - 1) % 64) + byteAt decoded 0 / 64 := by
      rw [rotateLeftTwo_at _ (by omega), if_pos rfl]
    have following : (if (0 : Nat) = TRAILER_LEN - 1 then 0 else 0 + 1) = 1 := rfl
    rw [following] at next
    rw [if_pos rfl, previous, following]
    omega
  · have previous : byteAt (rotateLeftTwo decoded) (offset - 1) =
        4 * (byteAt decoded (offset - 1) % 64) + byteAt decoded offset / 64 := by
      rw [rotateLeftTwo_at _ (by omega), if_neg (by omega), Nat.sub_add_cancel (by omega)]
    rw [if_neg first, previous]
    omega

theorem rotateLeft_right {swapped : Bytes} (length : swapped.length = TRAILER_LEN) :
    rotateLeftTwo (rotateRightTwo swapped) = swapped := by
  apply ext_at (rotateLeftTwo_length _) length
  intro offset inside
  have size : TRAILER_LEN = 96 := rfl
  have small := byteAt_lt swapped offset
  have before := byteAt_lt swapped (if offset = 0 then TRAILER_LEN - 1 else offset - 1)
  rw [rotateLeftTwo_at _ inside, rotateRightTwo_at _ inside]
  by_cases last : offset = TRAILER_LEN - 1
  · have next : byteAt (rotateRightTwo swapped) 0 =
        byteAt swapped 0 / 4 + 64 * (byteAt swapped offset % 4) := by
      rw [rotateRightTwo_at _ (by omega), if_pos rfl, last]
    have first := byteAt_lt swapped 0
    rw [if_pos last, next]
    omega
  · have next : byteAt (rotateRightTwo swapped) (offset + 1) =
        byteAt swapped (offset + 1) / 4 + 64 * (byteAt swapped offset % 4) := by
      rw [rotateRightTwo_at _ (by omega), if_neg (by omega), Nat.add_sub_cancel]
    have following := byteAt_lt swapped (offset + 1)
    rw [if_neg last, next]
    omega

theorem rotateRight_inj {first second : Bytes} (firstLength : first.length = TRAILER_LEN)
    (secondLength : second.length = TRAILER_LEN)
    (same : rotateRightTwo first = rotateRightTwo second) : first = second := by
  rw [← rotateLeft_right firstLength, same, rotateLeft_right secondLength]

/-! ### The exchanges -/

theorem offsets_spec {stride count position : Nat} (listed : position ∈ offsets stride count) :
    ∃ turn, 1 ≤ turn ∧ turn ≤ count ∧ position = turn * stride := by
  induction count with
  | zero => cases listed
  | succ count inductionHypothesis =>
      rcases List.mem_cons.mp listed with here | later
      · exact ⟨count + 1, by omega, Nat.le_refl _, here⟩
      · obtain ⟨turn, low, high, shape⟩ := inductionHypothesis later
        exact ⟨turn, low, by omega, shape⟩

/-- The last exchange is inside, and short of the last byte. -/
theorem offsets_high {stride position : Nat}
    (listed : position ∈ offsets stride ((TRAILER_LEN - 3) / stride)) :
    position ≤ TRAILER_LEN - 3 := by
  obtain ⟨turn, -, high, rfl⟩ := offsets_spec listed
  exact (Nat.mul_le_mul_right stride high).trans (Nat.div_mul_le_self _ _)

/-- From a stride of two on, the exchanges do not overlap. -/
theorem offsets_apart {stride count : Nat} (wide : 2 ≤ stride) :
    ∀ first ∈ offsets stride count, ∀ second ∈ offsets stride count,
      first < second → first + 1 < second := by
  intro first inFirst second inSecond less
  obtain ⟨early, -, -, rfl⟩ := offsets_spec inFirst
  obtain ⟨late, -, -, rfl⟩ := offsets_spec inSecond
  have order : early < late := Nat.lt_of_mul_lt_mul_right less
  have step : (early + 1) * stride ≤ late * stride := Nat.mul_le_mul_right stride order
  rw [Nat.succ_mul] at step
  omega

theorem offsets_one (count : Nat) : offsets 1 count = descend count := by
  induction count with
  | zero => rfl
  | succ count inductionHypothesis => rw [offsets, descend, inductionHypothesis, Nat.mul_one]

@[simp] theorem swapPairs_length (data : Bytes) (stride : Nat) :
    (swapPairs data stride).length = data.length := swaps_length _ _

/-- No exchange touches the byte that names the stride. -/
theorem strideOf_swaps (data : Bytes) {positions : List Nat}
    (low : ∀ position ∈ positions, position ≤ TRAILER_LEN - 3) :
    strideOf (swaps data positions) = strideOf data := by
  have size : TRAILER_LEN = 96 := rfl
  have last : (swaps data positions)[TRAILER_LEN - 1]? = data[TRAILER_LEN - 1]? :=
    swaps_untouched fun position listed => by
      have bound := low position listed
      omega
  rw [strideOf, strideOf, byteAt, byteAt, List.getD_eq_getElem?_getD, last,
    ← List.getD_eq_getElem?_getD]

theorem strideOf_swapPairs (data : Bytes) (stride : Nat) :
    strideOf (swapPairs data stride) = strideOf data :=
  strideOf_swaps data fun _ listed => offsets_high listed

theorem strideOf_pos (data : Bytes) : 1 ≤ strideOf data := Nat.le_add_left 1 _

/-- The exchanges undo themselves, unless their stride is one. -/
theorem swapPairs_twice_iff {data : Bytes} (length : data.length = TRAILER_LEN) {stride : Nat}
    (positive : 1 ≤ stride) :
    swapPairs (swapPairs data stride) stride = data ↔
      stride ≠ 1 ∨ Alternates data (TRAILER_LEN - 3) := by
  have size : TRAILER_LEN = 96 := rfl
  by_cases one : stride = 1
  · have run : offsets 1 ((TRAILER_LEN - 3) / 1) = descend (TRAILER_LEN - 3) := offsets_one _
    have twice := @descend_twice_iff _ data (TRAILER_LEN - 3) (by omega) (by omega)
    rw [one, swapPairs, swapPairs, run, twice]
    exact ⟨Or.inr, fun either => either.resolve_left fun different => different rfl⟩
  · have back : swapPairs (swapPairs data stride) stride = data :=
      swaps_swaps (offsets_apart (by omega)) data
    exact ⟨fun _ => Or.inl one, fun _ => back⟩

/-! ### Decoding and encoding -/

theorem qaDecode_eq {raw : Bytes} (length : raw.length = TRAILER_LEN) :
    qaDecode raw = some (rotateRightTwo (swapPairs raw (strideOf raw))) := by
  have whole : raw.take TRAILER_LEN = raw := List.take_of_length_le (by omega)
  rw [qaDecode, if_neg (by omega)]
  simp only [whole]

/-- What decodes to `decoded` is what the exchanges turn into its rotation. -/
theorem qaDecode_iff {raw decoded : Bytes} (rawLength : raw.length = TRAILER_LEN)
    (length : decoded.length = TRAILER_LEN) :
    qaDecode raw = some decoded ↔ swapPairs raw (strideOf raw) = rotateLeftTwo decoded := by
  have swappedLength : (swapPairs raw (strideOf raw)).length = TRAILER_LEN := by
    rw [swapPairs_length, rawLength]
  rw [qaDecode_eq rawLength, Option.some.injEq]
  constructor
  · intro decodes
    rw [← decodes, rotateLeft_right swappedLength]
  · intro swapped
    rw [swapped, rotateRight_left length]

/-- Every trailer has an encoding: the same exchanges, made from the first one up. -/
theorem encoding_exists {decoded : Bytes} (length : decoded.length = TRAILER_LEN) :
    ∃ raw : Bytes, raw.length = TRAILER_LEN ∧ qaDecode raw = some decoded := by
  have rotatedLength := rotateLeftTwo_length decoded
  generalize hr : rotateLeftTwo decoded = rotated at rotatedLength
  generalize ho : offsets (strideOf rotated) ((TRAILER_LEN - 3) / strideOf rotated) = run
  have low : ∀ position ∈ run.reverse, position ≤ TRAILER_LEN - 3 := by
    intro position listed
    rw [← ho, List.mem_reverse] at listed
    exact offsets_high listed
  have rawLength : (swaps rotated run.reverse).length = TRAILER_LEN := by
    rw [swaps_length, rotatedLength]
  refine ⟨swaps rotated run.reverse, rawLength, ?_⟩
  rw [qaDecode_iff rawLength length, swapPairs, strideOf_swaps rotated low, ho, hr]
  have back := swaps_reverse rotated run.reverse
  rw [List.reverse_reverse] at back
  exact back

/-- When `qa_encode` gives a trailer, and which. -/
theorem qaEncode_spec {decoded : Bytes} (length : decoded.length = TRAILER_LEN) :
    (qaEncode decoded = .ok (swapPairs (rotateLeftTwo decoded) (strideOf (rotateLeftTwo decoded))) ∧
      qaDecode (swapPairs (rotateLeftTwo decoded) (strideOf (rotateLeftTwo decoded))) =
        some decoded ∧
      (strideOf (rotateLeftTwo decoded) ≠ 1 ∨
        Alternates (rotateLeftTwo decoded) (TRAILER_LEN - 3))) ∨
    (qaEncode decoded = .error .unencodableTrailer ∧
      ¬ (strideOf (rotateLeftTwo decoded) ≠ 1 ∨
        Alternates (rotateLeftTwo decoded) (TRAILER_LEN - 3))) := by
  have rotatedLength := rotateLeftTwo_length decoded
  have encodedLength :
      (swapPairs (rotateLeftTwo decoded) (strideOf (rotateLeftTwo decoded))).length =
        TRAILER_LEN := by
    rw [swapPairs_length, rotatedLength]
  have decodes := qaDecode_iff encodedLength length
  rw [strideOf_swapPairs, swapPairs_twice_iff rotatedLength (strideOf_pos _)] at decodes
  unfold qaEncode
  rw [if_neg (fun different => different length)]
  dsimp only
  by_cases back : qaDecode (swapPairs (rotateLeftTwo decoded)
      (strideOf (rotateLeftTwo decoded))) = some decoded
  · left
    rw [if_neg (fun different => different back)]
    exact ⟨rfl, back, decodes.mp back⟩
  · right
    rw [if_pos back]
    exact ⟨rfl, fun either => back (decodes.mpr either)⟩

/-! ### Completeness -/

/-- The encoder finds an encoding when there is one, and refuses only when there is none. -/
def Complete (decoded : Bytes) : Prop :=
  ((∃ raw : Bytes, raw.length = TRAILER_LEN ∧ qaDecode raw = some decoded) →
    ∃ encoded, qaEncode decoded = .ok encoded) ∧
  (∀ encoded, qaEncode decoded = .ok encoded → qaDecode encoded = some decoded) ∧
  (qaEncode decoded = .error .unencodableTrailer →
    ¬ ∃ raw : Bytes, raw.length = TRAILER_LEN ∧ qaDecode raw = some decoded)

/-- The encoder is complete exactly on the trailers whose last byte does not name the stride
one, and on those whose rotation alternates. -/
theorem complete_iff_apart (decoded : Bytes) (length : decoded.length = TRAILER_LEN) :
    Complete decoded ↔
      byteAt decoded (TRAILER_LEN - 1) % 16 ≠ 0 ∨
        Alternates (rotateLeftTwo decoded) (TRAILER_LEN - 3) := by
  have stride : strideOf (rotateLeftTwo decoded) = byteAt decoded (TRAILER_LEN - 1) % 16 + 1 := by
    have size : TRAILER_LEN = 96 := rfl
    have first := byteAt_lt decoded 0
    rw [strideOf, rotateLeftTwo_at decoded (by omega), if_pos rfl, Nat.shiftRight_eq_div_pow,
      show (0x0F : Nat) = 2 ^ 4 - 1 by rfl, Nat.and_two_pow_sub_one_eq_mod]
    omega
  have nonzero : byteAt decoded (TRAILER_LEN - 1) % 16 ≠ 0 ↔
      strideOf (rotateLeftTwo decoded) ≠ 1 := by
    rw [stride]
    omega
  rw [nonzero]
  rcases qaEncode_spec length with ⟨gives, back, apart⟩ | ⟨refuses, overlap⟩
  · refine ⟨fun _ => apart, fun _ => ⟨fun _ => ⟨_, gives⟩, ?_, ?_⟩⟩
    · intro encoded result
      rw [gives] at result
      cases result
      exact back
    · intro result
      rw [gives] at result
      cases result
  · constructor
    · intro complete
      exact absurd (encoding_exists length) (complete.2.2 refuses)
    · intro apart
      exact absurd apart overlap

/-- A decoded trailer of a payload of seven bytes, with an MD5 that ends in the digit `last`. -/
def sampleTrailer (last : UInt8) : Bytes :=
  [0x74, 0x6F, 0x6F, 0x6C, 0x76, 0, 0, 0, 0x37, 0, 0, 0, 0, 0, 0, 0] ++
    List.replicate 48 0 ++ List.replicate 31 0x61 ++ [last]

theorem complete_iff_apart_sample :
    Complete (sampleTrailer 0x31) ↔
      byteAt (sampleTrailer 0x31) (TRAILER_LEN - 1) % 16 ≠ 0 ∨
        Alternates (rotateLeftTwo (sampleTrailer 0x31)) (TRAILER_LEN - 3) :=
  complete_iff_apart (sampleTrailer 0x31) (by decide +kernel)

/-- The trailer has an encoding, and `qa_encode` raises `UnencodableTrailer`. -/
theorem encodable_trailer_refused :
    (sampleTrailer 0x30).length = TRAILER_LEN ∧
      qaEncode (sampleTrailer 0x30) = .error .unencodableTrailer ∧
      ∃ raw : Bytes, raw.length = TRAILER_LEN ∧ qaDecode raw = some (sampleTrailer 0x30) := by
  have length : (sampleTrailer 0x30).length = TRAILER_LEN := by decide +kernel
  exact ⟨length, by decide +kernel, encoding_exists length⟩

end JooanW3U.Ironman.Trailer
