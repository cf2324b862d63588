import JooanW3U.Library.Cells
import Mathlib.Algebra.Group.Nat.Defs
import Mathlib.Tactic.IntervalCases
import Mathlib.Tactic.SplitIfs

/-!
Owns the G.711 A-law codecs of the repository: that of the audio router, that of the media
service, the guard's decoder and the browser's encoder. Main results: they agree, a decoded
code is encoded to itself, and what is encoded and decoded stays in order and within half a
step.

Does not own where samples come from.
-/

namespace JooanW3U.Audio.Alaw

open JooanW3U.Library.Cells

/-! ### The encoders -/

/-- `ends` of `alaw_segment` -/
def ends : List Nat := [0x1f, 0x3f, 0x7f, 0xff, 0x1ff, 0x3ff, 0x7ff, 0xfff]

def alaw_segment (value : Nat) : Nat := ends.findIdx fun last => value ≤ last

/-- `pcm` is an `int16_t`. -/
def jooan_alaw_encode_sample (pcm : Int) : UInt8 :=
  let (magnitude, mask) := if 0 ≤ pcm then (pcm.toNat, 0xd5) else ((-pcm - 1).toNat, 0x55)
  let magnitude := (if 32635 < magnitude then 32635 else magnitude) >>> 3
  let segment := alaw_segment magnitude
  if 8 ≤ segment then UInt8.ofNat (0x7f ^^^ mask)
  else
    let value :=
      segment <<< 4 ||| ((if segment < 2 then magnitude >>> 1 else magnitude >>> segment) &&& 0x0f)
    UInt8.ofNat (value ^^^ mask)

/-- The loop over `threshold`, with as many rounds left as `segment < 7` allows. -/
def climb (magnitude : Nat) : Nat → Nat → Nat → Nat
  | 0, _, segment => segment
  | left + 1, threshold, segment =>
      if threshold ≤ magnitude then climb magnitude left (threshold <<< 1) (segment + 1) else segment

def jipc_alaw_encode (sample : Int) : UInt8 :=
  let mask := if 0 ≤ sample then 0xd5 else 0x55
  let magnitude := if 0 ≤ sample then sample.toNat else (-sample - 1).toNat
  let magnitude := if 32767 < magnitude then 32767 else magnitude
  let segment := climb magnitude 7 256 0
  let quantized := if segment ≠ 0 then magnitude >>> (segment + 3) else magnitude >>> 4
  UInt8.ofNat ((segment <<< 4 ||| (quantized &&& 15)) ^^^ mask)

/-- The loop over `g`, with as many rounds left as `g < 8` allows. -/
def count (s : Nat) : Nat → Nat → Nat
  | 0, g => g
  | left + 1, g => if 32 <<< g - 1 < s then count s left (g + 1) else g

/-- `alaw` of the page. -/
def alaw (s : Int) : UInt8 :=
  let s := s >>> (3 : Nat)
  let m := if s < 0 then 85 else 213
  let s := (if s < 0 then -s - 1 else s).toNat
  let g := count s 8 0
  UInt8.ofNat
    ((if 7 < g then 127 else g <<< 4 ||| ((if g < 2 then s >>> 1 else s >>> g) &&& 15)) ^^^ m)

/-! ### The decoders -/

def jooan_alaw_decode_sample (code : UInt8) : Int :=
  let code := code ^^^ 0x55
  let value := (code &&& 0x0f).toNat <<< 4
  let segment := ((code &&& 0x70) >>> 4).toNat
  let value :=
    if segment = 0 then value + 8
    else if 1 < segment then (value + 0x108) <<< (segment - 1)
    else value + 0x108
  if code &&& 0x80 ≠ 0 then value else -value

def jooan_guard_alaw_to_pcm16 (value : UInt8) : Int :=
  let value := value ^^^ 0x55
  let magnitude := (value &&& 0x0f).toNat <<< 4
  let segment := ((value &&& 0x70) >>> 4).toNat
  let magnitude :=
    if segment = 0 then magnitude + 8
    else if segment = 1 then magnitude + 0x108
    else (magnitude + 0x108) <<< (segment - 1)
  if value &&& 0x80 ≠ 0 then magnitude else -magnitude

def jipc_alaw_decode (code : UInt8) : Int :=
  let value := code ^^^ 0x55
  let segment := (value.toNat >>> 4) &&& 7
  let magnitude := (value.toNat &&& 15) <<< 4 + 8
  let magnitude := if segment ≠ 0 then magnitude + 256 else magnitude
  let magnitude := if 1 < segment then magnitude <<< (segment - 1) else magnitude
  if value &&& 128 ≠ 0 then magnitude else -magnitude

/-! ### The quantizer they share -/

/-- Two segments of 16 in steps of 16, then six whose steps double. -/
def step (cell : Nat) : Nat := if cell < 32 then 16 else 2 ^ (cell / 16 + 3)

/-- The magnitude of a sample, saturated: negative ones are one less. -/
def magnitude (sample : Int) : Nat :=
  min 32767 (if 0 ≤ sample then sample.toNat else (-sample - 1).toNat)

/-- The code of a cell. -/
def code (positive : Bool) (cell : Nat) : UInt8 :=
  UInt8.ofNat (cell ^^^ if positive then 0xd5 else 0x55)

/-- The 16 bits a sample is clamped to. -/
def clamp (sample : Int) : Int := max (-32768) (min 32767 sample)

theorem lower_step : ∀ cell < 129, lower step cell =
    (if cell < 16 then 0 else 2 ^ (cell / 16 + 7)) + cell % 16 * step cell := by
  decide +kernel

/-- The segment of a magnitude. -/
structure Segment (segment magnitude : Nat) : Prop where
  small : segment < 8
  above : segment ≠ 0 → 2 ^ (segment + 7) ≤ magnitude
  below : magnitude < 2 ^ (segment + 8)

/-- The cell that a segment and the bits behind it make. -/
def cell_of (segment magnitude : Nat) : Nat :=
  16 * segment + magnitude >>> (if segment = 0 then 4 else segment + 3) % 16

theorem cell_of_lt {segment magnitude : Nat} (found : Segment segment magnitude) :
    cell_of segment magnitude < 128 := by
  have small := found.small
  have bits := Nat.mod_lt (magnitude >>> (if segment = 0 then 4 else segment + 3))
    (show 0 < 16 by decide)
  rw [cell_of]
  omega

theorem inCell_cell_of {segment magnitude : Nat} (found : Segment segment magnitude) :
    InCell step (cell_of segment magnitude) magnitude := by
  have limit := cell_of_lt found
  have begins := lower_step (cell_of segment magnitude) (Nat.lt_succ_of_lt limit)
  obtain ⟨small, above, below⟩ := found
  have ends : lower step (cell_of segment magnitude + 1) =
      lower step (cell_of segment magnitude) + step (cell_of segment magnitude) := rfl
  rw [InCell, ends, begins, step]
  have group : cell_of segment magnitude / 16 = segment := by
    rw [cell_of, Nat.mul_add_div (by decide), Nat.div_eq_of_lt (Nat.mod_lt _ (by decide))]
    rfl
  rw [group]
  rw [cell_of] at group ⊢
  interval_cases segment <;>
    simp only [Nat.shiftRight_eq_div_pow, ne_eq, OfNat.ofNat_ne_zero, not_false_eq_true,
      not_true_eq_false, forall_const, false_implies, if_true, if_false, Nat.reduceAdd,
      Nat.reducePow, Nat.reduceMul, one_ne_zero] at above below group ⊢ <;>
    split_ifs <;> omega

/-! ### The encoders -/

theorem climb_segment {magnitude : Nat} (bounded : magnitude < 2 ^ 15) :
    ∀ {left segment : Nat}, left + segment = 7 → (segment ≠ 0 → 2 ^ (segment + 7) ≤ magnitude) →
      Segment (climb magnitude left (2 ^ (segment + 8)) segment) magnitude := by
  intro left
  induction left with
  | zero =>
      intro segment rounds above
      have last : segment = 7 := by omega
      rw [last] at above ⊢
      exact ⟨Nat.lt_succ_self 7, above, bounded⟩
  | succ left inductionHypothesis =>
      intro segment rounds above
      rw [climb]
      split
      · rename_i reached
        have doubled : (2 ^ (segment + 8)) <<< 1 = 2 ^ (segment + 1 + 8) := by
          rw [Nat.shiftLeft_eq, ← Nat.pow_add, Nat.add_right_comm]
        rw [doubled]
        apply inductionHypothesis (by omega)
        intro _
        rw [Nat.add_right_comm]
        exact reached
      · rename_i below
        exact ⟨by omega, above, Nat.lt_of_not_le below⟩

theorem count_segment {magnitude : Nat} (bounded : magnitude < 2 ^ 15) :
    ∀ {left g : Nat}, left + g = 8 → (g ≠ 0 → 2 ^ (g + 7) ≤ magnitude) →
      Segment (count (magnitude >>> 3) left g) magnitude := by
  intro left
  induction left with
  | zero =>
      intro g rounds above
      have last : g = 8 := by omega
      rw [last] at above
      have reached := above (by decide)
      omega
  | succ left inductionHypothesis =>
      intro g rounds above
      rw [count]
      have scaled : 32 <<< g * 8 = 2 ^ (g + 8) := by
        rw [Nat.shiftLeft_eq, Nat.pow_add]
        omega
      have positive : 0 < 32 <<< g := by
        rw [Nat.shiftLeft_eq]
        exact Nat.mul_pos (by decide) (Nat.two_pow_pos g)
      rw [Nat.shiftRight_eq_div_pow]
      split
      · rename_i reached
        rw [← Nat.shiftRight_eq_div_pow]
        apply inductionHypothesis (by omega)
        intro _
        have same : g + 1 + 7 = g + 8 := by omega
        rw [same, ← scaled]
        omega
      · rename_i below
        have limit : magnitude < 2 ^ (g + 8) := by
          rw [← scaled]
          omega
        refine ⟨?_, above, limit⟩
        by_contra large
        have last : g = 8 := by omega
        omega

theorem alaw_segment_segment {magnitude : Nat} (bounded : magnitude < 2 ^ 15) :
    Segment (alaw_segment (magnitude >>> 3)) magnitude := by
  rw [alaw_segment, ends, Nat.shiftRight_eq_div_pow]
  simp only [List.findIdx_cons, List.findIdx_nil, cond_eq_ite, decide_eq_true_eq]
  split_ifs <;> refine ⟨?_, fun _ => ?_, ?_⟩ <;> omega

theorem segment_unique {segment other magnitude : Nat} (here : Segment segment magnitude)
    (there : Segment other magnitude) : cell_of segment magnitude = cell_of other magnitude :=
  (inCell_cell_of here).unique (inCell_cell_of there)

/-- The bits of a code, put together with shifts and `or`. -/
theorem bits_eq (segment bits : Nat) : segment <<< 4 ||| (bits &&& 15) = 16 * segment + bits % 16 := by
  have low : bits &&& 15 = bits % 16 := Nat.and_two_pow_sub_one_eq_mod bits 4
  rw [low, ← Nat.shiftLeft_add_eq_or_of_lt (i := 4) (Nat.mod_lt bits (by decide)), Nat.shiftLeft_eq,
    Nat.mul_comm]

/-- The magnitude, before it is saturated. -/
def unsaturated (sample : Int) : Nat :=
  if 0 ≤ sample then sample.toNat else (-sample - 1).toNat

theorem magnitude_lt (sample : Int) : magnitude sample < 2 ^ 15 :=
  Nat.lt_of_le_of_lt (Nat.min_le_left _ _) (by decide)

theorem saturated (sample : Int) :
    (if 32767 < unsaturated sample then 32767 else unsaturated sample) = magnitude sample := by
  change _ = min 32767 (unsaturated sample)
  split <;> omega

theorem mask_eq (sample : Int) :
    (if 0 ≤ sample then 0xd5 else 0x55) = if decide (0 ≤ sample) = true then 0xd5 else 0x55 := by
  simp only [decide_eq_true_eq]

/-- The code that the media service computes. -/
theorem jipc_alaw_encode_eq (sample : Int) :
    ∃ segment, Segment segment (magnitude sample) ∧
      jipc_alaw_encode sample = code (0 ≤ sample) (cell_of segment (magnitude sample)) := by
  have found : Segment (climb (magnitude sample) 7 256 0) (magnitude sample) :=
    climb_segment (magnitude_lt sample) rfl (fun none => absurd rfl none)
  refine ⟨_, found, ?_⟩
  unfold jipc_alaw_encode
  dsimp only
  rw [show (if 0 ≤ sample then sample.toNat else (-sample - 1).toNat) = unsaturated sample from rfl,
    saturated, bits_eq, code, cell_of, ← mask_eq]
  generalize climb (magnitude sample) 7 256 0 = segment
  by_cases first : segment = 0
  · rw [if_neg (not_not_intro first), if_pos first]
  · rw [if_pos first, if_neg first]

/-- Both ways to drop the bits below a segment's step. -/
theorem dropped (segment magnitude : Nat) :
    (if segment < 2 then magnitude >>> 3 >>> 1 else magnitude >>> 3 >>> segment) =
      magnitude >>> (if segment = 0 then 4 else segment + 3) := by
  rw [← Nat.shiftRight_add, ← Nat.shiftRight_add, Nat.add_comm 3 segment]
  by_cases first : segment = 0
  · rw [if_pos first, if_pos (by omega)]
  · rw [if_neg first]
    by_cases second : segment = 1
    · rw [if_pos (by omega), second]
    · rw [if_neg (by omega)]

/-- The last cell holds everything from 31744 on. -/
theorem last_segment {magnitude : Nat} (large : 31744 ≤ magnitude) (bounded : magnitude < 2 ^ 15) :
    Segment 7 magnitude ∧ cell_of 7 magnitude = 127 := by
  refine ⟨⟨by decide, fun _ => by omega, bounded⟩, ?_⟩
  rw [cell_of, Nat.shiftRight_eq_div_pow]
  simp only [OfNat.ofNat_ne_zero, if_false, Nat.reduceAdd, Nat.reducePow, Nat.reduceMul]
  omega

theorem unsaturated_clamp (sample : Int) : unsaturated (clamp sample) = magnitude sample := by
  change _ = min 32767 (unsaturated sample)
  unfold unsaturated clamp
  split <;> split <;> omega

theorem clamp_nonneg (sample : Int) : 0 ≤ clamp sample ↔ 0 ≤ sample := by
  unfold clamp
  omega

/-- The code that the router computes of what is clamped to 16 bits. -/
theorem jooan_alaw_encode_sample_eq (sample : Int) :
    ∃ segment, Segment segment (magnitude sample) ∧
      jooan_alaw_encode_sample (clamp sample) =
        code (0 ≤ sample) (cell_of segment (magnitude sample)) := by
  have bounded := magnitude_lt sample
  have shape : jooan_alaw_encode_sample (clamp sample) =
      let magnitude := (if 32635 < magnitude sample then 32635 else magnitude sample) >>> 3
      let segment := alaw_segment magnitude
      let mask := if 0 ≤ sample then 0xd5 else 0x55
      if 8 ≤ segment then UInt8.ofNat (0x7f ^^^ mask)
      else
        UInt8.ofNat ((segment <<< 4 |||
          ((if segment < 2 then magnitude >>> 1 else magnitude >>> segment) &&& 0x0f)) ^^^ mask) := by
    rw [← unsaturated_clamp sample]
    unfold jooan_alaw_encode_sample unsaturated
    simp only [clamp_nonneg]
    by_cases sign : 0 ≤ sample
    · simp only [if_pos sign]
    · simp only [if_neg sign]
  rw [shape]
  dsimp only
  -- what is cut down to 32635 is in the last cell before and after
  by_cases large : 32635 < magnitude sample
  · obtain ⟨last, cell⟩ := last_segment (Nat.le_of_lt (Nat.lt_trans (by decide) large)) bounded
    refine ⟨7, last, ?_⟩
    have cut : alaw_segment (32635 >>> 3) = 7 := by decide
    have bits : 7 <<< 4 ||| ((if 7 < 2 then 32635 >>> 3 >>> 1 else 32635 >>> 3 >>> 7) &&& 0x0f) =
        127 := by decide
    rw [if_pos large, cut, if_neg (by decide), bits, cell, code, ← mask_eq]
  · have found := alaw_segment_segment bounded
    refine ⟨_, found, ?_⟩
    rw [if_neg large, if_neg (Nat.not_le_of_lt found.small), bits_eq, dropped, code, cell_of,
      ← mask_eq]

theorem count_all {s : Nat} (large : 2 ^ 12 ≤ s) :
    ∀ {left g : Nat}, left + g = 8 → count s left g = 8 := by
  intro left
  induction left with
  | zero =>
      intro g rounds
      rw [count]
      omega
  | succ left inductionHypothesis =>
      intro g rounds
      have fits : 32 <<< g ≤ 2 ^ 12 := by
        rw [Nat.shiftLeft_eq, show 32 = 2 ^ 5 from rfl, ← Nat.pow_add]
        exact Nat.pow_le_pow_right (by decide) (by omega)
      have positive : 0 < 32 <<< g := by
        rw [Nat.shiftLeft_eq]
        exact Nat.mul_pos (by decide) (Nat.two_pow_pos g)
      rw [count, if_pos (by omega)]
      exact inductionHypothesis (by omega)

theorem shifted (sample : Int) :
    (if sample >>> (3 : Nat) < 0 then -(sample >>> (3 : Nat)) - 1 else sample >>> (3 : Nat)).toNat =
        unsaturated sample >>> (3 : Nat) ∧
      (sample >>> (3 : Nat) < 0 ↔ ¬0 ≤ sample) := by
  rw [Int.shiftRight_eq_div_pow, Nat.shiftRight_eq_div_pow, unsaturated]
  constructor
  · split <;> split <;> omega
  · omega

/-- The code that the page computes. -/
theorem alaw_eq (sample : Int) :
    ∃ segment, Segment segment (magnitude sample) ∧
      alaw sample = code (0 ≤ sample) (cell_of segment (magnitude sample)) := by
  obtain ⟨magnitude_eq, sign⟩ := shifted sample
  have mask : (if sample >>> (3 : Nat) < 0 then 85 else 213) =
      if decide (0 ≤ sample) = true then 0xd5 else 0x55 := by
    simp only [sign, decide_eq_true_eq]
    by_cases signed : 0 ≤ sample
    · rw [if_neg (not_not_intro signed), if_pos signed]
    · rw [if_pos signed, if_neg signed]
  unfold alaw
  dsimp only
  rw [magnitude_eq, mask]
  by_cases large : 32767 < unsaturated sample
  · have most : magnitude sample = 32767 := Nat.min_eq_left (Nat.le_of_lt large)
    obtain ⟨last, cell⟩ := last_segment (show 31744 ≤ 32767 by decide) (by decide)
    have whole : count (unsaturated sample >>> (3 : Nat)) 8 0 = 8 := by
      apply count_all _ rfl
      rw [Nat.shiftRight_eq_div_pow]
      omega
    rw [most]
    refine ⟨7, last, ?_⟩
    rw [whole, cell, code]
    rfl
  · have same : magnitude sample = unsaturated sample := Nat.min_eq_right (Nat.le_of_not_lt large)
    have found : Segment (count (unsaturated sample >>> (3 : Nat)) 8 0) (unsaturated sample) :=
      count_segment (by omega) rfl (fun none => absurd rfl none)
    rw [same]
    refine ⟨_, found, ?_⟩
    have small := found.small
    rw [if_neg (by omega), bits_eq, dropped, code, cell_of]

/-! ### The decoders -/

/-- What a code stands for. -/
def value (positive : Bool) (cell : Nat) : Int :=
  if positive then level step cell else -level step cell

theorem jipc_alaw_decode_code : ∀ cell < 128, ∀ positive,
    jipc_alaw_decode (code positive cell) = value positive cell := by
  decide +kernel

/-- Every code is that of a cell. -/
theorem code_of_byte (byte : UInt8) : ∃ positive, ∃ cell < 128, byte = code positive cell := by
  have every : ∀ n < 256, ((UInt8.ofNat n ^^^ 0x55) &&& 0x7f).toNat < 128 ∧
      UInt8.ofNat n = code ((UInt8.ofNat n ^^^ 0x55) &&& 0x80 != 0)
        ((UInt8.ofNat n ^^^ 0x55) &&& 0x7f).toNat := by
    decide +kernel
  obtain ⟨small, same⟩ := every byte.toNat byte.toNat_lt
  rw [UInt8.ofNat_toNat] at small same
  exact ⟨_, _, small, same⟩

theorem decoders_agree (byte : UInt8) :
    jooan_alaw_decode_sample byte = jipc_alaw_decode byte ∧
      jooan_guard_alaw_to_pcm16 byte = jipc_alaw_decode byte := by
  have every : ∀ n < 256,
      jooan_alaw_decode_sample (UInt8.ofNat n) = jipc_alaw_decode (UInt8.ofNat n) ∧
        jooan_guard_alaw_to_pcm16 (UInt8.ofNat n) = jipc_alaw_decode (UInt8.ofNat n) := by
    decide +kernel
  have found := every byte.toNat byte.toNat_lt
  rwa [UInt8.ofNat_toNat] at found

/-- The encoders of the router, the media service and the page give every sample the same
code, as far as 16 bits hold it and saturated beyond; the decoders of the three read every
code the same. -/
theorem codecs_agree (sample : Int) (byte : UInt8) :
    jooan_alaw_encode_sample (clamp sample) = jipc_alaw_encode sample ∧
      alaw sample = jipc_alaw_encode sample ∧
      jooan_alaw_decode_sample byte = jipc_alaw_decode byte ∧
      jooan_guard_alaw_to_pcm16 byte = jipc_alaw_decode byte := by
  obtain ⟨first, found, media⟩ := jipc_alaw_encode_eq sample
  obtain ⟨second, found', router⟩ := jooan_alaw_encode_sample_eq sample
  obtain ⟨third, found'', page⟩ := alaw_eq sample
  refine ⟨?_, ?_, decoders_agree byte⟩
  · rw [router, media, segment_unique found' found]
  · rw [page, media, segment_unique found'' found]

/-! ### Encoding and decoding -/

theorem step_wide (cell : Nat) : 16 ≤ step cell := by
  rw [step]
  split
  · exact Nat.le_refl 16
  · have four : 4 ≤ cell / 16 + 3 := by omega
    exact Nat.pow_le_pow_right (Nat.succ_pos 1) four

/-- A sample's cell, and what its code is decoded to. -/
theorem decoded (sample : Int) :
    ∃ cell < 128, InCell step cell (magnitude sample) ∧
      jipc_alaw_encode sample = code (0 ≤ sample) cell ∧
      jipc_alaw_decode (jipc_alaw_encode sample) = value (0 ≤ sample) cell := by
  obtain ⟨segment, found, encoded⟩ := jipc_alaw_encode_eq sample
  refine ⟨_, cell_of_lt found, inCell_cell_of found, encoded, ?_⟩
  rw [encoded]
  exact jipc_alaw_decode_code _ (cell_of_lt found) _

theorem level_bounds : ∀ cell < 128, 8 ≤ level step cell ∧ level step cell ≤ 32256 := by
  decide +kernel

/-- The magnitude and the sign of what a code stands for. -/
theorem magnitude_value {cell : Nat} (small : cell < 128) (positive : Bool) :
    InCell step cell (magnitude (value positive cell)) ∧
      decide (0 ≤ value positive cell) = positive := by
  obtain ⟨least, most⟩ := level_bounds cell small
  obtain ⟨middle, before⟩ := level_inCell (Nat.le_trans (by decide) (step_wide cell))
  cases positive with
  | true =>
      have same : magnitude (value true cell) = level step cell := by
        simp only [magnitude, value, if_true]
        split <;> omega
      rw [same]
      exact ⟨middle, decide_eq_true (by simp only [value, if_true]; omega)⟩
  | false =>
      have same : magnitude (value false cell) = level step cell - 1 := by
        simp only [magnitude, value, Bool.false_eq_true, if_false]
        split <;> omega
      rw [same]
      exact ⟨before, decide_eq_false (by simp only [value, Bool.false_eq_true, if_false]; omega)⟩

/-- A code that is decoded and encoded is the same code. -/
theorem encode_decode (byte : UInt8) : jipc_alaw_encode (jipc_alaw_decode byte) = byte := by
  obtain ⟨positive, cell, small, rfl⟩ := code_of_byte byte
  obtain ⟨inside, sign⟩ := magnitude_value small positive
  rw [jipc_alaw_decode_code cell small positive]
  obtain ⟨other, -, here, encoded, -⟩ := decoded (value positive cell)
  rw [encoded, sign, here.unique inside]

/-- Half a step is 8, or at most a thirty-second of what its cell begins with. -/
theorem half_step : ∀ cell < 128, step cell = step cell / 2 + step cell / 2 ∧
    step cell / 2 ≤ max 8 (lower step cell / 32) := by
  decide +kernel

theorem clamp_eq (sample : Int) :
    clamp sample = if 0 ≤ sample then (magnitude sample : Int) else -(magnitude sample + 1 : Int) := by
  unfold clamp magnitude
  split <;> omega

/-- What is encoded and decoded keeps its sign, and is within 8 or a thirty-second of the
sample. -/
theorem decode_encode_near (sample : Int) :
    let heard := jipc_alaw_decode (jipc_alaw_encode sample)
    (0 ≤ heard ↔ 0 ≤ sample) ∧
      (heard - clamp sample).natAbs ≤ max 8 ((clamp sample).natAbs / 32) := by
  obtain ⟨cell, small, inside, -, heard⟩ := decoded sample
  obtain ⟨-, sign⟩ := magnitude_value small (0 ≤ sample)
  dsimp only
  rw [heard]
  refine ⟨by simpa using sign, ?_⟩
  obtain ⟨halves, bound⟩ := half_step cell small
  obtain ⟨above, below⟩ := inside.near
  have begins := inside.1
  rw [clamp_eq]
  by_cases positive : 0 ≤ sample
  · simp only [value, decide_eq_true positive, if_pos positive, if_true]
    omega
  · simp only [value, decide_eq_false positive, if_neg positive, Bool.false_eq_true, if_false]
    omega

/-- What is encoded and decoded stays in order. -/
theorem decode_encode_mono {sample other : Int} (below : sample ≤ other) :
    jipc_alaw_decode (jipc_alaw_encode sample) ≤ jipc_alaw_decode (jipc_alaw_encode other) := by
  obtain ⟨cell, small, inside, -, heard⟩ := decoded sample
  obtain ⟨cell', small', inside', -, heard'⟩ := decoded other
  rw [heard, heard']
  obtain ⟨least, -⟩ := level_bounds cell small
  obtain ⟨least', -⟩ := level_bounds cell' small'
  by_cases sign : 0 ≤ sample
  · have sign' : 0 ≤ other := by omega
    have order : cell ≤ cell' := by
      apply inside.mono inside'
      simp only [magnitude, if_pos sign, if_pos sign']
      omega
    have levels := @level_mono step _ _ order
    simp only [value, decide_eq_true sign, decide_eq_true sign', if_true]
    omega
  · by_cases sign' : 0 ≤ other
    · simp only [value, decide_eq_false sign, decide_eq_true sign', Bool.false_eq_true, if_false,
        if_true]
      omega
    · have order : cell' ≤ cell := by
        apply inside'.mono inside
        simp only [magnitude, if_neg sign, if_neg sign']
        omega
      have levels := @level_mono step _ _ order
      simp only [value, decide_eq_false sign, decide_eq_false sign', Bool.false_eq_true, if_false]
      omega

/-- Decoding a code and encoding it again gives it back; a sample that is encoded and decoded
keeps its sign and its order, and is within 8 or a thirty-second of what 16 bits hold of it. -/
theorem companding (byte : UInt8) (sample other : Int) (below : sample ≤ other) :
    jipc_alaw_encode (jipc_alaw_decode byte) = byte ∧
      (0 ≤ jipc_alaw_decode (jipc_alaw_encode sample) ↔ 0 ≤ sample) ∧
      (jipc_alaw_decode (jipc_alaw_encode sample) - clamp sample).natAbs ≤
        max 8 ((clamp sample).natAbs / 32) ∧
      jipc_alaw_decode (jipc_alaw_encode sample) ≤ jipc_alaw_decode (jipc_alaw_encode other) :=
  ⟨encode_decode byte, (decode_encode_near sample).1, (decode_encode_near sample).2,
    decode_encode_mono below⟩

theorem companding_loud :
    jipc_alaw_encode (jipc_alaw_decode 0x2a) = 0x2a ∧
      (0 ≤ jipc_alaw_decode (jipc_alaw_encode (-40000)) ↔ (0 : Int) ≤ -40000) ∧
      (jipc_alaw_decode (jipc_alaw_encode (-40000)) - clamp (-40000)).natAbs ≤
        max 8 ((clamp (-40000)).natAbs / 32) ∧
      jipc_alaw_decode (jipc_alaw_encode (-40000)) ≤ jipc_alaw_decode (jipc_alaw_encode 12) :=
  companding 0x2a (-40000) 12 (by decide)

end JooanW3U.Audio.Alaw
