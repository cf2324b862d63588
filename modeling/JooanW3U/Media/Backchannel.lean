import JooanW3U.Library.RtpPacket
import Mathlib.Data.Nat.Bitwise

/-!
Owns `backchannel_rtp`: what of a received RTP packet is submitted to the speaker.
Main result: exactly the payloads of well-formed A-law packets that fit are submitted,
and no byte outside the packet is read.

Does not own the framing of the packets, or what `jipc_talk_submit` does.
-/

namespace JooanW3U.Media.Backchannel

open JooanW3U.Library.RtpPacket

/-- The arguments of `jipc_talk_submit` that depend on the packet. -/
structure Submission where
  ssrc : Nat
  pcma : Bytes
deriving DecidableEq, Repr

/-- `packet[index]`; `none` is a read outside the packet. -/
def read (packet : Bytes) (index : Nat) : Option Nat := packet[index]?.map UInt8.toNat

/-- The bytes a pointer and a size name; `none` if they reach outside the packet. -/
def slice (packet : Bytes) (start size : Nat) : Option Bytes :=
  if start + size ≤ packet.length then some ((packet.drop start).take size) else none

/-- The lines about the header; the inner `none` is their `return`. -/
def headerOf (packet : Bytes) (first : Nat) : Option (Option Nat) :=
  if first &&& 0x10 = 0 then some (some (12 + (first &&& 15) * 4))
  else if packet.length < 12 + (first &&& 15) * 4 + 4 then some none
  else do
    let high ← read packet (12 + (first &&& 15) * 4 + 2)
    let low ← read packet (12 + (first &&& 15) * 4 + 3)
    some (some (12 + (first &&& 15) * 4 + (4 + (high <<< 8 ||| low) * 4)))

/-- The lines about the padding. -/
def endOf (packet : Bytes) (first : Nat) : Option (Option Nat) :=
  if first &&& 0x20 = 0 then some (some packet.length)
  else do
    let padding ← read packet (packet.length - 1)
    some (if padding = 0 ∨ padding > packet.length then none else some (packet.length - padding))

def ssrcOf (packet : Bytes) : Option Nat := do
  let a ← read packet 8
  let b ← read packet 9
  let c ← read packet 10
  let d ← read packet 11
  some (a <<< 24 ||| b <<< 16 ||| c <<< 8 ||| d)

/-- What is submitted of the bytes between the header and the end. -/
def submitted (packet : Bytes) (header ending : Nat) : Option (Option Submission) :=
  if header ≥ ending ∨ ending - header > 2048 then some none
  else do
    let ssrc ← ssrcOf packet
    let pcma ← slice packet header (ending - header)
    some (some ⟨ssrc, pcma⟩)

/-- `backchannel_rtp`: `none` if it reads outside the packet, `some none` if it submits nothing. -/
def backchannel_rtp (packet : Bytes) : Option (Option Submission) :=
  if packet.length < 12 then some none
  else do
    let first ← read packet 0
    if first >>> 6 ≠ 2 then some none
    else do
      let kind ← read packet 1
      if kind &&& 0x7f ≠ 8 then some none
      else
        match ← headerOf packet first with
        | none => some none
        | some header =>
            match ← endOf packet first with
            | none => some none
            | some ending => submitted packet header ending

/-! ### Bits -/

theorem bit_four {value : Nat} (small : value < 256) :
    value &&& 0x10 = 0 ↔ value / 16 % 2 = 0 := by
  revert value
  decide +kernel

theorem bit_five {value : Nat} (small : value < 256) :
    value &&& 0x20 = 0 ↔ value / 32 % 2 = 0 := by
  revert value
  decide +kernel

theorem low_four (value : Nat) : value &&& 15 = value % 16 :=
  Nat.and_two_pow_sub_one_eq_mod value 4

theorem low_seven (value : Nat) : value &&& 0x7f = value % 128 :=
  Nat.and_two_pow_sub_one_eq_mod value 7

theorem join_byte (high : Nat) {low : Nat} (small : low < 256) :
    high <<< 8 ||| low = 256 * high + low := by
  rw [← Nat.shiftLeft_add_eq_or_of_lt small, Nat.shiftLeft_eq, Nat.mul_comm]

theorem byteAt_lt (packet : Bytes) (index : Nat) : byteAt packet index < 256 := UInt8.toNat_lt _

theorem read_inside {packet : Bytes} {index : Nat} (inside : index < packet.length) :
    read packet index = some (byteAt packet index) := by
  rw [read, byteAt, List.getElem?_eq_getElem inside, List.getD_eq_getElem _ _ inside]
  rfl

/-! ### The lengths -/

/-- The synchronisation source of a fixed header. -/
def sourceOf (packet : Bytes) : Nat :=
  256 * (256 * (256 * byteAt packet 8 + byteAt packet 9) + byteAt packet 10) + byteAt packet 11

theorem ssrcOf_eq {packet : Bytes} (long : 12 ≤ packet.length) :
    ssrcOf packet = some (sourceOf packet) := by
  have joined : byteAt packet 8 <<< 24 ||| byteAt packet 9 <<< 16 ||| byteAt packet 10 <<< 8 |||
      byteAt packet 11 = sourceOf packet := by
    have inner : byteAt packet 8 <<< 24 ||| byteAt packet 9 <<< 16 ||| byteAt packet 10 <<< 8 =
        (256 * (256 * byteAt packet 8 + byteAt packet 9) + byteAt packet 10) <<< 8 := by
      rw [← join_byte _ (byteAt_lt packet 10), ← join_byte _ (byteAt_lt packet 9)]
      simp only [Nat.shiftLeft_or_distrib, ← Nat.shiftLeft_add]
    rw [inner, join_byte _ (byteAt_lt packet 11), sourceOf]
  unfold ssrcOf
  rw [read_inside (by omega), read_inside (by omega), read_inside (by omega),
    read_inside (by omega)]
  exact congrArg some joined

/-- The header lines read inside the packet, and find the header's end if there is one. -/
theorem headerOf_spec (packet : Bytes) :
    ∃ found, headerOf packet (byteAt packet 0) = some found ∧ ∀ header, found = some header ↔
      ((byteAt packet 0 / 16 % 2 = 1 → 12 + 4 * (byteAt packet 0 % 16) + 4 ≤ packet.length ∧
        header = 12 + 4 * (byteAt packet 0 % 16) + 4 +
          4 * words (packet.drop (12 + 4 * (byteAt packet 0 % 16)))) ∧
      (byteAt packet 0 / 16 % 2 = 0 → header = 12 + 4 * (byteAt packet 0 % 16))) := by
  unfold headerOf
  simp only [bit_four (byteAt_lt packet 0), low_four, Nat.mul_comm (byteAt packet 0 % 16) 4]
  by_cases plain : byteAt packet 0 / 16 % 2 = 0
  · rw [if_pos plain]
    refine ⟨_, rfl, fun header => ?_⟩
    rw [Option.some.injEq]
    constructor
    · intro same
      exact ⟨by omega, fun _ => same.symm⟩
    · intro either
      exact (either.2 plain).symm
  · rw [if_neg plain]
    have extended : byteAt packet 0 / 16 % 2 = 1 := by omega
    by_cases short : packet.length < 12 + 4 * (byteAt packet 0 % 16) + 4
    · rw [if_pos short]
      refine ⟨_, rfl, fun header => ⟨nofun, fun either => ?_⟩⟩
      have fits := (either.1 extended).1
      omega
    · rw [if_neg short, read_inside (by omega), read_inside (by omega)]
      refine ⟨_, rfl, fun header => ?_⟩
      rw [Option.some.injEq, join_byte _ (byteAt_lt _ _), words, byteAt_drop, byteAt_drop]
      constructor
      · intro same
        exact ⟨fun _ => ⟨by omega, by omega⟩, by omega⟩
      · intro either
        have value := (either.1 extended).2
        omega

theorem endOf_spec {packet : Bytes} (long : 12 ≤ packet.length) :
    ∃ found, endOf packet (byteAt packet 0) = some found ∧ ∀ ending, found = some ending ↔
      ((byteAt packet 0 / 32 % 2 = 1 → 1 ≤ byteAt packet (packet.length - 1) ∧
        ending + byteAt packet (packet.length - 1) = packet.length) ∧
      (byteAt packet 0 / 32 % 2 = 0 → ending = packet.length)) := by
  unfold endOf
  simp only [bit_five (byteAt_lt packet 0)]
  by_cases unpadded : byteAt packet 0 / 32 % 2 = 0
  · rw [if_pos unpadded]
    refine ⟨_, rfl, fun ending => ?_⟩
    rw [Option.some.injEq]
    constructor
    · intro same
      exact ⟨by omega, fun _ => same.symm⟩
    · intro either
      exact (either.2 unpadded).symm
  · have padded : byteAt packet 0 / 32 % 2 = 1 := by omega
    rw [if_neg unpadded, read_inside (by omega)]
    refine ⟨_, rfl, fun ending => ?_⟩
    by_cases bad : byteAt packet (packet.length - 1) = 0 ∨
        byteAt packet (packet.length - 1) > packet.length
    · rw [if_pos bad]
      refine ⟨nofun, fun either => ?_⟩
      have fits := either.1 padded
      omega
    · rw [if_neg bad, Option.some.injEq]
      constructor
      · intro same
        exact ⟨fun _ => by omega, by omega⟩
      · intro either
        have value := (either.1 padded).2
        omega

/-! ### The packet -/

theorem submitted_spec {packet : Bytes} (long : 12 ≤ packet.length) {header ending : Nat}
    (inside : ending ≤ packet.length) :
    ∃ answer, submitted packet header ending = some answer ∧ ∀ submission,
      answer = some submission ↔ header < ending ∧ ending - header ≤ 2048 ∧
        submission = ⟨sourceOf packet, (packet.drop header).take (ending - header)⟩ := by
  unfold submitted
  by_cases refused : header ≥ ending ∨ ending - header > 2048
  · rw [if_pos refused]
    refine ⟨_, rfl, fun submission => ⟨nofun, fun fits => ?_⟩⟩
    omega
  · rw [if_neg refused, ssrcOf_eq long, slice, if_pos (by omega)]
    refine ⟨_, rfl, fun submission => ?_⟩
    rw [Option.some.injEq]
    constructor
    · intro same
      exact ⟨by omega, by omega, same.symm⟩
    · intro fits
      exact fits.2.2.symm

/-- `backchannel_rtp` reads inside the packet only, and submits what lies between the end of
the header and the padding. -/
theorem backchannel_rtp_spec (packet : Bytes) :
    ∃ answer, backchannel_rtp packet = some answer ∧ ∀ submission,
      answer = some submission ↔ byteAt packet 1 % 128 = 8 ∧ ∃ header ending,
        Layout packet header ending ∧ header < ending ∧ ending - header ≤ 2048 ∧
        submission = ⟨sourceOf packet, (packet.drop header).take (ending - header)⟩ := by
  unfold backchannel_rtp
  by_cases short : packet.length < 12
  · rw [if_pos short]
    refine ⟨_, rfl, fun submission => ⟨nofun, fun formed => ?_⟩⟩
    obtain ⟨-, header, ending, layout, -⟩ := formed
    have twelve := layout.fixed
    omega
  · have long : 12 ≤ packet.length := by omega
    rw [if_neg short, read_inside (by omega)]
    dsimp only [Option.bind_eq_bind, Option.bind_some]
    rw [Nat.shiftRight_eq_div_pow]
    by_cases version : byteAt packet 0 / 2 ^ 6 ≠ 2
    · rw [if_pos version]
      refine ⟨_, rfl, fun submission => ⟨nofun, fun formed => ?_⟩⟩
      obtain ⟨-, header, ending, layout, -⟩ := formed
      exact absurd layout.version version
    · rw [if_neg version, read_inside (by omega)]
      dsimp only [Option.bind_some]
      rw [low_seven]
      by_cases kind : byteAt packet 1 % 128 ≠ 8
      · rw [if_pos kind]
        exact ⟨_, rfl, fun submission => ⟨nofun, fun formed => absurd formed.1 kind⟩⟩
      · rw [if_neg kind]
        obtain ⟨headerFound, headerEq, headerSpec⟩ := headerOf_spec packet
        obtain ⟨endFound, endEq, endSpec⟩ := endOf_spec long
        have layout_iff : ∀ header ending, Layout packet header ending ↔
            headerFound = some header ∧ endFound = some ending := by
          intro header ending
          rw [headerSpec, endSpec]
          constructor
          · intro layout
            exact ⟨⟨layout.extended, layout.plain⟩, layout.padded, layout.unpadded⟩
          · intro found
            exact ⟨long, Decidable.not_not.mp version, found.1.1, found.1.2, found.2.1, found.2.2⟩
        rw [headerEq]
        dsimp only [Option.bind_some]
        cases headerFound with
        | none =>
            refine ⟨_, rfl, fun submission => ⟨nofun, fun formed => ?_⟩⟩
            obtain ⟨-, header, ending, layout, -⟩ := formed
            exact absurd ((layout_iff header ending).mp layout).1 nofun
        | some header =>
            dsimp only
            rw [endEq]
            cases endFound with
            | none =>
                refine ⟨_, rfl, fun submission => ⟨nofun, fun formed => ?_⟩⟩
                obtain ⟨-, other, ending, layout, -⟩ := formed
                exact absurd ((layout_iff other ending).mp layout).2 nofun
            | some ending =>
                have layout := (layout_iff header ending).mpr ⟨rfl, rfl⟩
                obtain ⟨answer, answerEq, answerSpec⟩ := @submitted_spec packet long header ending
                  layout.high
                refine ⟨answer, answerEq, fun submission => ?_⟩
                rw [answerSpec]
                constructor
                · intro fits
                  exact ⟨Decidable.not_not.mp kind, header, ending, layout, fits⟩
                · rintro ⟨-, otherHeader, otherEnding, other, fits⟩
                  obtain ⟨sameHeader, sameEnding⟩ := (layout_iff otherHeader otherEnding).mp other
                  cases sameHeader
                  cases sameEnding
                  exact fits

/-- Exactly the payloads of 1 to 2048 bytes of well-formed packets of payload type 8 are
submitted, and nothing outside a packet is read. -/
theorem backchannel_rtp_submits (packet : Bytes) :
    ∃ answer, backchannel_rtp packet = some answer ∧ ∀ submission,
      answer = some submission ↔ ∃ parts : Parts, parts.WellFormed ∧ parts.bytes = packet ∧
        byteAt parts.fixed 1 % 128 = 8 ∧
        1 ≤ parts.payload.length ∧ parts.payload.length ≤ 2048 ∧
        submission = ⟨sourceOf parts.fixed, parts.payload⟩ := by
  obtain ⟨answer, answerEq, spec⟩ := backchannel_rtp_spec packet
  refine ⟨answer, answerEq, fun submission => ?_⟩
  rw [spec]
  constructor
  · rintro ⟨kind, header, ending, layout, order, fits, rfl⟩
    have twelve := layout.fixed
    have high := layout.high
    refine ⟨partsOf packet header ending, layout.wellFormed (Nat.le_of_lt order),
      layout.bytes_partsOf (Nat.le_of_lt order), ?_⟩
    have fixed : ∀ index < 12, byteAt (packet.take 12) index = byteAt packet index :=
      fun index inside => byteAt_take inside
    have length : ((packet.drop header).take (ending - header)).length = ending - header := by
      rw [List.length_take, List.length_drop]
      omega
    have source : sourceOf (packet.take 12) = sourceOf packet := by
      simp only [sourceOf, fixed 8 (by omega), fixed 9 (by omega), fixed 10 (by omega),
        fixed 11 (by omega)]
    dsimp only [partsOf]
    rw [fixed 1 (by omega), length, source]
    exact ⟨kind, by omega, fits, rfl⟩
  · rintro ⟨parts, formed, rfl, kind, some_, few, rfl⟩
    have twelve := formed.fixed
    have fixed : ∀ index < 12, byteAt parts.bytes index = byteAt parts.fixed index :=
      fun index inside => byteAt_append_left (by omega)
    have source : sourceOf parts.bytes = sourceOf parts.fixed := by
      simp only [sourceOf, fixed 8 (by omega), fixed 9 (by omega), fixed 10 (by omega),
        fixed 11 (by omega)]
    refine ⟨by rw [fixed 1 (by omega)]; exact kind, _, _, formed.layout, by omega, by omega, ?_⟩
    rw [source, Nat.add_sub_cancel_left, Parts.bytes, ← List.append_assoc, ← List.append_assoc,
      ← List.length_append, ← List.length_append, List.drop_left, List.take_left]

end JooanW3U.Media.Backchannel
