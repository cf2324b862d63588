import Mathlib.Data.List.GetD

/-!
Owns well-formed RTP packets of version 2: the fixed header, the contributing
sources, the header extension, the payload and the padding. Main result: where the
payload of a packet lies is decided by the lengths that the packet names.

Does not own what a payload means, or the fields that say nothing about lengths.
-/

namespace JooanW3U.Library.RtpPacket

abbrev Bytes := List UInt8

/-- A byte of a list that is long enough. -/
def byteAt (bytes : Bytes) (index : Nat) : Nat := (bytes.getD index 0).toNat

/-! ### Packets by their parts -/

structure Parts where
  fixed : Bytes
  sources : Bytes
  extension : Bytes
  payload : Bytes
  padding : Bytes
deriving DecidableEq, Repr

def Parts.bytes (parts : Parts) : Bytes :=
  parts.fixed ++ (parts.sources ++ (parts.extension ++ (parts.payload ++ parts.padding)))

/-- How many words the second half of an extension's own header names. -/
def words (extension : Bytes) : Nat := 256 * byteAt extension 2 + byteAt extension 3

structure Parts.WellFormed (parts : Parts) : Prop where
  fixed : parts.fixed.length = 12
  version : byteAt parts.fixed 0 / 64 = 2
  sources : parts.sources.length = 4 * (byteAt parts.fixed 0 % 16)
  extended : byteAt parts.fixed 0 / 16 % 2 = 1 →
    4 ≤ parts.extension.length ∧ parts.extension.length = 4 + 4 * words parts.extension
  plain : byteAt parts.fixed 0 / 16 % 2 = 0 → parts.extension = []
  padded : byteAt parts.fixed 0 / 32 % 2 = 1 →
    1 ≤ parts.padding.length ∧ byteAt parts.padding (parts.padding.length - 1) = parts.padding.length
  unpadded : byteAt parts.fixed 0 / 32 % 2 = 0 → parts.padding = []

/-! ### Packets by their lengths -/

/-- The payload of `packet` reaches from `header` to `ending`. -/
structure Layout (packet : Bytes) (header ending : Nat) : Prop where
  fixed : 12 ≤ packet.length
  version : byteAt packet 0 / 64 = 2
  extended : byteAt packet 0 / 16 % 2 = 1 →
    12 + 4 * (byteAt packet 0 % 16) + 4 ≤ packet.length ∧
      header = 12 + 4 * (byteAt packet 0 % 16) + 4 +
        4 * words (packet.drop (12 + 4 * (byteAt packet 0 % 16)))
  plain : byteAt packet 0 / 16 % 2 = 0 → header = 12 + 4 * (byteAt packet 0 % 16)
  padded : byteAt packet 0 / 32 % 2 = 1 →
    1 ≤ byteAt packet (packet.length - 1) ∧
      ending + byteAt packet (packet.length - 1) = packet.length
  unpadded : byteAt packet 0 / 32 % 2 = 0 → ending = packet.length

theorem byteAt_append_left {early late : Bytes} {index : Nat} (inside : index < early.length) :
    byteAt (early ++ late) index = byteAt early index := by
  rw [byteAt, List.getD_append _ _ _ _ inside, byteAt]

theorem byteAt_append_right {early late : Bytes} {index : Nat} (behind : early.length ≤ index) :
    byteAt (early ++ late) index = byteAt late (index - early.length) := by
  rw [byteAt, List.getD_append_right _ _ _ _ behind, byteAt]

theorem byteAt_drop (bytes : Bytes) (start index : Nat) :
    byteAt (bytes.drop start) index = byteAt bytes (start + index) := by
  rw [byteAt, List.getD_eq_getElem?_getD, List.getElem?_drop, ← List.getD_eq_getElem?_getD, byteAt]

theorem byteAt_take {bytes : Bytes} {count index : Nat} (inside : index < count) :
    byteAt (bytes.take count) index = byteAt bytes index := by
  rw [byteAt, List.getD_eq_getElem?_getD, List.getElem?_take_of_lt inside,
    ← List.getD_eq_getElem?_getD, byteAt]

theorem words_append {extension : Bytes} (long : 4 ≤ extension.length) (rest : Bytes) :
    words (extension ++ rest) = words extension := by
  rw [words, byteAt_append_left (by omega), byteAt_append_left (by omega), words]

theorem words_take {bytes : Bytes} {count : Nat} (long : 4 ≤ count) :
    words (bytes.take count) = words bytes := by
  rw [words, byteAt_take (by omega), byteAt_take (by omega), words]

/-- A well-formed packet's payload lies where its lengths say. -/
theorem Parts.WellFormed.layout {parts : Parts} (formed : parts.WellFormed) :
    Layout parts.bytes
      (parts.fixed.length + parts.sources.length + parts.extension.length)
      (parts.fixed.length + parts.sources.length + parts.extension.length +
        parts.payload.length) := by
  have length : parts.bytes.length = parts.fixed.length + (parts.sources.length +
      (parts.extension.length + (parts.payload.length + parts.padding.length))) := by
    simp only [Parts.bytes, List.length_append]
  have twelve := formed.fixed
  have sources := formed.sources
  have first : byteAt parts.bytes 0 = byteAt parts.fixed 0 :=
    byteAt_append_left (by omega)
  have behind : parts.bytes.drop (12 + 4 * (byteAt parts.fixed 0 % 16)) =
      parts.extension ++ (parts.payload ++ parts.padding) := by
    rw [← twelve, ← sources, Parts.bytes, ← List.append_assoc, ← List.length_append,
      List.drop_left]
  constructor
  · omega
  · rw [first]
    exact formed.version
  · intro extended
    rw [first] at extended ⊢
    have shape := formed.extended extended
    rw [behind, words_append shape.1]
    omega
  · intro plain
    rw [first] at plain ⊢
    rw [formed.plain plain, List.length_nil]
    omega
  · intro padded
    rw [first] at padded
    have shape := formed.padded padded
    have last : byteAt parts.bytes (parts.bytes.length - 1) =
        byteAt parts.padding (parts.padding.length - 1) := by
      have split : parts.bytes = (parts.fixed ++ parts.sources ++ parts.extension ++
          parts.payload) ++ parts.padding := by
        simp only [Parts.bytes, List.append_assoc]
      have short : (parts.fixed ++ parts.sources ++ parts.extension ++ parts.payload).length =
          parts.bytes.length - parts.padding.length := by
        have whole := congrArg List.length split
        rw [@List.length_append _ _ parts.padding] at whole
        omega
      rw [split, byteAt_append_right (by rw [← split]; omega)]
      congr 1
      rw [← split]
      omega
    rw [last]
    omega
  · intro unpadded
    rw [first] at unpadded
    rw [length, formed.unpadded unpadded, List.length_nil]
    omega

/-- What the lengths of a packet cut it into. -/
def partsOf (packet : Bytes) (header ending : Nat) : Parts where
  fixed := packet.take 12
  sources := (packet.drop 12).take (4 * (byteAt packet 0 % 16))
  extension := (packet.drop (12 + 4 * (byteAt packet 0 % 16))).take
    (header - (12 + 4 * (byteAt packet 0 % 16)))
  payload := (packet.drop header).take (ending - header)
  padding := packet.drop ending

theorem take_append_drop_take (bytes : Bytes) {early late : Nat} (order : early ≤ late) :
    (bytes.drop early).take (late - early) ++ bytes.drop late = bytes.drop early := by
  have split := List.take_append_drop (late - early) (bytes.drop early)
  rw [List.drop_drop, Nat.add_sub_cancel' order] at split
  exact split

theorem Layout.low {packet : Bytes} {header ending : Nat} (layout : Layout packet header ending) :
    12 + 4 * (byteAt packet 0 % 16) ≤ header := by
  rcases Nat.mod_two_eq_zero_or_one (byteAt packet 0 / 16) with plain | extended
  · exact Nat.le_of_eq (layout.plain plain).symm
  · have shape := (layout.extended extended).2
    omega

theorem Layout.high {packet : Bytes} {header ending : Nat} (layout : Layout packet header ending) :
    ending ≤ packet.length := by
  rcases Nat.mod_two_eq_zero_or_one (byteAt packet 0 / 32) with unpadded | padded
  · exact Nat.le_of_eq (layout.unpadded unpadded)
  · have shape := (layout.padded padded).2
    omega

theorem Layout.bytes_partsOf {packet : Bytes} {header ending : Nat}
    (layout : Layout packet header ending) (order : header ≤ ending) :
    (partsOf packet header ending).bytes = packet := by
  have low := layout.low
  have sources : (packet.drop 12).take (4 * (byteAt packet 0 % 16)) ++
      packet.drop (12 + 4 * (byteAt packet 0 % 16)) = packet.drop 12 := by
    have split := take_append_drop_take packet
      (Nat.le_add_right 12 (4 * (byteAt packet 0 % 16)))
    rwa [Nat.add_sub_cancel_left] at split
  rw [Parts.bytes, partsOf]
  dsimp only
  rw [take_append_drop_take packet order, take_append_drop_take packet low, sources,
    List.take_append_drop]

theorem Layout.wellFormed {packet : Bytes} {header ending : Nat}
    (layout : Layout packet header ending) (order : header ≤ ending) :
    (partsOf packet header ending).WellFormed := by
  have twelve := layout.fixed
  have low := layout.low
  have high := layout.high
  have first : byteAt (packet.take 12) 0 = byteAt packet 0 := byteAt_take (by omega)
  constructor <;> dsimp only [partsOf]
  · rw [List.length_take]
    omega
  · rw [first]
    exact layout.version
  · rw [first, List.length_take, List.length_drop]
    omega
  · intro extended
    rw [first] at extended
    have shape := layout.extended extended
    rw [words_take (by omega), List.length_take, List.length_drop]
    omega
  · intro plain
    rw [first] at plain
    rw [layout.plain plain, Nat.sub_self, List.take_zero]
  · intro padded
    rw [first] at padded
    have shape := layout.padded padded
    rw [List.length_drop, byteAt_drop,
      show ending + (packet.length - ending - 1) = packet.length - 1 by omega]
    omega
  · intro unpadded
    rw [first] at unpadded
    rw [layout.unpadded unpadded, List.drop_length]

/-- A packet whose payload has a given place is a well-formed one with that payload. -/
theorem wellFormed_iff_layout (packet payload : Bytes) :
    (∃ parts : Parts, parts.WellFormed ∧ parts.bytes = packet ∧ parts.payload = payload) ↔
      ∃ header ending, Layout packet header ending ∧ header ≤ ending ∧
        payload = (packet.drop header).take (ending - header) := by
  constructor
  · rintro ⟨parts, formed, rfl, rfl⟩
    refine ⟨_, _, formed.layout, Nat.le_add_right _ _, ?_⟩
    rw [Nat.add_sub_cancel_left, Parts.bytes, ← List.append_assoc, ← List.append_assoc,
      ← List.length_append, ← List.length_append, List.drop_left, List.take_left]
  · rintro ⟨header, ending, layout, order, rfl⟩
    exact ⟨partsOf packet header ending, layout.wellFormed order, layout.bytes_partsOf order, rfl⟩

end JooanW3U.Library.RtpPacket
