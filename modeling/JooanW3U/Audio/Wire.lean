import JooanW3U.Library.BigEndian

/-!
Owns the formats of the audio service: the frames of a WebSocket client, and the datagrams
to the guard. Main results: a frame is parsed exactly from the bytes it is built into.

Does not own who may send which frame.
-/

namespace JooanW3U.Audio.Wire

open JooanW3U.Library.BigEndian

abbrev Bytes := List UInt8

def JOOAN_AUDIO_WIRE_HEADER_SIZE : Nat := 16
def JOOAN_AUDIO_WIRE_MAX_PAYLOAD : Nat := 1024
def JOOAN_AUDIO_WIRE_VERSION : Nat := 1
def JOOAN_AUDIO_GUARD_HEADER_SIZE : Nat := 24
def JOOAN_AUDIO_SAMPLES_PER_PACKET : Nat := 320

def JOOAN_AUDIO_PTT_ACQUIRE : Nat := 1
def JOOAN_AUDIO_PTT_PCMA : Nat := 2
def JOOAN_AUDIO_PTT_RELEASE : Nat := 3
def JOOAN_AUDIO_GUARD_SPEAKER_LEASE : Nat := 4
def JOOAN_AUDIO_MIC_PCMA : Nat := 0x81
def JOOAN_AUDIO_STATE : Nat := 0x82
def JOOAN_AUDIO_ERROR : Nat := 0xff

def read_be16 (p : Bytes) : Nat := number (p.take 2)
def read_be32 (p : Bytes) : Nat := number (p.take 4)
def read_be64 (p : Bytes) : Nat := number (p.take 8)

def write_be16 : Nat → Bytes := field 2
def write_be32 : Nat → Bytes := field 4
def write_be64 : Nat → Bytes := field 8

/-! ### Frames of a WebSocket client -/

/-- "JAUD" -/
def JAUD : Bytes := [0x4a, 0x41, 0x55, 0x44]

/-- `struct jooan_audio_wire_frame` -/
structure Frame where
  type : Nat
  flags : Nat
  sequence : Nat
  payload : Bytes
deriving Repr, DecidableEq

/-- The values of its C types. -/
structure Frame.Fits (frame : Frame) : Prop where
  type : frame.type < 2 ^ 8
  flags : frame.flags < 2 ^ 8
  sequence : frame.sequence < 2 ^ 32

def valid_type (type : Nat) : Bool :=
  type ∈ [JOOAN_AUDIO_PTT_ACQUIRE, JOOAN_AUDIO_PTT_PCMA, JOOAN_AUDIO_PTT_RELEASE,
    JOOAN_AUDIO_MIC_PCMA, JOOAN_AUDIO_STATE, JOOAN_AUDIO_ERROR]

def jooan_audio_wire_parse (p : Bytes) : Option Frame :=
  if p.length < JOOAN_AUDIO_WIRE_HEADER_SIZE then none
  else
    let type := (p.getD 5 0).toNat
    let payload_length := read_be16 (p.drop 12)
    if p.take 4 ≠ JAUD ∨ (p.getD 4 0).toNat ≠ JOOAN_AUDIO_WIRE_VERSION ∨
        (p.getD 7 0).toNat ≠ JOOAN_AUDIO_WIRE_HEADER_SIZE ∨ valid_type type = false ∨
        read_be32 (p.drop 8) = 0 ∨ read_be16 (p.drop 14) ≠ 0 then
      none
    else if JOOAN_AUDIO_WIRE_MAX_PAYLOAD < payload_length ∨
        p.length ≠ JOOAN_AUDIO_WIRE_HEADER_SIZE + payload_length then
      none
    else if (type = JOOAN_AUDIO_PTT_ACQUIRE ∨ type = JOOAN_AUDIO_PTT_RELEASE) ∧
        payload_length ≠ 0 then
      none
    else if (type = JOOAN_AUDIO_PTT_PCMA ∨ type = JOOAN_AUDIO_MIC_PCMA) ∧
        payload_length = 0 then
      none
    else
      some
        { type
          flags := (p.getD 6 0).toNat
          sequence := read_be32 (p.drop 8)
          payload := p.drop JOOAN_AUDIO_WIRE_HEADER_SIZE }

/-- The bytes of a frame. -/
def Frame.bytes (frame : Frame) : Bytes :=
  JAUD ++ [UInt8.ofNat JOOAN_AUDIO_WIRE_VERSION, UInt8.ofNat frame.type, UInt8.ofNat frame.flags,
      UInt8.ofNat JOOAN_AUDIO_WIRE_HEADER_SIZE] ++
    (write_be32 frame.sequence ++ (write_be16 frame.payload.length ++
      (write_be16 0 ++ frame.payload)))

/-- What is written into a buffer of this size. -/
def jooan_audio_wire_build (capacity : Nat) (frame : Frame) : Option Bytes :=
  if frame.sequence = 0 ∨ JOOAN_AUDIO_WIRE_MAX_PAYLOAD < frame.payload.length ∨
      capacity < JOOAN_AUDIO_WIRE_HEADER_SIZE + frame.payload.length then
    none
  else if jooan_audio_wire_parse frame.bytes = none then none
  else some frame.bytes

def jooan_audio_sequence_accept (last_sequence candidate : Nat) : Option Nat :=
  if candidate = 0 then none
  else
    let expected := if last_sequence = 2 ^ 32 - 1 then 1 else last_sequence + 1
    if candidate ≠ expected then none else some candidate

/-! ### Datagrams to the guard -/

/-- "JAGD" -/
def JAGD : Bytes := [0x4a, 0x41, 0x47, 0x44]

/-- `struct jooan_audio_guard_frame` -/
structure GuardFrame where
  type : Nat
  session_id : Nat
  sequence : Nat
  payload : Bytes
deriving Repr, DecidableEq

structure GuardFrame.Fits (frame : GuardFrame) : Prop where
  type : frame.type < 2 ^ 8
  session_id : frame.session_id < 2 ^ 64
  sequence : frame.sequence < 2 ^ 32

def valid_guard_payload (type length : Nat) : Bool :=
  if type = JOOAN_AUDIO_PTT_ACQUIRE ∨ type = JOOAN_AUDIO_PTT_RELEASE then length = 0
  else if type = JOOAN_AUDIO_GUARD_SPEAKER_LEASE then length = 0
  else if type = JOOAN_AUDIO_PTT_PCMA then length = JOOAN_AUDIO_SAMPLES_PER_PACKET
  else false

def jooan_audio_guard_datagram_parse (p : Bytes) : Option GuardFrame :=
  if p.length < JOOAN_AUDIO_GUARD_HEADER_SIZE then none
  else
    let type := (p.getD 5 0).toNat
    let payload_length := read_be16 (p.drop 20)
    if p.take 4 ≠ JAGD ∨ (p.getD 4 0).toNat ≠ 1 ∨ read_be16 (p.drop 6) ≠ 0 ∨
        read_be16 (p.drop 22) ≠ 0 ∨
        p.length ≠ JOOAN_AUDIO_GUARD_HEADER_SIZE + payload_length ∨
        valid_guard_payload type payload_length = false ∨
        read_be64 (p.drop 8) = 0 ∨ read_be32 (p.drop 16) = 0 then
      none
    else
      some
        { type
          session_id := read_be64 (p.drop 8)
          sequence := read_be32 (p.drop 16)
          payload := p.drop JOOAN_AUDIO_GUARD_HEADER_SIZE }

/-- The bytes of a frame. -/
def GuardFrame.bytes (frame : GuardFrame) : Bytes :=
  JAGD ++ [1, UInt8.ofNat frame.type] ++
    (write_be16 0 ++ (write_be64 frame.session_id ++ (write_be32 frame.sequence ++
      (write_be16 frame.payload.length ++ (write_be16 0 ++ frame.payload)))))

/-- What is written into a buffer of this size. -/
def jooan_audio_guard_datagram_build (capacity : Nat) (frame : GuardFrame) : Option Bytes :=
  if frame.session_id = 0 ∨ frame.sequence = 0 ∨
      capacity < JOOAN_AUDIO_GUARD_HEADER_SIZE + frame.payload.length ∨
      valid_guard_payload frame.type frame.payload.length = false then
    none
  else some frame.bytes

/-! ### Frames and their bytes -/

/-- A frame that can be built and parsed. -/
structure Frame.Valid (frame : Frame) : Prop where
  type : valid_type frame.type = true
  sequence : frame.sequence ≠ 0
  size : frame.payload.length ≤ JOOAN_AUDIO_WIRE_MAX_PAYLOAD
  empty : frame.type = JOOAN_AUDIO_PTT_ACQUIRE ∨ frame.type = JOOAN_AUDIO_PTT_RELEASE →
    frame.payload.length = 0
  sound : frame.type = JOOAN_AUDIO_PTT_PCMA ∨ frame.type = JOOAN_AUDIO_MIC_PCMA →
    frame.payload.length ≠ 0

theorem frame_of_parse {p : Bytes} {frame : Frame} (parsed : jooan_audio_wire_parse p = some frame) :
    frame.Fits ∧ frame.Valid ∧ p = frame.bytes := by
  unfold jooan_audio_wire_parse at parsed
  split at parsed
  · contradiction
  rename_i long
  have header : 16 ≤ p.length := Nat.le_of_not_lt long
  dsimp only at parsed
  split at parsed
  · contradiction
  rename_i front
  simp only [not_or, not_not, Bool.not_eq_false] at front
  obtain ⟨magic, version, size, type, sequence, reserved⟩ := front
  split at parsed
  · contradiction
  rename_i fits
  obtain ⟨small, whole⟩ := not_or.mp fits
  have whole := not_not.mp whole
  split at parsed
  · contradiction
  rename_i empty
  split at parsed
  · contradiction
  rename_i sound
  have payload : (p.drop 16).length = read_be16 (p.drop 12) := by
    rw [List.length_drop, whole]
    exact Nat.add_sub_cancel_left _ _
  rw [← payload] at empty sound small
  rw [← Option.some.inj parsed]
  refine ⟨⟨UInt8.toNat_lt _, UInt8.toNat_lt _, ?_⟩, ⟨type, sequence, Nat.le_of_not_lt small, ?_, ?_⟩, ?_⟩
  · have below := number_lt ((p.drop 8).take 4)
    rw [List.length_take, List.length_drop] at below
    have four : min 4 (p.length - 8) = 4 := by omega
    rw [four] at below
    exact below
  · intro control
    by_contra more
    exact empty ⟨control, more⟩
  · intro pcm none
    exact sound ⟨pcm, none⟩
  · have first : p = JAUD ++ p.drop 4 := by
      rw [← magic, List.take_append_drop]
    have version_byte : UInt8.ofNat (p.getD 4 0).toNat = UInt8.ofNat JOOAN_AUDIO_WIRE_VERSION := by
      rw [version]
    have size_byte : UInt8.ofNat (p.getD 7 0).toNat =
        UInt8.ofNat JOOAN_AUDIO_WIRE_HEADER_SIZE := by
      rw [size]
    have sequence_field : p.drop 8 = write_be32 (read_be32 (p.drop 8)) ++ p.drop 12 :=
      drop_eq_field (by omega)
    have length_field : p.drop 12 = write_be16 (read_be16 (p.drop 12)) ++ p.drop 14 :=
      drop_eq_field (by omega)
    have reserved_field : p.drop 14 = write_be16 (read_be16 (p.drop 14)) ++ p.drop 16 :=
      drop_eq_field (by omega)
    have bytes : p.drop 4 = [UInt8.ofNat JOOAN_AUDIO_WIRE_VERSION,
        UInt8.ofNat (p.getD 5 0).toNat, UInt8.ofNat (p.getD 6 0).toNat,
        UInt8.ofNat JOOAN_AUDIO_WIRE_HEADER_SIZE] ++ p.drop 8 := by
      rw [drop_eq_byte (show 4 < p.length by omega), drop_eq_byte (show 5 < p.length by omega),
        drop_eq_byte (show 6 < p.length by omega), drop_eq_byte (show 7 < p.length by omega),
        version_byte, size_byte]
      rfl
    rw [reserved] at reserved_field
    rw [← payload, reserved_field] at length_field
    rw [length_field] at sequence_field
    rw [sequence_field] at bytes
    rw [bytes, ← List.append_assoc] at first
    exact first

/-- The parser sees in the bytes of a frame what was put there, if it takes them. -/
theorem parse_bytes {frame : Frame} (fits : frame.Fits)
    (small : frame.payload.length ≤ JOOAN_AUDIO_WIRE_MAX_PAYLOAD) :
    jooan_audio_wire_parse frame.bytes = none ∨
      jooan_audio_wire_parse frame.bytes = some frame := by
  have type : (frame.bytes.getD 5 0).toNat = frame.type := UInt8.toNat_ofNat_of_lt fits.type
  have flags : (frame.bytes.getD 6 0).toNat = frame.flags := UInt8.toNat_ofNat_of_lt fits.flags
  have behind8 : frame.bytes.drop 8 = write_be32 frame.sequence ++
      (write_be16 frame.payload.length ++ (write_be16 0 ++ frame.payload)) := rfl
  have behind12 : frame.bytes.drop 12 =
      write_be16 frame.payload.length ++ (write_be16 0 ++ frame.payload) := by
    rw [show 12 = 8 + 4 by rfl, ← List.drop_drop, behind8, write_be32, drop_field]
  have behind14 : frame.bytes.drop 14 = write_be16 0 ++ frame.payload := by
    rw [show 14 = 12 + 2 by rfl, ← List.drop_drop, behind12, write_be16, drop_field]
  have behind16 : frame.bytes.drop 16 = frame.payload := by
    rw [show 16 = 14 + 2 by rfl, ← List.drop_drop, behind14, write_be16, drop_field]
  have sequence : read_be32 (frame.bytes.drop 8) = frame.sequence := by
    rw [behind8, read_be32, write_be32, take_field]
    exact number_field_of_lt fits.sequence
  have size : read_be16 (frame.bytes.drop 12) = frame.payload.length := by
    rw [behind12, read_be16, write_be16, take_field]
    exact number_field_of_lt (Nat.lt_of_le_of_lt small (by decide))
  have reserved : read_be16 (frame.bytes.drop 14) = 0 := by
    rw [behind14, read_be16, write_be16, take_field]
    rfl
  unfold jooan_audio_wire_parse
  dsimp only
  rw [type, flags, sequence, size, reserved, JOOAN_AUDIO_WIRE_HEADER_SIZE, behind16]
  split
  · exact .inl rfl
  · split
    · exact .inl rfl
    · split
      · exact .inl rfl
      · split
        · exact .inl rfl
        · split
          · exact .inl rfl
          · exact .inr rfl

/-- A frame is parsed exactly from the bytes it is built into. -/
theorem wire_parse_iff (p : Bytes) (frame : Frame) :
    jooan_audio_wire_parse p = some frame ↔
      frame.Fits ∧ ∃ capacity, jooan_audio_wire_build capacity frame = some p := by
  constructor
  · intro parsed
    obtain ⟨fits, valid, rfl⟩ := frame_of_parse parsed
    refine ⟨fits, JOOAN_AUDIO_WIRE_HEADER_SIZE + frame.payload.length, ?_⟩
    rw [jooan_audio_wire_build, if_neg, parsed, if_neg (by simp)]
    exact not_or.mpr ⟨valid.sequence, not_or.mpr ⟨Nat.not_lt.mpr valid.size, Nat.lt_irrefl _⟩⟩
  · rintro ⟨fits, capacity, built⟩
    unfold jooan_audio_wire_build at built
    split at built
    · contradiction
    · split at built
      · contradiction
      · rename_i refused readable
        have small := Nat.le_of_not_lt (not_or.mp (not_or.mp refused).2).1
        rw [← Option.some.inj built]
        exact (parse_bytes fits small).resolve_left readable

/-! ### Datagrams and their bytes -/

theorem frame_of_guard_parse {p : Bytes} {frame : GuardFrame}
    (parsed : jooan_audio_guard_datagram_parse p = some frame) :
    frame.Fits ∧ valid_guard_payload frame.type frame.payload.length = true ∧
      frame.session_id ≠ 0 ∧ frame.sequence ≠ 0 ∧ p = frame.bytes := by
  unfold jooan_audio_guard_datagram_parse at parsed
  split at parsed
  · contradiction
  rename_i long
  have header : 24 ≤ p.length := Nat.le_of_not_lt long
  dsimp only at parsed
  split at parsed
  · contradiction
  rename_i front
  simp only [not_or, not_not, Bool.not_eq_false] at front
  obtain ⟨magic, version, padding, reserved, whole, valid, session, sequence⟩ := front
  have payload : (p.drop 24).length = read_be16 (p.drop 20) := by
    rw [List.length_drop, whole]
    exact Nat.add_sub_cancel_left _ _
  rw [← payload] at valid
  rw [← Option.some.inj parsed]
  refine ⟨⟨UInt8.toNat_lt _, ?_, ?_⟩, valid, session, sequence, ?_⟩
  · have below := number_lt ((p.drop 8).take 8)
    rw [List.length_take, List.length_drop, Nat.min_eq_left (by omega)] at below
    exact below
  · have below := number_lt ((p.drop 16).take 4)
    rw [List.length_take, List.length_drop, Nat.min_eq_left (by omega)] at below
    exact below
  · have first : p = JAGD ++ p.drop 4 := by
      rw [← magic, List.take_append_drop]
    have version_byte : UInt8.ofNat (p.getD 4 0).toNat = 1 := by
      rw [version]
      rfl
    have bytes : p.drop 4 = [1, UInt8.ofNat (p.getD 5 0).toNat] ++ p.drop 6 := by
      rw [drop_eq_byte (show 4 < p.length by omega), drop_eq_byte (show 5 < p.length by omega),
        version_byte]
      rfl
    have padding_field : p.drop 6 = write_be16 (read_be16 (p.drop 6)) ++ p.drop 8 :=
      drop_eq_field (by omega)
    have session_field : p.drop 8 = write_be64 (read_be64 (p.drop 8)) ++ p.drop 16 :=
      drop_eq_field (by omega)
    have sequence_field : p.drop 16 = write_be32 (read_be32 (p.drop 16)) ++ p.drop 20 :=
      drop_eq_field (by omega)
    have length_field : p.drop 20 = write_be16 (read_be16 (p.drop 20)) ++ p.drop 22 :=
      drop_eq_field (by omega)
    have reserved_field : p.drop 22 = write_be16 (read_be16 (p.drop 22)) ++ p.drop 24 :=
      drop_eq_field (by omega)
    rw [reserved] at reserved_field
    rw [← payload, reserved_field] at length_field
    rw [length_field] at sequence_field
    rw [sequence_field] at session_field
    rw [padding, session_field] at padding_field
    rw [padding_field] at bytes
    rw [bytes, ← List.append_assoc] at first
    exact first

theorem guard_payload_le {type length : Nat} (valid : valid_guard_payload type length = true) :
    length ≤ JOOAN_AUDIO_SAMPLES_PER_PACKET := by
  unfold valid_guard_payload at valid
  split at valid
  · rw [of_decide_eq_true valid]
    exact Nat.zero_le _
  · split at valid
    · rw [of_decide_eq_true valid]
      exact Nat.zero_le _
    · split at valid
      · exact Nat.le_of_eq (of_decide_eq_true valid)
      · contradiction

theorem guard_parse_bytes {frame : GuardFrame} (fits : frame.Fits)
    (valid : valid_guard_payload frame.type frame.payload.length = true)
    (session : frame.session_id ≠ 0) (sequence : frame.sequence ≠ 0) :
    jooan_audio_guard_datagram_parse frame.bytes = some frame := by
  have small := guard_payload_le valid
  have length : frame.bytes.length = JOOAN_AUDIO_GUARD_HEADER_SIZE + frame.payload.length := by
    simp only [GuardFrame.bytes, JAGD, write_be64, write_be32, write_be16, List.length_append,
      length_field, List.length_cons, List.length_nil, JOOAN_AUDIO_GUARD_HEADER_SIZE]
    omega
  have type : (frame.bytes.getD 5 0).toNat = frame.type := UInt8.toNat_ofNat_of_lt fits.type
  have behind6 : frame.bytes.drop 6 = write_be16 0 ++ (write_be64 frame.session_id ++
      (write_be32 frame.sequence ++ (write_be16 frame.payload.length ++
        (write_be16 0 ++ frame.payload)))) := rfl
  have behind8 : frame.bytes.drop 8 = write_be64 frame.session_id ++ (write_be32 frame.sequence ++
      (write_be16 frame.payload.length ++ (write_be16 0 ++ frame.payload))) := rfl
  have behind16 : frame.bytes.drop 16 = write_be32 frame.sequence ++
      (write_be16 frame.payload.length ++ (write_be16 0 ++ frame.payload)) := by
    rw [show 16 = 8 + 8 by rfl, ← List.drop_drop, behind8, write_be64, drop_field]
  have behind20 : frame.bytes.drop 20 =
      write_be16 frame.payload.length ++ (write_be16 0 ++ frame.payload) := by
    rw [show 20 = 16 + 4 by rfl, ← List.drop_drop, behind16, write_be32, drop_field]
  have behind22 : frame.bytes.drop 22 = write_be16 0 ++ frame.payload := by
    rw [show 22 = 20 + 2 by rfl, ← List.drop_drop, behind20, write_be16, drop_field]
  have behind24 : frame.bytes.drop 24 = frame.payload := by
    rw [show 24 = 22 + 2 by rfl, ← List.drop_drop, behind22, write_be16, drop_field]
  have padding : read_be16 (frame.bytes.drop 6) = 0 := by
    rw [behind6, read_be16, write_be16, take_field]
    rfl
  have id : read_be64 (frame.bytes.drop 8) = frame.session_id := by
    rw [behind8, read_be64, write_be64, take_field]
    exact number_field_of_lt fits.session_id
  have order : read_be32 (frame.bytes.drop 16) = frame.sequence := by
    rw [behind16, read_be32, write_be32, take_field]
    exact number_field_of_lt fits.sequence
  have size : read_be16 (frame.bytes.drop 20) = frame.payload.length := by
    rw [behind20, read_be16, write_be16, take_field]
    exact number_field_of_lt (Nat.lt_of_le_of_lt small (by decide))
  have reserved : read_be16 (frame.bytes.drop 22) = 0 := by
    rw [behind22, read_be16, write_be16, take_field]
    rfl
  have long : ¬frame.bytes.length < JOOAN_AUDIO_GUARD_HEADER_SIZE := by
    rw [length]
    omega
  unfold jooan_audio_guard_datagram_parse
  rw [if_neg long]
  dsimp only
  rw [type, padding, id, order, size, reserved, if_neg, JOOAN_AUDIO_GUARD_HEADER_SIZE, behind24]
  simp only [not_or, not_not, Bool.not_eq_false]
  exact ⟨rfl, rfl, trivial, trivial, length, valid, session, sequence⟩

/-- A datagram is parsed exactly from the bytes it is built into. -/
theorem guard_parse_iff (p : Bytes) (frame : GuardFrame) :
    jooan_audio_guard_datagram_parse p = some frame ↔
      frame.Fits ∧ ∃ capacity, jooan_audio_guard_datagram_build capacity frame = some p := by
  constructor
  · intro parsed
    obtain ⟨fits, valid, session, sequence, rfl⟩ := frame_of_guard_parse parsed
    refine ⟨fits, JOOAN_AUDIO_GUARD_HEADER_SIZE + frame.payload.length, ?_⟩
    rw [jooan_audio_guard_datagram_build, if_neg]
    simp only [not_or, Nat.lt_irrefl, not_false_iff, true_and, Bool.not_eq_false]
    exact ⟨session, sequence, valid⟩
  · rintro ⟨fits, capacity, built⟩
    unfold jooan_audio_guard_datagram_build at built
    split at built
    · contradiction
    · rename_i accepted
      simp only [not_or, Bool.not_eq_false] at accepted
      obtain ⟨session, sequence, -, valid⟩ := accepted
      rw [← Option.some.inj built]
      exact guard_parse_bytes fits valid session sequence

/-- Both formats at once. -/
theorem formats_parse_iff (p : Bytes) (frame : Frame) (guarded : GuardFrame) :
    (jooan_audio_wire_parse p = some frame ↔
        frame.Fits ∧ ∃ capacity, jooan_audio_wire_build capacity frame = some p) ∧
      (jooan_audio_guard_datagram_parse p = some guarded ↔
        guarded.Fits ∧ ∃ capacity, jooan_audio_guard_datagram_build capacity guarded = some p) :=
  ⟨wire_parse_iff p frame, guard_parse_iff p guarded⟩

end JooanW3U.Audio.Wire
