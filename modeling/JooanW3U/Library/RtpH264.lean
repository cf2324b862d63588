import Mathlib.Data.List.Basic

/-!
Owns RTP packets with the fixed header, and H.264 payloads in packetization mode
1: single NAL units and FU-A fragments. Main results: a packet parses back to its
fields, and depacketizing the payloads of NAL units gives the NAL units back.

Does not own sessions, aggregation packets or reordering.
-/

namespace JooanW3U.Library.RtpH264

abbrev Bytes := List UInt8

/-- What holds of the 256 values holds of every byte. -/
theorem forall_byte {property : UInt8 → Prop} (holds : ∀ n < 256, property (UInt8.ofNat n))
    (byte : UInt8) : property byte := by
  have value := holds byte.toNat byte.toNat_lt
  rwa [UInt8.ofNat_toNat] at value

/-! ### Packets -/

structure Packet where
  payloadType : UInt8
  marker : Bool
  sequence : UInt16
  timestamp : UInt32
  ssrc : UInt32
  payload : Bytes
deriving Repr, DecidableEq

def bytes16 (value : UInt16) : Bytes :=
  [UInt8.ofNat (value.toNat / 256), UInt8.ofNat value.toNat]

def bytes32 (value : UInt32) : Bytes :=
  [UInt8.ofNat (value.toNat / 16777216), UInt8.ofNat (value.toNat / 65536),
    UInt8.ofNat (value.toNat / 256), UInt8.ofNat value.toNat]

def word16 (a b : UInt8) : UInt16 := UInt16.ofNat (a.toNat * 256 + b.toNat)

def word32 (a b c d : UInt8) : UInt32 :=
  UInt32.ofNat (a.toNat * 16777216 + b.toNat * 65536 + c.toNat * 256 + d.toNat)

/-- Version 2 without padding, extension or contributing sources. -/
def Packet.bytes (packet : Packet) : Bytes :=
  [0x80, packet.payloadType ||| (if packet.marker then 0x80 else 0)] ++
    bytes16 packet.sequence ++ bytes32 packet.timestamp ++ bytes32 packet.ssrc ++ packet.payload

def Packet.parse : Bytes → Option Packet
  | 0x80 :: kind :: s :: t :: a :: b :: c :: d :: e :: f :: g :: h :: payload =>
      some ⟨kind &&& 0x7f, kind &&& 0x80 != 0, word16 s t, word32 a b c d, word32 e f g h, payload⟩
  | _ => none

theorem word16_bytes16 (value : UInt16) :
    word16 (UInt8.ofNat (value.toNat / 256)) (UInt8.ofNat value.toNat) = value := by
  apply UInt16.toNat_inj.mp
  have bound := value.toNat_lt
  simp only [word16, UInt16.toNat_ofNat', UInt8.toNat_ofNat']
  omega

theorem word32_bytes32 (value : UInt32) :
    word32 (UInt8.ofNat (value.toNat / 16777216)) (UInt8.ofNat (value.toNat / 65536))
      (UInt8.ofNat (value.toNat / 256)) (UInt8.ofNat value.toNat) = value := by
  apply UInt32.toNat_inj.mp
  have bound := value.toNat_lt
  simp only [word32, UInt32.toNat_ofNat', UInt8.toNat_ofNat']
  omega

/-- A packet with a seven-bit payload type parses back to itself. -/
theorem Packet.parse_bytes (packet : Packet) (sevenBit : packet.payloadType &&& 0x80 = 0) :
    Packet.parse packet.bytes = some packet := by
  have kind : ∀ byte : UInt8, byte &&& 0x80 = 0 →
      (byte &&& 0x7f = byte ∧ (byte ||| 0x80) &&& 0x7f = byte ∧ (byte ||| 0x80) &&& 0x80 ≠ 0) := by
    apply forall_byte
    decide +kernel
  obtain ⟨payloadType, marker, sequence, timestamp, ssrc, payload⟩ := packet
  obtain ⟨plain, masked, set⟩ := kind payloadType sevenBit
  have parsed : ∀ kind : UInt8, Packet.parse ([0x80, kind] ++ bytes16 sequence ++
      bytes32 timestamp ++ bytes32 ssrc ++ payload) =
        some ⟨kind &&& 0x7f, kind &&& 0x80 != 0, sequence, timestamp, ssrc, payload⟩ := by
    intro kind
    have fields : Packet.parse ([0x80, kind] ++ bytes16 sequence ++
        bytes32 timestamp ++ bytes32 ssrc ++ payload) =
          some ⟨kind &&& 0x7f, kind &&& 0x80 != 0, word16 _ _, word32 _ _ _ _, word32 _ _ _ _,
            payload⟩ := rfl
    rw [fields, word16_bytes16, word32_bytes32, word32_bytes32]
  rw [Packet.bytes, parsed]
  cases marker with
  | true => simp [masked, set]
  | false =>
      have clear : payloadType &&& 0x80 = 0 := sevenBit
      simp [plain, clear]

/-! ### Payloads -/

def nalType (header : UInt8) : Nat := (header &&& 0x1f).toNat

/-- The header byte of a NAL unit that may travel alone or in fragments. -/
def Sendable (header : UInt8) : Prop :=
  header &&& 0x80 = 0 ∧ 1 ≤ nalType header ∧ nalType header ≤ 23

instance (header : UInt8) : Decidable (Sendable header) :=
  inferInstanceAs (Decidable (_ ∧ _ ∧ _))

def fuIndicator (header : UInt8) : UInt8 := (header &&& 0xe0) ||| 28

def fuHeader (header : UInt8) (start stop : Bool) : UInt8 :=
  (header &&& 0x1f) ||| (if start then 0x80 else 0) ||| (if stop then 0x40 else 0)

/-- The FU-A payloads of a NAL unit's bytes after its header, `room` at a time. -/
def fragments (room : Nat) (header : UInt8) (start : Bool) (data : Bytes) : List Bytes :=
  if _whole : room = 0 ∨ data.length ≤ room then
    [fuIndicator header :: fuHeader header start true :: data]
  else
    (fuIndicator header :: fuHeader header start false :: data.take room) ::
      fragments room header false (data.drop room)
termination_by data.length
decreasing_by
  rw [List.length_drop]
  omega

/-- The payloads of one NAL unit under a size limit. -/
def payloads (limit : Nat) : Bytes → List Bytes
  | [] => []
  | header :: data =>
      if data.length + 1 ≤ limit then [header :: data]
      else fragments (limit - 2) header true data

/-- The NAL unit header an FU-A payload carries. -/
def rebuilt (indicator fu : UInt8) : UInt8 := (indicator &&& 0xe0) ||| (fu &&& 0x1f)

/-- The NAL units of consecutive payloads; `pending` is a NAL unit whose fragments
have begun. -/
def depacketize (pending : Option Bytes) : List Bytes → Option (List Bytes)
  | [] => if pending.isNone then some [] else none
  | payload :: rest =>
      match pending, payload with
      | none, header :: data =>
          if Sendable header then (depacketize none rest).map ((header :: data) :: ·)
          else
            match data with
            | fu :: data =>
                if nalType header = 28 ∧ Sendable (rebuilt header fu) ∧ fu &&& 0xc0 = 0x80 then
                  depacketize (some (rebuilt header fu :: data)) rest
                else none
            | [] => none
      | some nal, indicator :: fu :: data =>
          if nalType indicator = 28 ∧ nal.head? = some (rebuilt indicator fu) ∧
              fu &&& 0x80 = 0 then
            if fu &&& 0x40 = 0 then depacketize (some (nal ++ data)) rest
            else (depacketize none rest).map ((nal ++ data) :: ·)
          else none
      | _, _ => none

/-- The bits of the two bytes that head a fragment. -/
theorem fragment_head (header : UInt8) (sendable : Sendable header) (start stop : Bool) :
    ¬ Sendable (fuIndicator header) ∧ nalType (fuIndicator header) = 28 ∧
      rebuilt (fuIndicator header) (fuHeader header start stop) = header ∧
      (fuHeader header start stop &&& 0x80 = 0 ↔ start = false) ∧
      (fuHeader header start stop &&& 0x40 = 0 ↔ stop = false) ∧
      (fuHeader header start stop &&& 0xc0 = 0x80 ↔ start = true ∧ stop = false) := by
  revert sendable
  revert header
  apply forall_byte
  cases start <;> cases stop <;> decide +kernel

/-- Fragments after the first complete the NAL unit that has begun. -/
theorem depacketize_fragments {room : Nat} {header : UInt8}
    (sendable : Sendable header) (start : Bool) (later : start = false) (before data : Bytes)
    (rest : List Bytes) :
    depacketize (some (header :: before)) (fragments room header start data ++ rest) =
      (depacketize none rest).map ((header :: (before ++ data)) :: ·) := by
  fun_induction fragments room header start data generalizing before with
  | case1 start data whole =>
      obtain ⟨-, kind, same, notStart, notStop, -⟩ := fragment_head header sendable start true
      have clear := notStart.mpr later
      have set : ¬ fuHeader header start true &&& 0x40 = 0 := fun zero => by
        cases notStop.mp zero
      simp [depacketize, kind, same, clear, set]
  | case2 start data split inductionHypothesis =>
      obtain ⟨-, kind, same, notStart, notStop, -⟩ := fragment_head header sendable start false
      have clear := notStart.mpr later
      have more := notStop.mpr rfl
      have step : depacketize (some (header :: before))
          ((fuIndicator header :: fuHeader header start false :: data.take room) ::
            (fragments room header false (data.drop room) ++ rest)) =
          depacketize (some (header :: (before ++ data.take room)))
            (fragments room header false (data.drop room) ++ rest) := by
        simp [depacketize, kind, same, clear, more]
      rw [List.cons_append, step, inductionHypothesis rfl, List.append_assoc,
        List.take_append_drop]

/-- Depacketizing undoes the payloads of one NAL unit. -/
theorem depacketize_payloads {limit : Nat} (room : 2 < limit) {header : UInt8}
    (sendable : Sendable header) (data : Bytes) (rest : List Bytes) :
    depacketize none (payloads limit (header :: data) ++ rest) =
      (depacketize none rest).map ((header :: data) :: ·) := by
  simp only [payloads]
  split
  · simp [depacketize, sendable]
  · rename_i large
    obtain ⟨other, kind, same, -, -, start⟩ := fragment_head header sendable true false
    have split : ¬ (limit - 2 = 0 ∨ data.length ≤ limit - 2) := by omega
    have begins := start.mpr ⟨rfl, rfl⟩
    have step : depacketize none
        ((fuIndicator header :: fuHeader header true false :: data.take (limit - 2)) ::
          (fragments (limit - 2) header false (data.drop (limit - 2)) ++ rest)) =
        depacketize (some (header :: data.take (limit - 2)))
          (fragments (limit - 2) header false (data.drop (limit - 2)) ++ rest) := by
      simp [depacketize, other, kind, same, sendable, begins]
    rw [fragments, dif_neg split, List.cons_append, step,
      depacketize_fragments sendable false rfl, List.take_append_drop]

/-- Depacketizing the payloads of NAL units in order gives the NAL units back. -/
theorem depacketize_flatMap {limit : Nat} (room : 2 < limit) (nals : List Bytes)
    (sendable : ∀ nal ∈ nals, ∃ header, nal.head? = some header ∧ Sendable header) :
    depacketize none (nals.flatMap (payloads limit)) = some nals := by
  induction nals with
  | nil => rfl
  | cons nal nals inductionHypothesis =>
      obtain ⟨header, first, good⟩ := sendable nal List.mem_cons_self
      obtain ⟨data, rfl⟩ := List.head?_eq_some_iff.mp first
      rw [List.flatMap_cons, depacketize_payloads room good, inductionHypothesis
        fun other member => sendable other (List.mem_cons_of_mem _ member)]
      rfl

theorem fragments_length {room : Nat} {header : UInt8} {start : Bool} {data : Bytes}
    (positive : 0 < room) : ∀ payload ∈ fragments room header start data,
      payload.length ≤ room + 2 := by
  fun_induction fragments room header start data with
  | case1 start data whole =>
      intro payload member
      rw [List.mem_singleton.mp member]
      simp only [List.length_cons]
      omega
  | case2 start data split inductionHypothesis =>
      intro payload member
      rcases List.mem_cons.mp member with rfl | rest
      · simp only [List.length_cons, List.length_take]
        omega
      · exact inductionHypothesis payload rest

theorem payloads_length {limit : Nat} (room : 2 < limit) (nal : Bytes) :
    ∀ payload ∈ payloads limit nal, payload.length ≤ limit := by
  intro payload member
  unfold payloads at member
  split at member
  · cases member
  · split at member
    · rw [List.mem_singleton.mp member]
      simp only [List.length_cons]
      omega
    · have bound := fragments_length (by omega) payload member
      omega

theorem payloads_ne_nil (limit : Nat) {nal : Bytes} (nonempty : nal ≠ []) :
    payloads limit nal ≠ [] := by
  cases nal with
  | nil => exact absurd rfl nonempty
  | cons header data =>
      simp only [payloads]
      split
      · exact List.cons_ne_nil _ _
      · rw [fragments]
        split <;> exact List.cons_ne_nil _ _

end JooanW3U.Library.RtpH264
