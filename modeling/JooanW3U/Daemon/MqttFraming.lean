import JooanW3U.Library.Pieces
import Mathlib.Algebra.Group.Nat.Defs

/-!
Owns the packets of the bridge's connection: how `receive_packet` takes them off a plain
socket or off TLS records, what a stream of packets is whatever carries it, and the
packet that `joan_mqtt_bridge_publish` sends.  Main result: exactly when the records do
not matter.

Does not own what the packets ask for.
-/

namespace JooanW3U.Daemon.MqttFraming

open JooanW3U.Library
open JooanW3U.Library.Pieces (Within first first_drop flatten_drop drop_drop)

abbrev Bytes := List UInt8

/-! ## Reading -/

/-- `client_tls`. -/
inductive Transport
  | socket
  | tls
  deriving Repr, DecidableEq

/-- `recv` with `MSG_WAITALL`: less than `len` only where the stream ends. -/
def recv (len : Nat) (stream : List Bytes) : Option Bytes × List Bytes :=
  (some (stream.flatten.take len), Pieces.drop len stream)

/-- `mbedtls_ssl_read`: at most what is left of the record it stands in, and an error
where the stream ends. -/
def ssl_read (len : Nat) (stream : List Bytes) : Option Bytes × List Bytes :=
  let bytes := (first stream).take len
  if bytes = [] then (none, stream) else (some bytes, Pieces.drop bytes.length stream)

def mqtt_read (transport : Transport) (len : Nat) (stream : List Bytes) :
    Option Bytes × List Bytes :=
  match transport with
  | .socket => recv len stream
  | .tls => ssl_read len stream

/-- A packet as `receive_packet` returns it. -/
structure Packet where
  type : UInt8
  body : Bytes
  deriving Repr, DecidableEq

/-- The loop over the bytes of the remaining length, of which `left` may still come. -/
def remaining (transport : Transport) :
    Nat → Nat → Nat → List Bytes → Option (Nat × List Bytes)
  | 0, _, _, _ => none
  | left + 1, rem, mul, stream =>
      match mqtt_read transport 1 stream with
      | (some [c], stream) =>
          let rem := rem + c.toNat % 128 * mul
          if c.toNat < 128 then some (rem, stream)
          else remaining transport left rem (mul * 128) stream
      | _ => none

def receive_packet (transport : Transport) (cap : Nat) (stream : List Bytes) :
    Option (Packet × List Bytes) :=
  match mqtt_read transport 1 stream with
  | (some [type], stream) =>
      match remaining transport 4 0 1 stream with
      | none => none
      | some (rem, stream) =>
          if cap < rem then none
          else if rem = 0 then some (⟨type, []⟩, stream)
          else
            match mqtt_read transport rem stream with
            | (some body, stream) =>
                if body.length = rem then some (⟨type, body⟩, stream) else none
            | (none, _) => none
  | _ => none

/-- The loop of `handle_client`, with fuel: the packets, and where it stops. -/
def packets (transport : Transport) (cap : Nat) :
    Nat → List Bytes → List Packet × List Bytes
  | 0, stream => ([], stream)
  | fuel + 1, stream =>
      match receive_packet transport cap stream with
      | none => ([], stream)
      | some (packet, stream) =>
          let (others, rest) := packets transport cap fuel stream
          (packet :: others, rest)

/-- A packet is no shorter than two bytes, so the stream's length is fuel enough. -/
def received (transport : Transport) (cap : Nat) (stream : List Bytes) :
    List Packet × List Bytes :=
  packets transport cap stream.flatten.length stream

/-! ## A stream of packets, whatever carries it -/

/-- The number that seven bits of each byte make, the lowest first. -/
def value : Bytes → Nat
  | [] => 0
  | b :: rest => b.toNat % 128 + 128 * value rest

/-- What a stream begins with where a remaining length belongs. -/
inductive LengthField
  | ended
  | malformed
  | found (value size : Nat)
  deriving Repr, DecidableEq

/-- Up to `limit` bytes, all but the last of which have their top bit set. -/
def lengthField (limit : Nat) (bytes : Bytes) : LengthField :=
  let high := (bytes.takeWhile fun b => 128 ≤ b.toNat).length
  if limit ≤ high then .malformed
  else if bytes.length ≤ high then .ended
  else .found (value (bytes.take (high + 1))) (high + 1)

/-- What a stream begins with where a packet belongs: a packet and how long it is
before its body, or the reason why none can be taken. -/
inductive Front
  | ended
  | malformed
  | oversize
  | packet (packet : Packet) (header : Nat)
  deriving Repr, DecidableEq

def Front.IsPacket : Front → Prop
  | .packet _ _ => True
  | _ => False

def front (cap : Nat) : Bytes → Front
  | [] => .ended
  | type :: bytes =>
      match lengthField 4 bytes with
      | .ended => .ended
      | .malformed => .malformed
      | .found size header =>
          if cap < size then .oversize
          else if (bytes.drop header).length < size then .ended
          else .packet ⟨type, (bytes.drop header).take size⟩ (1 + header)

/-- The packets of a stream that is one piece, with fuel, and what is left of it. -/
def flatPackets (cap : Nat) : Nat → Bytes → List Packet × Bytes
  | 0, bytes => ([], bytes)
  | fuel + 1, bytes =>
      match front cap bytes with
      | .packet packet header =>
          let (others, rest) := flatPackets cap fuel (bytes.drop (header + packet.body.length))
          (packet :: others, rest)
      | _ => ([], bytes)

/-- A packet of the stream, or its end, is due at this offset. -/
inductive Due (cap : Nat) (bytes : Bytes) : Nat → Prop
  | start : Due cap bytes 0
  | next {offset header : Nat} {packet : Packet} : Due cap bytes offset →
      front cap (bytes.drop offset) = .packet packet header →
      Due cap bytes (offset + (header + packet.body.length))

/-- No packet's body crosses from one piece of the stream to another. -/
def BodiesWhole (cap : Nat) (stream : List Bytes) : Prop :=
  ∀ offset header packet, Due cap stream.flatten offset →
    front cap (stream.flatten.drop offset) = .packet packet header → packet.body ≠ [] →
      Within stream (offset + header) packet.body.length

/-- The packets are those of the unsplit stream, and reading stops where the stream has
no packet to take. -/
def Faithful (transport : Transport) (cap : Nat) (stream : List Bytes) : Prop :=
  (received transport cap stream).1 = (received transport cap [stream.flatten]).1 ∧
    ¬(front cap (received transport cap stream).2.flatten).IsPacket

/-! ### The two reads -/

/-- A byte is read alike from both transports. -/
theorem mqtt_read_byte {transport : Transport} {stream : List Bytes} {c : UInt8} {rest : Bytes}
    (bytes : stream.flatten = c :: rest) :
    mqtt_read transport 1 stream = (some [c], Pieces.drop 1 stream) := by
  cases transport with
  | socket => simp only [mqtt_read, recv, bytes, List.take_succ_cons, List.take_zero]
  | tls =>
      obtain ⟨others, front⟩ := Pieces.first_isPrefix stream
      have stands : first stream ≠ [] := Pieces.first_ne_nil (by simp [bytes])
      cases record : first stream with
      | nil => exact absurd record stands
      | cons b record' =>
          have same : b = c := by
            rw [record, bytes] at front
            exact (List.cons.inj front).1
          simp [mqtt_read, ssl_read, record, same]

/-- And none where the stream ends. -/
theorem mqtt_read_end (transport : Transport) {stream : List Bytes}
    (bytes : stream.flatten = []) (c : UInt8) : (mqtt_read transport 1 stream).1 ≠ some [c] := by
  cases transport with
  | socket => simp [mqtt_read, recv, bytes]
  | tls =>
      have none_left : first stream = [] :=
        List.prefix_nil.mp (bytes ▸ Pieces.first_isPrefix stream)
      simp [mqtt_read, ssl_read, none_left]

/-- What one call of `mqtt_read` can return at most. -/
def offered (transport : Transport) (stream : List Bytes) : Bytes :=
  match transport with
  | .socket => stream.flatten
  | .tls => first stream

theorem offered_isPrefix (transport : Transport) (stream : List Bytes) :
    offered transport stream <+: stream.flatten := by
  cases transport with
  | socket => exact List.prefix_refl _
  | tls => exact Pieces.first_isPrefix stream

/-- A body that is offered whole is read whole. -/
theorem mqtt_read_whole {transport : Transport} {stream : List Bytes} {len : Nat}
    (positive : 0 < len) (whole : len ≤ (offered transport stream).length) :
    mqtt_read transport len stream = (some (stream.flatten.take len), Pieces.drop len stream) := by
  cases transport with
  | socket => rfl
  | tls =>
      have enough : len ≤ (first stream).length := whole
      obtain ⟨others, front⟩ := Pieces.first_isPrefix stream
      have same : (first stream).take len = stream.flatten.take len := by
        rw [← front, List.take_append_of_le_length enough]
      have taken : (stream.flatten.take len).length = len :=
        same ▸ List.length_take_of_le enough
      have some_taken : stream.flatten.take len ≠ [] :=
        List.ne_nil_of_length_pos (taken.symm ▸ positive)
      simp only [mqtt_read, ssl_read, same, if_neg some_taken, taken]

/-- And otherwise it is not. -/
theorem mqtt_read_short {transport : Transport} {stream : List Bytes} {len : Nat}
    (short : (offered transport stream).length < len) {body : Bytes} {rest : List Bytes}
    (read : mqtt_read transport len stream = (some body, rest)) : body.length ≠ len := by
  have cut : body.length ≤ (offered transport stream).length := by
    cases transport with
    | socket =>
        have bytes : stream.flatten.take len = body := Option.some.inj (congrArg Prod.fst read)
        rw [← bytes]
        exact List.length_take_le' len stream.flatten
    | tls =>
        simp only [mqtt_read, ssl_read] at read
        split at read
        · exact absurd (congrArg Prod.fst read) (by simp)
        · have bytes : (first stream).take len = body := Option.some.inj (congrArg Prod.fst read)
          rw [← bytes]
          exact List.length_take_le' len (first stream)
  exact Nat.ne_of_lt (Nat.lt_of_le_of_lt cut short)

/-! ### The remaining length -/

theorem lengthField_cons (limit : Nat) (b : UInt8) (rest : Bytes) :
    lengthField (limit + 1) (b :: rest) =
      if b.toNat < 128 then .found (b.toNat % 128) 1
      else
        match lengthField limit rest with
        | .found value size => .found (b.toNat % 128 + 128 * value) (size + 1)
        | other => other := by
  by_cases last : b.toNat < 128
  · have low : ¬128 ≤ b.toNat := Nat.not_le_of_lt last
    simp [lengthField, low, last, value]
  · have high : 128 ≤ b.toNat := Nat.le_of_not_lt last
    simp only [lengthField, List.takeWhile_cons, high, decide_true, if_true, if_neg last,
      List.length_cons, Nat.add_le_add_iff_right, List.take_succ_cons, value]
    split
    · rfl
    · split <;> rfl

theorem remaining_spec (transport : Transport) (left rem mul : Nat) (stream : List Bytes) :
    remaining transport left rem mul stream =
      match lengthField left stream.flatten with
      | .found value size => some (rem + value * mul, Pieces.drop size stream)
      | _ => none := by
  induction left generalizing rem mul stream with
  | zero => rfl
  | succ left inductionHypothesis =>
      cases bytes : stream.flatten with
      | nil =>
          have ended : lengthField (left + 1) [] = .ended := rfl
          rw [ended]
          unfold remaining
          split
          · next c rest read =>
              exact absurd (congrArg Prod.fst read) (mqtt_read_end transport bytes c)
          · rfl
      | cons c rest =>
          have behind : (Pieces.drop 1 stream).flatten = rest := by
            rw [flatten_drop, bytes, List.drop_succ_cons, List.drop_zero]
          rw [lengthField_cons]
          simp only [remaining, mqtt_read_byte bytes]
          by_cases last : c.toNat < 128
          · simp only [if_pos last]
          · simp only [if_neg last, inductionHypothesis, behind]
            cases lengthField left rest with
            | ended => rfl
            | malformed => rfl
            | found value size =>
                have weight : value * (mul * 128) = 128 * value * mul := by
                  rw [Nat.mul_comm 128 value, Nat.mul_assoc, Nat.mul_comm 128 mul]
                simp only [drop_drop, weight, Nat.add_mul, Nat.add_assoc, Nat.add_comm 1 size]

/-! ### One packet -/

/-- The read of a body comes out as it was asked for, or else not at all. -/
theorem mqtt_read_exactly {transport : Transport} {stream : List Bytes} {size : Nat}
    (positive : 0 < size) (type : UInt8) :
    (match mqtt_read transport size stream with
      | (some body, rest) => if body.length = size then some (Packet.mk type body, rest) else none
      | (none, _) => none) =
      if size ≤ (offered transport stream).length then
        some (⟨type, stream.flatten.take size⟩, Pieces.drop size stream)
      else none := by
  by_cases whole : size ≤ (offered transport stream).length
  · have enough : size ≤ stream.flatten.length :=
      Nat.le_trans whole (offered_isPrefix transport stream).length_le
    have taken : (stream.flatten.take size).length = size := List.length_take_of_le enough
    rw [mqtt_read_whole positive whole, if_pos whole]
    exact if_pos taken
  · have short : (offered transport stream).length < size := Nat.lt_of_not_le whole
    rw [if_neg whole]
    split
    · next body rest read => exact if_neg (mqtt_read_short short read)
    · rfl

/-- `receive_packet` takes the packet that the stream begins with, if the transport
offers its body whole. -/
theorem receive_packet_spec (transport : Transport) (cap : Nat) (stream : List Bytes) :
    receive_packet transport cap stream =
      match front cap stream.flatten with
      | .packet packet header =>
          if packet.body.length ≤ (offered transport (Pieces.drop header stream)).length then
            some (packet, Pieces.drop (header + packet.body.length) stream)
          else none
      | _ => none := by
  cases bytes : stream.flatten with
  | nil =>
      unfold receive_packet
      split
      · next type rest read =>
          exact absurd (congrArg Prod.fst read) (mqtt_read_end transport bytes type)
      · rfl
  | cons type rest =>
      have behind : (Pieces.drop 1 stream).flatten = rest := by
        rw [flatten_drop, bytes, List.drop_succ_cons, List.drop_zero]
      simp only [receive_packet, mqtt_read_byte bytes, remaining_spec, behind, front]
      cases lengthField 4 rest with
      | ended => rfl
      | malformed => rfl
      | found size header =>
          have body : (Pieces.drop (1 + header) stream).flatten = rest.drop header := by
            rw [← drop_drop, flatten_drop, behind]
          simp only [Nat.mul_one, Nat.zero_add, drop_drop]
          by_cases large : cap < size
          · simp only [if_pos large]
          by_cases empty : size = 0
          · simp [empty]
          have positive : 0 < size := Nat.pos_of_ne_zero empty
          rw [if_neg large, if_neg empty, if_neg large, mqtt_read_exactly positive, body]
          by_cases cut : (rest.drop header).length < size
          · have short : ¬size ≤ (offered transport (Pieces.drop (1 + header) stream)).length := by
              have bound := (offered_isPrefix transport (Pieces.drop (1 + header) stream)).length_le
              rw [body] at bound
              omega
            rw [if_pos cut, if_neg short]
          · have taken : ((rest.drop header).take size).length = size :=
              List.length_take_of_le (Nat.le_of_not_lt cut)
            simp only [if_neg cut, taken, drop_drop]

theorem lengthField_found {limit : Nat} {bytes : Bytes} {value size : Nat}
    (found : lengthField limit bytes = .found value size) : 0 < size ∧ size ≤ bytes.length := by
  simp only [lengthField] at found
  split at found
  · contradiction
  · split at found
    · contradiction
    · obtain ⟨-, rfl⟩ := LengthField.found.inj found
      omega

/-- A packet is at least its type and one byte of length, and is there as a whole. -/
theorem front_fits {cap : Nat} {bytes : Bytes} {packet : Packet} {header : Nat}
    (begins : front cap bytes = .packet packet header) :
    2 ≤ header ∧ header + packet.body.length ≤ bytes.length := by
  cases bytes with
  | nil => contradiction
  | cons type rest =>
      simp only [front] at begins
      split at begins
      · contradiction
      · contradiction
      · next size length found =>
          obtain ⟨positive, inside⟩ := lengthField_found found
          split at begins
          · contradiction
          · split at begins
            · contradiction
            · next enough =>
                obtain ⟨rfl, rfl⟩ := Front.packet.inj begins
                rw [List.length_drop] at enough
                simp only [List.length_take, List.length_drop, List.length_cons]
                omega

/-! ### The whole stream -/

theorem flatPackets_ended {cap fuel : Nat} {bytes : Bytes} (enough : bytes.length ≤ fuel) :
    ¬(front cap (flatPackets cap fuel bytes).2).IsPacket := by
  induction fuel generalizing bytes with
  | zero =>
      have empty : bytes = [] := List.eq_nil_of_length_eq_zero (Nat.le_zero.mp enough)
      rw [empty]
      exact id
  | succ fuel inductionHypothesis =>
      unfold flatPackets
      cases begins : front cap bytes with
      | packet packet header =>
          have fits := front_fits begins
          apply inductionHypothesis
          rw [List.length_drop]
          omega
      | ended => rw [begins]; exact id
      | malformed => rw [begins]; exact id
      | oversize => rw [begins]; exact id

/-- `rest` is what the stream is from this offset on. -/
def Stands (stream : List Bytes) (offset : Nat) (rest : List Bytes) : Prop :=
  Pieces.drop 0 rest = Pieces.drop offset stream

namespace Stands

variable {stream rest : List Bytes} {offset : Nat}

theorem start (stream : List Bytes) : Stands stream 0 stream := rfl

theorem drop (stands : Stands stream offset rest) (n : Nat) :
    Pieces.drop n rest = Pieces.drop (offset + n) stream := by
  rw [← drop_drop, ← show Pieces.drop 0 rest = Pieces.drop offset stream from stands, drop_drop,
    Nat.zero_add]

theorem next (stands : Stands stream offset rest) (n : Nat) :
    Stands stream (offset + n) (Pieces.drop n rest) := by
  rw [Stands, drop_drop, Nat.add_zero, stands.drop]

theorem flatten (stands : Stands stream offset rest) :
    rest.flatten = stream.flatten.drop offset := by
  have whole := congrArg List.flatten stands
  rw [flatten_drop, flatten_drop, List.drop_zero] at whole
  exact whole

end Stands

/-- A body is offered whole on the plain socket, and over records when it lies within one. -/
theorem offered_iff {transport : Transport} {cap : Nat} {stream rest : List Bytes}
    {offset header : Nat} {packet : Packet} (stands : Stands stream offset rest)
    (begins : front cap (stream.flatten.drop offset) = .packet packet header) :
    packet.body.length ≤ (offered transport (Pieces.drop header rest)).length ↔
      transport = .socket ∨
        (packet.body ≠ [] → Within stream (offset + header) packet.body.length) := by
  cases transport with
  | socket =>
      have fits := (front_fits begins).2
      rw [← stands.flatten] at fits
      have inside : packet.body.length ≤ (Pieces.drop header rest).flatten.length := by
        rw [flatten_drop, List.length_drop]
        omega
      exact iff_of_true inside (Or.inl rfl)
  | tls =>
      simp only [offered, reduceCtorEq, false_or]
      cases empty : packet.body with
      | nil => simp
      | cons b body =>
          rw [stands.drop, Pieces.within_iff (List.length_pos_of_ne_nil (List.cons_ne_nil b body))]
          simp

/-- While no body crosses from one piece to another, the pieces change nothing. -/
theorem packets_whole {transport : Transport} {cap : Nat} {stream : List Bytes}
    (whole : transport = .socket ∨ BodiesWhole cap stream) (fuel : Nat) {offset : Nat}
    {rest : List Bytes} (stands : Stands stream offset rest)
    (due : Due cap stream.flatten offset) :
    (packets transport cap fuel rest).1 =
        (flatPackets cap fuel (stream.flatten.drop offset)).1 ∧
      (packets transport cap fuel rest).2.flatten =
        (flatPackets cap fuel (stream.flatten.drop offset)).2 := by
  induction fuel generalizing offset rest with
  | zero => exact ⟨rfl, stands.flatten⟩
  | succ fuel inductionHypothesis =>
      simp only [packets, flatPackets, receive_packet_spec, stands.flatten]
      cases begins : front cap (stream.flatten.drop offset) with
      | packet packet header =>
          have inside : packet.body.length ≤
              (offered transport (Pieces.drop header rest)).length :=
            (offered_iff stands begins).mpr
              (whole.imp_right fun bodies => bodies offset header packet due begins)
          have later := inductionHypothesis (stands.next (header + packet.body.length))
            (due.next begins)
          rw [← List.drop_drop] at later
          simp only [if_pos inside]
          exact ⟨congrArg _ later.1, later.2⟩
      | ended => exact ⟨rfl, stands.flatten⟩
      | malformed => exact ⟨rfl, stands.flatten⟩
      | oversize => exact ⟨rfl, stands.flatten⟩

theorem bodiesWhole_single (cap : Nat) (bytes : Bytes) : BodiesWhole cap [bytes] := by
  intro offset header packet _ begins some_body
  have single : [bytes].flatten = bytes := List.flatten_singleton
  rw [single] at begins
  have fits := (front_fits begins).2
  have positive : 0 < packet.body.length := List.length_pos_of_ne_nil some_body
  rw [List.length_drop] at fits
  refine ⟨[], bytes, [], rfl, Nat.zero_le _, ?_⟩
  rw [List.flatten_nil, List.length_nil]
  omega

/-- A reader that stops only where no packet is left comes to every packet, and takes
it. -/
theorem comes_to {transport : Transport} {cap : Nat} {stream : List Bytes}
    (ends : ¬(front cap (received transport cap stream).2.flatten).IsPacket) {offset : Nat}
    (due : Due cap stream.flatten offset) :
    ∃ fuel rest, Stands stream offset rest ∧ rest.flatten.length ≤ fuel ∧
      (packets transport cap fuel rest).2 = (received transport cap stream).2 := by
  induction due with
  | start => exact ⟨stream.flatten.length, stream, Stands.start stream, Nat.le_refl _, rfl⟩
  | @next offset header packet _ begins inductionHypothesis =>
      obtain ⟨fuel, rest, stands, enough, same⟩ := inductionHypothesis
      have fits := front_fits begins
      rw [← stands.flatten] at begins fits
      cases fuel with
      | zero => omega
      | succ fuel =>
          have taken : receive_packet transport cap rest =
              some (packet, Pieces.drop (header + packet.body.length) rest) := by
            by_contra refused
            rw [receive_packet_spec, begins] at refused
            have stops : receive_packet transport cap rest = none := by
              rw [receive_packet_spec, begins]
              exact if_neg fun inside => refused (if_pos inside)
            have stopped : (packets transport cap (fuel + 1) rest).2 = rest := by
              simp only [packets, stops]
            rw [← same, stopped, begins] at ends
            exact ends trivial
          refine ⟨fuel, _, stands.next _, ?_, ?_⟩
          · rw [flatten_drop, List.length_drop]
            omega
          · rw [← same]
            simp only [packets, taken]

theorem bodiesWhole_of_ends {cap : Nat} {stream : List Bytes}
    (ends : ¬(front cap (received .tls cap stream).2.flatten).IsPacket) :
    BodiesWhole cap stream := by
  intro offset header packet due begins some_body
  obtain ⟨fuel, rest, stands, enough, same⟩ := comes_to ends due
  have inside : packet.body.length ≤ (offered .tls (Pieces.drop header rest)).length := by
    by_contra crosses
    have begins' := begins
    rw [← stands.flatten] at begins'
    have stops : receive_packet .tls cap rest = none := by
      rw [receive_packet_spec, begins']
      exact if_neg crosses
    have stopped : (packets .tls cap fuel rest).2 = rest := by
      cases fuel with
      | zero => rfl
      | succ fuel => simp only [packets, stops]
    rw [← same, stopped, begins'] at ends
    exact ends trivial
  rcases (offered_iff stands begins).mp inside with plain | within
  · contradiction
  · exact within some_body

theorem faithful_iff (transport : Transport) (cap : Nat) (stream : List Bytes) :
    Faithful transport cap stream ↔ transport = .socket ∨ BodiesWhole cap stream := by
  constructor
  · rintro ⟨-, ends⟩
    cases transport with
    | socket => exact Or.inl rfl
    | tls => exact Or.inr (bodiesWhole_of_ends ends)
  · intro whole
    have single : [stream.flatten].flatten = stream.flatten := List.flatten_singleton
    have lone : transport = .socket ∨ BodiesWhole cap [stream.flatten] :=
      Or.inr (bodiesWhole_single cap stream.flatten)
    have split := packets_whole whole stream.flatten.length (Stands.start stream) Due.start
    have unsplit := packets_whole lone stream.flatten.length (Stands.start _) Due.start
    rw [single] at unsplit
    refine ⟨?_, ?_⟩
    · rw [received, received, single, split.1, unsplit.1]
    · rw [received, split.2]
      exact flatPackets_ended (Nat.le_refl _)

/-! ## Writing -/

/-- What a call of `mqtt_write` comes to. -/
inductive Write
  | wrote (n : Nat)
  | interrupted
  | failed
  deriving Repr, DecidableEq

/-- What reaches the client, and whether `send_all` returns 0. -/
def send_all : List Write → Bytes → Bytes × Bool
  | _, [] => ([], true)
  | [], _ :: _ => ([], false)
  | .interrupted :: writes, data => send_all writes data
  | .failed :: _, _ => ([], false)
  | .wrote n :: writes, data =>
      if n = 0 then ([], false)
      else
        let (sent, done) := send_all writes (data.drop n)
        (data.take n ++ sent, done)

/-- The loop of `mqtt_remaining`, of whose bytes `left` may still come. -/
def remainingBytes : Nat → Nat → Bytes
  | 0, _ => []
  | left + 1, n =>
      let c := UInt8.ofNat (n % 128)
      let n := n / 128
      if n = 0 then [c] else (c ||| 128) :: remainingBytes left n

def mqtt_remaining (n : Nat) : Bytes := remainingBytes 4 n

/-- What `joan_mqtt_bridge_publish` looks at of the connection. -/
structure Bridge where
  client : Bool
  subscribed : Bool
  command_topic : Bytes
  deriving Repr, DecidableEq

/-- The topic's length and the topic, and the payload behind them. -/
def publishBody (command_topic payload : Bytes) : Bytes :=
  UInt8.ofNat (command_topic.length / 256) :: UInt8.ofNat command_topic.length ::
    (command_topic ++ payload)

/-- What reaches the client, and whether it returns 0.  The payload is in memory, so its
length and the topic's do not wrap. -/
def joan_mqtt_bridge_publish (bridge : Bridge) (topic : Option (List Char)) (payload : Bytes)
    (writes : List Write) : Bytes × Bool :=
  if topic ≠ some "local/dp/security".toList ∧ topic ≠ some "local/dp/ptz".toList then ([], false)
  else if ¬bridge.client ∨ ¬bridge.subscribed ∨ bridge.command_topic = [] then ([], false)
  else
    let tn := bridge.command_topic.length
    let rl := 2 + tn + payload.length
    let rem := mqtt_remaining rl
    let total := 1 + rem.length + rl
    if 8192 < total ∨ 65535 < tn then ([], false)
    else send_all writes (0x30 :: (rem ++ publishBody bridge.command_topic payload))

theorem send_all_done {writes : List Write} {data : Bytes}
    (done : (send_all writes data).2 = true) : (send_all writes data).1 = data := by
  induction writes generalizing data with
  | nil =>
      cases data with
      | nil => rfl
      | cons b data => contradiction
  | cons write writes inductionHypothesis =>
      cases data with
      | nil => simp [send_all]
      | cons b data =>
          cases write with
          | interrupted => exact inductionHypothesis done
          | failed => contradiction
          | wrote n =>
              simp only [send_all] at done ⊢
              split at done
              · contradiction
              · next some_written =>
                  rw [if_neg some_written]
                  simp only [inductionHypothesis done, List.take_append_drop]

theorem toNat_continued {n : Nat} (small : n < 128) : (UInt8.ofNat n ||| 128).toNat = n + 128 := by
  have low : (UInt8.ofNat n).toNat = n := by
    rw [UInt8.toNat_ofNat']
    omega
  have top : (128 : UInt8).toNat = 2 ^ 7 * 1 := rfl
  rw [UInt8.toNat_or, low, top, Nat.or_comm, ← Nat.two_pow_add_eq_or_of_lt small, Nat.add_comm]

theorem remainingBytes_last (left : Nat) {n : Nat} (small : n < 128) :
    remainingBytes (left + 1) n = [UInt8.ofNat n] := by
  have done : n / 128 = 0 := Nat.div_eq_of_lt small
  have whole : n % 128 = n := Nat.mod_eq_of_lt small
  simp only [remainingBytes, done, whole, if_true]

theorem remainingBytes_more (left : Nat) {n : Nat} (large : ¬n < 128) :
    remainingBytes (left + 1) n =
      (UInt8.ofNat (n % 128) ||| 128) :: remainingBytes left (n / 128) := by
  have more : ¬n / 128 = 0 := by omega
  simp only [remainingBytes, if_neg more]

theorem lengthField_last (left : Nat) {n : Nat} (small : n < 128) (rest : Bytes) :
    lengthField (left + 1) (UInt8.ofNat n :: rest) = .found n 1 := by
  have low : (UInt8.ofNat n).toNat = n := by
    rw [UInt8.toNat_ofNat']
    omega
  rw [lengthField_cons, low, if_pos small, Nat.mod_eq_of_lt small]

theorem lengthField_more (left : Nat) {n : Nat} (rest : Bytes) :
    lengthField (left + 1) ((UInt8.ofNat (n % 128) ||| 128) :: rest) =
      match lengthField left rest with
      | .found value size => .found (n % 128 + 128 * value) (size + 1)
      | other => other := by
  have small : n % 128 < 128 := Nat.mod_lt n (by decide)
  have top : ¬n % 128 + 128 < 128 := Nat.not_lt_of_le (Nat.le_add_left _ _)
  have digit : (n % 128 + 128) % 128 = n % 128 := by omega
  rw [lengthField_cons, toNat_continued small, if_neg top, digit]

/-- The code of the remaining length is undone, up to the largest one that four bytes hold. -/
theorem remainingBytes_undone (left n : Nat) (rest : Bytes) :
    lengthField (left + 1) (remainingBytes (left + 1) n ++ rest) =
      if n < 128 ^ (left + 1) then .found n (remainingBytes (left + 1) n).length
      else .malformed := by
  induction left generalizing n with
  | zero =>
      by_cases small : n < 128
      · have inside : n < 128 ^ (0 + 1) := small
        rw [remainingBytes_last 0 small, List.singleton_append, lengthField_last 0 small,
          if_pos inside, List.length_singleton]
      · have outside : ¬n < 128 ^ (0 + 1) := small
        rw [remainingBytes_more 0 small, List.cons_append, lengthField_more, if_neg outside]
        rfl
  | succ left inductionHypothesis =>
      by_cases small : n < 128
      · have inside : n < 128 ^ (left + 1 + 1) :=
          Nat.lt_of_lt_of_le small (Nat.le_pow (Nat.succ_pos _))
        rw [remainingBytes_last _ small, List.singleton_append, lengthField_last _ small,
          if_pos inside, List.length_singleton]
      · have scaled : n / 128 < 128 ^ (left + 1) ↔ n < 128 ^ (left + 1 + 1) := by
          rw [Nat.div_lt_iff_lt_mul (by decide), ← Nat.pow_succ]
        rw [remainingBytes_more _ small, List.cons_append, lengthField_more,
          inductionHypothesis (n / 128)]
        by_cases inside : n < 128 ^ (left + 1 + 1)
        · have whole : n % 128 + 128 * (n / 128) = n := Nat.mod_add_div n 128
          simp only [if_pos (scaled.mpr inside), if_pos inside, whole, List.length_cons]
        · simp only [if_neg (mt scaled.mp inside), if_neg inside]

/-- The reader's loop on what `mqtt_remaining` wrote. -/
theorem remaining_undone (transport : Transport) (n : Nat) (rest : Bytes) :
    (remaining transport 4 0 1 [mqtt_remaining n ++ rest]).map
        (fun read => (read.1, read.2.flatten)) =
      if n < 128 ^ 4 then some (n, rest) else none := by
  have single : [mqtt_remaining n ++ rest].flatten = mqtt_remaining n ++ rest :=
    List.flatten_singleton
  have field : lengthField 4 (mqtt_remaining n ++ rest) =
      if n < 128 ^ 4 then .found n (mqtt_remaining n).length else .malformed :=
    remainingBytes_undone 3 n rest
  rw [remaining_spec, single, field]
  by_cases inside : n < 128 ^ 4
  · simp only [if_pos inside, Option.map_some, flatten_drop, single, List.drop_left, Nat.mul_one,
      Nat.zero_add]
  · simp only [if_neg inside, Option.map_none]

/-- A packet written with its type and length is what its bytes begin with. -/
theorem front_written {cap : Nat} (type : UInt8) {body : Bytes} (fits : body.length ≤ cap)
    (short : body.length < 128 ^ 4) :
    front cap (type :: (mqtt_remaining body.length ++ body)) =
      .packet ⟨type, body⟩ (1 + (mqtt_remaining body.length).length) := by
  have field : lengthField 4 (mqtt_remaining body.length ++ body) =
      .found body.length (mqtt_remaining body.length).length :=
    (remainingBytes_undone 3 body.length body).trans (if_pos short)
  simp only [front, field, if_neg (Nat.not_lt_of_le fits), List.drop_left, Nat.lt_irrefl,
    if_false, List.take_length]

theorem received_written (transport : Transport) {cap : Nat} (type : UInt8) {body : Bytes}
    (fits : body.length ≤ cap) (short : body.length < 128 ^ 4) :
    (received transport cap [type :: (mqtt_remaining body.length ++ body)]).1 = [⟨type, body⟩] ∧
      (received transport cap [type :: (mqtt_remaining body.length ++ body)]).2.flatten = [] := by
  have single : [type :: (mqtt_remaining body.length ++ body)].flatten =
      type :: (mqtt_remaining body.length ++ body) := List.flatten_singleton
  have lone : transport = .socket ∨
      BodiesWhole cap [type :: (mqtt_remaining body.length ++ body)] :=
    Or.inr (bodiesWhole_single cap _)
  have whole := packets_whole lone ((mqtt_remaining body.length ++ body).length + 1)
    (Stands.start _) Due.start
  have used : (type :: (mqtt_remaining body.length ++ body)).drop
      (1 + (mqtt_remaining body.length).length + body.length) = [] := by
    apply List.drop_eq_nil_of_le
    rw [List.length_cons, List.length_append]
    omega
  have nothing : ∀ fuel, flatPackets cap fuel [] = ([], []) := by
    intro fuel
    cases fuel with
    | zero => rfl
    | succ fuel => rfl
  rw [single, List.drop_zero] at whole
  simp only [flatPackets, front_written type fits short, used, nothing] at whole
  rw [received, single]
  exact whole

theorem publish_done {bridge : Bridge} {topic : Option (List Char)} {payload : Bytes}
    {writes : List Write} (done : (joan_mqtt_bridge_publish bridge topic payload writes).2 = true) :
    (publishBody bridge.command_topic payload).length ≤ 8192 ∧
      (joan_mqtt_bridge_publish bridge topic payload writes).1 =
        0x30 :: (mqtt_remaining (publishBody bridge.command_topic payload).length ++
          publishBody bridge.command_topic payload) := by
  have size : 2 + bridge.command_topic.length + payload.length =
      (publishBody bridge.command_topic payload).length := by
    rw [publishBody, List.length_cons, List.length_cons, List.length_append]
    omega
  simp only [joan_mqtt_bridge_publish, size] at done ⊢
  split at done
  · contradiction
  · next known =>
      rw [if_neg known]
      split at done
      · contradiction
      · next ready =>
          rw [if_neg ready]
          split at done
          · contradiction
          · next room =>
              rw [if_neg room, send_all_done done]
              exact ⟨by omega, rfl⟩

end JooanW3U.Daemon.MqttFraming
