import JooanW3U.Audio.Wire
import JooanW3U.Library.Framing

/-!
Owns the WebSocket frames of an audio client: `client_websocket_frames` and the receiving
loop of `client_read` on an open connection, and the frames that are queued for it. Main
results: the frames of a client are handled in order with what it sent in them, however
they arrive in bursts that do not fill the buffer; queued frames are whole.

Does not own what an audio frame does, nor the handshake.
-/

namespace JooanW3U.Audio.WebSocket

open JooanW3U.Library
open JooanW3U.Audio.Wire

def INPUT_CAPACITY : Nat := 8192
def OUTPUT_CAPACITY : Nat := 16384
def MAX_WS_PAYLOAD : Nat := JOOAN_AUDIO_WIRE_HEADER_SIZE + JOOAN_AUDIO_WIRE_MAX_PAYLOAD

/-! ### Frames of the client -/

structure Message where
  opcode : UInt8
  payload : Bytes
deriving Repr, DecidableEq

/-- `payload[i] = … ^ mask[i & 3]` -/
def unmask (mask payload : Bytes) : Bytes :=
  payload.mapIdx fun i byte => byte ^^^ mask.getD (i % 4) 0

/-- The checks of the lengths: opcode, length of the header and of the payload. -/
def sized (opcode : UInt8) (header_length payload_length : Nat) : Front (UInt8 × Nat × Nat) Unit :=
  if opcode &&& 0x08 ≠ 0 ∧ 125 < payload_length then .fault ()
  else if MAX_WS_PAYLOAD < payload_length then .fault ()
  else .message (opcode, header_length, payload_length) (header_length + 4 + payload_length)

/-- What the first bytes say. -/
def header (input : Bytes) : Front (UInt8 × Nat × Nat) Unit :=
  if input.length < 2 then .short
  else
    let first := input.getD 0 0
    let second := input.getD 1 0
    let opcode := first &&& 0x0f
    let payload_length := (second &&& 0x7f).toNat
    if first &&& 0x80 = 0 ∨ first &&& 0x70 ≠ 0 ∨ second &&& 0x80 = 0 then .fault ()
    else if payload_length = 126 then
      if input.length < 4 then .short else sized opcode 4 (read_be16 (input.drop 2))
    else if payload_length = 127 then .fault ()
    else sized opcode 2 payload_length

/-- The front of the input, as the loop of `client_websocket_frames` sees it. -/
def front (input : Bytes) : Front Message Unit :=
  match header input with
  | .short => .short
  | .fault fault => .fault fault
  | .message (opcode, header_length, payload_length) total =>
      if input.length < total then .short
      else
        let mask := (input.drop header_length).take 4
        .message
          ⟨opcode, unmask mask ((input.drop (header_length + 4)).take payload_length)⟩ total

/-! ### The framer -/

theorem read_be16_append {input : Bytes} (four : 4 ≤ input.length) (more : Bytes) :
    read_be16 ((input ++ more).drop 2) = read_be16 (input.drop 2) := by
  have two : 2 ≤ (input.drop 2).length := by
    rw [List.length_drop]
    omega
  rw [read_be16, read_be16, List.drop_append_of_le_length (by omega),
    List.take_append_of_le_length two]

/-- Bytes behind a header change nothing about it. -/
theorem header_append {input : Bytes} (known : header input ≠ .short) (more : Bytes) :
    header (input ++ more) = header input := by
  by_cases two : input.length < 2
  · exact absurd (show header input = .short from if_pos two) known
  have longer : ¬(input ++ more).length < 2 := by
    rw [List.length_append]
    omega
  have first : (input ++ more).getD 0 0 = input.getD 0 0 := List.getD_append _ _ _ _ (by omega)
  have second : (input ++ more).getD 1 0 = input.getD 1 0 := List.getD_append _ _ _ _ (by omega)
  unfold header at known ⊢
  rw [if_neg two] at known
  rw [if_neg two, if_neg longer, first, second]
  dsimp only at known ⊢
  split
  · rfl
  · rename_i plain
    rw [if_neg plain] at known
    split
    · rename_i long
      rw [if_pos long] at known
      have four : ¬input.length < 4 := fun short => known (if_pos short)
      have fourMore : ¬(input ++ more).length < 4 := by
        rw [List.length_append]
        omega
      rw [if_neg four, if_neg fourMore, read_be16_append (Nat.le_of_not_lt four)]
    · rfl

/-- The measures of a header. -/
structure Measured (header_length payload_length total : Nat) : Prop where
  total : total = header_length + 4 + payload_length
  payload : payload_length ≤ MAX_WS_PAYLOAD
  header : header_length ≤ 4

theorem sized_measured {opcode found : UInt8} {header_length payload_length l n total : Nat}
    (short : l ≤ 4)
    (whole : sized opcode l n = .message (found, header_length, payload_length) total) :
    Measured header_length payload_length total := by
  unfold sized at whole
  split at whole
  · contradiction
  · split at whole
    · contradiction
    · rename_i small
      injection whole with fields size
      injection fields with _ lengths
      injection lengths with header_eq payload_eq
      subst header_eq payload_eq
      exact ⟨size.symm, Nat.le_of_not_lt small, short⟩

theorem header_measured {input : Bytes} {opcode : UInt8}
    {header_length payload_length total : Nat}
    (whole : header input = .message (opcode, header_length, payload_length) total) :
    Measured header_length payload_length total := by
  unfold header at whole
  split at whole
  · contradiction
  · dsimp only at whole
    split at whole
    · contradiction
    · split at whole
      · split at whole
        · contradiction
        · exact sized_measured (Nat.le_refl 4) whole
      · split at whole
        · contradiction
        · exact sized_measured (by decide) whole

theorem front_message {input : Bytes} {message : Message} {total : Nat}
    (whole : front input = .message message total) :
    ∃ header_length payload_length,
      header input = .message (message.opcode, header_length, payload_length) total ∧
        total ≤ input.length ∧
        message.payload = unmask ((input.drop header_length).take 4)
          ((input.drop (header_length + 4)).take payload_length) := by
  unfold front at whole
  split at whole
  · contradiction
  · contradiction
  · rename_i opcode header_length payload_length size known
    split at whole
    · contradiction
    · rename_i long
      injection whole with same sizes
      subst same sizes
      exact ⟨header_length, payload_length, known, Nat.le_of_not_lt long, rfl⟩

theorem drop_take_append {input more : Bytes} {place count : Nat}
    (inside : place + count ≤ input.length) :
    ((input ++ more).drop place).take count = (input.drop place).take count := by
  rw [List.drop_append_of_le_length (by omega), List.take_append_of_le_length]
  rw [List.length_drop]
  omega

/-- The framing of an audio client's bytes. -/
def framer : Framer UInt8 Message Unit where
  front := front
  kind := id
  size_of_message := by
    intro input message total whole
    obtain ⟨header_length, payload_length, known, fits, -⟩ := front_message whole
    have total_eq := (header_measured known).total
    exact ⟨by omega, fits⟩
  message_append := by
    intro input message total whole more
    obtain ⟨header_length, payload_length, known, fits, payload⟩ := front_message whole
    have total_eq := (header_measured known).total
    have same := header_append (by rw [known]; exact nofun) more
    have longer : ¬(input ++ more).length < total := by
      rw [List.length_append]
      omega
    rw [front, same, known]
    dsimp only
    rw [if_neg longer, drop_take_append (by omega), drop_take_append (by omega), ← payload]
  fault_append := by
    intro input fault faulty more
    have known : header input = .fault fault := by
      unfold front at faulty
      split at faulty
      · contradiction
      · rename_i found known
        rw [known]
      · split at faulty <;> contradiction
    have same := header_append (by rw [known]; exact nofun) more
    refine ⟨fault, ?_, rfl⟩
    rw [front, same, known]

/-! ### What a client sends -/

/-- A frame as a client sends it. -/
structure Sent where
  opcode : UInt8
  mask : Bytes
  payload : Bytes
deriving Repr, DecidableEq

/-- What the router takes of a frame. -/
structure Sent.Allowed (sent : Sent) : Prop where
  opcode : sent.opcode < 16
  mask : sent.mask.length = 4
  payload : sent.payload.length ≤ MAX_WS_PAYLOAD
  control : sent.opcode &&& 0x08 ≠ 0 → sent.payload.length ≤ 125

def Sent.message (sent : Sent) : Message := ⟨sent.opcode, sent.payload⟩

/-- The length behind the mask bit, in one byte or three. -/
def masked_length (length : Nat) : Bytes :=
  if length ≤ 125 then [0x80 ||| UInt8.ofNat length] else 0xfe :: write_be16 length

/-- `client_frame` of the router's test, with any mask. -/
def client_frame (sent : Sent) : Bytes :=
  (0x80 ||| sent.opcode) :: (masked_length sent.payload.length ++
    (sent.mask ++ unmask sent.mask sent.payload))

theorem length_unmask (mask payload : Bytes) : (unmask mask payload).length = payload.length :=
  List.length_mapIdx

theorem unmask_unmask (mask payload : Bytes) : unmask mask (unmask mask payload) = payload := by
  apply List.ext_getElem?
  intro i
  rw [unmask, unmask, List.getElem?_mapIdx, List.getElem?_mapIdx]
  cases payload[i]? with
  | none => rfl
  | some byte =>
      simp only [Option.map_some]
      rw [UInt8.xor_assoc, UInt8.xor_self, UInt8.xor_zero]

/-- The first byte of an unfragmented frame. -/
theorem first_byte {opcode : UInt8} (small : opcode < 16) :
    (0x80 ||| opcode) &&& 0x0f = opcode ∧ (0x80 ||| opcode) &&& 0x80 ≠ 0 ∧
      (0x80 ||| opcode) &&& 0x70 = 0 := by
  have every : ∀ n < 16, (0x80 ||| UInt8.ofNat n) &&& 0x0f = UInt8.ofNat n ∧
      (0x80 ||| UInt8.ofNat n) &&& 0x80 ≠ 0 ∧ (0x80 ||| UInt8.ofNat n) &&& 0x70 = 0 := by decide
  have found := every opcode.toNat (UInt8.lt_iff_toNat_lt.mp small)
  rwa [UInt8.ofNat_toNat] at found

/-- The second byte of a frame with a short payload. -/
theorem second_byte {length : Nat} (short : length ≤ 125) :
    ((0x80 ||| UInt8.ofNat length) &&& 0x7f).toNat = length ∧
      (0x80 ||| UInt8.ofNat length) &&& 0x80 ≠ 0 := by
  have every : ∀ n < 126, ((0x80 ||| UInt8.ofNat n) &&& 0x7f).toNat = n ∧
      (0x80 ||| UInt8.ofNat n) &&& 0x80 ≠ 0 := by decide
  exact every length (Nat.lt_succ_of_le short)

theorem sized_allowed {sent : Sent} (allowed : sent.Allowed) (header_length : Nat) :
    sized sent.opcode header_length sent.payload.length =
      .message (sent.opcode, header_length, sent.payload.length)
        (header_length + 4 + sent.payload.length) := by
  have controlled : ¬(sent.opcode &&& 0x08 ≠ 0 ∧ 125 < sent.payload.length) := by
    rintro ⟨control, long⟩
    exact absurd (allowed.control control) (Nat.not_le_of_lt long)
  rw [sized, if_neg controlled, if_neg (Nat.not_lt_of_le allowed.payload)]

theorem header_client_frame {sent : Sent} (allowed : sent.Allowed) (more : Bytes) :
    header (client_frame sent ++ more) =
      .message
        (sent.opcode, 1 + (masked_length sent.payload.length).length, sent.payload.length)
        (client_frame sent).length := by
  obtain ⟨opcode, final, reserved⟩ := first_byte allowed.opcode
  by_cases short : sent.payload.length ≤ 125
  · obtain ⟨length, masked⟩ := second_byte short
    have bytes : client_frame sent ++ more =
        (0x80 ||| sent.opcode) :: (0x80 ||| UInt8.ofNat sent.payload.length) ::
          (sent.mask ++ unmask sent.mask sent.payload ++ more) := by
      rw [client_frame, masked_length, if_pos short]
      rfl
    have total : (client_frame sent).length = 2 + 4 + sent.payload.length := by
      rw [client_frame, masked_length, if_pos short]
      simp only [List.length_cons, List.length_append, List.length_nil, allowed.mask, length_unmask]
      omega
    rw [total, bytes, masked_length, if_pos short]
    unfold header
    rw [if_neg (by simp)]
    simp only [List.getD_cons_zero, List.getD_cons_succ, opcode, length]
    rw [if_neg (by simp [final, reserved, masked]), if_neg (by omega), if_neg (by omega)]
    exact sized_allowed allowed 2
  · have fits : sent.payload.length < 256 ^ 2 := by
      have small := allowed.payload
      have limit : MAX_WS_PAYLOAD < 256 ^ 2 := by decide
      omega
    have bytes : client_frame sent ++ more =
        (0x80 ||| sent.opcode) :: 0xfe :: (write_be16 sent.payload.length ++
          (sent.mask ++ unmask sent.mask sent.payload ++ more)) := by
      rw [client_frame, masked_length, if_neg short]
      simp only [List.cons_append, List.append_assoc]
    have two : (write_be16 sent.payload.length).length = 2 := BigEndian.length_field 2 _
    have total : (client_frame sent).length = 4 + 4 + sent.payload.length := by
      rw [client_frame, masked_length, if_neg short]
      simp only [List.length_cons, List.length_append, two, allowed.mask, length_unmask]
      omega
    have read : read_be16 (write_be16 sent.payload.length ++
        (sent.mask ++ unmask sent.mask sent.payload ++ more)) = sent.payload.length := by
      rw [read_be16, write_be16, BigEndian.take_field, BigEndian.number_field_of_lt fits]
    rw [total, bytes, masked_length, if_neg short]
    unfold header
    rw [if_neg (by simp)]
    simp only [List.getD_cons_zero, List.getD_cons_succ, opcode]
    have masked : (0xfe : UInt8) &&& 0x80 ≠ 0 := by decide
    rw [if_neg (by simp [final, reserved, masked]), if_pos (by decide), if_neg (by simp [two])]
    rw [List.drop_succ_cons, List.drop_succ_cons, List.drop_zero, read, List.length_cons, two]
    exact sized_allowed allowed 4

/-- A frame is read as it was sent, whatever comes behind it. -/
theorem front_client_frame {sent : Sent} (allowed : sent.Allowed) (more : Bytes) :
    front (client_frame sent ++ more) = .message sent.message (client_frame sent).length := by
  have header := header_client_frame allowed more
  have long : ¬(client_frame sent ++ more).length < (client_frame sent).length := by
    rw [List.length_append]
    omega
  have behind : (client_frame sent ++ more).drop (1 + (masked_length sent.payload.length).length) =
      sent.mask ++ (unmask sent.mask sent.payload ++ more) := by
    rw [client_frame, List.cons_append, Nat.add_comm, List.drop_succ_cons, List.append_assoc,
      List.drop_left, List.append_assoc]
  have mask : (sent.mask ++ (unmask sent.mask sent.payload ++ more)).take 4 = sent.mask := by
    rw [← allowed.mask, List.take_left]
  have payload : (sent.mask ++ (unmask sent.mask sent.payload ++ more)).drop 4 =
      unmask sent.mask sent.payload ++ more := by
    rw [← allowed.mask, List.drop_left]
  have whole : (unmask sent.mask sent.payload ++ more).take sent.payload.length =
      unmask sent.mask sent.payload := by
    rw [← length_unmask sent.mask sent.payload, List.take_left]
  rw [front, header]
  dsimp only
  rw [if_neg long, ← List.drop_drop (i := 4), behind, mask, payload, whole, unmask_unmask]
  rfl

/-! ### The receiving loop -/

/-- What one `recv` returns. -/
inductive Recv
  | data (bytes : Bytes)
  | interrupted
  | hangup
  | failed
deriving Repr, DecidableEq

def Recv.arrived : Recv → Bytes
  | .data bytes => bytes
  | _ => []

/-- What a burst brings. -/
def arrivals (returned : List Recv) : Bytes := returned.flatMap Recv.arrived

/-- Neither the end of the stream nor an error. -/
def Recv.goesOn : Recv → Bool
  | .data _ | .interrupted => true
  | .hangup | .failed => false

/-- The loop over `recv`, which would block behind the last of these; `none` where the
connection is closed. -/
def recv_loop : Bytes → List Recv → Option Bytes
  | input, [] => if input.length = INPUT_CAPACITY then none else some input
  | input, returned :: more =>
      if input.length = INPUT_CAPACITY then none
      else
        match returned with
        | .data bytes => recv_loop (input ++ bytes.take (INPUT_CAPACITY - input.length)) more
        | .interrupted => recv_loop input more
        | .hangup | .failed => none

section Open

variable {State : Type}
variable (act : Message → State → State × Option Unit)

/-- `client_read` of a client in `CLIENT_OPEN`, its input being the reader's buffer; `act` is
what is done with a frame, and whether that ends the client. -/
def client_read (client : Reader UInt8 State Unit) (returned : List Recv) :
    Reader UInt8 State Unit :=
  if client.ended.isSome then client
  else
    match recv_loop client.buffer returned with
    | none => { client with ended := some () }
    | some input => framer.drained act { client with buffer := input }

/-- The longest frame that is taken. -/
def MAX_FRAME : Nat := 8 + MAX_WS_PAYLOAD

theorem front_short_lt {input : Bytes} (short : front input = .short) :
    input.length < MAX_FRAME := by
  unfold front at short
  split at short
  · rename_i known
    unfold header at known
    have limit : 4 ≤ MAX_FRAME := by decide
    split at known
    · omega
    · dsimp only at known
      split at known
      · contradiction
      · split at known
        · split at known
          · omega
          · unfold sized at known
            split at known
            · contradiction
            · split at known <;> contradiction
        · split at known
          · contradiction
          · unfold sized at known
            split at known
            · contradiction
            · split at known <;> contradiction
  · contradiction
  · rename_i known
    split at short
    · have measured := header_measured known
      have total := measured.total
      have payload := measured.payload
      have header := measured.header
      rw [MAX_FRAME]
      omega
    · contradiction

/-- A burst for which there is room is taken in whole. -/
theorem recv_loop_eq {returned : List Recv} (goes : ∀ r ∈ returned, r.goesOn = true) :
    ∀ {input : Bytes}, input.length + (arrivals returned).length < INPUT_CAPACITY →
      recv_loop input returned = some (input ++ arrivals returned) := by
  induction returned with
  | nil =>
      intro input room
      change input.length + 0 < INPUT_CAPACITY at room
      rw [recv_loop, if_neg (by omega), arrivals, List.flatMap_nil, List.append_nil]
  | cons first returned inductionHypothesis =>
      intro input room
      have later : ∀ r ∈ returned, r.goesOn = true :=
        fun r member => goes r (List.mem_cons_of_mem _ member)
      have going := goes first List.mem_cons_self
      have split : arrivals (first :: returned) = first.arrived ++ arrivals returned :=
        List.flatMap_cons
      rw [split, List.length_append] at room
      unfold recv_loop
      rw [if_neg (by omega), split]
      cases first with
      | data bytes =>
          change input.length + (bytes.length + _) < _ at room
          dsimp only
          have fits : (input ++ bytes).length + (arrivals returned).length <
              INPUT_CAPACITY := by
            rw [List.length_append]
            omega
          rw [List.take_of_length_le (by omega), inductionHypothesis later fits,
            List.append_assoc]
          rfl
      | interrupted =>
          change input.length + (0 + _) < _ at room
          exact inductionHypothesis later (by omega)
      | hangup => exact absurd going (by decide)
      | failed => exact absurd going (by decide)

variable {act}

/-- A burst for which there is room is received as by the framer. -/
theorem client_read_eq {client : Reader UInt8 State Unit} (settled : framer.Settled client)
    {returned : List Recv} (goes : ∀ r ∈ returned, r.goesOn = true)
    (room : (arrivals returned).length + MAX_FRAME ≤ INPUT_CAPACITY) :
    client_read act client returned =
      framer.receive act client (arrivals returned) := by
  unfold client_read Framer.receive
  by_cases ended : client.ended.isSome
  · rw [if_pos ended, if_pos ended]
  · rw [if_neg ended, if_neg ended]
    have pending : client.buffer.length < MAX_FRAME := by
      rcases settled (by simpa using ended) with empty | short
      · rw [empty]
        decide
      · exact front_short_lt short
    rw [recv_loop_eq goes (by omega)]

theorem client_reads_eq {bursts : List (List Recv)}
    (goes : ∀ burst ∈ bursts, ∀ r ∈ burst, r.goesOn = true)
    (room : ∀ burst ∈ bursts, (arrivals burst).length + MAX_FRAME ≤ INPUT_CAPACITY)
    {client : Reader UInt8 State Unit} (settled : framer.Settled client) :
    bursts.foldl (client_read act) client =
      (bursts.map arrivals).foldl
        (framer.receive act) client := by
  induction bursts generalizing client with
  | nil => rfl
  | cons burst bursts inductionHypothesis =>
      rw [List.foldl_cons, List.map_cons, List.foldl_cons,
        client_read_eq settled (goes burst List.mem_cons_self) (room burst List.mem_cons_self)]
      apply inductionHypothesis
      · exact fun other later => goes other (List.mem_cons_of_mem _ later)
      · exact fun other later => room other (List.mem_cons_of_mem _ later)
      · exact framer.settled_receive _ client _

/-- What is cut off a frame of a client waits for the rest. -/
theorem front_cut_client_frame {next : Sent} (allowed : next.Allowed) {cut rest : Bytes}
    (whole : client_frame next = cut ++ rest) (filled : rest ≠ []) : front cut = .short := by
  apply framer.front_cut filled
  have found := front_client_frame allowed []
  rw [List.append_nil, whole] at found
  exact found

variable (act) in
/-- However the frames of a client are cut into what `recv` returns, in bursts that leave
room for one frame of the largest size: what has arrived so far is handled as the frames
that are whole in it, in their order and with the payloads that were sent, up to the first
that closes the connection; a frame cut off waits. -/
theorem frames_handled_in_order (state : State) (sents : List Sent)
    (allowed : ∀ sent ∈ sents, sent.Allowed) (cut : Bytes)
    (waits : cut = [] ∨
      ∃ (next : Sent) (rest : Bytes), next.Allowed ∧ client_frame next = cut ++ rest ∧ rest ≠ [])
    (bursts : List (List Recv)) (goes : ∀ burst ∈ bursts, ∀ r ∈ burst, r.goesOn = true)
    (room : ∀ burst ∈ bursts, (arrivals burst).length + MAX_FRAME ≤ INPUT_CAPACITY)
    (arrived : bursts.flatMap arrivals = sents.flatMap client_frame ++ cut) :
    let client := bursts.foldl (client_read act) ⟨[], state, 0, none⟩
    (client.state, client.ended) =
      Framer.deliver act (sents.map Sent.message) state := by
  intro client
  have settled : framer.Settled (⟨[], state, 0, none⟩ : Reader UInt8 State Unit) :=
    fun _ => .inl rfl
  have short : cut = [] ∨ framer.front cut = .short := by
    rcases waits with empty | ⟨next, rest, next_allowed, whole, filled⟩
    · exact .inl empty
    · exact .inr (front_cut_client_frame next_allowed whole filled)
  have pieces := framer.receive_pieces act
    (bursts.map arrivals) settled
  rw [← client_reads_eq goes room settled] at pieces
  rw [← List.flatMap_def, arrived] at pieces
  have drained := framer.drained_encoded act client_frame Sent.message short
    sents (fun sent member => front_client_frame (allowed sent member))
    ⟨sents.flatMap client_frame ++ cut, state, 0, none⟩ rfl rfl
  rw [← drained]
  refine Prod.ext pieces.state ?_
  have ended := pieces.ended
  rw [show framer.kind = id from rfl, Option.map_id_fun, id, id] at ended
  exact ended

/-- A frame is remembered; a closing one ends the client. -/
def remember (message : Message) (seen : List Message) : List Message × Option Unit :=
  (seen ++ [message], if message.opcode = 0x8 then some () else none)

def shout : Sent := ⟨0x2, [1, 2, 3, 4], [10, 20, 30, 40, 50]⟩
def ping : Sent := ⟨0x9, [9, 8, 7, 6], []⟩

/-- Two frames, the second of them cut inside its mask, and the beginning of a third. -/
theorem frames_handled_in_order_cut :
    let client := [[Recv.data ((client_frame shout ++ client_frame ping).take 14)],
      [.data ((client_frame ping).drop 3), .interrupted, .data ((client_frame shout).take 7)]].foldl
        (client_read remember) ⟨[], [], 0, none⟩
    (client.state, client.ended) =
      Framer.deliver remember ([shout, ping].map Sent.message) [] := by
  have allowed : ∀ sent ∈ [shout, ping], sent.Allowed := by
    intro sent member
    simp only [List.mem_cons, List.not_mem_nil, or_false] at member
    rcases member with rfl | rfl <;> exact ⟨by decide, by decide, by decide, by decide⟩
  apply frames_handled_in_order remember [] [shout, ping] allowed ((client_frame shout).take 7)
  · refine .inr ⟨shout, (client_frame shout).drop 7, allowed shout List.mem_cons_self, ?_, ?_⟩
    · decide
    · decide
  · decide
  · decide
  · decide

end Open

end JooanW3U.Audio.WebSocket
