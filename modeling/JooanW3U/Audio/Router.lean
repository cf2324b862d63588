import JooanW3U.Audio.GuardClient
import JooanW3U.Audio.WebSocket

/-!
Owns one client of the audio router behind its handshake: the frames it sends and is sent, the
talk it leases from the guard, and the end of both. Main result: what is sent to a client is a
stream of whole frames, its audio frames numbered in sequence.

Does not own the handshake, nor how the clients share the router.
-/

namespace JooanW3U.Audio.Router

open JooanW3U.Library
open JooanW3U.Audio.Wire
open JooanW3U.Audio.WebSocket
open JooanW3U.Audio.GuardClient

def JOOAN_AUDIO_STATE_ACQUIRED : UInt8 := 1
def JOOAN_AUDIO_STATE_RELEASED : UInt8 := 2
def JOOAN_AUDIO_STATE_LEASE_EXPIRED : UInt8 := 3

/-! ### The output of a client -/

/-- `output`, of which only `output_length` bytes from `output_offset` on are read. -/
structure Output where
  offset : Nat
  pending : Bytes
deriving Repr, DecidableEq

/-- Failing ends the client. -/
def client_queue (output : Output) (data : Bytes) : Option Output :=
  let offset :=
    if output.offset ≠ 0 ∧ OUTPUT_CAPACITY < output.offset + output.pending.length + data.length
    then 0
    else output.offset
  if OUTPUT_CAPACITY - offset - output.pending.length < data.length then none
  else some ⟨offset, output.pending ++ data⟩

/-- What one `send` returns. -/
inductive Send
  | sent (amount : Nat)
  | interrupted
  | full
  | failed
deriving Repr, DecidableEq

/-- The output left, what was sent, and whether the client goes on; behind the last of these
`send` would block. -/
def client_flush : Output → List Send → Output × Bytes × Bool
  | output, [] => if output.pending = [] then (⟨0, []⟩, [], true) else (output, [], true)
  | output, returned :: more =>
      if output.pending = [] then (⟨0, []⟩, [], true)
      else
        match returned with
        | .sent amount =>
            if amount = 0 then (output, [], false)
            else
              let (left, sent, goes) :=
                client_flush ⟨output.offset + (output.pending.take amount).length,
                  output.pending.drop amount⟩ more
              (left, output.pending.take amount ++ sent, goes)
        | .interrupted => client_flush output more
        | .full => (output, [], true)
        | .failed => (output, [], false)

/-- The bytes of a frame to a client. -/
def ws_frame (opcode : UInt8) (payload : Bytes) : Bytes :=
  (0x80 ||| opcode) ::
    ((if payload.length ≤ 125 then [UInt8.ofNat payload.length]
      else 126 :: write_be16 payload.length) ++ payload)

def queue_ws_frame (output : Output) (opcode : UInt8) (payload : Bytes) : Option Output :=
  if 65535 < payload.length then none
  else
    let header :=
      (0x80 ||| opcode) ::
        (if payload.length ≤ 125 then [UInt8.ofNat payload.length]
          else 126 :: write_be16 payload.length)
    match client_queue output header with
    | none => none
    | some output => if payload = [] then some output else client_queue output payload

/-! ### A client -/

/-- `struct client` of a taken slot, but for its descriptor and its input; `opened` in
`CLIENT_OPEN`. -/
structure Client where
  opened : Bool
  allow_talk : Bool
  output : Output
  receive_sequence : Nat
  transmit_sequence : Nat
  session_id : Nat
  talk_deadline : Nat
  guard : GuardClient
deriving Repr, DecidableEq

/-- `client_init` -/
def client_init : Client := ⟨false, false, ⟨0, []⟩, 0, 0, 0, 0, closed⟩

/-- What a call comes to: the client, what is sent to the guard, `speaker_talk_logged`, and
whether the client goes on. -/
structure Done where
  client : Client
  sent : List Bytes
  speaker_talk_logged : Bool
  succeeded : Bool
deriving Repr, DecidableEq

def queue_audio_state (client : Client) (state : UInt8) : Option Client :=
  let sequence := next_sequence client.transmit_sequence
  match
    jooan_audio_wire_build (JOOAN_AUDIO_WIRE_HEADER_SIZE + 1)
      ⟨JOOAN_AUDIO_STATE, 0, sequence, [state]⟩ with
  | none => none
  | some frame =>
      match queue_ws_frame client.output 0x2 frame with
      | none => none
      | some output => some { client with output, transmit_sequence := sequence }

def client_release_guard (client : Client) (state : UInt8) (delivers logged : Bool) : Done :=
  let released :=
    if client.guard.acquired then jooan_audio_guard_release client.guard 0 delivers
    else ⟨client.guard, [], true⟩
  let closing := jooan_audio_guard_close released.client delivers
  let client := { client with guard := closing.client, talk_deadline := 0 }
  match queue_audio_state client state with
  | none => ⟨client, released.sent ++ closing.sent, logged, false⟩
  | some client => ⟨client, released.sent ++ closing.sent, logged, released.succeeded⟩

/-- How the router was started: `strlen(guard_socket_path)`, `maximum_talk_ms` and
`speaker_output_direct`. -/
structure Setup where
  path_length : Nat
  maximum_talk_ms : Nat
  speaker_output_direct : Bool
deriving Repr, DecidableEq

/-- What a call meets: `new_session_id`, a socket, `sendto`, the clock, the driver and the
amplifier. -/
structure Meets where
  session_id : UInt64
  socket : Bool
  delivers : Bool
  now : Nat
  plays : Bool
  amplifier : Bool
deriving Repr, DecidableEq

def speaker_output_submit (payload : Bytes) (plays : Bool) : Bool :=
  payload.length = JOOAN_AUDIO_SAMPLES_PER_PACKET && plays

/-- `client_audio_frame` with `JOOAN_AUDIO_PTT_ACQUIRE`. -/
def acquire_frame (setup : Setup) (client : Client) (accepted : Nat) (meets : Meets)
    (logged : Bool) : Done :=
  if client.guard.acquired then ⟨client, [], logged, false⟩
  else
    let closing :=
      if client.guard.opened then jooan_audio_guard_close client.guard meets.delivers
      else ⟨client.guard, [], true⟩
    let session_id := meets.session_id.toNat
    let (guard, opened) :=
      jooan_audio_guard_open closing.client setup.path_length session_id meets.socket
    if opened = false then ⟨{ client with guard, session_id }, closing.sent, logged, false⟩
    else
      let called := jooan_audio_guard_acquire guard 1 meets.delivers
      let sent := closing.sent ++ called.sent
      if called.succeeded = false then
        ⟨{ client with guard := called.client, session_id }, sent, logged, false⟩
      else
        let talk_deadline := (meets.now + setup.maximum_talk_ms) % 2 ^ 64
        let client := { client with guard := called.client, session_id, talk_deadline }
        match queue_audio_state client JOOAN_AUDIO_STATE_ACQUIRED with
        | none => ⟨client, sent, false, false⟩
        | some client => ⟨{ client with receive_sequence := accepted }, sent, false, true⟩

/-- `client_audio_frame` with `JOOAN_AUDIO_PTT_PCMA`. -/
def pcma_frame (setup : Setup) (client : Client) (payload : Bytes) (accepted : Nat) (meets : Meets)
    (logged : Bool) : Done :=
  -- a frame without a session is dropped, and not counted
  if client.guard.acquired = false then ⟨client, [], logged, true⟩
  else
    let guard_sequence := next_sequence client.guard.last_sequence
    if setup.speaker_output_direct then
      if speaker_output_submit payload meets.plays = false then ⟨client, [], logged, false⟩
      else
        let called := jooan_audio_guard_speaker_lease client.guard guard_sequence meets.delivers
        let client := { client with guard := called.client }
        if called.succeeded = false then ⟨client, called.sent, logged, false⟩
        else if logged = false ∧ meets.amplifier = false then ⟨client, called.sent, logged, false⟩
        else ⟨{ client with receive_sequence := accepted }, called.sent, true, true⟩
    else
      let called := jooan_audio_guard_pcma client.guard guard_sequence payload meets.delivers
      let client := { client with guard := called.client }
      if called.succeeded = false then ⟨client, called.sent, logged, false⟩
      else ⟨{ client with receive_sequence := accepted }, called.sent, logged, true⟩

def client_audio_frame (setup : Setup) (client : Client) (payload : Bytes) (meets : Meets)
    (logged : Bool) : Done :=
  let refused : Done := ⟨client, [], logged, false⟩
  if client.allow_talk = false then refused
  else
    match jooan_audio_wire_parse payload with
    | none => refused
    | some frame =>
        match jooan_audio_sequence_accept client.receive_sequence frame.sequence with
        | none => refused
        | some accepted =>
            if frame.type = JOOAN_AUDIO_PTT_ACQUIRE then
              acquire_frame setup client accepted meets logged
            else if frame.type = JOOAN_AUDIO_PTT_PCMA then
              pcma_frame setup client frame.payload accepted meets logged
            else if frame.type = JOOAN_AUDIO_PTT_RELEASE then
              let released :=
                client_release_guard client JOOAN_AUDIO_STATE_RELEASED meets.delivers logged
              if released.succeeded = false then released
              else
                { released with client := { released.client with receive_sequence := accepted } }
            else refused

/-- One frame of `client_websocket_frames`. -/
def websocket_frame (setup : Setup) (client : Client) (message : Message) (meets : Meets)
    (logged : Bool) : Done :=
  let refused : Done := ⟨client, [], logged, false⟩
  if message.opcode = 0x2 then client_audio_frame setup client message.payload meets logged
  else if message.opcode = 0x8 then refused
  else if message.opcode = 0x9 then
    match queue_ws_frame client.output 0xa message.payload with
    | none => refused
    | some output => ⟨{ client with output }, [], logged, true⟩
  else if message.opcode ≠ 0xa then refused
  else ⟨client, [], logged, true⟩

/-- `client_close`: what is sent to the guard. -/
def client_close (client : Client) (delivers : Bool) : List Bytes :=
  (jooan_audio_guard_close client.guard delivers).sent

/-- `broadcast_microphone` for one client in `CLIENT_OPEN`. -/
def broadcast_to (client : Client) (pcma : Bytes) : Option Client :=
  let sequence := next_sequence client.transmit_sequence
  match
    jooan_audio_wire_build (JOOAN_AUDIO_WIRE_HEADER_SIZE + JOOAN_AUDIO_WIRE_MAX_PAYLOAD)
      ⟨JOOAN_AUDIO_MIC_PCMA, 0, sequence, pcma⟩ with
  | none => none
  | some frame =>
      match queue_ws_frame client.output 0x2 frame with
      | none => none
      | some output => some { client with output, transmit_sequence := sequence }

/-- The client's lease is over, as `expire_talk_leases` asks. -/
def Client.expired (client : Client) (now : Nat) : Bool :=
  client.guard.acquired && client.talk_deadline != 0 && client.talk_deadline ≤ now

/-! ### A slot of the router -/

def ascii (text : String) : Bytes := text.toList.map fun c => UInt8.ofNat c.toNat

/-- The answer of `client_handshake`. -/
def switching_protocols (accept : Bytes) : Bytes :=
  ascii "HTTP/1.1 101 Switching Protocols\r\nUpgrade: websocket\r\nConnection: Upgrade\r\n" ++
    ascii "Sec-WebSocket-Accept: " ++ accept ++ ascii "\r\nSec-WebSocket-Protocol: jaud.v1\r\n\r\n"

/-- What happens to a slot: `add_client` takes it, a handshake is accepted, a frame has come,
a packet of the microphone, the passing of time, room to send, or the end of the client.
`releases` says whether `sendto` takes a `RELEASE` then. -/
inductive Event
  | accepts (session_id : UInt64)
  | opens (accept : Bytes)
  | frame (message : Message) (meets : Meets)
  | microphone (pcma : Bytes)
  | expires (now : Nat)
  | flushes (returned : List Send)
  | closes
deriving Repr, DecidableEq

/-- A slot, free without a client, with what was sent to its client; what is sent to the
guard, and `speaker_talk_logged`. -/
structure Slot where
  client : Option Client
  written : Bytes
  sent : List Bytes
  speaker_talk_logged : Bool
deriving Repr, DecidableEq

/-- The client goes on, or is closed. -/
def Done.slot (done : Done) (written : Bytes) (releases : Bool) : Slot :=
  if done.succeeded then ⟨some done.client, written, done.sent, done.speaker_talk_logged⟩
  else
    ⟨none, written, done.sent ++ client_close done.client releases, done.speaker_talk_logged⟩

/-- As `Done`, where nothing is sent to the guard but by closing. -/
def queued (client : Client) (queued : Option Client) (logged : Bool) : Done :=
  match queued with
  | none => ⟨client, [], logged, false⟩
  | some client => ⟨client, [], logged, true⟩

def slot_step (setup : Setup) (client : Option Client) (written : Bytes) (event : Event)
    (releases logged : Bool) : Slot :=
  match client with
  | none =>
      match event with
      | .accepts session_id =>
          ⟨some { client_init with session_id := session_id.toNat }, [], [], logged⟩
      | _ => ⟨none, written, [], logged⟩
  | some client =>
      let same : Slot := ⟨some client, written, [], logged⟩
      match event with
      | .accepts _ => same
      | .opens accept =>
          if client.opened then same
          else
            let answered := (client_queue client.output (switching_protocols accept)).map fun output =>
              { client with allow_talk := true, output, opened := true }
            (queued client answered logged).slot written releases
      | .frame message meets =>
          if client.opened then
            (websocket_frame setup client message meets logged).slot written releases
          else same
      | .microphone pcma =>
          if pcma.length = 0 ∨ JOOAN_AUDIO_WIRE_MAX_PAYLOAD < pcma.length ∨ client.opened = false then
            same
          else (queued client (broadcast_to client pcma) logged).slot written releases
      | .expires now =>
          if client.expired now then
            (client_release_guard client JOOAN_AUDIO_STATE_LEASE_EXPIRED releases logged).slot written
              releases
          else same
      | .flushes returned =>
          let (output, sent, goes) := client_flush client.output returned
          if goes then ⟨some { client with output }, written ++ sent, [], logged⟩
          else ⟨none, written ++ sent, client_close client releases, logged⟩
      | .closes => ⟨none, written, client_close client releases, logged⟩

/-- A slot, through what happens to it; each event with `releases` and what
`speaker_talk_logged` is then. -/
def slot_run (setup : Setup) (events : List (Event × Bool × Bool)) : Option Client × Bytes :=
  events.foldl (fun (client, written) (event, releases, logged) =>
    let slot := slot_step setup client written event releases logged
    (slot.client, slot.written)) (none, [])

/-! ### What a client is sent -/

/-- The frames, one behind the other. -/
def stream (frames : List (UInt8 × Bytes)) : Bytes :=
  frames.flatMap fun frame => ws_frame frame.1 frame.2

/-- The number of the last audio frame; `none` where one is not the next in sequence. -/
def numbered (last : Option Nat) (frame : UInt8 × Bytes) : Option Nat :=
  match last with
  | none => none
  | some last =>
      if frame.1 = 0x2 then
        match jooan_audio_wire_parse frame.2 with
        | none => none
        | some audio => if audio.sequence = next_sequence last then some audio.sequence else none
      else some last

theorem stream_append (first second : List (UInt8 × Bytes)) :
    stream (first ++ second) = stream first ++ stream second :=
  List.flatMap_append

theorem numbered_lt {frames : List (UInt8 × Bytes)} :
    ∀ {start last : Nat}, start < 2 ^ 32 → frames.foldl numbered (some start) = some last →
      last < 2 ^ 32 := by
  induction frames with
  | nil =>
      intro start last small same
      exact Option.some.inj same ▸ small
  | cons frame frames inductionHypothesis =>
      intro start last small same
      have stuck : ∀ frames : List (UInt8 × Bytes), frames.foldl numbered none = none := by
        intro frames
        induction frames with
        | nil => rfl
        | cons frame frames ih => exact ih
      rw [List.foldl_cons] at same
      cases one : numbered (some start) frame with
      | none =>
          rw [one, stuck] at same
          contradiction
      | some next =>
          rw [one] at same
          refine inductionHypothesis ?_ same
          unfold numbered at one
          dsimp only at one
          split at one
          · split at one
            · contradiction
            · rename_i audio parsed
              split at one
              · rw [← Option.some.inj one]
                exact ((wire_parse_iff _ _).mp parsed).1.sequence
              · contradiction
          · exact Option.some.inj one ▸ small

theorem client_queue_pending {output output' : Output} {data : Bytes}
    (queued : client_queue output data = some output') :
    output'.pending = output.pending ++ data := by
  unfold client_queue at queued
  dsimp only at queued
  generalize (if output.offset ≠ 0 ∧
    OUTPUT_CAPACITY < output.offset + output.pending.length + data.length then 0
    else output.offset) = offset at queued
  split at queued
  · contradiction
  · rw [← Option.some.inj queued]

theorem queue_ws_frame_pending {output output' : Output} {opcode : UInt8} {payload : Bytes}
    (queued : queue_ws_frame output opcode payload = some output') :
    output'.pending = output.pending ++ stream [(opcode, payload)] := by
  unfold queue_ws_frame at queued
  split at queued
  · contradiction
  · dsimp only at queued
    split at queued
    · contradiction
    · rename_i headed header
      have pending := client_queue_pending header
      have one : stream [(opcode, payload)] = ws_frame opcode payload := List.append_nil _
      rw [one, ws_frame, ← List.cons_append, ← List.append_assoc, ← pending]
      split at queued
      · rename_i empty
        rw [← Option.some.inj queued, empty, List.append_nil]
      · exact client_queue_pending queued

theorem client_flush_pending {returned : List Send} :
    ∀ output : Output,
      (client_flush output returned).2.1 ++ (client_flush output returned).1.pending =
        output.pending := by
  induction returned with
  | nil =>
      intro output
      unfold client_flush
      split
      · rename_i empty
        exact empty.symm
      · rfl
  | cons first returned inductionHypothesis =>
      intro output
      unfold client_flush
      split
      · rename_i empty
        exact empty.symm
      · cases first with
        | sent amount =>
            dsimp only
            split
            · rfl
            · have later := inductionHypothesis
                ⟨output.offset + (output.pending.take amount).length, output.pending.drop amount⟩
              dsimp only
              rw [List.append_assoc, later, List.take_append_drop]
        | interrupted => exact inductionHypothesis output
        | full => rfl
        | failed => rfl

/-- The client, and more frames to it. -/
structure Extends (client later : Client) : Prop where
  opened : later.opened = client.opened
  frames : ∃ frames, later.output.pending = client.output.pending ++ stream frames ∧
    (client.transmit_sequence < 2 ^ 32 →
      frames.foldl numbered (some client.transmit_sequence) = some later.transmit_sequence)

theorem Extends.same {client later : Client} (opened : later.opened = client.opened)
    (output : later.output = client.output)
    (sequence : later.transmit_sequence = client.transmit_sequence) : Extends client later where
  opened := opened
  frames := ⟨[], by rw [output]; exact (List.append_nil _).symm, fun _ => congrArg some sequence.symm⟩

theorem Extends.trans {first second third : Client} (one : Extends first second)
    (two : Extends second third) : Extends first third where
  opened := two.opened.trans one.opened
  frames := by
    obtain ⟨frames, pending, numbers⟩ := one.frames
    obtain ⟨more, pending', numbers'⟩ := two.frames
    refine ⟨frames ++ more, ?_, ?_⟩
    · rw [pending', pending, stream_append, List.append_assoc]
    · intro small
      rw [List.foldl_append, numbers small]
      exact numbers' (numbered_lt small (numbers small))

/-- An audio frame that is built carries the next number. -/
theorem numbered_built {capacity type last : Nat} {payload frame : Bytes} (small : last < 2 ^ 32)
    (typed : type < 2 ^ 8)
    (built : jooan_audio_wire_build capacity ⟨type, 0, next_sequence last, payload⟩ = some frame) :
    numbered (some last) (0x2, frame) = some (next_sequence last) := by
  have fits : Frame.Fits ⟨type, 0, next_sequence last, payload⟩ :=
    ⟨typed, Nat.two_pow_pos 8, next_sequence_lt small⟩
  have parsed := (wire_parse_iff frame _).mpr ⟨fits, capacity, built⟩
  unfold numbered
  dsimp only
  rw [if_pos rfl, parsed]
  dsimp only
  rw [if_pos rfl]

theorem extends_audio {client : Client} {capacity type : Nat} {payload frame : Bytes}
    {output : Output} (typed : type < 2 ^ 8)
    (built : jooan_audio_wire_build capacity
      ⟨type, 0, next_sequence client.transmit_sequence, payload⟩ = some frame)
    (queued : queue_ws_frame client.output 0x2 frame = some output) :
    Extends client
      { client with output, transmit_sequence := next_sequence client.transmit_sequence } where
  opened := rfl
  frames :=
    ⟨[(0x2, frame)], queue_ws_frame_pending queued, fun small => numbered_built small typed built⟩

theorem extends_queue_audio_state {client later : Client} {state : UInt8}
    (queued : queue_audio_state client state = some later) : Extends client later := by
  unfold queue_audio_state at queued
  dsimp only at queued
  split at queued
  · contradiction
  · rename_i frame built
    split at queued
    · contradiction
    · rename_i output framed
      rw [← Option.some.inj queued]
      exact extends_audio (by decide) built framed

theorem extends_broadcast_to {client later : Client} {pcma : Bytes}
    (queued : broadcast_to client pcma = some later) : Extends client later := by
  unfold broadcast_to at queued
  dsimp only at queued
  split at queued
  · contradiction
  · rename_i frame built
    split at queued
    · contradiction
    · rename_i output framed
      rw [← Option.some.inj queued]
      exact extends_audio (by decide) built framed

theorem extends_client_release_guard (client : Client) (state : UInt8) (delivers logged : Bool) :
    Extends client (client_release_guard client state delivers logged).client := by
  unfold client_release_guard
  dsimp only
  generalize (if client.guard.acquired then jooan_audio_guard_release client.guard 0 delivers
    else ⟨client.guard, [], true⟩ : Called) = released
  split
  · exact .same rfl rfl rfl
  · rename_i later queued
    have first : Extends client
        { client with
          guard := (jooan_audio_guard_close released.client delivers).client, talk_deadline := 0 } :=
      .same rfl rfl rfl
    exact first.trans (extends_queue_audio_state queued)

theorem extends_acquire_frame (setup : Setup) (client : Client) (accepted : Nat) (meets : Meets)
    (logged : Bool) : Extends client (acquire_frame setup client accepted meets logged).client := by
  unfold acquire_frame
  split
  · exact .same rfl rfl rfl
  · dsimp only
    generalize (if client.guard.opened then jooan_audio_guard_close client.guard meets.delivers
      else ⟨client.guard, [], true⟩ : Called) = closing
    generalize jooan_audio_guard_open closing.client setup.path_length meets.session_id.toNat
      meets.socket = opening
    generalize jooan_audio_guard_acquire opening.1 1 meets.delivers = called
    split
    · exact .same rfl rfl rfl
    · split
      · exact .same rfl rfl rfl
      · split
        · exact .same rfl rfl rfl
        · rename_i later queued
          have first : Extends client
              { client with
                guard := called.client, session_id := meets.session_id.toNat
                talk_deadline := (meets.now + setup.maximum_talk_ms) % 2 ^ 64 } := .same rfl rfl rfl
          exact (first.trans (extends_queue_audio_state queued)).trans (.same rfl rfl rfl)

theorem extends_pcma_frame (setup : Setup) (client : Client) (payload : Bytes) (accepted : Nat)
    (meets : Meets) (logged : Bool) :
    Extends client (pcma_frame setup client payload accepted meets logged).client := by
  unfold pcma_frame
  dsimp only
  split
  · exact .same rfl rfl rfl
  · split
    · split
      · exact .same rfl rfl rfl
      · split
        · exact .same rfl rfl rfl
        · split <;> exact .same rfl rfl rfl
    · split <;> exact .same rfl rfl rfl

theorem extends_client_audio_frame (setup : Setup) (client : Client) (payload : Bytes)
    (meets : Meets) (logged : Bool) :
    Extends client (client_audio_frame setup client payload meets logged).client := by
  unfold client_audio_frame
  dsimp only
  split
  · exact .same rfl rfl rfl
  · split
    · exact .same rfl rfl rfl
    · split
      · exact .same rfl rfl rfl
      · split
        · exact extends_acquire_frame setup client _ meets logged
        · split
          · exact extends_pcma_frame setup client _ _ meets logged
          · split
            · have released :=
                extends_client_release_guard client JOOAN_AUDIO_STATE_RELEASED meets.delivers logged
              split
              · exact released
              · exact released.trans (.same rfl rfl rfl)
            · exact .same rfl rfl rfl

theorem extends_websocket_frame (setup : Setup) (client : Client) (message : Message)
    (meets : Meets) (logged : Bool) :
    Extends client (websocket_frame setup client message meets logged).client := by
  unfold websocket_frame
  dsimp only
  split
  · exact extends_client_audio_frame setup client message.payload meets logged
  · split
    · exact .same rfl rfl rfl
    · split
      · split
        · exact .same rfl rfl rfl
        · rename_i output queued
          exact ⟨rfl, [(0xa, message.payload)], queue_ws_frame_pending queued, fun _ => rfl⟩
      · split <;> exact .same rfl rfl rfl

/-- What has been written is the beginning of an answer to the handshake and whole frames in
sequence; with what is still to be written it is all of these. -/
def Sound : Option Client → Bytes → Prop
  | none, written =>
      ∃ accept frames last, written <+: switching_protocols accept ++ stream frames ∧
        frames.foldl numbered (some 0) = some last
  | some client, written =>
      (client.opened = false ∧ written = [] ∧ client.output.pending = [] ∧
          client.transmit_sequence = 0 ∧ client.guard.acquired = false) ∨
        client.opened = true ∧
          ∃ accept frames,
            written ++ client.output.pending = switching_protocols accept ++ stream frames ∧
              frames.foldl numbered (some 0) = some client.transmit_sequence

theorem Sound.free {client : Client} {written sent : Bytes} (sound : Sound (some client) written)
    (short : sent <+: client.output.pending) : Sound none (written ++ sent) := by
  rcases sound with ⟨-, nothing, empty, -⟩ | ⟨-, accept, frames, whole, numbers⟩
  · rw [empty, List.prefix_nil] at short
    refine ⟨[], [], 0, ?_, rfl⟩
    rw [nothing, short]
    exact List.nil_prefix
  · refine ⟨accept, frames, client.transmit_sequence, ?_, numbers⟩
    rw [← whole]
    exact List.prefix_append_right_inj written |>.mpr short

theorem Sound.closed {client : Client} {written : Bytes} (sound : Sound (some client) written) :
    Sound none written := by
  have free := sound.free (List.nil_prefix (l := client.output.pending))
  rwa [List.append_nil] at free

theorem Sound.extends {client later : Client} {written : Bytes}
    (sound : Sound (some client) written) (opened : client.opened = true)
    (more : Extends client later) : Sound (some later) written := by
  rcases sound with ⟨shut, -⟩ | ⟨-, accept, frames, whole, numbers⟩
  · exact absurd (shut.symm.trans opened) Bool.false_ne_true
  · obtain ⟨added, pending, goes⟩ := more.frames
    refine .inr ⟨more.opened.trans opened, accept, frames ++ added, ?_, ?_⟩
    · rw [pending, ← List.append_assoc, whole, stream_append, List.append_assoc]
    · rw [List.foldl_append, numbers]
      exact goes (numbered_lt (Nat.two_pow_pos 32) numbers)

theorem Sound.slot {done : Done} {written : Bytes} (sound : Sound (some done.client) written)
    (releases : Bool) :
    Sound (done.slot written releases).client (done.slot written releases).written := by
  unfold Done.slot
  split
  · exact sound
  · exact sound.closed

theorem Sound.queued {client : Client} {written : Bytes} {next : Option Client}
    (sound : Sound (some client) written)
    (good : ∀ later, next = some later → Sound (some later) written) (logged : Bool) :
    Sound (some (Router.queued client next logged).client) written := by
  cases next with
  | none => exact sound
  | some later => exact good later rfl

theorem Sound.opened {client : Client} {written : Bytes} (sound : Sound (some client) written)
    (acquired : client.guard.acquired = true) : client.opened = true := by
  rcases sound with ⟨-, -, -, -, free⟩ | ⟨opened, -⟩
  · exact absurd (free.symm.trans acquired) Bool.false_ne_true
  · exact opened

theorem Sound.flushed {client : Client} {written sent : Bytes} {output : Output}
    (sound : Sound (some client) written) (cut : sent ++ output.pending = client.output.pending) :
    Sound (some { client with output }) (written ++ sent) := by
  rcases sound with ⟨shut, nothing, empty, zero, free⟩ | ⟨opened, accept, frames, whole, numbers⟩
  · rw [empty, List.append_eq_nil_iff] at cut
    refine .inl ⟨shut, ?_, cut.2, zero, free⟩
    rw [nothing, cut.1, List.append_nil]
  · refine .inr ⟨opened, accept, frames, ?_, numbers⟩
    rw [← whole, ← cut, List.append_assoc]

/-- Whatever happens to a slot keeps the stream to its client. -/
theorem sound_slot_step (setup : Setup) {client : Option Client} {written : Bytes}
    (sound : Sound client written) (event : Event) (releases logged : Bool) :
    Sound (slot_step setup client written event releases logged).client
      (slot_step setup client written event releases logged).written := by
  cases client with
  | none =>
      cases event with
      | accepts session_id => exact .inl ⟨rfl, rfl, rfl, rfl, rfl⟩
      | _ => exact sound
  | some client =>
      unfold slot_step
      dsimp only
      cases event with
      | accepts session_id => exact sound
      | opens accept =>
          dsimp only
          split
          · exact sound
          · apply Sound.slot
            apply sound.queued
            intro later answered
            obtain ⟨output, queued, rfl⟩ := Option.map_eq_some_iff.mp answered
            rename_i shut
            rcases sound with ⟨-, nothing, empty, zero, -⟩ | ⟨opened, -⟩
            · refine .inr ⟨rfl, accept, [], ?_, ?_⟩
              · rw [nothing, client_queue_pending queued, empty]
                exact (List.append_nil _).symm
              · exact congrArg some zero.symm
            · exact absurd opened shut
      | frame message meets =>
          dsimp only
          split
          · rename_i opened
            exact (sound.extends opened (extends_websocket_frame setup client message meets
              logged)).slot releases
          · exact sound
      | microphone pcma =>
          dsimp only
          split
          · exact sound
          · rename_i sends
            simp only [not_or, Bool.not_eq_false] at sends
            apply Sound.slot
            apply sound.queued
            exact fun later queued => sound.extends sends.2.2 (extends_broadcast_to queued)
      | expires now =>
          dsimp only
          split
          · rename_i expired
            have acquired : client.guard.acquired = true := by
              simp only [Client.expired, Bool.and_eq_true] at expired
              exact expired.1.1
            exact (sound.extends (sound.opened acquired) (extends_client_release_guard client
              JOOAN_AUDIO_STATE_LEASE_EXPIRED releases logged)).slot releases
          · exact sound
      | flushes returned =>
          have split_output := @client_flush_pending returned client.output
          dsimp only
          split
          · exact sound.flushed split_output
          · exact sound.free ⟨_, split_output⟩
      | closes => exact sound.closed

/-- Through every run of a slot: what has been written to its client is the beginning of the
answer to the handshake and whole frames, whose audio frames are numbered in sequence from 1;
for as long as there is a client, the rest of these is what is still to be written, and the
last number is `transmit_sequence`. -/
theorem stream_to_client (setup : Setup) (events : List (Event × Bool × Bool)) :
    let (client, written) := slot_run setup events
    ∃ accept frames last, frames.foldl numbered (some 0) = some last ∧
      written <+: switching_protocols accept ++ stream frames ∧
      ∀ open_, client = some open_ → open_.opened = true →
        open_.transmit_sequence = last ∧
          written ++ open_.output.pending = switching_protocols accept ++ stream frames := by
  have sound : Sound (slot_run setup events).1 (slot_run setup events).2 := by
    induction events using List.reverseRecOn with
    | nil => exact ⟨[], [], 0, List.nil_prefix, rfl⟩
    | append_singleton earlier event inductionHypothesis =>
        rw [slot_run, List.foldl_append]
        exact sound_slot_step setup inductionHypothesis event.1 event.2.1 event.2.2
  generalize slot_run setup events = run at sound
  obtain ⟨client, written⟩ := run
  dsimp only at sound ⊢
  cases client with
  | none =>
      obtain ⟨accept, frames, last, cut, numbers⟩ := sound
      exact ⟨accept, frames, last, numbers, cut, fun _ same => absurd same (by simp)⟩
  | some client =>
      rcases sound with ⟨shut, nothing, -⟩ | ⟨-, accept, frames, whole, numbers⟩
      · refine ⟨[], [], 0, rfl, nothing ▸ List.nil_prefix, ?_⟩
        rintro _ ⟨⟩ opened
        exact absurd (shut.symm.trans opened) Bool.false_ne_true
      · refine ⟨accept, frames, _, numbers, ⟨_, whole⟩, ?_⟩
        rintro _ ⟨⟩ _
        exact ⟨rfl, whole⟩

end JooanW3U.Audio.Router
