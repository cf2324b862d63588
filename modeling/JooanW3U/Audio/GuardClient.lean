import JooanW3U.Audio.Wire
import JooanW3U.Library.Sessions

/-!
Owns the router's end of the talkback socket: one session, from `jooan_audio_guard_open` to
`jooan_audio_guard_close`, and the datagrams it sends. Main results: each call is one move of
the holder of a session.

Does not own when a client talks, nor what the guard does with a datagram.
-/

namespace JooanW3U.Audio.GuardClient

open JooanW3U.Library
open JooanW3U.Audio.Wire

/-- `struct jooan_audio_guard_client`, but for the address; `opened` where `fd >= 0`. -/
structure GuardClient where
  opened : Bool
  session_id : Nat
  last_sequence : Nat
  acquired : Bool
deriving Repr, DecidableEq

/-- As `jooan_audio_guard_close` leaves it. -/
def closed : GuardClient := ⟨false, 0, 0, false⟩

/-- What a call comes to: the client, what is sent, and whether it succeeds. -/
structure Called where
  client : GuardClient
  sent : List Bytes
  succeeded : Bool
deriving Repr, DecidableEq

/-- The number behind this one, where 0 stands for none. -/
def next_sequence (last_sequence : Nat) : Nat :=
  if last_sequence = 2 ^ 32 - 1 then 1 else last_sequence + 1

/-- The datagram that `sendto` is asked to send. -/
def GuardClient.datagram (client : GuardClient) (type sequence : Nat) (payload : Bytes) :
    Option Bytes :=
  if client.opened = false ∨ sequence = 0 ∨ JOOAN_AUDIO_WIRE_MAX_PAYLOAD < payload.length then none
  else
    jooan_audio_guard_datagram_build (JOOAN_AUDIO_GUARD_HEADER_SIZE + JOOAN_AUDIO_SAMPLES_PER_PACKET)
      ⟨type, client.session_id, sequence, payload⟩

/-- `send_guard`, where `delivers` says whether `sendto` sends it. -/
def send_guard (client : GuardClient) (type sequence : Nat) (payload : Bytes) (delivers : Bool) :
    Option Bytes :=
  if delivers then client.datagram type sequence payload else none

/-- The common end of the calls that send while they hold the session. -/
def GuardClient.advance (client : GuardClient) (type sequence : Nat) (payload : Bytes)
    (delivers : Bool) : Called :=
  match jooan_audio_sequence_accept client.last_sequence sequence with
  | none => ⟨client, [], false⟩
  | some accepted =>
      match send_guard client type sequence payload delivers with
      | none => ⟨client, [], false⟩
      | some datagram => ⟨{ client with last_sequence := accepted }, [datagram], true⟩

/-- `jooan_audio_guard_open`; `path_length` is that of the socket's path, and `socket` says
whether there is one. -/
def jooan_audio_guard_open (client : GuardClient) (path_length session_id : Nat) (socket : Bool) :
    GuardClient × Bool :=
  if session_id = 0 then (client, false)
  else if path_length = 0 ∨ 108 ≤ path_length then (client, false)
  else if socket then (⟨true, session_id, 0, false⟩, true)
  else (closed, false)

def jooan_audio_guard_acquire (client : GuardClient) (sequence : Nat) (delivers : Bool) : Called :=
  if client.acquired then ⟨client, [], false⟩
  else
    let called := client.advance JOOAN_AUDIO_PTT_ACQUIRE sequence [] delivers
    if called.succeeded then { called with client := { called.client with acquired := true } }
    else called

def jooan_audio_guard_pcma (client : GuardClient) (sequence : Nat) (pcma : Bytes)
    (delivers : Bool) : Called :=
  if client.acquired = false then ⟨client, [], false⟩
  else if pcma.length ≠ JOOAN_AUDIO_SAMPLES_PER_PACKET then ⟨client, [], false⟩
  else client.advance JOOAN_AUDIO_PTT_PCMA sequence pcma delivers

def jooan_audio_guard_speaker_lease (client : GuardClient) (sequence : Nat) (delivers : Bool) :
    Called :=
  if client.acquired = false then ⟨client, [], false⟩
  else client.advance JOOAN_AUDIO_GUARD_SPEAKER_LEASE sequence [] delivers

def jooan_audio_guard_release (client : GuardClient) (sequence : Nat) (delivers : Bool) : Called :=
  if client.acquired = false then ⟨client, [], true⟩
  else
    let sequence := if sequence = 0 then next_sequence client.last_sequence else sequence
    match jooan_audio_sequence_accept client.last_sequence sequence with
    | none => ⟨client, [], false⟩
    | some accepted =>
        let sent := send_guard client JOOAN_AUDIO_PTT_RELEASE sequence [] delivers
        -- the session is given up even where the guard is not told
        ⟨{ client with acquired := false, last_sequence := accepted }, sent.toList, sent.isSome⟩

def jooan_audio_guard_close (client : GuardClient) (delivers : Bool) : Called :=
  let sent :=
    if client.opened then (jooan_audio_guard_release client 0 delivers).sent else []
  ⟨closed, sent, true⟩

/-! ### Sessions of the talkback socket -/

/-- The datagrams as messages of sessions. -/
def talk : Sessions Nat GuardFrame where
  session := GuardFrame.session_id
  number := GuardFrame.sequence
  opens := fun frame => frame.type == JOOAN_AUDIO_PTT_ACQUIRE
  ends := fun frame => frame.type == JOOAN_AUDIO_PTT_RELEASE
  next := next_sequence

/-- The session a client holds. -/
def GuardClient.holding (client : GuardClient) : Option (Holding Nat) :=
  if client.acquired then some ⟨client.session_id, client.last_sequence⟩ else none

/-- The values of its C types, in a session. -/
structure GuardClient.Sane (client : GuardClient) : Prop where
  sequence : client.last_sequence < 2 ^ 32
  session_id : client.session_id < 2 ^ 64
  held : client.acquired = true → client.opened = true ∧ client.session_id ≠ 0

/-- The moves of a holder, which may open the session that was `drawn`, and lets go of one
without a word only where the guard is not `told`. -/
inductive Talks (drawn : Option Nat) (told : Bool) :
    Option (Holding Nat) → List GuardFrame → Option (Holding Nat) → Prop
  | stays (held) : Talks drawn told held [] held
  | drops (held) (silent : told = false) : Talks drawn told (some held) [] none
  | acquires (id : Nat) (fresh : drawn = some id) :
      Talks drawn told none [⟨JOOAN_AUDIO_PTT_ACQUIRE, id, 1, []⟩] (some ⟨id, 1⟩)
  | goesOn (held : Holding Nat) (type : Nat) (payload : Bytes)
      (inside : type ≠ JOOAN_AUDIO_PTT_ACQUIRE ∧ type ≠ JOOAN_AUDIO_PTT_RELEASE) :
      Talks drawn told (some held) [⟨type, held.id, next_sequence held.number, payload⟩]
        (some ⟨held.id, next_sequence held.number⟩)
  | ends (held : Holding Nat) :
      Talks drawn told (some held)
        [⟨JOOAN_AUDIO_PTT_RELEASE, held.id, next_sequence held.number, []⟩] none

/-- What is sent is the datagrams of these frames. -/
def Carries (sent : List Bytes) (frames : List GuardFrame) : Prop :=
  sent = frames.map GuardFrame.bytes ∧
    ∀ frame ∈ frames, jooan_audio_guard_datagram_parse frame.bytes = some frame ∧
      frame.bytes.length ≤ JOOAN_AUDIO_GUARD_HEADER_SIZE + JOOAN_AUDIO_SAMPLES_PER_PACKET

/-- A call leaves this client and has sent this, by one move of the holder. -/
structure Moves (drawn : Option Nat) (told : Bool) (before : GuardClient) (sent : List Bytes)
    (after : GuardClient) : Prop where
  sane : after.Sane
  talks : ∃ frames, Carries sent frames ∧ Talks drawn told before.holding frames after.holding

theorem Talks.mono {drawn more : Option Nat} {told less : Bool} {before after : Option (Holding Nat)}
    {frames : List GuardFrame} (talks : Talks drawn told before frames after)
    (ids : ∀ id, drawn = some id → more = some id) (silent : told = false → less = false) :
    Talks more less before frames after := by
  cases talks with
  | stays => exact .stays _
  | drops held untold => exact .drops held (silent untold)
  | acquires id fresh => exact .acquires id (ids id fresh)
  | goesOn held type payload inside => exact .goesOn held type payload inside
  | ends held => exact .ends held

theorem Talks.weaken {drawn : Option Nat} {told less : Bool} {before after : Option (Holding Nat)}
    {frames : List GuardFrame} (talks : Talks none told before frames after)
    (silent : told = false → less = false) : Talks drawn less before frames after :=
  talks.mono (fun _ none => absurd none (by simp)) silent

theorem Moves.weaken {drawn : Option Nat} {told less : Bool} {before after : GuardClient}
    {sent : List Bytes} (moves : Moves none told before sent after)
    (silent : told = false → less = false) : Moves drawn less before sent after := by
  obtain ⟨frames, carries, talks⟩ := moves.talks
  exact ⟨moves.sane, frames, carries, talks.weaken silent⟩

theorem next_sequence_lt {last : Nat} (small : last < 2 ^ 32) : next_sequence last < 2 ^ 32 := by
  unfold next_sequence
  split <;> omega

theorem next_sequence_pos (last : Nat) : next_sequence last ≠ 0 := by
  unfold next_sequence
  split <;> omega

theorem sequence_accept_next (last : Nat) :
    jooan_audio_sequence_accept last (next_sequence last) = some (next_sequence last) := by
  unfold jooan_audio_sequence_accept
  rw [if_neg (next_sequence_pos last)]
  exact if_neg (not_not_intro rfl)

theorem next_of_sequence_accept {last candidate accepted : Nat}
    (taken : jooan_audio_sequence_accept last candidate = some accepted) :
    candidate = next_sequence last ∧ accepted = next_sequence last := by
  unfold jooan_audio_sequence_accept at taken
  split at taken
  · contradiction
  · change (if candidate ≠ next_sequence last then none else some candidate) = some accepted at taken
    split at taken
    · contradiction
    · rename_i same
      have next : candidate = next_sequence last := not_not.mp same
      exact ⟨next, (Option.some.inj taken).symm.trans next⟩

theorem length_guard_bytes (frame : GuardFrame) :
    frame.bytes.length = JOOAN_AUDIO_GUARD_HEADER_SIZE + frame.payload.length := by
  simp only [GuardFrame.bytes, JAGD, write_be64, write_be32, write_be16, List.length_append,
    BigEndian.length_field, List.length_cons, List.length_nil, JOOAN_AUDIO_GUARD_HEADER_SIZE]
  omega

/-- A datagram that is sent carries its frame. -/
theorem carries_send_guard {client : GuardClient} (sane : client.Sane) {type sequence : Nat}
    (typed : type < 2 ^ 8) (small : sequence < 2 ^ 32) {payload : Bytes} {delivers : Bool}
    {datagram : Bytes} (sent : send_guard client type sequence payload delivers = some datagram) :
    Carries [datagram] [⟨type, client.session_id, sequence, payload⟩] := by
  unfold send_guard GuardClient.datagram at sent
  split at sent
  · split at sent
    · contradiction
    · have parsed := (guard_parse_iff datagram ⟨type, client.session_id, sequence, payload⟩).mpr
        ⟨⟨typed, sane.session_id, small⟩, _, sent⟩
      unfold jooan_audio_guard_datagram_build at sent
      split at sent
      · contradiction
      · rename_i accepted
        rw [← Option.some.inj sent] at parsed ⊢
        refine ⟨rfl, ?_⟩
        intro frame member
        rw [List.mem_singleton.mp member]
        simp only [not_or, Nat.not_lt] at accepted
        exact ⟨parsed, Nat.le_trans (Nat.le_of_eq (length_guard_bytes _)) accepted.2.2.1⟩
  · contradiction

theorem Moves.refl {drawn : Option Nat} {told : Bool} {client : GuardClient} (sane : client.Sane) :
    Moves drawn told client [] client :=
  ⟨sane, [], ⟨rfl, by simp⟩, .stays _⟩

/-- A call that goes on with the session, or changes nothing. -/
theorem moves_advance {client : GuardClient} (sane : client.Sane)
    (acquired : client.acquired = true) (drawn : Option Nat) (told : Bool) {type sequence : Nat}
    (typed : type < 2 ^ 8)
    (inside : type ≠ JOOAN_AUDIO_PTT_ACQUIRE ∧ type ≠ JOOAN_AUDIO_PTT_RELEASE) (payload : Bytes)
    (delivers : Bool) :
    Moves drawn told client (client.advance type sequence payload delivers).sent
        (client.advance type sequence payload delivers).client ∧
      (client.advance type sequence payload delivers).client.acquired = true := by
  unfold GuardClient.advance
  split
  · exact ⟨.refl sane, acquired⟩
  · rename_i accepted taken
    obtain ⟨rfl, rfl⟩ := next_of_sequence_accept taken
    split
    · exact ⟨.refl sane, acquired⟩
    · rename_i datagram sent
      have small := next_sequence_lt sane.sequence
      have carries := carries_send_guard sane typed small sent
      refine ⟨⟨⟨small, sane.session_id, sane.held⟩, _, carries, ?_⟩, acquired⟩
      have before : client.holding = some ⟨client.session_id, client.last_sequence⟩ :=
        if_pos acquired
      have after : GuardClient.holding
          { client with last_sequence := next_sequence client.last_sequence } =
            some ⟨client.session_id, next_sequence client.last_sequence⟩ := if_pos acquired
      rw [before, after]
      exact .goesOn ⟨client.session_id, client.last_sequence⟩ type payload inside

theorem moves_pcma {client : GuardClient} (sane : client.Sane) (drawn : Option Nat) (told : Bool)
    (sequence : Nat) (pcma : Bytes) (delivers : Bool) :
    Moves drawn told client (jooan_audio_guard_pcma client sequence pcma delivers).sent
      (jooan_audio_guard_pcma client sequence pcma delivers).client := by
  unfold jooan_audio_guard_pcma
  split
  · exact .refl sane
  · rename_i acquired
    split
    · exact .refl sane
    · exact (moves_advance sane (by simpa using acquired) drawn told (by decide) (by decide) pcma
        delivers).1

theorem moves_speaker_lease {client : GuardClient} (sane : client.Sane) (drawn : Option Nat) (told : Bool)
    (sequence : Nat) (delivers : Bool) :
    Moves drawn told client (jooan_audio_guard_speaker_lease client sequence delivers).sent
      (jooan_audio_guard_speaker_lease client sequence delivers).client := by
  unfold jooan_audio_guard_speaker_lease
  split
  · exact .refl sane
  · rename_i acquired
    exact (moves_advance sane (by simpa using acquired) drawn told (by decide) (by decide) []
      delivers).1

/-- A release lets go of the session, with a word to the guard where `sendto` takes it. -/
theorem moves_release {client : GuardClient} (sane : client.Sane)
    (drawn : Option Nat) (delivers : Bool) :
    Moves drawn delivers client (jooan_audio_guard_release client 0 delivers).sent
        (jooan_audio_guard_release client 0 delivers).client ∧
      (jooan_audio_guard_release client 0 delivers).client.acquired = false := by
  unfold jooan_audio_guard_release
  split
  · rename_i free
    exact ⟨.refl sane, free⟩
  · rename_i acquired
    have acquired : client.acquired = true := by simpa using acquired
    dsimp only
    rw [if_pos rfl, sequence_accept_next]
    dsimp only
    have small := next_sequence_lt sane.sequence
    have before : client.holding = some ⟨client.session_id, client.last_sequence⟩ :=
      if_pos acquired
    have after : GuardClient.holding
        { client with acquired := false, last_sequence := next_sequence client.last_sequence } =
          none := rfl
    refine ⟨⟨⟨small, sane.session_id, fun acquired => absurd acquired Bool.false_ne_true⟩, ?_⟩, rfl⟩
    rw [before, after]
    cases sent : send_guard client JOOAN_AUDIO_PTT_RELEASE (next_sequence client.last_sequence) []
        delivers with
    | some datagram =>
        exact ⟨_, carries_send_guard sane (by decide) small sent,
          .ends ⟨client.session_id, client.last_sequence⟩⟩
    | none =>
        refine ⟨[], ⟨rfl, by simp⟩, .drops _ ?_⟩
        -- with the socket open there is a datagram, so that `sendto` has not taken it
        by_contra delivered
        have delivered : delivers = true := by simpa using delivered
        obtain ⟨socket, id⟩ := sane.held acquired
        unfold send_guard GuardClient.datagram jooan_audio_guard_datagram_build at sent
        rw [if_pos delivered, if_neg (by simp [socket, next_sequence_pos]), if_neg] at sent
        · contradiction
        · simp only [not_or, Bool.not_eq_false]
          exact ⟨id, next_sequence_pos _, by decide, by decide⟩

theorem Sane.closed : GuardClient.Sane closed :=
  ⟨by decide, by decide, fun acquired => absurd acquired Bool.false_ne_true⟩

theorem sent_release_free {client : GuardClient} (free : client.acquired = false) (sequence : Nat)
    (delivers : Bool) : (jooan_audio_guard_release client sequence delivers).sent = [] := by
  rw [jooan_audio_guard_release, if_pos free]

theorem sent_close_free {client : GuardClient} (free : client.acquired = false)
    (delivers : Bool) : (jooan_audio_guard_close client delivers).sent = [] := by
  unfold jooan_audio_guard_close
  split
  · exact sent_release_free free 0 delivers
  · rfl

theorem moves_close {client : GuardClient} (sane : client.Sane) (drawn : Option Nat)
    (delivers : Bool) :
    Moves drawn delivers client (jooan_audio_guard_close client delivers).sent closed := by
  obtain ⟨moves, free⟩ := moves_release sane drawn delivers
  obtain ⟨frames, carries, talks⟩ := moves.talks
  rw [show (jooan_audio_guard_release client 0 delivers).client.holding = none from
    if_neg (by simp [free])] at talks
  cases opened : client.opened with
  | true =>
      refine ⟨Sane.closed, frames, ?_, talks⟩
      rw [show (jooan_audio_guard_close client delivers).sent =
        (jooan_audio_guard_release client 0 delivers).sent from if_pos opened]
      exact carries
  | false =>
      have free : client.acquired = false := by
        by_contra acquired
        exact absurd (opened.symm.trans (sane.held (by simpa using acquired)).1) (by simp)
      rw [sent_close_free free]
      refine ⟨Sane.closed, [], ⟨rfl, by simp⟩, ?_⟩
      rw [show client.holding = none from if_neg (by simp [free])]
      exact .stays none

/-- A new session is opened with number 1. -/
theorem moves_acquire {id : Nat} (id_ne_zero : id ≠ 0) (small : id < 2 ^ 64) (told delivers : Bool) :
    let called := jooan_audio_guard_acquire ⟨true, id, 0, false⟩ 1 delivers
    called.client.Sane ∧
      (called.succeeded = false → called.sent = [] ∧ called.client.acquired = false) ∧
      (called.succeeded = true → ∃ frames, Carries called.sent frames ∧
        Talks (some id) told none frames called.client.holding) := by
  have fresh : GuardClient.Sane ⟨true, id, 0, false⟩ :=
    ⟨Nat.two_pow_pos 32, small, fun acquired => absurd acquired Bool.false_ne_true⟩
  have accepted : jooan_audio_sequence_accept 0 1 = some 1 := by decide
  unfold jooan_audio_guard_acquire GuardClient.advance
  dsimp only
  rw [if_neg Bool.false_ne_true, accepted]
  cases sent : send_guard ⟨true, id, 0, false⟩ JOOAN_AUDIO_PTT_ACQUIRE 1 [] delivers with
  | none =>
      dsimp only
      rw [if_neg Bool.false_ne_true]
      exact ⟨fresh, fun _ => ⟨rfl, rfl⟩, fun succeeded => absurd succeeded Bool.false_ne_true⟩
  | some datagram =>
      dsimp only
      rw [if_pos rfl]
      refine ⟨⟨Nat.one_lt_two_pow (by decide), small, fun _ => ⟨rfl, id_ne_zero⟩⟩, ?_, ?_⟩
      · exact fun failed => absurd failed.symm Bool.false_ne_true
      · exact fun _ => ⟨_, carries_send_guard fresh (by decide) (by decide) sent, .acquires id rfl⟩

end JooanW3U.Audio.GuardClient
