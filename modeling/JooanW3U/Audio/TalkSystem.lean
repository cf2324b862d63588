import JooanW3U.Audio.Router
import JooanW3U.Guard.Talkback

/-!
Owns the talk of all clients of the router with the guard: the slots of the router, the
talkback socket between the two, and the guard's loop. Main results: where no session id is
drawn twice, the amplifier is on only within 500 ms of an accepted lease and never for longer
than 60 s, in every interleaving; a datagram of the session the guard follows is the next in
sequence; and with an empty socket the guard follows a session that a client still holds.

Does not own the sound, nor other senders on the socket.
-/

namespace JooanW3U.Audio.TalkSystem

open JooanW3U.Library
open JooanW3U.Audio.Wire
open JooanW3U.Audio.WebSocket
open JooanW3U.Audio.GuardClient
open JooanW3U.Audio.Router
open JooanW3U.Guard.Talkback

def MAX_CLIENTS : Nat := 16

/-- The session a slot holds. -/
def held (client : Option Client) : Option (Holding Nat) :=
  client.bind fun client => client.guard.holding

/-- Whether the frame asks for a session. -/
def acquires (message : Message) : Bool :=
  message.opcode == 0x2 &&
    (jooan_audio_wire_parse message.payload).any fun frame => frame.type == JOOAN_AUDIO_PTT_ACQUIRE

/-- The session id that an event draws. -/
def Event.drawn : Event → Option Nat
  | .frame message meets => if acquires message then some meets.session_id.toNat else none
  | _ => none

/-- Every word of the event to the guard is taken by `sendto`. -/
def Event.told (releases : Bool) : Event → Bool
  | .frame _ meets => meets.delivers && releases
  | _ => releases

/-! ### One event of a slot -/

theorem moves_close_only {guard : GuardClient} (sane : guard.Sane) (delivers : Bool) {told : Bool}
    (silent : delivers = false → told = false) :
    ∃ frames, Carries (jooan_audio_guard_close guard delivers).sent frames ∧
      Talks none told guard.holding frames none := by
  obtain ⟨frames, carries, talks⟩ := (moves_close sane none delivers).talks
  exact ⟨frames, carries, talks.weaken silent⟩

/-- Whatever the last call before a close has left. -/
theorem release_then_close {guard : GuardClient} (sane : guard.Sane) (delivers : Bool) :
    let released :=
      if guard.acquired then jooan_audio_guard_release guard 0 delivers else ⟨guard, [], true⟩
    Moves none delivers guard
        (released.sent ++ (jooan_audio_guard_close released.client delivers).sent) closed := by
  obtain ⟨moves, free⟩ := moves_release sane none delivers
  dsimp only
  split
  · obtain ⟨frames, carries, talks⟩ := moves.talks
    rw [show (jooan_audio_guard_release guard 0 delivers).client.holding = none from
      if_neg (by simp [free])] at talks
    rw [sent_close_free free, List.append_nil]
    exact ⟨Sane.closed, frames, carries, talks⟩
  · rename_i free
    rw [sent_close_free (by simpa using free)]
    refine ⟨Sane.closed, [], ⟨rfl, by simp⟩, ?_⟩
    rw [show guard.holding = none from if_neg free]
    exact .stays none

theorem moves_client_release_guard {client : Client} (sane : client.guard.Sane) (state : UInt8)
    (delivers logged : Bool) :
    Moves none delivers client.guard (client_release_guard client state delivers logged).sent
      (client_release_guard client state delivers logged).client.guard := by
  have moves := release_then_close sane delivers
  unfold client_release_guard
  dsimp only at moves ⊢
  generalize (if client.guard.acquired then jooan_audio_guard_release client.guard 0 delivers
    else ⟨client.guard, [], true⟩ : Called) = released at moves ⊢
  cases queued : queue_audio_state
    { client with
      guard := (jooan_audio_guard_close released.client delivers).client, talk_deadline := 0 } state with
  | none => exact moves
  | some later =>
      have guard : later.guard = closed := by
        unfold queue_audio_state at queued
        dsimp only at queued
        split at queued
        · contradiction
        · split at queued
          · contradiction
          · exact (congrArg Client.guard (Option.some.inj queued)).symm
      dsimp only
      rw [guard]
      exact moves

theorem queue_audio_state_guard {client later : Client} {state : UInt8}
    (queued : queue_audio_state client state = some later) : later.guard = client.guard := by
  unfold queue_audio_state at queued
  dsimp only at queued
  split at queued
  · contradiction
  · split at queued
    · contradiction
    · exact (congrArg Client.guard (Option.some.inj queued)).symm

theorem guard_open_cases {guard : GuardClient} {path_length session_id : Nat} {socket : Bool}
    {opened : GuardClient} (success : jooan_audio_guard_open guard path_length session_id socket =
      (opened, true)) : session_id ≠ 0 ∧ opened = ⟨true, session_id, 0, false⟩ := by
  unfold jooan_audio_guard_open at success
  split at success
  · exact absurd (congrArg Prod.snd success) Bool.false_ne_true
  · rename_i id
    split at success
    · exact absurd (congrArg Prod.snd success) Bool.false_ne_true
    · split at success
      · exact ⟨id, (congrArg Prod.fst success).symm⟩
      · exact absurd (congrArg Prod.snd success) Bool.false_ne_true

theorem guard_open_failed {guard : GuardClient} (sane : guard.Sane)
    (free : guard.acquired = false) (path_length session_id : Nat) (socket : Bool)
    (failed : (jooan_audio_guard_open guard path_length session_id socket).2 = false) :
    (jooan_audio_guard_open guard path_length session_id socket).1.Sane ∧
      (jooan_audio_guard_open guard path_length session_id socket).1.acquired = false := by
  unfold jooan_audio_guard_open at failed ⊢
  split
  · exact ⟨sane, free⟩
  · rename_i id
    rw [if_neg id] at failed
    split
    · exact ⟨sane, free⟩
    · rename_i path
      rw [if_neg path] at failed
      split
      · rename_i socketed
        rw [if_pos socketed] at failed
        contradiction
      · exact ⟨Sane.closed, rfl⟩

/-- Nothing is sent and no session held. -/
theorem moves_nothing {drawn : Option Nat} {told : Bool} {before after : GuardClient}
    (free : before.acquired = false) (sane : after.Sane) (free' : after.acquired = false) :
    Moves drawn told before [] after := by
  refine ⟨sane, [], ⟨rfl, by simp⟩, ?_⟩
  rw [show before.holding = none from if_neg (by simp [free]),
    show after.holding = none from if_neg (by simp [free'])]
  exact .stays none

/-- A client that holds no session is closed without a word. -/
theorem closed_before {guard : GuardClient} (sane : guard.Sane) (free : guard.acquired = false)
    (delivers : Bool) :
    let closing : Called :=
      if guard.opened then jooan_audio_guard_close guard delivers else ⟨guard, [], true⟩
    closing.sent = [] ∧ closing.client.Sane ∧ closing.client.acquired = false := by
  dsimp only
  split
  · exact ⟨sent_close_free free delivers, Sane.closed, rfl⟩
  · exact ⟨rfl, sane, free⟩

theorem moves_acquire_frame (setup : Setup) {client : Client} (sane : client.guard.Sane)
    (accepted : Nat) (meets : Meets) (logged : Bool) :
    Moves (some meets.session_id.toNat) meets.delivers client.guard
      (acquire_frame setup client accepted meets logged).sent
      (acquire_frame setup client accepted meets logged).client.guard := by
  unfold acquire_frame
  split
  · exact .refl sane
  · rename_i free
    have free : client.guard.acquired = false := by simpa using free
    obtain ⟨nothing, sane', free'⟩ := closed_before sane free meets.delivers
    dsimp only at nothing sane' free' ⊢
    generalize (if client.guard.opened then jooan_audio_guard_close client.guard meets.delivers
      else ⟨client.guard, [], true⟩ : Called) = closing at nothing sane' free' ⊢
    rw [nothing, List.nil_append]
    have shut := guard_open_failed sane' free' setup.path_length meets.session_id.toNat meets.socket
    have fresh := @guard_open_cases closing.client setup.path_length meets.session_id.toNat
      meets.socket
    generalize jooan_audio_guard_open closing.client setup.path_length meets.session_id.toNat
      meets.socket = opening at shut fresh ⊢
    obtain ⟨guard, opened⟩ := opening
    cases opened with
    | false =>
        obtain ⟨sane'', free''⟩ := shut rfl
        rw [if_pos rfl]
        exact moves_nothing free sane'' free''
    | true =>
        obtain ⟨id, rfl⟩ := fresh rfl
        obtain ⟨sane'', failed, succeeded⟩ :=
          moves_acquire id meets.session_id.toNat_lt meets.delivers meets.delivers
        dsimp only at sane'' failed succeeded ⊢
        rw [if_neg (by simp)]
        split
        · rename_i refused
          rw [(failed refused).1]
          exact moves_nothing free sane'' (failed refused).2
        · rename_i acquired
          obtain ⟨frames, carries, talks⟩ := succeeded (by simpa using acquired)
          have moves : Moves (some meets.session_id.toNat) meets.delivers client.guard
              (jooan_audio_guard_acquire ⟨true, meets.session_id.toNat, 0, false⟩ 1 meets.delivers).sent
              (jooan_audio_guard_acquire ⟨true, meets.session_id.toNat, 0, false⟩ 1
                meets.delivers).client := by
            refine ⟨sane'', frames, carries, ?_⟩
            rw [show client.guard.holding = none from if_neg (by simp [free])]
            exact talks
          split
          · exact moves
          · rename_i later queued
            dsimp only
            rw [queue_audio_state_guard queued]
            exact moves

theorem moves_pcma_frame (setup : Setup) {client : Client} (sane : client.guard.Sane)
    (payload : Bytes) (accepted : Nat) (meets : Meets) (logged : Bool) :
    Moves none meets.delivers client.guard
      (pcma_frame setup client payload accepted meets logged).sent
      (pcma_frame setup client payload accepted meets logged).client.guard := by
  unfold pcma_frame
  dsimp only
  split
  · exact .refl sane
  · split
    · split
      · exact .refl sane
      · have moves := moves_speaker_lease sane none meets.delivers
          (next_sequence client.guard.last_sequence) meets.delivers
        split
        · exact moves
        · split <;> exact moves
    · have moves := moves_pcma sane none meets.delivers
        (next_sequence client.guard.last_sequence) payload meets.delivers
      split <;> exact moves

theorem moves_websocket_frame (setup : Setup) {client : Client} (sane : client.guard.Sane)
    (message : Message) (meets : Meets) (logged : Bool) :
    Moves (Event.drawn (.frame message meets)) meets.delivers client.guard
      (websocket_frame setup client message meets logged).sent
      (websocket_frame setup client message meets logged).client.guard := by
  unfold websocket_frame
  dsimp only
  split
  · rename_i binary
    unfold client_audio_frame
    dsimp only
    split
    · exact .refl sane
    · split
      · exact .refl sane
      · rename_i frame parsed
        split
        · exact .refl sane
        · rename_i accepted _
          split
          · rename_i type
            have drawn : Event.drawn (.frame message meets) = some meets.session_id.toNat := by
              unfold Event.drawn acquires
              simp [binary, parsed, type]
            rw [drawn]
            exact moves_acquire_frame setup sane accepted meets logged
          · split
            · exact (moves_pcma_frame setup sane frame.payload accepted meets logged).weaken id
            · split
              · have moves := moves_client_release_guard sane JOOAN_AUDIO_STATE_RELEASED
                  meets.delivers logged
                split <;> exact moves.weaken id
              · exact .refl sane
  · split
    · exact .refl sane
    · split
      · split <;> exact .refl sane
      · split <;> exact .refl sane

/-- What an event sends, by one move of the holder and then letting go. -/
structure Speaks (drawn : Option Nat) (told : Bool) (before : Option (Holding Nat))
    (sent : List Bytes) (after : Option (Holding Nat)) : Prop where
  moves : ∃ frames more middle, Carries sent (frames ++ more) ∧
    Talks drawn told before frames middle ∧ Talks none told middle more after

/-- The client of a slot is sane. -/
def SaneSlot (client : Option Client) : Prop := ∀ found, client = some found → found.guard.Sane

theorem Speaks.quiet (drawn : Option Nat) (told : Bool) (held : Option (Holding Nat)) :
    Speaks drawn told held [] held :=
  ⟨[], [], held, ⟨rfl, by simp⟩, .stays _, .stays _⟩

theorem carries_append {sent more : List Bytes} {frames others : List GuardFrame}
    (first : Carries sent frames) (second : Carries more others) :
    Carries (sent ++ more) (frames ++ others) := by
  refine ⟨by rw [first.1, second.1, List.map_append], ?_⟩
  intro frame member
  rcases List.mem_append.mp member with left | right
  · exact first.2 frame left
  · exact second.2 frame right

theorem speaks_done {client : Client} {done : Done} {drawn : Option Nat} {told delivers releases : Bool}
    (moves : Moves drawn delivers client.guard done.sent done.client.guard)
    (first : delivers = false → told = false) (second : releases = false → told = false)
    (written : Bytes) :
    SaneSlot (done.slot written releases).client ∧
      Speaks drawn told (held (some client)) (done.slot written releases).sent
        (held (done.slot written releases).client) := by
  obtain ⟨frames, carries, talks⟩ := moves.talks
  have talks := talks.mono (fun _ same => same) first
  unfold Done.slot
  split
  · refine ⟨?_, frames, [], _, ?_, talks, .stays _⟩
    · rintro found ⟨⟩
      exact moves.sane
    · rw [List.append_nil]
      exact carries
  · obtain ⟨more, carries', talks'⟩ := moves_close_only moves.sane releases second
    refine ⟨fun found same => absurd same (by simp), frames, more, _, ?_, talks, talks'⟩
    exact carries_append carries carries'

theorem speaks_close {client : Client} (sane : client.guard.Sane) (drawn : Option Nat)
    (releases : Bool) :
    SaneSlot none ∧ Speaks drawn releases (held (some client)) (client_close client releases) none := by
  obtain ⟨frames, carries, talks⟩ := moves_close_only sane releases id
  exact ⟨fun found same => absurd same (by simp), [], frames, _, carries, .stays _, talks⟩

theorem broadcast_to_guard {client later : Client} {pcma : Bytes}
    (sends : broadcast_to client pcma = some later) : later.guard = client.guard := by
  unfold broadcast_to at sends
  dsimp only at sends
  split at sends
  · contradiction
  · split at sends
    · contradiction
    · exact (congrArg Client.guard (Option.some.inj sends)).symm

/-- An event of a slot is a move of what it holds. -/
theorem speaks_slot_step (setup : Setup) {client : Option Client} (sane : SaneSlot client)
    (written : Bytes) (event : Event) (releases logged : Bool) :
    SaneSlot (slot_step setup client written event releases logged).client ∧
      Speaks (Event.drawn event) (Event.told releases event) (held client)
        (slot_step setup client written event releases logged).sent
        (held (slot_step setup client written event releases logged).client) := by
  cases client with
  | none =>
      cases event with
      | accepts session_id =>
          refine ⟨?_, .quiet _ _ none⟩
          rintro found ⟨⟩
          exact Sane.closed
      | _ => exact ⟨sane, .quiet _ _ _⟩
  | some client =>
      have sane' := sane client rfl
      have unchanged : ∀ {later : Client}, later.guard = client.guard →
          Moves (Event.drawn event) releases client.guard [] later.guard := by
        intro later same
        rw [same]
        exact .refl sane'
      unfold slot_step
      dsimp only
      cases event with
      | accepts session_id => exact ⟨sane, .quiet _ _ _⟩
      | opens accept =>
          dsimp only
          split
          · exact ⟨sane, .quiet _ _ _⟩
          · refine speaks_done ?_ (@id (releases = false)) id written
            cases client_queue client.output (switching_protocols accept) with
            | none => exact unchanged rfl
            | some output => exact unchanged rfl
      | frame message meets =>
          dsimp only
          split
          · apply speaks_done (moves_websocket_frame setup sane' message meets logged)
            · intro refused
              exact (congrArg (· && releases) refused).trans (Bool.false_and _)
            · intro refused
              exact (congrArg (meets.delivers && ·) refused).trans (Bool.and_false _)
          · exact ⟨sane, .quiet _ _ _⟩
      | microphone pcma =>
          dsimp only
          split
          · exact ⟨sane, .quiet _ _ _⟩
          · refine speaks_done ?_ (@id (releases = false)) id written
            cases sends : broadcast_to client pcma with
            | none => exact unchanged rfl
            | some later => exact unchanged (broadcast_to_guard sends)
      | expires now =>
          dsimp only
          split
          · exact speaks_done (moves_client_release_guard sane' _ releases logged) id id written
          · exact ⟨sane, .quiet _ _ _⟩
      | flushes returned =>
          dsimp only
          split
          · refine ⟨?_, .quiet _ _ _⟩
            rintro found ⟨⟩
            exact sane'
          · exact speaks_close sane' _ releases
      | closes => exact speaks_close sane' _ releases

/-! ### One pass of the guard -/

/-- What the guard follows of the datagrams it has heard. -/
def Follows (heard : List GuardFrame) (guard : State) : Prop :=
  guard.active_session ≠ 0 → talk.Tracks heard ⟨guard.active_session, guard.last_sequence⟩

theorem follows_idle (heard : List GuardFrame) : Follows heard idle :=
  fun active => absurd rfl active

theorem follows_forget (heard : List GuardFrame) (s : State) (attempts : List Attempt) :
    Follows heard (s.forget attempts) := by
  rw [forget_eq]
  exact follows_idle heard

theorem follows_awake {heard : List GuardFrame} {s : State} (follows : Follows heard s)
    (pass : Pass) : Follows heard (s.awake pass) := by
  intro active
  have same := (awake_on active).1
  rw [same] at active ⊢
  exact follows active

theorem talk_ends {frame : GuardFrame} (goes : frame.type ≠ JOOAN_AUDIO_PTT_RELEASE) :
    talk.ends frame = false := by
  simpa [talk] using goes

theorem talk_opens {frame : GuardFrame} :
    talk.opens frame = true ↔ frame.type = JOOAN_AUDIO_PTT_ACQUIRE := by
  simp [talk]

/-- A frame of another session changes nothing about what the guard follows. -/
theorem follows_other {heard : List GuardFrame} {s : State} (follows : Follows heard s)
    {frame : GuardFrame} (other : frame.session_id ≠ s.active_session) :
    Follows (heard ++ [frame]) s :=
  fun active => (follows active).other other

theorem follows_acquire {heard : List GuardFrame} {s : State} (follows : Follows heard s)
    {frame : GuardFrame} (place : talk.InPlace heard frame)
    (type : frame.type = JOOAN_AUDIO_PTT_ACQUIRE) (pass : Pass) :
    Follows (heard ++ [frame]) (s.acquire frame pass) := by
  unfold State.acquire
  split
  · intro _
    apply place.tracks
    apply talk_ends
    rw [type]
    decide
  · by_cases active : s.active_session = 0
    · exact fun other => absurd active other
    · apply follows_other follows
      obtain ⟨opening, member, same⟩ := (follows active).opened
      intro equal
      exact place.opens (talk_opens.mpr type) opening member (same.trans equal.symm)

theorem follows_next {heard : List GuardFrame} {s : State} {frame : GuardFrame}
    (place : talk.InPlace heard frame) (same : frame.session_id = s.active_session) (pass : Pass) :
    Follows (heard ++ [frame]) ({ s with last_sequence := frame.sequence }.next frame pass) := by
  have goesOn : frame.type ≠ JOOAN_AUDIO_PTT_RELEASE →
      talk.Tracks (heard ++ [frame]) ⟨s.active_session, frame.sequence⟩ := by
    intro type
    rw [← same]
    exact place.tracks (talk_ends type)
  unfold State.next
  split
  · exact follows_forget _ _ _
  · rename_i type
    split
    · split
      · intro _
        rw [lease_session, lease_sequence]
        exact goesOn type
      · exact follows_forget _ _ _
    · split
      · exact fun _ => goesOn type
      · split
        · intro _
          rw [lease_session, lease_sequence]
          exact goesOn type
        · exact fun _ => goesOn type

/-- What a pass makes of the next frame of the channel. -/
theorem follows_iterate {heard : List GuardFrame} {s : State} (follows : Follows heard s)
    {frame : GuardFrame} (place : talk.InPlace heard frame) {pass : Pass}
    (filled : pass.received ≠ [])
    (parsed : jooan_audio_guard_datagram_parse pass.datagram = some frame) :
    Follows (heard ++ [frame]) (iterate s pass) := by
  have awake := follows_awake follows pass
  unfold iterate
  dsimp only
  rw [if_neg filled, parsed]
  dsimp only
  unfold State.accept
  split
  · rename_i type
    exact follows_acquire awake place type pass
  · split
    · rename_i next
      exact follows_next place next.2.1 pass
    · exact follows_forget _ _ _

theorem follows_nothing {heard : List GuardFrame} {s : State} (follows : Follows heard s)
    {pass : Pass} (empty : pass.received = []) : Follows heard (iterate s pass) := by
  unfold iterate
  dsimp only
  rw [if_pos empty]
  exact follows_awake follows pass

/-- What the guard receives is a datagram; one of the session it follows is not an `ACQUIRE`,
and is the next in sequence as far as there is one. -/
structure NextInSequence (before : List Pass) (pass : Pass) : Prop where
  whole : pass.received ≠ [] → ∃ frame, jooan_audio_guard_datagram_parse pass.datagram = some frame
  next : ∀ frame, jooan_audio_guard_datagram_parse pass.datagram = some frame →
    frame.session_id = ((run before).awake pass).active_session →
      frame.type ≠ JOOAN_AUDIO_PTT_ACQUIRE ∧
        (((run before).awake pass).last_sequence ≠ 2 ^ 32 - 1 →
          ((run before).awake pass).follows frame)

theorem nextInSequence_of_follows {heard : List GuardFrame} {before : List Pass}
    (follows : Follows heard (run before)) {frame : GuardFrame} (place : talk.InPlace heard frame)
    {pass : Pass} (parsed : jooan_audio_guard_datagram_parse pass.datagram = some frame) :
    NextInSequence before pass := by
  refine ⟨fun _ => ⟨frame, parsed⟩, ?_⟩
  intro found again same
  rw [parsed] at again
  obtain rfl := Option.some.inj again
  have fits := frame_of_guard_parse parsed
  have active : ((run before).awake pass).active_session ≠ 0 := same ▸ fits.2.2.1
  obtain ⟨next, shut⟩ := (follows_awake follows pass active).next place same
  refine ⟨fun type => absurd (shut.symm.trans (talk_opens.mpr type)) Bool.false_ne_true, ?_⟩
  intro below
  have next : frame.sequence = next_sequence ((run before).awake pass).last_sequence := next
  have small := fits.1.sequence
  refine ⟨active, same, below, ?_⟩
  rw [next_sequence, if_neg below] at next
  omega

/-- A frame that is next in sequence does not start the session again. -/
theorem reacquires_of_next {before : List Pass} {pass : Pass} (next : NextInSequence before pass) :
    reacquires (run before) pass = false := by
  unfold reacquires
  split
  · rfl
  · rename_i frame parsed
    by_contra again
    simp only [Bool.not_eq_false, Bool.and_eq_true, beq_iff_eq] at again
    obtain ⟨⟨⟨type, -⟩, -⟩, same⟩ := again
    exact (next.next frame parsed same).1 type

/-! ### The system -/

/-- The slots of the router, the datagrams on the talkback socket, and the passes of the
guard's loop so far. -/
structure System where
  clients : Fin MAX_CLIENTS → Option Client
  written : Fin MAX_CLIENTS → Bytes
  speaker_talk_logged : Bool
  channel : List Bytes
  passes : List Pass

/-- No clients, and a guard that starts. -/
def System.start : System := ⟨fun _ => none, fun _ => [], false, [], []⟩

/-- Something happens to a slot, or the guard's loop makes a pass, in which it may take what
is first on the socket. -/
inductive Action
  | slot (slot : Fin MAX_CLIENTS) (event : Event) (releases : Bool)
  | guard (takes : Bool) (pass : Pass)

/-- The pass with what `recv` gives it. -/
def System.heard (s : System) (takes : Bool) (pass : Pass) : Pass :=
  { pass with received := if takes then s.channel.headD [] else [] }

def System.step (setup : Setup) (s : System) : Action → System
  | .slot slot event releases =>
      let after :=
        slot_step setup (s.clients slot) (s.written slot) event releases s.speaker_talk_logged
      { s with
        clients := Function.update s.clients slot after.client
        written := Function.update s.written slot after.written
        speaker_talk_logged := after.speaker_talk_logged
        channel := s.channel ++ after.sent }
  | .guard takes pass =>
      { s with
        channel := if takes then s.channel.tail else s.channel
        passes := s.passes ++ [s.heard takes pass] }

/-- The system after these actions. -/
def System.after (setup : Setup) (actions : List Action) : System :=
  actions.foldl (System.step setup) .start

/-- The session ids drawn for an `ACQUIRE`. -/
def drawn (actions : List Action) : List Nat :=
  actions.filterMap fun action =>
    match action with
    | .slot _ event _ => Event.drawn event
    | .guard _ _ => none

/-- What the slots hold. -/
def System.holders (s : System) (slot : Fin MAX_CLIENTS) : Option (Holding Nat) :=
  held (s.clients slot)

/-- What holds of the system when these ids have been drawn; `told` says that `sendto` has
taken every `RELEASE`. -/
structure Ordered (told : Bool) (ids : List Nat) (s : System) (heard pending : List GuardFrame) :
    Prop where
  sane : ∀ slot, SaneSlot (s.clients slot)
  carries : Carries s.channel pending
  orderly : talk.Orderly s.holders (heard ++ pending)
  fresh : ∀ frame ∈ heard ++ pending, frame.session_id ∈ ids
  follows : Follows heard (run s.passes)
  next : Placed NextInSequence s.passes
  accounted : talk.Accounted s.holders (heard ++ pending) fun _ => told = false

/-- A move of the holder of a slot keeps the log orderly and accounted for. -/
theorem orderly_talks {holders : Fin MAX_CLIENTS → Option (Holding Nat)} {log : List GuardFrame}
    {told : Bool} (orderly : talk.Orderly holders log)
    (accounted : talk.Accounted holders log fun _ => told = false) {slot : Fin MAX_CLIENTS}
    {drawn : Option Nat} {frames : List GuardFrame} {after : Option (Holding Nat)}
    (talks : Talks drawn told (holders slot) frames after)
    (fresh : ∀ id, drawn = some id → ∀ frame ∈ log, frame.session_id ≠ id) :
    talk.Orderly (Function.update holders slot after) (log ++ frames) ∧
      talk.Accounted (Function.update holders slot after) (log ++ frames) (fun _ => told = false) ∧
      ∀ frame ∈ frames, drawn = some frame.session_id ∨
        ∃ held, holders slot = some held ∧ held.id = frame.session_id := by
  generalize before_eq : holders slot = before at talks
  cases talks with
  | stays =>
      rw [← before_eq, Function.update_eq_self, List.append_nil]
      exact ⟨orderly, accounted, by simp⟩
  | drops held silent =>
      refine ⟨?_, ?_, by simp⟩
      · rw [List.append_nil]
        exact orderly.drops slot
      · apply accounted.changes
        · exact fun _ _ => .inr (.inr silent)
        · simp
  | acquires id drawn_eq =>
      refine ⟨?_, ?_, ?_⟩
      · have opens : talk.opens ⟨JOOAN_AUDIO_PTT_ACQUIRE, id, 1, []⟩ = true := rfl
        exact orderly.acquires slot opens rfl rfl (fresh id drawn_eq)
      · apply accounted.changes
        · exact fun held same => absurd (before_eq.symm.trans same) (by simp)
        · intro frame member
          rw [List.mem_singleton.mp member]
          exact .inl ⟨_, rfl, rfl⟩
      · intro frame member
        rw [List.mem_singleton.mp member]
        exact .inl drawn_eq
  | goesOn held type payload inside =>
      have shut : talk.opens ⟨type, held.id, next_sequence held.number, payload⟩ = false := by
        simpa [talk] using inside.1
      refine ⟨?_, ?_, ?_⟩
      · exact orderly.goesOn before_eq rfl rfl shut (talk_ends inside.2)
      · apply accounted.changes
        · intro found same
          obtain rfl := Option.some.inj (before_eq.symm.trans same)
          exact .inl ⟨_, rfl, rfl⟩
        · intro frame member
          rw [List.mem_singleton.mp member]
          exact .inl ⟨_, rfl, rfl⟩
      · intro frame member
        rw [List.mem_singleton.mp member]
        exact .inr ⟨held, rfl, rfl⟩
  | ends held =>
      refine ⟨?_, ?_, ?_⟩
      · exact orderly.ends before_eq rfl rfl rfl
      · apply accounted.changes
        · intro found same
          obtain rfl := Option.some.inj (before_eq.symm.trans same)
          exact .inr (.inl ⟨_, List.mem_cons_self, rfl, rfl⟩)
        · intro frame member
          rw [List.mem_singleton.mp member]
          exact .inr rfl
      · intro frame member
        rw [List.mem_singleton.mp member]
        exact .inr ⟨held, rfl, rfl⟩

/-- Who holds a session has sent a frame of it. -/
theorem held_id_mem {told : Bool} {ids : List Nat} {s : System} {heard pending : List GuardFrame}
    (ordered : Ordered told ids s heard pending) {slot : Fin MAX_CLIENTS} {held : Holding Nat}
    (holds : s.holders slot = some held) : held.id ∈ ids := by
  obtain ⟨opening, member, same⟩ := (ordered.orderly.held slot held holds).opened
  have known := ordered.fresh opening member
  rwa [show opening.session_id = held.id from same] at known

theorem holders_slot (setup : Setup) (s : System) (slot : Fin MAX_CLIENTS) (event : Event)
    (releases : Bool) :
    (s.step setup (.slot slot event releases)).holders =
      Function.update s.holders slot
        (held (slot_step setup (s.clients slot) (s.written slot) event releases
          s.speaker_talk_logged).client) := by
  funext other
  by_cases here : other = slot
  · rw [here, Function.update_self, System.holders, System.step]
    dsimp only
    rw [Function.update_self]
  · rw [Function.update_of_ne here, System.holders, System.step]
    dsimp only
    rw [Function.update_of_ne here, System.holders]

theorem ordered_slot (setup : Setup) {told : Bool} {ids : List Nat} {s : System}
    {heard pending : List GuardFrame} (ordered : Ordered told ids s heard pending)
    (slot : Fin MAX_CLIENTS) (event : Event) (releases : Bool)
    (fresh : ∀ id, Event.drawn event = some id → id ∉ ids)
    (silent : Event.told releases event = false → told = false) :
    ∃ more, Ordered told (ids ++ (Event.drawn event).toList)
      (s.step setup (.slot slot event releases)) heard (pending ++ more) := by
  obtain ⟨sane, speaks⟩ := speaks_slot_step setup (ordered.sane slot) (s.written slot) event
    releases s.speaker_talk_logged
  obtain ⟨frames, more, middle, carries, talks, quits⟩ := speaks.moves
  have known : ∀ id, Event.drawn event = some id → ∀ frame ∈ heard ++ pending,
      frame.session_id ≠ id := by
    intro id drawn frame member same
    exact fresh id drawn (same ▸ ordered.fresh frame member)
  obtain ⟨orderly, accounted, first⟩ :=
    orderly_talks ordered.orderly ordered.accounted (talks.mono (fun _ same => same) silent) known
  have quits : Talks none told (Function.update s.holders slot middle slot) more
      (held (slot_step setup (s.clients slot) (s.written slot) event releases
        s.speaker_talk_logged).client) := by
    rw [Function.update_self]
    exact quits.mono (fun _ same => same) silent
  obtain ⟨orderly', accounted', second⟩ :=
    orderly_talks orderly accounted quits (fun _ none => absurd none (by simp))
  have between := orderly.held
  rw [Function.update_idem, ← holders_slot, List.append_assoc, List.append_assoc] at orderly' accounted'
  have sent_known : ∀ frame ∈ frames, frame.session_id ∈ ids ++ (Event.drawn event).toList := by
    intro frame member
    rcases first frame member with drawn | ⟨kept, holds, same⟩
    · rw [drawn]
      exact List.mem_append_right _ List.mem_cons_self
    · exact same ▸ List.mem_append_left _ (held_id_mem ordered holds)
  refine ⟨frames ++ more, ?_, carries_append ordered.carries carries, orderly', ?_, ?_, ?_, ?_⟩
  · intro other
    by_cases here : other = slot
    · rw [here, System.step]
      dsimp only
      rw [Function.update_self]
      exact sane
    · rw [System.step]
      dsimp only
      rw [Function.update_of_ne here]
      exact ordered.sane other
  · intro frame member
    rw [← List.append_assoc, ← List.append_assoc, List.mem_append, List.mem_append] at member
    rcases member with (earlier | moved) | quit
    · exact List.mem_append_left _ (ordered.fresh frame earlier)
    · exact sent_known frame moved
    · rcases second frame quit with none | ⟨kept, holds, same⟩
      · exact absurd none (by simp)
      · obtain ⟨opening, sent, opened⟩ := (between slot kept holds).opened
        have ids_eq : opening.session_id = frame.session_id := opened.trans same
        rw [← ids_eq]
        rcases List.mem_append.mp sent with earlier | moved
        · exact List.mem_append_left _ (ordered.fresh opening earlier)
        · exact sent_known opening moved
  · exact ordered.follows
  · exact ordered.next
  · exact accounted'

theorem run_snoc_pass (passes : List Pass) (pass : Pass) :
    run (passes ++ [pass]) = iterate (run passes) pass :=
  run_snoc passes pass

/-- What is first on the socket, as the guard receives it. -/
theorem datagram_of_carries {s : System} {frame : GuardFrame} {pending : List GuardFrame}
    (carries : Carries s.channel (frame :: pending)) (pass : Pass) :
    (s.heard true pass).received ≠ [] ∧
      jooan_audio_guard_datagram_parse (s.heard true pass).datagram = some frame ∧
      Carries s.channel.tail pending := by
  obtain ⟨same, parsed⟩ := carries
  obtain ⟨whole, short⟩ := parsed frame List.mem_cons_self
  have received : (s.heard true pass).received = frame.bytes := by
    rw [System.heard, same]
    rfl
  have fits : frame.bytes.length ≤ TALKBACK_PACKET_MAX := Nat.le_trans short (by decide)
  refine ⟨?_, ?_, ?_, ?_⟩
  · rw [received, ← List.length_pos_iff, length_guard_bytes]
    exact Nat.lt_of_lt_of_le (by decide) (Nat.le_add_right JOOAN_AUDIO_GUARD_HEADER_SIZE _)
  · rw [Pass.datagram, received, List.take_of_length_le fits]
    exact whole
  · rw [same]
    rfl
  · exact fun other member => parsed other (List.mem_cons_of_mem _ member)

theorem nothing_parsed {pass : Pass} (empty : pass.received = []) :
    jooan_audio_guard_datagram_parse pass.datagram = none := by
  rw [Pass.datagram, empty]
  rfl

theorem ordered_guard (setup : Setup) {told : Bool} {ids : List Nat} {s : System}
    {heard pending : List GuardFrame} (ordered : Ordered told ids s heard pending) (takes : Bool)
    (pass : Pass) :
    ∃ heard pending, Ordered told ids (s.step setup (.guard takes pass)) heard pending := by
  -- without a datagram the guard hears nothing new
  have silent : (s.heard takes pass).received = [] →
      Follows heard (run (s.passes ++ [s.heard takes pass])) ∧
        Placed NextInSequence (s.passes ++ [s.heard takes pass]) := by
    intro empty
    refine ⟨?_, ordered.next.snoc ?_⟩
    · rw [run_snoc_pass]
      exact follows_nothing ordered.follows empty
    · refine ⟨fun filled => absurd empty filled, ?_⟩
      intro frame parsed
      rw [nothing_parsed empty] at parsed
      contradiction
  cases takes with
  | false =>
      obtain ⟨follows, next⟩ := silent rfl
      exact ⟨heard, pending, ordered.sane, ordered.carries, ordered.orderly, ordered.fresh, follows,
        next, ordered.accounted⟩
  | true =>
      cases pending with
      | nil =>
          have empty : s.channel = [] := ordered.carries.1
          have received : (s.heard true pass).received = [] := by
            rw [System.heard, empty]
            rfl
          obtain ⟨follows, next⟩ := silent received
          have carries : Carries s.channel.tail [] := by
            rw [empty]
            exact ⟨rfl, by simp⟩
          exact ⟨heard, [], ordered.sane, carries, ordered.orderly, ordered.fresh, follows, next,
            ordered.accounted⟩
      | cons frame pending =>
          obtain ⟨filled, parsed, carries⟩ := datagram_of_carries ordered.carries pass
          have place : talk.InPlace heard frame :=
            ordered.orderly.placed heard frame pending rfl
          have shape : heard ++ frame :: pending = (heard ++ [frame]) ++ pending := by simp
          refine ⟨heard ++ [frame], pending, ordered.sane, carries, ?_, ?_, ?_, ?_, ?_⟩
          · rw [← shape]
            exact ordered.orderly
          · rw [← shape]
            exact ordered.fresh
          · change Follows _ (run (s.passes ++ [s.heard true pass]))
            rw [run_snoc_pass]
            exact follows_iterate ordered.follows place filled parsed
          · exact ordered.next.snoc (nextInSequence_of_follows ordered.follows place parsed)
          · rw [← shape]
            exact ordered.accounted

/-- `sendto` takes every `RELEASE` of these actions. -/
def Told (actions : List Action) : Prop :=
  ∀ action ∈ actions,
    match action with
    | .slot _ event releases => Event.told releases event = true
    | .guard _ _ => True

theorem ordered_start (told : Bool) : Ordered told [] .start [] [] where
  sane := fun slot found same => absurd same (by simp [System.start])
  carries := ⟨rfl, by simp⟩
  orderly := .start _ fun slot => rfl
  fresh := by simp
  follows := follows_idle []
  next := placed_nil _
  accounted := fun frame member => absurd member (by simp)

theorem drawn_append (first second : List Action) :
    drawn (first ++ second) = drawn first ++ drawn second :=
  List.filterMap_append

/-- The system after every run in which no session id is drawn twice. -/
theorem ordered_after (setup : Setup) (told : Bool) {actions : List Action}
    (distinct : (drawn actions).Nodup) (silent : told = true → Told actions) :
    ∃ heard pending, Ordered told (drawn actions) (.after setup actions) heard pending := by
  induction actions using List.reverseRecOn with
  | nil => exact ⟨[], [], ordered_start told⟩
  | append_singleton earlier action inductionHypothesis =>
      rw [drawn_append, List.nodup_append] at distinct
      obtain ⟨heard, pending, ordered⟩ := inductionHypothesis distinct.1
        fun untold found member => silent untold found (List.mem_append_left _ member)
      rw [System.after, List.foldl_append, drawn_append]
      cases action with
      | slot slot event releases =>
          have ids : drawn [Action.slot slot event releases] = (Event.drawn event).toList := by
            unfold drawn
            cases event_drawn : Event.drawn event <;> simp [event_drawn]
          rw [ids] at distinct ⊢
          obtain ⟨more, ordered'⟩ := ordered_slot setup ordered slot event releases
            (fun id drawn_eq member =>
              distinct.2.2 id member id (by rw [drawn_eq]; exact List.mem_cons_self) rfl)
            (by
              intro untold
              by_contra all
              have heeded := silent (by simpa using all) (.slot slot event releases) (by simp)
              exact absurd (untold.symm.trans heeded) (by simp))
          exact ⟨heard, pending ++ more, ordered'⟩
      | guard takes pass =>
          obtain ⟨heard', pending', ordered'⟩ := ordered_guard setup ordered takes pass
          refine ⟨heard', pending', ?_⟩
          rw [show drawn [Action.guard takes pass] = [] from rfl, List.append_nil]
          exact ordered'

/-- In every interleaving of what happens to the clients and of the guard's passes, where no
session id is drawn twice and the guard's clock does not go back: the amplifier is on only
within 500 ms of a lease or sound of the session that the guard accepted, and for no session
longer than 60 s. -/
theorem talk_deadman (setup : Setup) {actions : List Action} (distinct : (drawn actions).Nodup)
    (clock : (readings (System.after setup actions).passes).Pairwise (· ≤ ·)) :
    Placed
      (fun earlier last =>
        (run (earlier ++ [last])).speaker_enabled = true → Deadman earlier last)
      (System.after setup actions).passes := by
  obtain ⟨heard, pending, ordered⟩ := ordered_after setup false distinct (by simp)
  apply talkback_deadman clock
  intro before pass after split
  exact reacquires_of_next (ordered.next before pass after split)

/-- In every interleaving where no session id is drawn twice: the guard receives only whole
datagrams, and every one of the session it follows is the next in sequence, so that it never
gives up a session for a number, except behind the last one there is. -/
theorem talk_in_sequence (setup : Setup) {actions : List Action}
    (distinct : (drawn actions).Nodup) :
    Placed NextInSequence (System.after setup actions).passes := by
  obtain ⟨heard, pending, ordered⟩ := ordered_after setup false distinct (by simp)
  exact ordered.next

/-- In every interleaving where no session id is drawn twice and `sendto` takes every
`RELEASE`: with nothing on the socket, the session the guard follows is held by one client,
which is at the same number. -/
theorem talk_agrees (setup : Setup) {actions : List Action} (distinct : (drawn actions).Nodup)
    (told : Told actions) (drained : (System.after setup actions).channel = [])
    (active : (run (System.after setup actions).passes).active_session ≠ 0) :
    let guard := run (System.after setup actions).passes
    ∃ slot client, (System.after setup actions).clients slot = some client ∧
      client.guard.acquired = true ∧ client.guard.session_id = guard.active_session ∧
      client.guard.last_sequence = guard.last_sequence ∧
      ∀ other client', (System.after setup actions).clients other = some client' →
        client'.guard.acquired = true → client'.guard.session_id = guard.active_session →
          other = slot := by
  intro guard
  obtain ⟨heard, pending, ordered⟩ := ordered_after setup true distinct fun _ => told
  have empty : pending = [] := by
    have carried := ordered.carries.1
    rw [drained] at carried
    exact List.map_eq_nil_iff.mp carried.symm
  have orderly := ordered.orderly
  have accounted := ordered.accounted
  rw [empty, List.append_nil] at orderly accounted
  have holds_of : ∀ {slot client}, (System.after setup actions).clients slot = some client →
      client.guard.acquired = true → (System.after setup actions).holders slot =
        some ⟨client.guard.session_id, client.guard.last_sequence⟩ := by
    intro slot client taken acquired
    rw [System.holders, taken]
    exact if_pos acquired
  rcases orderly.agrees accounted (ordered.follows active) with ⟨slot, holds⟩ | lost
  · have taken := holds
    rw [System.holders] at taken
    cases found : (System.after setup actions).clients slot with
    | none =>
        rw [found] at taken
        contradiction
    | some client =>
        rw [found] at taken
        change client.guard.holding = _ at taken
        rw [GuardClient.holding] at taken
        split at taken
        · rename_i acquired
          injection taken with same
          injection same with ids numbers
          refine ⟨slot, client, found, acquired, ids, numbers, ?_⟩
          intro other client' taken' acquired' ids'
          exact orderly.apart other slot _ _ (holds_of taken' acquired') holds ids'
        · contradiction
  · exact absurd lost (by simp)

def fourth : Fin MAX_CLIENTS := ⟨3, by decide⟩

/-- A client presses, and sends one packet; the guard takes both. -/
def pressed : List Action :=
  [.slot fourth (.accepts 7) true, .slot fourth (.opens []) true,
    .slot fourth (.frame ⟨0x2, Frame.bytes ⟨JOOAN_AUDIO_PTT_ACQUIRE, 0, 1, []⟩⟩
      ⟨11, true, true, 0, true, true⟩) true,
    .guard true ⟨0, 0, [], true, [], []⟩,
    .slot fourth (.frame ⟨0x2, Frame.bytes ⟨JOOAN_AUDIO_PTT_PCMA, 0, 2, List.replicate 320 0xd5⟩⟩
      ⟨12, true, true, 0, true, true⟩) true,
    .guard true ⟨10, 10, [], true, attempted, []⟩]

def started : Setup := ⟨32, 60000, true⟩

theorem talk_deadman_pressed :
    (run (System.after started pressed).passes).speaker_enabled = true ∧
      Placed
        (fun earlier last =>
          (run (earlier ++ [last])).speaker_enabled = true → Deadman earlier last)
        (System.after started pressed).passes :=
  ⟨by decide +kernel, talk_deadman started (by decide +kernel) (by decide +kernel)⟩

theorem talk_in_sequence_pressed :
    Placed NextInSequence (System.after started pressed).passes :=
  talk_in_sequence started (by decide +kernel)

theorem talk_agrees_pressed :
    let guard := run (System.after started pressed).passes
    ∃ slot client, (System.after started pressed).clients slot = some client ∧
      client.guard.acquired = true ∧ client.guard.session_id = guard.active_session ∧
      client.guard.last_sequence = guard.last_sequence ∧
      ∀ other client', (System.after started pressed).clients other = some client' →
        client'.guard.acquired = true → client'.guard.session_id = guard.active_session →
          other = slot := by
  apply talk_agrees started (by decide +kernel)
  · intro action member
    simp only [pressed, List.mem_cons, List.not_mem_nil, or_false] at member
    rcases member with rfl | rfl | rfl | rfl | rfl | rfl <;> first | rfl | trivial
  · decide +kernel
  · decide +kernel

end JooanW3U.Audio.TalkSystem
