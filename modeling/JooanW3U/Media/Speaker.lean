import JooanW3U.Library.RingQueue
import JooanW3U.Library.Runs
import JooanW3U.Media.Stream

/-!
Owns the speaker service of `speaker.c`: `speaker_main` cut where it releases its mutex,
the calls of talkers, of the siren and of the volume between its steps, and the sink with
everything it may answer.

Does not own what a siren sounds like, the status text, or the driver behind the sink.
-/

namespace JooanW3U.Media.SpeakerService

open JooanW3U.Library

@[irreducible] def QUEUE_BYTES : Nat := 16000
def TRIM_ABOVE : Nat := 4800
@[irreducible] def TRIM_TO : Nat := 2400
def RELEASE_TAIL : Nat := 1600
def DEADMAN_US : Nat := 500000
def MUTE_ATTEMPTS : Nat := 100
def SPEAKER_FRAME : Nat := 320
def SIREN_SOUNDS : Nat := 4
def SIREN_MAX_SECONDS : Nat := 300
def speakerIdleCloseUs : Nat := 10000000
def speakerRetryUnitUs : Nat := 1000000

structure Talker where
  owner : UInt64
  ssrc : UInt32
deriving Repr, DecidableEq

/-- `speaker_state`, what its mutex guards. -/
structure Speaker where
  quit : Bool
  queue : RingQueue QUEUE_BYTES UInt8
  leased : Bool
  session : Bool
  released : Bool
  talker : Talker
  lastSubmitUs : Nat
  sessionEndUs : Nat
  opened : Bool
  volume : Int
  faulted : Bool
  mutePending : Bool
  muteAttempts : Nat
  writeErrors : Nat
  backoffS : Nat
  retryUs : Nat
  sessions : Nat
  playedFrames : Nat
  droppedBytes : Nat
  refused : Nat
  faults : Nat
  sirenOn : Bool
  sirenVolume : Int
  sirenVolumeApplied : Int
  volumeRestore : Bool
  sirenUntil : Nat
  error : String

/-- What the thread hands to the sink. A talker's bytes are filled up with silence to the
length of a frame. -/
inductive Source
  | siren
  | silence
  | talker (bytes : Bytes)
deriving Repr, DecidableEq

/-- Where the thread stands: at the head of its loop, before an operation it makes with
its mutex released, or back from one and about to take the mutex again. -/
inductive Stage
  | head
  | retrying (now : Nat)
  | retried (now : Nat) (muted : Bool)
  | idleClosing
  | opening (volume : Int)
  | switching
  | started (opened : Bool) (failure : Option String)
  | settling
  | underrun
  | leveling (gain : Int)
  | leveled
  | writing (source : Source)
  | wrote (accepted : Bool)
  | quieting (more : Bool)
  | muting (closing : Bool)
  | closing (muted : Bool)
  | stopped (muted : Bool)
  | restoring (volume : Int)
  | leaving (mute close : Bool)
  | done
deriving Repr, DecidableEq

/-! ### The thread with its mutex held -/

/-- `drop_oldest`. -/
def Speaker.dropOldest (s : Speaker) (bytes : Nat) : Speaker :=
  { s with
    queue := s.queue.drop bytes
    droppedBytes := s.droppedBytes + min bytes s.queue.count }

/-- `end_session` up to the first operation of `stop_output`. -/
def Speaker.endSession (s : Speaker) (closeOutput : Bool) (now : Nat) : Speaker × Stage :=
  let wasOpen := s.opened
  ({ s with
      session := false
      leased := false
      released := false
      queue := s.queue.clear
      sirenOn := false
      sessionEndUs := now
      opened := if closeOutput then false else wasOpen },
    if wasOpen && !closeOutput then .quieting true else .muting (closeOutput && wasOpen))

theorem endSession_stage (s : Speaker) (closeOutput : Bool) (now : Nat) :
    (s.endSession closeOutput now).2 = .quieting true ∨
      (s.endSession closeOutput now).2 = .muting (closeOutput && s.opened) := by
  by_cases silence : (s.opened && !closeOutput) = true
  · exact .inl (if_pos silence)
  · exact .inr (if_neg silence)

/-- The end of `stop_output`: a mute that failed is to be tried again. -/
def Speaker.noteMute (s : Speaker) (muted : Bool) : Speaker :=
  if muted then s else { s with mutePending := true, muteAttempts := 0 }

/-- The rest of `end_session`. -/
def Speaker.restoreVolume (s : Speaker) : Speaker × Stage :=
  ({ s with volumeRestore := false },
    if s.volumeRestore && s.opened then .restoring s.volume else .head)

/-- Back from the operations of `stop_output`. -/
def Speaker.afterStop (s : Speaker) (muted : Bool) : Speaker × Stage :=
  (s.noteMute muted).restoreVolume

/-- `siren_gain`. -/
def sirenGain (percent : Int) : Int := 60 * percent / 100

/-- `fault`, up to `end_session`. -/
def Speaker.noteFault (s : Speaker) (message : String) (now : Nat) : Speaker :=
  let backoffS := if s.backoffS ≠ 0 then (if s.backoffS ≥ 30 then 60 else s.backoffS * 2) else 5
  { s with
    faulted := true
    faults := s.faults + 1
    backoffS := backoffS
    retryUs := now + backoffS * speakerRetryUnitUs
    writeErrors := 0
    error := message }

/-- `fault`, up to the first operation of `end_session`. -/
def Speaker.fault (s : Speaker) (message : String) (now : Nat) : Speaker × Stage :=
  (s.noteFault message now).endSession true now

/-- A talker's first audio, or the siren: the start of a session. -/
def Speaker.start (s : Speaker) : Speaker × Stage :=
  ({ s with
      session := true
      sessions := s.sessions + 1
      sirenVolumeApplied :=
        if s.sirenOn && !s.opened then s.sirenVolume else s.sirenVolumeApplied },
    if s.opened then .switching
    else .opening (if s.sirenOn then sirenGain s.sirenVolume else s.volume))

theorem start_stage (s : Speaker) :
    (s.opened = true ∧ s.start.2 = .switching) ∨
      (s.opened = false ∧
        s.start.2 = .opening (if s.sirenOn then sirenGain s.sirenVolume else s.volume)) := by
  cases opened : s.opened with
  | true => exact .inl ⟨rfl, if_pos opened⟩
  | false => exact .inr ⟨rfl, if_neg (by rw [opened]; decide)⟩

/-- A fault is over once its time has passed. -/
def Speaker.recover (s : Speaker) (now : Nat) : Speaker :=
  if s.faulted && now ≥ s.retryUs then { s with faulted := false } else s

/-- What waits is thrown out while the speaker is faulted or the gate closed. -/
def Speaker.dropTalk (s : Speaker) (gate : Bool) : Speaker :=
  if s.queue.count ≠ 0 && (s.faulted || !gate) then
    { s with queue := s.queue.clear, leased := false, released := false }
  else s

def Speaker.dropSiren (s : Speaker) (gate : Bool) : Speaker :=
  if s.sirenOn && (s.faulted || !gate) then { s with sirenOn := false } else s

/-- The end of the loop without a session. -/
def Speaker.begin (s : Speaker) : Speaker × Stage :=
  if s.queue.count = 0 && !s.sirenOn then (s, .head) else s.start

/-- The loop without a session, after the retried mute. -/
def Speaker.idle (s : Speaker) (gate : Bool) (now : Nat) : Speaker × Stage :=
  if s.opened && now - s.sessionEndUs > speakerIdleCloseUs then
    ({ s with opened := false }, .idleClosing)
  else (((s.recover now).dropTalk gate).dropSiren gate).begin

/-- The end of a siren, after which its session ends. -/
def Speaker.silence (s : Speaker) : Speaker := { s with sirenOn := false, released := true }

/-- A siren ends with its time. -/
def Speaker.expire (s : Speaker) (now : Nat) : Speaker :=
  if s.sirenOn && now ≥ s.sirenUntil then s.silence else s

def Speaker.finished (s : Speaker) (now : Nat) : Bool :=
  !s.sirenOn &&
    if s.released then s.queue.count = 0
    else s.queue.count = 0 && now - s.lastSubmitUs > DEADMAN_US

/-- The next frame of a session that goes on. -/
def Speaker.next (s : Speaker) : Speaker × Stage :=
  if s.sirenOn then
    if s.sirenVolumeApplied ≠ s.sirenVolume then
      ({ s with sirenVolumeApplied := s.sirenVolume }, .leveling (sirenGain s.sirenVolume))
    else ({ s with volumeRestore := true }, .writing .siren)
  else if s.queue.count = 0 then (s, .underrun)
  else
    ({ s with queue := s.queue.drop SPEAKER_FRAME },
      .writing (.talker (s.queue.toList.take SPEAKER_FRAME)))

/-- The loop in a session. -/
def Speaker.inSession (s : Speaker) (now : Nat) : Speaker × Stage :=
  if (s.expire now).finished now then (s.expire now).endSession false now
  else (s.expire now).next

/-- The head of the loop. -/
def Speaker.atHead (s : Speaker) (gate : Bool) (now : Nat) : Speaker × Stage :=
  if s.quit then
    ({ s with session := false, opened := false },
      .leaving (s.session || s.mutePending) s.opened)
  else if s.session then s.inSession now
  else if s.mutePending && s.muteAttempts < MUTE_ATTEMPTS then
    ({ s with muteAttempts := s.muteAttempts + 1 }, .retrying now)
  else s.idle gate now

/-- A mute that succeeds is not to be tried again. -/
def Speaker.noteRetry (s : Speaker) (muted : Bool) : Speaker :=
  if muted then { s with mutePending := false } else s

/-- Back from the retried mute. -/
def Speaker.afterRetry (s : Speaker) (gate : Bool) (now : Nat) (muted : Bool) : Speaker × Stage :=
  (s.noteRetry muted).idle gate now

def Speaker.noteOpened (s : Speaker) (opened : Bool) : Speaker :=
  if opened then { s with opened := true } else s

/-- Back from opening the output and switching the amplifier on. -/
def Speaker.afterStart (s : Speaker) (opened : Bool) (failure : Option String) (now : Nat) :
    Speaker × Stage :=
  match failure with
  | some error =>
      (s.noteOpened opened).fault
        (if error ≠ "" then error else "speaker output or amplifier failed") now
  | none => (s.noteOpened opened, .settling)

/-- Back from the wait of an underrun. -/
def Speaker.afterUnderrun (s : Speaker) : Speaker × Stage :=
  (s, if s.queue.count ≠ 0 || s.quit then .head else .writing .silence)

/-- Back from a write. -/
def Speaker.afterWrite (s : Speaker) (accepted : Bool) (now : Nat) : Speaker × Stage :=
  if accepted then
    ({ s with writeErrors := 0, backoffS := 0, playedFrames := s.playedFrames + 1 }, .head)
  else if s.writeErrors + 1 ≥ 3 then s.fault "audio output refused three frames" now
  else ({ s with writeErrors := s.writeErrors + 1 }, .head)

/-! ### The sink -/

/-- The sink: whether its output is open and with which gain (`none` is the driver's
own), the last command of the amplifier that succeeded, and what was written. -/
structure Sink where
  opened : Bool
  gain : Option Int
  amplifier : Option Bool
  written : List Source
deriving Repr, DecidableEq

/-- What the sink answers to an operation. `applied` is whether a volume it was given
became the gain, which opening an output does not report. -/
structure Outcome where
  ok : Bool
  applied : Bool
  error : String
deriving Repr, DecidableEq

def Sink.setVolume (sink : Sink) (volume : Int) (outcome : Outcome) : Sink :=
  if sink.opened && outcome.applied then { sink with gain := some volume } else sink

def Sink.setAmplifier (sink : Sink) (on : Bool) (outcome : Outcome) : Sink :=
  if outcome.ok then { sink with amplifier := some on } else sink

def Sink.openOutput (sink : Sink) (volume : Int) (outcome : Outcome) : Sink :=
  if outcome.ok then
    { sink with opened := true, gain := if outcome.applied then some volume else none }
  else sink

def Sink.closeOutput (sink : Sink) : Sink := { sink with opened := false, gain := none }

def Sink.write (sink : Sink) (source : Source) : Sink :=
  { sink with written := sink.written ++ [source] }

/-! ### The service -/

/-- The service. `setting` is the volume that a call of `set_volume` has stored and not
yet passed on; it holds the lifetime mutex, as every other call would. -/
structure State where
  speaker : Speaker
  stage : Stage
  sink : Sink
  setting : Option Int
  attached : Bool
  gate : Bool
  clock : Nat

/-- What `jipc_speaker_start` leaves; with the gate open the amplifier is to be muted. -/
def Speaker.initial (gate : Bool) : Speaker where
  quit := false
  queue := ⟨fun _ => 0, 0, 0, by unfold QUEUE_BYTES; decide, Nat.zero_le _⟩
  leased := false
  session := false
  released := false
  talker := ⟨0, 0⟩
  lastSubmitUs := 0
  sessionEndUs := 0
  opened := false
  volume := 60
  faulted := false
  mutePending := gate
  muteAttempts := 0
  writeErrors := 0
  backoffS := 0
  retryUs := 0
  sessions := 0
  playedFrames := 0
  droppedBytes := 0
  refused := 0
  faults := 0
  sirenOn := false
  sirenVolume := 0
  sirenVolumeApplied := 0
  volumeRestore := false
  sirenUntil := 0
  error := ""

def State.initial (gate : Bool) (clock : Nat) : State where
  speaker := Speaker.initial gate
  stage := .head
  sink := ⟨false, none, none, []⟩
  setting := none
  attached := true
  gate := gate
  clock := clock

def State.locked (state : State) (next : Speaker × Stage) : State :=
  { state with speaker := next.1, stage := next.2 }

def State.operated (state : State) (sink : Sink) (stage : Stage) : State :=
  { state with sink := sink, stage := stage }

/-- The next step of `speaker_main`; an operation of the sink has this outcome. -/
def State.threadStep (state : State) (outcome : Outcome) : State :=
  match state.stage with
  | .head => state.locked (state.speaker.atHead state.gate state.clock)
  | .retrying now =>
      state.operated (state.sink.setAmplifier false outcome) (.retried now outcome.ok)
  | .retried now muted => state.locked (state.speaker.afterRetry state.gate now muted)
  | .idleClosing => state.operated state.sink.closeOutput .head
  | .opening volume =>
      state.operated (state.sink.openOutput volume outcome)
        (if outcome.ok then .switching else .started false (some outcome.error))
  | .switching =>
      state.operated (state.sink.setAmplifier true outcome)
        (.started true (if outcome.ok then none else some ""))
  | .started opened failure => state.locked (state.speaker.afterStart opened failure state.clock)
  | .settling => { state with stage := .head }
  | .underrun => state.locked state.speaker.afterUnderrun
  | .leveling gain => state.operated (state.sink.setVolume gain outcome) .leveled
  | .leveled => state.locked ({ state.speaker with volumeRestore := true }, .writing .siren)
  | .writing source => state.operated (state.sink.write source) (.wrote outcome.ok)
  | .wrote accepted => state.locked (state.speaker.afterWrite accepted state.clock)
  | .quieting more =>
      state.operated (state.sink.write .silence) (if more then .quieting false else .muting false)
  | .muting closing =>
      state.operated (state.sink.setAmplifier false outcome)
        (if closing then .closing outcome.ok else .stopped outcome.ok)
  | .closing muted => state.operated state.sink.closeOutput (.stopped muted)
  | .stopped muted => state.locked (state.speaker.afterStop muted)
  | .restoring volume => state.operated (state.sink.setVolume volume outcome) .head
  | .leaving true close =>
      state.operated (state.sink.setAmplifier false outcome) (.leaving false close)
  | .leaving false true => state.operated state.sink.closeOutput (.leaving false false)
  | .leaving false false => { state with stage := .done }
  | .done => state

/-! ### The calls of other threads -/

inductive TalkCode
  | invalid
  | busy
  | unavailable
deriving Repr, DecidableEq

structure TalkError where
  code : TalkCode
  message : String
deriving Repr, DecidableEq

/-- The room `jipc_talk_submit` makes at the head of the queue. -/
def makeRoom (queue : RingQueue QUEUE_BYTES UInt8) (size : Nat) : RingQueue QUEUE_BYTES UInt8 :=
  if queue.count + size > QUEUE_BYTES then queue.drop (queue.count + size - QUEUE_BYTES)
  else queue

theorem makeRoom_room (queue : RingQueue QUEUE_BYTES UInt8) {size : Nat} (small : size ≤ 8000) :
    (makeRoom queue size).count + size ≤ QUEUE_BYTES := by
  have inside := queue.countInside
  have large : 8000 ≤ QUEUE_BYTES := by
    unfold QUEUE_BYTES
    decide
  unfold makeRoom
  split
  · rw [RingQueue.count_drop]
    omega
  · omega

/-- The lease goes to a talker who finds it free. -/
def Speaker.lease (s : Speaker) (talker : Talker) : Speaker :=
  { s with
    leased := true
    talker := if s.leased then s.talker else talker
    released := false }

/-- Bytes behind what waits; the oldest that no longer fit are dropped. -/
def Speaker.enqueue (s : Speaker) (pcma : Bytes) (small : pcma.length ≤ 8000) : Speaker :=
  { s with
    queue := (makeRoom s.queue pcma.length).push pcma (makeRoom_room s.queue small)
    droppedBytes := s.droppedBytes + (s.queue.count - (makeRoom s.queue pcma.length).count) }

/-- A backchannel that ran ahead is cut back. -/
def Speaker.trim (s : Speaker) (http : Bool) : Speaker :=
  if !http && s.queue.count > TRIM_ABOVE then s.dropOldest (s.queue.count - TRIM_TO) else s

/-- `jipc_talk_submit` once nothing refuses it. -/
def Speaker.accept (s : Speaker) (now : Nat) (talker : Talker) (http : Bool) (pcma : Bytes)
    (small : pcma.length ≤ 8000) : Speaker :=
  { ((s.lease talker).enqueue pcma small).trim http with lastSubmitUs := now }

/-- Why `jipc_talk_submit` refuses. -/
def Speaker.refusal (s : Speaker) (now : Nat) (talker : Talker) (http : Bool) (size : Nat) :
    Option TalkError :=
  if s.faulted && now < s.retryUs then
    some ⟨.unavailable, "the speaker output failed; retrying shortly"⟩
  else if s.sirenOn then some ⟨.busy, "the siren is sounding"⟩
  else if s.leased && s.talker ≠ talker then
    some ⟨.busy, "another talker is using the speaker"⟩
  else if http && s.queue.count + size > QUEUE_BYTES then
    some ⟨.busy, "the speaker queue is full; send shorter chunks"⟩
  else none

/-- Two of the refusals are counted. -/
def Speaker.countRefusal (s : Speaker) (now : Nat) (talker : Talker) : Speaker :=
  if s.faulted && now < s.retryUs then s
  else if s.sirenOn || (s.leased && s.talker ≠ talker) then { s with refused := s.refused + 1 }
  else s

def unattached : TalkError := ⟨.unavailable, "the speaker is unavailable (audio is disabled)"⟩

def gateClosed : TalkError :=
  ⟨.unavailable, "the speaker stays muted until the boot hook releases it"⟩

/-- `jipc_talk_submit`. -/
def State.talkSubmit (state : State) (talker : Talker) (http : Bool) (pcma : Bytes) :
    Option TalkError × State :=
  if size : pcma = [] ∨ pcma.length > 8000 then
    (some ⟨.invalid, "speaker input requires 1..8000 bytes of 8 kHz A-law"⟩, state)
  else if !state.attached then (some unattached, state)
  else if !state.gate then (some gateClosed, state)
  else
    match state.speaker.refusal state.clock talker http pcma.length with
    | some error =>
        (some error, { state with speaker := state.speaker.countRefusal state.clock talker })
    | none =>
        (none, { state with
          speaker := state.speaker.accept state.clock talker http pcma
            (Nat.le_of_not_lt fun large => size (.inr large)) })

theorem refusal_none {s : Speaker} {now : Nat} {talker : Talker} {http : Bool} {size : Nat}
    (accepted : s.refusal now talker http size = none) :
    s.sirenOn = false ∧ (s.leased = true → s.talker = talker) := by
  unfold Speaker.refusal at accepted
  split at accepted
  · cases accepted
  · split at accepted
    · cases accepted
    · rename_i quiet
      split at accepted
      · cases accepted
      · rename_i free
        refine ⟨by simpa using quiet, fun leased => ?_⟩
        simpa [leased] using free

theorem countRefusal_eq (s : Speaker) (now : Nat) (talker : Talker) :
    ∃ refused, s.countRefusal now talker = { s with refused := refused } := by
  unfold Speaker.countRefusal
  split
  · exact ⟨s.refused, rfl⟩
  · split
    · exact ⟨s.refused + 1, rfl⟩
    · exact ⟨s.refused, rfl⟩

/-- A submission is refused, and at most counted, or accepted from the holder of the lease
while no siren is on. -/
theorem talkSubmit_cases (state : State) (talker : Talker) (http : Bool) (pcma : Bytes) :
    (∃ error refused, state.talkSubmit talker http pcma =
      (some error, { state with speaker := { state.speaker with refused := refused } })) ∨
    ∃ small : pcma.length ≤ 8000, state.gate = true ∧ state.speaker.sirenOn = false ∧
      (state.speaker.leased = true → state.speaker.talker = talker) ∧
      state.talkSubmit talker http pcma =
        (none, { state with speaker := state.speaker.accept state.clock talker http pcma small }) := by
  unfold State.talkSubmit
  split
  · exact .inl ⟨_, state.speaker.refused, rfl⟩
  · rename_i size
    split
    · exact .inl ⟨_, state.speaker.refused, rfl⟩
    · split
      · exact .inl ⟨_, state.speaker.refused, rfl⟩
      · rename_i gate
        cases asked : state.speaker.refusal state.clock talker http pcma.length with
        | some error =>
            obtain ⟨refused, counted⟩ := countRefusal_eq state.speaker state.clock talker
            exact .inl ⟨error, refused, by rw [counted]⟩
        | none =>
            obtain ⟨quiet, free⟩ := refusal_none asked
            exact .inr ⟨Nat.le_of_not_lt fun large => size (.inr large), by simpa using gate, quiet,
              free, rfl⟩

/-- `jipc_talk_release`. -/
def Speaker.release (s : Speaker) (owner : UInt64) : Speaker :=
  if s.leased && s.talker.owner = owner then
    { s with released := true, queue := s.queue.truncate RELEASE_TAIL }
  else s

def State.talkRelease (state : State) (owner : UInt64) : State :=
  if state.attached then { state with speaker := state.speaker.release owner } else state

/-- `jipc_siren_start`; whoever was talking stops. -/
def State.sirenStart (state : State) (sound seconds : Nat) (percent : Int) :
    Option String × State :=
  if sound ≥ SIREN_SOUNDS ∨ seconds = 0 ∨ seconds > SIREN_MAX_SECONDS ∨ percent < 1 ∨
      percent > 100 then
    (some "the siren takes one of its sounds, 1 to 300 seconds and 1 to 100%", state)
  else if !state.attached then (some unattached.message, state)
  else if !state.gate then (some gateClosed.message, state)
  else if state.speaker.faulted && state.clock < state.speaker.retryUs then
    (some "the speaker output failed; retrying shortly", state)
  else
    (none, { state with
      speaker := { state.speaker with
        queue := state.speaker.queue.clear
        leased := false
        released := false
        sirenOn := true
        sirenVolume := percent
        sirenVolumeApplied := 0
        sirenUntil := state.clock + seconds * 1000000 } })

/-- `jipc_siren_stop`. -/
def State.sirenStop (state : State) : State :=
  if state.attached && state.speaker.sirenOn then
    { state with speaker := state.speaker.silence }
  else state

/-- `jipc_speaker_set_volume` up to its call of the sink, which it makes for an open
output while no siren is on. -/
def State.setVolume (state : State) (volume : Int) : Option String × State :=
  if volume < -30 ∨ volume > 120 then
    (some "speaker volume must be -30..120 (60 is unity gain)", state)
  else if !state.attached then (some unattached.message, state)
  else
    (none, { state with
      speaker := { state.speaker with volume := volume }
      setting :=
        if state.speaker.opened && !state.speaker.sirenOn then some volume else none })

/-- The call of the sink, and what `jipc_speaker_set_volume` answers for it. -/
def State.volumeSet (state : State) (volume : Int) (outcome : Outcome) : Option String × State :=
  (if outcome.ok then none else some "the audio output refused the volume",
    { state with sink := state.sink.setVolume volume outcome, setting := none })

/-- `jipc_speaker_stop`. -/
def State.stop (state : State) : State :=
  if state.attached then
    { state with attached := false, speaker := { state.speaker with quit := true } }
  else state

inductive Event
  | passes (time : Nat)
  | gateOpens
  | submit (talker : Talker) (http : Bool) (pcma : Bytes)
  | release (owner : UInt64)
  | sirenStart (sound seconds : Nat) (percent : Int)
  | sirenStop
  | setVolume (volume : Int)
  | volumeSet (outcome : Outcome)
  | stop
  | thread (outcome : Outcome)
deriving Repr, DecidableEq

/-- A call that takes the lifetime mutex. -/
def State.free (state : State) (next : State) : Option State :=
  if state.setting.isSome then none else some next

theorem free_eq_some {state next after : State} (stepped : state.free next = some after) :
    next = after := by
  unfold State.free at stepped
  split at stepped
  · cases stepped
  · exact Option.some.inj stepped

/-- One step of the service, in any order. -/
def step (state : State) : Event → Option State
  | .passes time => some { state with clock := state.clock + time }
  | .gateOpens => some { state with gate := true }
  | .submit talker http pcma => state.free (state.talkSubmit talker http pcma).2
  | .release owner => state.free (state.talkRelease owner)
  | .sirenStart sound seconds percent => state.free (state.sirenStart sound seconds percent).2
  | .sirenStop => state.free state.sirenStop
  | .setVolume volume => state.free (state.setVolume volume).2
  | .volumeSet outcome => state.setting.map fun volume => (state.volumeSet volume outcome).2
  | .stop => state.free state.stop
  | .thread outcome => some (state.threadStep outcome)

end JooanW3U.Media.SpeakerService
