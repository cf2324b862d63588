import JooanW3U.Media.Speaker

/-!
Owns the amplifier of the speaker service: when it may be on, and the mute that is tried
again. Main result: at the head of its loop without a session the thread has muted the
amplifier, or has a retry on record that only a mute that succeeds takes off it.

Does not own the commands that others give the amplifier.
-/

namespace JooanW3U.Media.SpeakerService

open JooanW3U.Library

/-- The last command that succeeded did not switch the amplifier on, or a retry is on
record. -/
def Quiet (amplifier : Option Bool) (s : Speaker) : Prop :=
  amplifier ≠ some true ∨ s.mutePending = true

/-- What the amplifier and the record are wherever the thread stands. -/
def SafeAt (amplifier : Option Bool) (s : Speaker) : Stage → Prop
  | .head => s.session = false → Quiet amplifier s
  | .retrying _ => s.session = false ∧ Quiet amplifier s
  | .retried _ muted =>
      s.session = false ∧ Quiet amplifier s ∧ (muted = true → amplifier = some false)
  | .idleClosing => s.session = false ∧ Quiet amplifier s
  | .restoring _ => s.session = false ∧ Quiet amplifier s
  | .quieting _ => s.session = false
  | .muting _ => s.session = false
  | .closing muted => s.session = false ∧ (muted = true → amplifier = some false)
  | .stopped muted => s.session = false ∧ (muted = true → amplifier = some false)
  | .leaving _ _ => True
  | .done => True
  | _ => s.session = true

/-- A section that keeps `SafeAt`, for any amplifier. -/
def Keeps (s : Speaker) (stage : Stage) (next : Speaker × Stage) : Prop :=
  ∀ amplifier, SafeAt amplifier s stage → SafeAt amplifier next.1 next.2

/-- Nothing changes for the amplifier. -/
structure SameMute (s after : Speaker) : Prop where
  session : after.session = s.session
  pending : after.mutePending = s.mutePending

theorem SameMute.refl (s : Speaker) : SameMute s s := ⟨rfl, rfl⟩

theorem SameMute.trans {s middle after : Speaker} (first : SameMute s middle)
    (second : SameMute middle after) : SameMute s after :=
  ⟨second.session.trans first.session, second.pending.trans first.pending⟩

theorem SameMute.ite {s yes no : Speaker} {condition : Prop} [Decidable condition]
    (first : SameMute s yes) (second : SameMute s no) :
    SameMute s (if condition then yes else no) := by
  split
  · exact first
  · exact second

theorem SameMute.quiet {s after : Speaker} (same : SameMute s after) {amplifier : Option Bool}
    (quiet : Quiet amplifier s) : Quiet amplifier after := by
  unfold Quiet
  rw [same.pending]
  exact quiet

theorem SameMute.safe {s after : Speaker} (same : SameMute s after) {amplifier : Option Bool}
    {stage : Stage} (safe : SafeAt amplifier s stage) : SafeAt amplifier after stage := by
  cases stage <;> simp only [SafeAt, Quiet, same.session, same.pending] at safe ⊢ <;> exact safe

/-! ### The sections of the thread -/

theorem endSession_safe (s : Speaker) (closeOutput : Bool) (now : Nat) (amplifier : Option Bool) :
    SafeAt amplifier (s.endSession closeOutput now).1 (s.endSession closeOutput now).2 := by
  rcases endSession_stage s closeOutput now with stage | stage <;> rw [stage] <;> rfl

theorem idle_same (s : Speaker) (gate : Bool) (now : Nat) :
    SameMute s (((s.recover now).dropTalk gate).dropSiren gate) := by
  have recovered : SameMute s (s.recover now) := .ite ⟨rfl, rfl⟩ (.refl _)
  have dropped : SameMute (s.recover now) ((s.recover now).dropTalk gate) := .ite ⟨rfl, rfl⟩ (.refl _)
  have silenced : SameMute ((s.recover now).dropTalk gate)
      (((s.recover now).dropTalk gate).dropSiren gate) := .ite ⟨rfl, rfl⟩ (.refl _)
  exact (recovered.trans dropped).trans silenced

theorem start_safe (s : Speaker) (amplifier : Option Bool) :
    SafeAt amplifier s.start.1 s.start.2 := by
  rcases start_stage s with ⟨-, stage⟩ | ⟨-, stage⟩ <;> rw [stage] <;> rfl

/-- Without a session, a speaker that is quiet stays so or starts one. -/
theorem idle_safe {s : Speaker} {amplifier : Option Bool} (ended : s.session = false)
    (quiet : Quiet amplifier s) (gate : Bool) (now : Nat) :
    SafeAt amplifier (s.idle gate now).1 (s.idle gate now).2 := by
  unfold Speaker.idle
  split
  · exact ⟨ended, quiet⟩
  · have same := idle_same s gate now
    unfold Speaker.begin
    split
    · exact fun _ => same.quiet quiet
    · exact start_safe _ _

theorem next_safe {s : Speaker} (session : s.session = true) (amplifier : Option Bool) :
    SafeAt amplifier s.next.1 s.next.2 := by
  unfold Speaker.next
  split
  · split
    · exact session
    · exact session
  · split
    · exact session
    · exact session

theorem inSession_safe {s : Speaker} (session : s.session = true) (now : Nat)
    (amplifier : Option Bool) : SafeAt amplifier (s.inSession now).1 (s.inSession now).2 := by
  have expired : SameMute s (s.expire now) := .ite ⟨rfl, rfl⟩ (.refl _)
  unfold Speaker.inSession
  split
  · exact endSession_safe _ _ _ _
  · exact next_safe (by rw [expired.session, session]) amplifier

theorem atHead_safe (s : Speaker) (gate : Bool) (now : Nat) : Keeps s .head (s.atHead gate now) := by
  intro amplifier safe
  unfold Speaker.atHead
  split
  · trivial
  · split
    · rename_i session
      exact inSession_safe session now amplifier
    · rename_i ended
      have none : s.session = false := by simpa using ended
      split
      · exact ⟨none, safe none⟩
      · exact idle_safe none (safe none) gate now

theorem afterRetry_safe (s : Speaker) (gate : Bool) (now : Nat) (muted : Bool) :
    Keeps s (.retried now muted) (s.afterRetry gate now muted) := by
  rintro amplifier ⟨none, quiet, off⟩
  have noted : (s.noteRetry muted).session = false ∧ Quiet amplifier (s.noteRetry muted) := by
    cases muted with
    | false => exact ⟨none, quiet⟩
    | true =>
        rw [off rfl]
        exact ⟨none, .inl (by decide)⟩
  exact idle_safe noted.1 noted.2 gate now

theorem afterStart_safe (s : Speaker) (opened : Bool) (failure : Option String) (now : Nat) :
    Keeps s (.started opened failure) (s.afterStart opened failure now) := by
  intro amplifier session
  have same : SameMute s (s.noteOpened opened) := .ite ⟨rfl, rfl⟩ (.refl _)
  cases failure with
  | some error => exact endSession_safe _ _ _ _
  | none => exact same.session.trans session

theorem afterWrite_safe (s : Speaker) (accepted : Bool) (now : Nat) :
    Keeps s (.wrote accepted) (s.afterWrite accepted now) := by
  intro amplifier session
  have busy : s.session = true := session
  unfold Speaker.afterWrite
  split
  · exact fun ended => absurd (busy.symm.trans ended) (by decide)
  · split
    · exact endSession_safe _ _ _ _
    · exact fun ended => absurd (busy.symm.trans ended) (by decide)

theorem afterUnderrun_safe (s : Speaker) : Keeps s .underrun s.afterUnderrun := by
  intro amplifier session
  have busy : s.session = true := session
  unfold Speaker.afterUnderrun
  split
  · exact fun ended => absurd (busy.symm.trans ended) (by decide)
  · exact busy

/-- A mute that failed is recorded. -/
theorem afterStop_safe (s : Speaker) (muted : Bool) :
    Keeps s (.stopped muted) (s.afterStop muted) := by
  rintro amplifier ⟨none, off⟩
  have quiet : (s.noteMute muted).session = false ∧ Quiet amplifier (s.noteMute muted) := by
    unfold Speaker.noteMute
    cases muted with
    | true =>
        rw [off rfl]
        exact ⟨none, .inl (by decide)⟩
    | false => exact ⟨none, .inr rfl⟩
  unfold Speaker.afterStop Speaker.restoreVolume
  dsimp only
  split
  · exact quiet
  · exact fun _ => quiet.2

/-! ### Whole runs -/

def Safe (state : State) : Prop := SafeAt state.sink.amplifier state.speaker state.stage

theorem locked_safe {state : State} {next : Speaker × Stage} (safe : Safe state)
    (keeps : Keeps state.speaker state.stage next) : Safe (state.locked next) :=
  keeps _ safe

theorem amplifier_setVolume (sink : Sink) (volume : Int) (outcome : Outcome) :
    (sink.setVolume volume outcome).amplifier = sink.amplifier := by
  unfold Sink.setVolume
  split <;> rfl

theorem amplifier_openOutput (sink : Sink) (volume : Int) (outcome : Outcome) :
    (sink.openOutput volume outcome).amplifier = sink.amplifier := by
  unfold Sink.openOutput
  split <;> rfl

/-- A mute that succeeds is the last command that did. -/
theorem amplifier_muted {sink : Sink} {outcome : Outcome} (muted : outcome.ok = true) :
    (sink.setAmplifier false outcome).amplifier = some false := by
  rw [Sink.setAmplifier, if_pos muted]

theorem Quiet.mute {sink : Sink} {s : Speaker} (quiet : Quiet sink.amplifier s)
    (outcome : Outcome) : Quiet (sink.setAmplifier false outcome).amplifier s := by
  unfold Sink.setAmplifier
  split
  · exact .inl fun same => by cases same
  · exact quiet

theorem thread_safe {state : State} (safe : Safe state) (outcome : Outcome) :
    Safe (state.threadStep outcome) := by
  have keeps := safe
  unfold Safe at keeps
  cases stage : state.stage with
  | head =>
      have next := atHead_safe state.speaker state.gate state.clock
      rw [← stage] at next
      rw [State.threadStep, stage]
      exact locked_safe safe next
  | retried now muted =>
      have next := afterRetry_safe state.speaker state.gate now muted
      rw [← stage] at next
      rw [State.threadStep, stage]
      exact locked_safe safe next
  | started opened failure =>
      have next := afterStart_safe state.speaker opened failure state.clock
      rw [← stage] at next
      rw [State.threadStep, stage]
      exact locked_safe safe next
  | underrun =>
      have next := afterUnderrun_safe state.speaker
      rw [← stage] at next
      rw [State.threadStep, stage]
      exact locked_safe safe next
  | wrote accepted =>
      have next := afterWrite_safe state.speaker accepted state.clock
      rw [← stage] at next
      rw [State.threadStep, stage]
      exact locked_safe safe next
  | stopped muted =>
      have next := afterStop_safe state.speaker muted
      rw [← stage] at next
      rw [State.threadStep, stage]
      exact locked_safe safe next
  | leveled =>
      rw [State.threadStep, stage]
      rw [stage] at keeps
      exact keeps
  | settling =>
      rw [State.threadStep, stage]
      rw [stage] at keeps
      have session : state.speaker.session = true := keeps
      exact fun ended => absurd (session.symm.trans ended) (by decide)
  | retrying now =>
      rw [State.threadStep, stage]
      rw [stage] at keeps
      exact ⟨keeps.1, keeps.2.mute outcome, amplifier_muted⟩
  | idleClosing =>
      rw [State.threadStep, stage]
      rw [stage] at keeps
      exact fun _ => keeps.2
  | opening volume =>
      rw [State.threadStep, stage]
      rw [stage] at keeps
      have session : state.speaker.session = true := keeps
      unfold Safe State.operated
      dsimp only
      split
      · exact session
      · exact session
  | switching =>
      rw [State.threadStep, stage]
      rw [stage] at keeps
      exact keeps
  | leveling gain =>
      rw [State.threadStep, stage]
      rw [stage] at keeps
      exact keeps
  | writing source =>
      rw [State.threadStep, stage]
      rw [stage] at keeps
      exact keeps
  | quieting more =>
      rw [State.threadStep, stage]
      rw [stage] at keeps
      cases more with
      | true => exact keeps
      | false => exact keeps
  | muting closing =>
      rw [State.threadStep, stage]
      rw [stage] at keeps
      cases closing with
      | true => exact ⟨keeps, amplifier_muted⟩
      | false => exact ⟨keeps, amplifier_muted⟩
  | closing muted =>
      rw [State.threadStep, stage]
      rw [stage] at keeps
      exact keeps
  | restoring volume =>
      rw [State.threadStep, stage]
      rw [stage] at keeps
      intro ended
      show Quiet (state.sink.setVolume volume outcome).amplifier state.speaker
      rw [amplifier_setVolume]
      exact keeps.2
  | leaving mute close =>
      rw [State.threadStep, stage]
      cases mute with
      | true => trivial
      | false =>
          cases close with
          | true => trivial
          | false => trivial
  | done =>
      rw [State.threadStep, stage]
      exact safe

/-- No call of another thread touches the session or the record. -/
theorem call_same {state after : State} {event : Event}
    (call : ∀ outcome, event ≠ .thread outcome) (stepped : step state event = some after) :
    SameMute state.speaker after.speaker ∧ after.stage = state.stage ∧
      after.sink.amplifier = state.sink.amplifier := by
  cases event with
  | passes time =>
      cases stepped
      exact ⟨.refl _, rfl, rfl⟩
  | gateOpens =>
      cases stepped
      exact ⟨.refl _, rfl, rfl⟩
  | submit talker http pcma =>
      rw [← free_eq_some stepped]
      rcases talkSubmit_cases state talker http pcma with ⟨error, refused, is⟩ | ⟨small, -, -, -, is⟩
      · rw [is]
        exact ⟨⟨rfl, rfl⟩, rfl, rfl⟩
      · rw [is]
        have trimmed : ∀ s : Speaker, SameMute s (s.trim http) := fun s => .ite ⟨rfl, rfl⟩ (.refl _)
        exact ⟨⟨(trimmed _).session, (trimmed _).pending⟩, rfl, rfl⟩
  | release owner =>
      rw [← free_eq_some stepped]
      unfold State.talkRelease
      split
      · exact ⟨.ite ⟨rfl, rfl⟩ (.refl _), rfl, rfl⟩
      · exact ⟨.refl _, rfl, rfl⟩
  | sirenStart sound seconds percent =>
      rw [← free_eq_some stepped]
      unfold State.sirenStart
      split
      · exact ⟨.refl _, rfl, rfl⟩
      · split
        · exact ⟨.refl _, rfl, rfl⟩
        · split
          · exact ⟨.refl _, rfl, rfl⟩
          · split
            · exact ⟨.refl _, rfl, rfl⟩
            · exact ⟨⟨rfl, rfl⟩, rfl, rfl⟩
  | sirenStop =>
      rw [← free_eq_some stepped]
      unfold State.sirenStop
      split
      · exact ⟨⟨rfl, rfl⟩, rfl, rfl⟩
      · exact ⟨.refl _, rfl, rfl⟩
  | setVolume volume =>
      rw [← free_eq_some stepped]
      unfold State.setVolume
      split
      · exact ⟨.refl _, rfl, rfl⟩
      · split
        · exact ⟨.refl _, rfl, rfl⟩
        · exact ⟨⟨rfl, rfl⟩, rfl, rfl⟩
  | volumeSet outcome =>
      obtain ⟨volume, -, rfl⟩ := Option.map_eq_some_iff.mp stepped
      exact ⟨.refl _, rfl, amplifier_setVolume _ _ _⟩
  | stop =>
      rw [← free_eq_some stepped]
      unfold State.stop
      split
      · exact ⟨⟨rfl, rfl⟩, rfl, rfl⟩
      · exact ⟨.refl _, rfl, rfl⟩
  | thread outcome => exact absurd rfl (call outcome)

theorem step_safe {state after : State} {event : Event} (safe : Safe state)
    (stepped : step state event = some after) : Safe after := by
  by_cases thread : ∃ outcome, event = .thread outcome
  · obtain ⟨outcome, rfl⟩ := thread
    cases stepped
    exact thread_safe safe outcome
  · obtain ⟨same, stage, amplifier⟩ :=
      call_same (fun outcome is => thread ⟨outcome, is⟩) stepped
    unfold Safe
    rw [stage, amplifier]
    exact same.safe safe

theorem run_safe {gate : Bool} {clock : Nat} {events : List Event} {state : State}
    (ran : runs step (State.initial gate clock) events = some state) : Safe state :=
  (run_of_runs ran).preserves (fun _ _ _ safe stepped => step_safe safe stepped)
    fun _ => .inl fun same => by cases same

/-! ### The record -/

theorem idle_pending (s : Speaker) (gate : Bool) (now : Nat) :
    (s.idle gate now).1.mutePending = s.mutePending := by
  unfold Speaker.idle
  split
  · rfl
  · have same := idle_same s gate now
    unfold Speaker.begin
    split
    · exact same.pending
    · exact same.pending

theorem inSession_pending (s : Speaker) (now : Nat) :
    (s.inSession now).1.mutePending = s.mutePending := by
  have expired : SameMute s (s.expire now) := .ite ⟨rfl, rfl⟩ (.refl _)
  unfold Speaker.inSession
  split
  · exact expired.pending
  · unfold Speaker.next
    split
    · split <;> exact expired.pending
    · split <;> exact expired.pending

theorem atHead_pending (s : Speaker) (gate : Bool) (now : Nat) :
    (s.atHead gate now).1.mutePending = s.mutePending := by
  unfold Speaker.atHead
  split
  · rfl
  · split
    · exact inSession_pending s now
    · split
      · rfl
      · exact idle_pending s gate now

theorem afterStart_pending (s : Speaker) (opened : Bool) (failure : Option String) (now : Nat) :
    (s.afterStart opened failure now).1.mutePending = s.mutePending := by
  have same : SameMute s (s.noteOpened opened) := .ite ⟨rfl, rfl⟩ (.refl _)
  cases failure with
  | some error => exact same.pending
  | none => exact same.pending

theorem afterWrite_pending (s : Speaker) (accepted : Bool) (now : Nat) :
    (s.afterWrite accepted now).1.mutePending = s.mutePending := by
  unfold Speaker.afterWrite
  split
  · rfl
  · split <;> rfl

theorem afterStop_pending {s : Speaker} (pending : s.mutePending = true) (muted : Bool) :
    (s.afterStop muted).1.mutePending = true := by
  cases muted with
  | true => exact pending
  | false => rfl

theorem operated_pending {state after : State} {sink : Sink} {stage : Stage}
    (operated : after = state.operated sink stage) :
    after.speaker.mutePending = state.speaker.mutePending := by
  rw [operated]
  rfl

/-- The record outlives every step of the thread but the one after a retried mute that
succeeded. -/
theorem pending_kept {state : State} (outcome : Outcome)
    (pending : state.speaker.mutePending = true)
    (dropped : (state.threadStep outcome).speaker.mutePending = false) :
    ∃ now, state.stage = .retried now true := by
  -- Every other step has the record after it.
  have lost : (state.threadStep outcome).speaker.mutePending = true →
      ∃ now, state.stage = .retried now true :=
    fun kept => absurd (kept.symm.trans dropped) (by decide)
  unfold State.threadStep at lost
  cases stage : state.stage with
  | retried now muted =>
      cases muted with
      | true => exact ⟨now, rfl⟩
      | false =>
          rw [stage] at lost
          have kept := (idle_pending state.speaker state.gate now).trans pending
          obtain ⟨_, absurdity⟩ := lost kept
          cases absurdity
  | head =>
      rw [stage] at lost
      exact lost ((atHead_pending _ _ _).trans pending)
  | started opened failure =>
      rw [stage] at lost
      exact lost ((afterStart_pending _ _ _ _).trans pending)
  | wrote accepted =>
      rw [stage] at lost
      exact lost ((afterWrite_pending _ _ _).trans pending)
  | stopped muted =>
      rw [stage] at lost
      exact lost (afterStop_pending pending muted)
  | leaving mute close =>
      rw [stage] at lost
      cases mute with
      | true => exact lost pending
      | false =>
          cases close with
          | true => exact lost pending
          | false => exact lost pending
  | retrying now => rw [stage] at lost; exact lost pending
  | idleClosing => rw [stage] at lost; exact lost pending
  | opening volume => rw [stage] at lost; exact lost pending
  | switching => rw [stage] at lost; exact lost pending
  | settling => rw [stage] at lost; exact lost pending
  | underrun => rw [stage] at lost; exact lost pending
  | leveling gain => rw [stage] at lost; exact lost pending
  | leveled => rw [stage] at lost; exact lost pending
  | writing source => rw [stage] at lost; exact lost pending
  | quieting more => rw [stage] at lost; exact lost pending
  | muting closing => rw [stage] at lost; exact lost pending
  | closing muted => rw [stage] at lost; exact lost pending
  | restoring volume => rw [stage] at lost; exact lost pending
  | done => rw [stage] at lost; exact lost pending

theorem atHead_retries {s : Speaker} (stays : s.quit = false) (ended : s.session = false)
    (pending : s.mutePending = true) (left : s.muteAttempts < MUTE_ATTEMPTS) (gate : Bool)
    (now : Nat) :
    s.atHead gate now = ({ s with muteAttempts := s.muteAttempts + 1 }, .retrying now) := by
  have due : (s.mutePending && decide (s.muteAttempts < MUTE_ATTEMPTS)) = true := by
    rw [pending, Bool.true_and, decide_eq_true_iff]
    exact left
  unfold Speaker.atHead
  rw [if_neg (by rw [stays]; decide), if_neg (by rw [ended]; decide), if_pos due]

/-- At the head of the loop without a session, a record that has not been tried
`MUTE_ATTEMPTS` times is tried. -/
theorem retry_attempted {state : State} (head : state.stage = .head)
    (stays : state.speaker.quit = false) (ended : state.speaker.session = false)
    (pending : state.speaker.mutePending = true)
    (left : state.speaker.muteAttempts < MUTE_ATTEMPTS) (outcome : Outcome) :
    (state.threadStep outcome).stage = .retrying state.clock ∧
      ∀ answer, ((state.threadStep outcome).threadStep answer).sink =
        state.sink.setAmplifier false answer := by
  have stepped : state.threadStep outcome = state.locked
      ({ state.speaker with muteAttempts := state.speaker.muteAttempts + 1 },
        .retrying state.clock) := by
    rw [State.threadStep, head, ← atHead_retries stays ended pending left state.gate]
  rw [stepped]
  exact ⟨rfl, fun _ => rfl⟩

/-- In every run: at the head of the loop without a session the last command of the
amplifier that succeeded was not "on", or a retry is on record; a retry on record is tried
there, until it has been `MUTE_ATTEMPTS` times; and it stays on record until one of them
mutes the amplifier. -/
theorem amplifier_muted_or_retried (gate : Bool) (clock : Nat) (events : List Event)
    (state : State) (ran : runs step (State.initial gate clock) events = some state) :
    (state.stage = .head → state.speaker.session = false →
      state.sink.amplifier ≠ some true ∨ state.speaker.mutePending = true) ∧
    (state.stage = .head → state.speaker.quit = false → state.speaker.session = false →
      state.speaker.mutePending = true → state.speaker.muteAttempts < MUTE_ATTEMPTS →
      ∀ outcome, (state.threadStep outcome).stage = .retrying state.clock ∧
        ∀ answer, ((state.threadStep outcome).threadStep answer).sink =
          state.sink.setAmplifier false answer) ∧
    ∀ event after, step state event = some after → state.speaker.mutePending = true →
      after.speaker.mutePending = false →
      ∃ now, state.stage = .retried now true ∧ state.sink.amplifier = some false := by
  have safe := run_safe ran
  refine ⟨?_, ?_, ?_⟩
  · intro head ended
    unfold Safe at safe
    rw [head] at safe
    exact safe ended
  · intro head stays ended pending left outcome
    exact retry_attempted head stays ended pending left outcome
  · intro event after stepped pending dropped
    by_cases thread : ∃ outcome, event = .thread outcome
    · obtain ⟨outcome, rfl⟩ := thread
      cases stepped
      obtain ⟨now, stage⟩ := pending_kept outcome pending dropped
      unfold Safe at safe
      rw [stage] at safe
      exact ⟨now, stage, safe.2.2 rfl⟩
    · obtain ⟨same, -, -⟩ := call_same (fun outcome is => thread ⟨outcome, is⟩) stepped
      rw [same.pending, pending] at dropped
      cases dropped

/-! ### Retries that fail -/

/-- A speaker with nothing to play and its output closed, and a retry on record. -/
structure Idle (state : State) : Prop where
  head : state.stage = .head
  stays : state.speaker.quit = false
  ended : state.speaker.session = false
  pending : state.speaker.mutePending = true
  closed : state.speaker.opened = false
  nothing : state.speaker.queue.count = 0
  silent : state.speaker.sirenOn = false
  sound : state.speaker.faulted = false

/-- Such a speaker goes on to the next head of its loop. -/
theorem idle_stays {s : Speaker} (closed : s.opened = false) (nothing : s.queue.count = 0)
    (silent : s.sirenOn = false) (sound : s.faulted = false) (gate : Bool) (now : Nat) :
    s.idle gate now = (s, .head) := by
  have recovered : s.recover now = s := by
    unfold Speaker.recover
    rw [sound, Bool.false_and, if_neg Bool.false_ne_true]
  have waits : s.dropTalk gate = s := by
    unfold Speaker.dropTalk
    rw [if_neg (by rw [nothing]; exact Bool.false_ne_true)]
  have quiet : s.dropSiren gate = s := by
    unfold Speaker.dropSiren
    rw [silent, Bool.false_and, if_neg Bool.false_ne_true]
  unfold Speaker.idle
  rw [closed, Bool.false_and, if_neg Bool.false_ne_true, recovered, waits, quiet]
  unfold Speaker.begin
  rw [if_pos (by rw [nothing, silent]; rfl)]

def State.attempted (state : State) (count : Nat) : State :=
  { state with
    speaker := { state.speaker with muteAttempts := state.speaker.muteAttempts + count } }

/-- The retry at the head of the loop, refused. -/
def refusedRetry : List Event :=
  [.thread ⟨true, true, ""⟩, .thread ⟨false, false, ""⟩, .thread ⟨true, true, ""⟩]

theorem Idle.attempted {state : State} (idle : Idle state) (count : Nat) :
    Idle (state.attempted count) :=
  ⟨idle.head, idle.stays, idle.ended, idle.pending, idle.closed, idle.nothing, idle.silent,
    idle.sound⟩

theorem retry_refused {state : State} (idle : Idle state)
    (left : state.speaker.muteAttempts < MUTE_ATTEMPTS) :
    runs step state refusedRetry = some (state.attempted 1) := by
  have retries := atHead_retries idle.stays idle.ended idle.pending left state.gate state.clock
  have stays := @idle_stays (state.attempted 1).speaker idle.closed idle.nothing idle.silent
    idle.sound state.gate state.clock
  have first : state.threadStep ⟨true, true, ""⟩ =
      { state.attempted 1 with stage := .retrying state.clock } := by
    rw [State.threadStep, idle.head]
    show state.locked (state.speaker.atHead state.gate state.clock) = _
    rw [retries]
    rfl
  show some (((state.threadStep ⟨true, true, ""⟩).threadStep ⟨false, false, ""⟩).threadStep
    ⟨true, true, ""⟩) = _
  rw [first]
  show some (State.locked _ ((state.attempted 1).speaker.idle state.gate state.clock)) = _
  rw [stays, State.locked, ← idle.head]
  rfl

theorem retries_refused {state : State} (idle : Idle state) {count : Nat}
    (left : state.speaker.muteAttempts + count ≤ MUTE_ATTEMPTS) :
    runs step state (List.replicate count refusedRetry).flatten = some (state.attempted count) := by
  induction count generalizing state with
  | zero => rfl
  | succ count inductionHypothesis =>
      have first := retry_refused idle (by omega)
      have rest := @inductionHypothesis (state.attempted 1) (idle.attempted 1)
        (show state.speaker.muteAttempts + 1 + count ≤ MUTE_ATTEMPTS by omega)
      rw [List.replicate_succ, List.flatten_cons, runs_append, first]
      show runs step (state.attempted 1) _ = _
      rw [rest]
      unfold State.attempted
      simp only [Nat.add_assoc, Nat.add_comm 1]

/-- A record that was tried `MUTE_ATTEMPTS` times is not tried again at any later head of
the loop, until there has been a session. -/
theorem retry_given_up {state : State} (idle : Idle state)
    (spent : state.speaker.muteAttempts = MUTE_ATTEMPTS) (outcomes : List Outcome) :
    runs step state (outcomes.map Event.thread) = some state := by
  have stays : state.speaker.atHead state.gate state.clock = (state.speaker, .head) := by
    unfold Speaker.atHead
    rw [if_neg (by rw [idle.stays]; decide), if_neg (by rw [idle.ended]; decide),
      if_neg (by rw [spent]; simp)]
    exact idle_stays idle.closed idle.nothing idle.silent idle.sound _ _
  induction outcomes with
  | nil => rfl
  | cons outcome outcomes inductionHypothesis =>
      have same : state.locked (state.speaker, .head) = state := by
        rw [← idle.head]
        rfl
      have stepped : state.threadStep outcome = state := by
        rw [State.threadStep, idle.head]
        show state.locked (state.speaker.atHead state.gate state.clock) = state
        rw [stays, same]
      show runs step (state.threadStep outcome) (outcomes.map Event.thread) = some state
      rw [stepped]
      exact inductionHypothesis

/-- The mute of a service that starts with its gate open, refused once. -/
theorem mute_recorded :
    ∃ state, runs step (State.initial true 0) refusedRetry = some state ∧
      (state.sink.amplifier ≠ some true ∨ state.speaker.mutePending = true) :=
  ⟨_, rfl, (amplifier_muted_or_retried true 0 refusedRetry _ rfl).1 rfl rfl⟩

/-- The mute of a service that starts with its gate open, refused each time. -/
theorem mute_given_up :
    ∃ events state, runs step (State.initial true 0) events = some state ∧
      state.stage = .head ∧ state.speaker.session = false ∧ state.speaker.mutePending = true ∧
      ∀ outcomes : List Outcome, runs step state (outcomes.map Event.thread) = some state := by
  have idle : Idle (State.initial true 0) := ⟨rfl, rfl, rfl, rfl, rfl, rfl, rfl, rfl⟩
  have spent : (State.initial true 0).speaker.muteAttempts + MUTE_ATTEMPTS ≤ MUTE_ATTEMPTS :=
    Nat.le_of_eq (Nat.zero_add _)
  have last := idle.attempted MUTE_ATTEMPTS
  exact ⟨_, _, retries_refused idle spent, last.head, last.ended, last.pending,
    retry_given_up last (Nat.zero_add _)⟩

end JooanW3U.Media.SpeakerService
