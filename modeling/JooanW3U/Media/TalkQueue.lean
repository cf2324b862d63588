import JooanW3U.Library.Fifo
import JooanW3U.Media.Speaker

/-!
Owns the queue of talkers as a plain list with a lease, and the simulation of the speaker
service by it. Main result: every run of the service is one of the list, in which bytes
wait for the holder of the lease alone and come out in their order, once each.

Does not own the gain or the amplifier.
-/

namespace JooanW3U.Media.SpeakerService

open JooanW3U.Library

/-! ### The queue as a list -/

/-- Who has the lease, and the bytes with the talker they came from. -/
structure Talk where
  lease : Option Talker
  fifo : Fifo (UInt8 × Talker)

inductive Cause
  | siren
  | fault
deriving Repr, DecidableEq

inductive Act
  | accept (talker : Talker) (bytes : Bytes)
  | cutBack
  | play (count : Nat)
  | release
  | clear (cause : Cause)
  | finish
deriving Repr, DecidableEq

def Talk.empty : Talk := ⟨none, Fifo.empty⟩

/-- What an act does; `none` where the list does not allow it. -/
def Talk.act (talk : Talk) : Act → Option Talk
  | .accept talker bytes =>
      if talk.lease = none ∨ talk.lease = some talker then
        some ⟨some talker,
          (talk.fifo.accept (bytes.map fun byte => (byte, talker))).dropOldest
            (talk.fifo.waiting.length + bytes.length - QUEUE_BYTES)⟩
      else none
  | .cutBack =>
      if talk.fifo.waiting.length > TRIM_ABOVE then
        some { talk with fifo := talk.fifo.dropOldest (talk.fifo.waiting.length - TRIM_TO) }
      else none
  | .play count =>
      if count ≤ SPEAKER_FRAME then some { talk with fifo := talk.fifo.play count } else none
  | .release =>
      if talk.lease = none then none
      else some { talk with fifo := talk.fifo.keepOldest RELEASE_TAIL }
  | .clear _ => some ⟨none, talk.fifo.keepOldest 0⟩
  | .finish => if talk.fifo.waiting = [] then some { talk with lease := none } else none

/-- What waits belongs to the holder of the lease, fits, and is in order. -/
structure Talk.Sound (talk : Talk) : Prop where
  ordered : talk.fifo.Ordered
  bounded : talk.fifo.waiting.length ≤ QUEUE_BYTES
  owned : ∀ entry ∈ talk.fifo.waiting, talk.lease = some entry.1.2

theorem Talk.empty_sound : Talk.empty.Sound where
  ordered := Fifo.ordered_empty
  bounded := Nat.zero_le _
  owned _ member := absurd member List.not_mem_nil

theorem Talk.Sound.act {talk after : Talk} (sound : talk.Sound) {act : Act}
    (acted : talk.act act = some after) : after.Sound := by
  cases act with
  | accept talker bytes =>
      simp only [Talk.act, Option.ite_none_right_eq_some, Option.some.injEq] at acted
      obtain ⟨free, rfl⟩ := acted
      refine ⟨(sound.ordered.accept _).dropOldest _, ?_, ?_⟩
      · simp only [Fifo.dropOldest, Fifo.accept, List.length_drop, List.length_append,
          List.length_zipIdx, List.length_map]
        omega
      · intro entry member
        rcases Fifo.mem_accept (Fifo.mem_of_dropOldest member) with old | new
        · have held := sound.owned entry old
          rcases free with nobody | same
          · rw [nobody] at held
            cases held
          · rw [← same, held]
        · obtain ⟨byte, -, same⟩ := List.mem_map.mp new
          rw [← same]
  | cutBack =>
      simp only [Talk.act, Option.ite_none_right_eq_some, Option.some.injEq] at acted
      obtain ⟨-, rfl⟩ := acted
      refine ⟨sound.ordered.dropOldest _, ?_, fun entry member =>
        sound.owned entry (Fifo.mem_of_dropOldest member)⟩
      exact Nat.le_trans (Fifo.length_dropOldest_le _ _) sound.bounded
  | play count =>
      simp only [Talk.act, Option.ite_none_right_eq_some, Option.some.injEq] at acted
      obtain ⟨-, rfl⟩ := acted
      refine ⟨sound.ordered.play _, ?_, fun entry member =>
        sound.owned entry (List.mem_of_mem_drop member)⟩
      exact Nat.le_trans (Fifo.length_dropOldest_le _ _) sound.bounded
  | release =>
      simp only [Talk.act, Option.ite_none_left_eq_some, Option.some.injEq] at acted
      obtain ⟨-, rfl⟩ := acted
      refine ⟨sound.ordered.keepOldest _, ?_, fun entry member =>
        sound.owned entry (Fifo.mem_of_keepOldest member)⟩
      exact Nat.le_trans (Fifo.length_keepOldest_le _ _) sound.bounded
  | clear cause =>
      cases acted
      exact ⟨sound.ordered.keepOldest _, Nat.zero_le _,
        fun entry member => absurd member List.not_mem_nil⟩
  | finish =>
      simp only [Talk.act, Option.ite_none_right_eq_some, Option.some.injEq] at acted
      obtain ⟨nothing, rfl⟩ := acted
      refine ⟨sound.ordered, sound.bounded, fun entry member => ?_⟩
      rw [nothing] at member
      cases member

/-! ### What a step of the service does to the list -/

/-- The bytes of a talker among those written. -/
def Source.talked : Source → Bytes
  | .talker bytes => bytes
  | _ => []

/-- The bytes that are out of the queue and not yet with the sink. -/
def Stage.inFlight : Stage → Bytes
  | .writing source => source.talked
  | _ => []

def Sink.talked (sink : Sink) : Bytes := sink.written.flatMap Source.talked

/-- The service keeps this list. -/
structure Refines (state : State) (talk : Talk) : Prop where
  queue : state.speaker.queue.toList = talk.fifo.waiting.map fun entry => entry.1.1
  lease : talk.lease = if state.speaker.leased then some state.speaker.talker else none
  played : state.sink.talked ++ state.stage.inFlight =
    talk.fifo.played.map fun entry => entry.1.1
  gate : state.speaker.queue.count ≠ 0 → state.gate = true

/-- The acts that may stand for a step: only a submission puts bytes in, and only a
siren or a fault throws all of them out. -/
def Explains (event : Event) (after : State) (acts : List Act) : Prop :=
  match event with
  | .submit talker http pcma =>
      acts = [] ∨ acts = [.accept talker pcma] ∨
        (http = false ∧ acts = [.accept talker pcma, .cutBack])
  | .release _ => acts = [] ∨ acts = [.release]
  | .sirenStart _ _ _ => acts = [] ∨ acts = [.clear .siren]
  | .thread _ =>
      acts = [] ∨ (∃ count, acts = [.play count]) ∨ acts = [.finish] ∨
        (acts = [.clear .fault] ∧ after.speaker.faulted = true)
  | _ => acts = []

/-- What a section of the thread does to the queue and the lease. -/
inductive Effect (s : Speaker) (next : Speaker × Stage) : List Act → Prop
  | quiet (queue : next.1.queue = s.queue) (leased : next.1.leased = s.leased)
      (talker : next.1.talker = s.talker) (flight : next.2.inFlight = []) : Effect s next []
  | play (count : Nat) (frame : count ≤ SPEAKER_FRAME)
      (queue : next.1.queue = s.queue.drop count) (leased : next.1.leased = s.leased)
      (talker : next.1.talker = s.talker)
      (flight : next.2.inFlight = s.queue.toList.take count) : Effect s next [.play count]
  | finish (nothing : s.queue.count = 0) (queue : next.1.queue = s.queue.clear)
      (leased : next.1.leased = false) (flight : next.2.inFlight = []) : Effect s next [.finish]
  | clear (faulted : next.1.faulted = true) (queue : next.1.queue = s.queue.clear)
      (leased : next.1.leased = false) (flight : next.2.inFlight = []) :
      Effect s next [.clear .fault]

/-- Nothing changes for talkers. -/
structure SameTalk (s after : Speaker) : Prop where
  queue : after.queue = s.queue
  leased : after.leased = s.leased
  talker : after.talker = s.talker

theorem SameTalk.refl (s : Speaker) : SameTalk s s := ⟨rfl, rfl, rfl⟩

theorem SameTalk.ite {s yes no : Speaker} {condition : Prop} [Decidable condition]
    (first : SameTalk s yes) (second : SameTalk s no) :
    SameTalk s (if condition then yes else no) := by
  split
  · exact first
  · exact second

theorem SameTalk.effect {s after : Speaker} (same : SameTalk s after) {stage : Stage}
    (flight : stage.inFlight = []) : Effect s (after, stage) [] :=
  .quiet same.queue same.leased same.talker flight

theorem recover_same (s : Speaker) (now : Nat) : SameTalk s (s.recover now) :=
  .ite ⟨rfl, rfl, rfl⟩ (.refl s)

theorem dropSiren_same (s : Speaker) (gate : Bool) : SameTalk s (s.dropSiren gate) :=
  .ite ⟨rfl, rfl, rfl⟩ (.refl s)

theorem expire_same (s : Speaker) (now : Nat) : SameTalk s (s.expire now) :=
  .ite ⟨rfl, rfl, rfl⟩ (.refl s)

theorem noteRetry_same (s : Speaker) (muted : Bool) : SameTalk s (s.noteRetry muted) :=
  .ite ⟨rfl, rfl, rfl⟩ (.refl s)

theorem noteOpened_same (s : Speaker) (opened : Bool) : SameTalk s (s.noteOpened opened) :=
  .ite ⟨rfl, rfl, rfl⟩ (.refl s)

theorem noteMute_same (s : Speaker) (muted : Bool) : SameTalk s (s.noteMute muted) :=
  .ite (.refl s) ⟨rfl, rfl, rfl⟩

/-- A step before a section that changes nothing for talkers is no part of its effect. -/
theorem Effect.after {s middle : Speaker} {next : Speaker × Stage} {acts : List Act}
    (effect : Effect middle next acts) (same : SameTalk s middle) : Effect s next acts := by
  cases effect with
  | quiet queue leased talker flight =>
      exact .quiet (queue.trans same.queue) (leased.trans same.leased) (talker.trans same.talker)
        flight
  | play count frame queue leased talker flight =>
      rw [same.queue] at queue flight
      exact .play count frame queue (leased.trans same.leased) (talker.trans same.talker) flight
  | finish nothing queue leased flight =>
      rw [same.queue] at nothing queue
      exact .finish nothing queue leased flight
  | clear faulted queue leased flight =>
      rw [same.queue] at queue
      exact .clear faulted queue leased flight

theorem endSession_flight (s : Speaker) (closeOutput : Bool) (now : Nat) :
    (s.endSession closeOutput now).2.inFlight = [] := by
  rcases endSession_stage s closeOutput now with stage | stage <;> rw [stage] <;> rfl

theorem fault_effect (s : Speaker) (message : String) (now : Nat) :
    Effect s (s.fault message now) [.clear .fault] :=
  .clear rfl rfl rfl (endSession_flight _ _ _)

theorem start_flight (s : Speaker) : s.start.2.inFlight = [] := by
  rcases start_stage s with ⟨-, stage⟩ | ⟨-, stage⟩ <;> rw [stage] <;> rfl

theorem begin_effect (s : Speaker) : Effect s s.begin [] := by
  unfold Speaker.begin
  split
  · exact .quiet rfl rfl rfl rfl
  · exact .quiet rfl rfl rfl (start_flight s)

theorem begin_faulted (s : Speaker) : s.begin.1.faulted = s.faulted := by
  unfold Speaker.begin
  split <;> rfl

theorem dropSiren_faulted (s : Speaker) (gate : Bool) :
    (s.dropSiren gate).faulted = s.faulted := by
  unfold Speaker.dropSiren
  split <;> rfl

/-- With the gate open for what waits, only a fault throws it out. -/
theorem dropTalk_effect (s : Speaker) {gate : Bool}
    (open_gate : s.queue.count ≠ 0 → gate = true) :
    s.dropTalk gate = s ∨
      (s.faulted = true ∧ (s.dropTalk gate).faulted = true ∧
        (s.dropTalk gate).queue = s.queue.clear ∧ (s.dropTalk gate).leased = false) := by
  unfold Speaker.dropTalk
  split
  · rename_i drops
    rw [Bool.and_eq_true, decide_eq_true_iff] at drops
    rw [open_gate drops.1, Bool.not_true, Bool.or_false] at drops
    exact .inr ⟨drops.2, drops.2, rfl, rfl⟩
  · exact .inl rfl

theorem idle_effect (s : Speaker) {gate : Bool} (now : Nat)
    (open_gate : s.queue.count ≠ 0 → gate = true) :
    ∃ acts, Effect s (s.idle gate now) acts := by
  unfold Speaker.idle
  split
  · exact ⟨[], .quiet rfl rfl rfl rfl⟩
  · have recovered := recover_same s now
    have waits : (s.recover now).queue.count ≠ 0 → gate = true := by
      rw [recovered.queue]
      exact open_gate
    have dropped := dropSiren_same ((s.recover now).dropTalk gate) gate
    have begins := begin_effect (((s.recover now).dropTalk gate).dropSiren gate)
    rcases dropTalk_effect _ waits with same | ⟨-, faulted, queue, leased⟩
    · rw [same] at dropped begins ⊢
      exact ⟨[], (begins.after dropped).after recovered⟩
    · cases begins with
      | quiet beginQueue beginLeased beginTalker flight =>
          refine ⟨[.clear .fault], Effect.after (.clear ?_ ?_ ?_ flight) recovered⟩
          · rw [begin_faulted, dropSiren_faulted, faulted]
          · rw [beginQueue, dropped.queue, queue]
          · rw [beginLeased, dropped.leased, leased]

theorem next_effect (s : Speaker) : ∃ acts, Effect s s.next acts := by
  unfold Speaker.next
  split
  · split
    · exact ⟨[], .quiet rfl rfl rfl rfl⟩
    · exact ⟨[], .quiet rfl rfl rfl rfl⟩
  · split
    · exact ⟨[], .quiet rfl rfl rfl rfl⟩
    · exact ⟨[.play SPEAKER_FRAME], .play _ (Nat.le_refl _) rfl rfl rfl rfl⟩

theorem finished_nothing {s : Speaker} {now : Nat} (done : s.finished now = true) :
    s.queue.count = 0 := by
  unfold Speaker.finished at done
  split at done <;> simp_all

theorem inSession_effect (s : Speaker) (now : Nat) : ∃ acts, Effect s (s.inSession now) acts := by
  have expired := expire_same s now
  unfold Speaker.inSession
  split
  · rename_i done
    have ends : Effect (s.expire now) ((s.expire now).endSession false now) [.finish] :=
      .finish (finished_nothing done) rfl rfl (endSession_flight _ _ _)
    exact ⟨_, ends.after expired⟩
  · obtain ⟨acts, effect⟩ := next_effect (s.expire now)
    exact ⟨acts, effect.after expired⟩

theorem atHead_effect (s : Speaker) {gate : Bool} (now : Nat)
    (open_gate : s.queue.count ≠ 0 → gate = true) :
    ∃ acts, Effect s (s.atHead gate now) acts := by
  unfold Speaker.atHead
  split
  · exact ⟨[], .quiet rfl rfl rfl rfl⟩
  · split
    · exact inSession_effect s now
    · split
      · exact ⟨[], .quiet rfl rfl rfl rfl⟩
      · exact idle_effect s now open_gate

theorem afterRetry_effect (s : Speaker) {gate : Bool} (now : Nat) (muted : Bool)
    (open_gate : s.queue.count ≠ 0 → gate = true) :
    ∃ acts, Effect s (s.afterRetry gate now muted) acts := by
  have retried := noteRetry_same s muted
  have waits : (s.noteRetry muted).queue.count ≠ 0 → gate = true := by
    rw [retried.queue]
    exact open_gate
  obtain ⟨acts, effect⟩ := idle_effect _ now waits
  exact ⟨acts, effect.after retried⟩

theorem afterStart_effect (s : Speaker) (opened : Bool) (failure : Option String) (now : Nat) :
    ∃ acts, Effect s (s.afterStart opened failure now) acts := by
  have same := noteOpened_same s opened
  cases failure with
  | some error => exact ⟨_, (fault_effect _ _ _).after same⟩
  | none => exact ⟨[], same.effect rfl⟩

theorem afterWrite_effect (s : Speaker) (accepted : Bool) (now : Nat) :
    ∃ acts, Effect s (s.afterWrite accepted now) acts := by
  unfold Speaker.afterWrite
  split
  · exact ⟨[], .quiet rfl rfl rfl rfl⟩
  · split
    · exact ⟨_, fault_effect _ _ _⟩
    · exact ⟨[], .quiet rfl rfl rfl rfl⟩

theorem afterUnderrun_effect (s : Speaker) : Effect s s.afterUnderrun [] := by
  unfold Speaker.afterUnderrun
  refine .quiet rfl rfl rfl ?_
  split <;> rfl

theorem afterStop_effect (s : Speaker) (muted : Bool) : Effect s (s.afterStop muted) [] := by
  have restores : Effect (s.noteMute muted) (s.noteMute muted).restoreVolume [] := by
    refine .quiet rfl rfl rfl ?_
    unfold Speaker.restoreVolume
    dsimp only
    split <;> rfl
  exact restores.after (noteMute_same s muted)

/-! ### The simulation -/

theorem Effect.explains {s : Speaker} {next : Speaker × Stage} {acts : List Act}
    (effect : Effect s next acts) (outcome : Outcome) {after : State}
    (speaker : after.speaker = next.1) : Explains (.thread outcome) after acts := by
  cases effect with
  | quiet => exact .inl rfl
  | play count => exact .inr (.inl ⟨count, rfl⟩)
  | finish => exact .inr (.inr (.inl rfl))
  | clear faulted => exact .inr (.inr (.inr ⟨rfl, by rw [speaker]; exact faulted⟩))

/-- What waits on the list, from what waits in the ring. -/
theorem Refines.waiting_nil {state : State} {talk : Talk} (refines : Refines state talk)
    (nothing : state.speaker.queue.count = 0) : talk.fifo.waiting = [] := by
  have ring := RingQueue.toList_eq_nil.mpr nothing
  rw [refines.queue] at ring
  exact List.map_eq_nil_iff.mp ring

theorem Refines.length {state : State} {talk : Talk} (refines : Refines state talk) :
    talk.fifo.waiting.length = state.speaker.queue.count := by
  rw [← RingQueue.length_toList, refines.queue, List.length_map]

/-- A section of the thread is its acts on the list. -/
theorem Effect.simulates {state : State} {talk : Talk} {next : Speaker × Stage} {acts : List Act}
    (effect : Effect state.speaker next acts) (refines : Refines state talk)
    (landed : state.stage.inFlight = []) :
    ∃ after, runs Talk.act talk acts = some after ∧ Refines (state.locked next) after := by
  have played := refines.played
  rw [landed, List.append_nil] at played
  cases effect with
  | quiet queue leased talker flight =>
      refine ⟨talk, rfl, ?_, ?_, ?_, ?_⟩
      · rw [← refines.queue, ← queue]
        rfl
      · rw [refines.lease, ← leased, ← talker]
        rfl
      · show state.sink.talked ++ next.2.inFlight = _
        rw [flight, List.append_nil, played]
      · show next.1.queue.count ≠ 0 → _
        rw [queue]
        exact refines.gate
  | play count frame queue leased talker flight =>
      refine ⟨{ talk with fifo := talk.fifo.play count }, ?_, ?_, ?_, ?_, ?_⟩
      · show (Talk.act talk (.play count)).bind _ = _
        rw [Talk.act, if_pos frame]
        rfl
      · show next.1.queue.toList = (talk.fifo.waiting.drop count).map _
        rw [queue, RingQueue.toList_drop, refines.queue, List.map_drop]
      · rw [refines.lease, ← leased, ← talker]
        rfl
      · show state.sink.talked ++ next.2.inFlight =
          (talk.fifo.played ++ talk.fifo.waiting.take count).map _
        rw [flight, played, refines.queue, List.map_append, List.map_take]
      · show next.1.queue.count ≠ 0 → _
        rw [queue, RingQueue.count_drop]
        intro some
        exact refines.gate (by omega)
  | finish nothing queue leased flight =>
      have waiting := refines.waiting_nil nothing
      refine ⟨{ talk with lease := none }, ?_, ?_, ?_, ?_, ?_⟩
      · show (Talk.act talk .finish).bind _ = _
        rw [Talk.act, if_pos waiting]
        rfl
      · show next.1.queue.toList = talk.fifo.waiting.map _
        rw [queue, waiting]
        rfl
      · show none = if next.1.leased then _ else _
        rw [leased]
        rfl
      · show state.sink.talked ++ next.2.inFlight = _
        rw [flight, List.append_nil, played]
      · show next.1.queue.count ≠ 0 → _
        rw [queue]
        exact fun some => absurd rfl some
  | clear faulted queue leased flight =>
      refine ⟨⟨none, talk.fifo.keepOldest 0⟩, rfl, ?_, ?_, ?_, ?_⟩
      · show next.1.queue.toList = _
        rw [queue]
        rfl
      · show none = if next.1.leased then _ else _
        rw [leased]
        rfl
      · show state.sink.talked ++ next.2.inFlight = _
        rw [flight, List.append_nil, played]
        rfl
      · show next.1.queue.count ≠ 0 → _
        rw [queue]
        exact fun some => absurd rfl some

/-- An operation of the sink hands over what was in flight, and nothing else. -/
theorem operated_refines {state : State} {talk : Talk} (refines : Refines state talk) {sink : Sink}
    {stage : Stage}
    (hands : sink.talked ++ stage.inFlight = state.sink.talked ++ state.stage.inFlight) :
    Refines (state.operated sink stage) talk where
  queue := refines.queue
  lease := refines.lease
  played := hands.trans refines.played
  gate := refines.gate

theorem talked_setVolume (sink : Sink) (volume : Int) (outcome : Outcome) :
    (sink.setVolume volume outcome).talked = sink.talked := by
  unfold Sink.setVolume
  split <;> rfl

theorem talked_setAmplifier (sink : Sink) (on : Bool) (outcome : Outcome) :
    (sink.setAmplifier on outcome).talked = sink.talked := by
  unfold Sink.setAmplifier
  split <;> rfl

theorem talked_openOutput (sink : Sink) (volume : Int) (outcome : Outcome) :
    (sink.openOutput volume outcome).talked = sink.talked := by
  unfold Sink.openOutput
  split <;> rfl

theorem talked_write (sink : Sink) (source : Source) :
    (sink.write source).talked = sink.talked ++ source.talked := by
  simp [Sink.talked, Sink.write]

/-- The acts on the list that stand for a step of the thread. -/
def Simulated (state : State) (talk : Talk) (outcome : Outcome) : Prop :=
  ∃ acts after, Explains (.thread outcome) (state.threadStep outcome) acts ∧
    runs Talk.act talk acts = some after ∧ Refines (state.threadStep outcome) after

theorem section_simulated {state : State} {talk : Talk} {outcome : Outcome} {stage : Stage}
    {next : Speaker × Stage} {acts : List Act} (refines : Refines state talk)
    (stands : state.stage = stage) (landed : stage.inFlight = [])
    (stepped : state.threadStep outcome = state.locked next)
    (effect : Effect state.speaker next acts) : Simulated state talk outcome := by
  rw [← stands] at landed
  obtain ⟨after, ran, kept⟩ := effect.simulates refines landed
  unfold Simulated
  rw [stepped]
  exact ⟨acts, after, effect.explains outcome rfl, ran, kept⟩

theorem operation_simulated {state : State} {talk : Talk} {outcome : Outcome} {stage next : Stage}
    {sink : Sink} (refines : Refines state talk) (stands : state.stage = stage)
    (stepped : state.threadStep outcome = state.operated sink next)
    (hands : sink.talked ++ next.inFlight = state.sink.talked ++ stage.inFlight) :
    Simulated state talk outcome := by
  rw [← stands] at hands
  unfold Simulated
  rw [stepped]
  exact ⟨[], talk, .inl rfl, rfl, operated_refines refines hands⟩

theorem thread_simulated {state : State} {talk : Talk} (refines : Refines state talk)
    (outcome : Outcome) : Simulated state talk outcome := by
  cases stage : state.stage with
  | head =>
      obtain ⟨acts, effect⟩ := atHead_effect state.speaker state.clock refines.gate
      exact section_simulated refines stage rfl (by rw [State.threadStep, stage]) effect
  | retried now muted =>
      obtain ⟨acts, effect⟩ := afterRetry_effect state.speaker now muted refines.gate
      exact section_simulated refines stage rfl (by rw [State.threadStep, stage]) effect
  | started opened failure =>
      obtain ⟨acts, effect⟩ := afterStart_effect state.speaker opened failure state.clock
      exact section_simulated refines stage rfl (by rw [State.threadStep, stage]) effect
  | underrun =>
      exact section_simulated refines stage rfl (by rw [State.threadStep, stage])
        (afterUnderrun_effect state.speaker)
  | leveled =>
      exact section_simulated refines stage rfl (by rw [State.threadStep, stage])
        (.quiet rfl rfl rfl rfl)
  | wrote accepted =>
      obtain ⟨acts, effect⟩ := afterWrite_effect state.speaker accepted state.clock
      exact section_simulated refines stage rfl (by rw [State.threadStep, stage]) effect
  | stopped muted =>
      exact section_simulated refines stage rfl (by rw [State.threadStep, stage])
        (afterStop_effect state.speaker muted)
  | settling =>
      exact @operation_simulated _ _ _ _ .head state.sink refines stage
        (by rw [State.threadStep, stage]; rfl) rfl
  | retrying now =>
      exact operation_simulated refines stage (by rw [State.threadStep, stage])
        (by rw [talked_setAmplifier]; rfl)
  | idleClosing =>
      refine operation_simulated refines stage (by rw [State.threadStep, stage]) ?_
      rfl
  | opening volume =>
      refine operation_simulated refines stage (by rw [State.threadStep, stage]) ?_
      rw [talked_openOutput]
      split <;> rfl
  | switching =>
      exact operation_simulated refines stage (by rw [State.threadStep, stage])
        (by rw [talked_setAmplifier]; rfl)
  | leveling gain =>
      exact operation_simulated refines stage (by rw [State.threadStep, stage])
        (by rw [talked_setVolume]; rfl)
  | writing source =>
      exact operation_simulated refines stage (by rw [State.threadStep, stage])
        (by rw [talked_write]; exact List.append_nil _)
  | quieting more =>
      refine operation_simulated refines stage (by rw [State.threadStep, stage]) ?_
      rw [talked_write]
      split <;> simp [Source.talked, Stage.inFlight]
  | muting closing =>
      refine operation_simulated refines stage (by rw [State.threadStep, stage]) ?_
      rw [talked_setAmplifier]
      split <;> rfl
  | closing muted =>
      refine operation_simulated refines stage (by rw [State.threadStep, stage]) ?_
      rfl
  | restoring volume =>
      exact operation_simulated refines stage (by rw [State.threadStep, stage])
        (by rw [talked_setVolume]; rfl)
  | leaving mute close =>
      cases mute with
      | true =>
          exact operation_simulated refines stage (by rw [State.threadStep, stage])
            (by rw [talked_setAmplifier]; rfl)
      | false =>
          cases close with
          | true =>
              refine operation_simulated refines stage (by rw [State.threadStep, stage]) ?_
              rfl
          | false =>
              exact @operation_simulated _ _ _ _ .done state.sink refines stage
                (by rw [State.threadStep, stage]; rfl) rfl
  | done =>
      refine ⟨[], talk, .inl rfl, rfl, ?_⟩
      rw [State.threadStep, stage]
      exact refines

theorem runs_one {talk after : Talk} {act : Act} (acted : talk.act act = some after) :
    runs Talk.act talk [act] = some after := by
  rw [runs, acted]
  rfl

theorem dropOldest_queue (s : Speaker) (bytes : Nat) :
    (s.dropOldest bytes).queue = s.queue.drop bytes := rfl

theorem makeRoom_toList (queue : RingQueue QUEUE_BYTES UInt8) (size : Nat) :
    (makeRoom queue size).toList = queue.toList.drop (queue.count + size - QUEUE_BYTES) := by
  unfold makeRoom
  by_cases full : queue.count + size > QUEUE_BYTES
  · rw [if_pos full, RingQueue.toList_drop]
  · have none : queue.count + size - QUEUE_BYTES = 0 := by omega
    rw [if_neg full, none, List.drop_zero]

/-- The queue after a submission: behind what waits, without the oldest that no longer fit. -/
theorem enqueue_toList (s : Speaker) (pcma : Bytes) (small : pcma.length ≤ 8000) :
    (s.enqueue pcma small).queue.toList =
      (s.queue.toList ++ pcma).drop (s.queue.count + pcma.length - QUEUE_BYTES) := by
  have short : s.queue.count + pcma.length - QUEUE_BYTES ≤ s.queue.toList.length := by
    rw [RingQueue.length_toList]
    unfold QUEUE_BYTES
    omega
  rw [List.drop_append_of_le_length short, ← makeRoom_toList]
  exact RingQueue.toList_push _ _ (makeRoom_room s.queue small)

theorem trim_cases (s : Speaker) (http : Bool) :
    s.trim http = s ∨ (http = false ∧ s.queue.count > TRIM_ABOVE ∧
      s.trim http = s.dropOldest (s.queue.count - TRIM_TO)) := by
  unfold Speaker.trim
  split
  · rename_i ahead
    rw [Bool.and_eq_true, Bool.not_eq_true', decide_eq_true_iff] at ahead
    exact .inr ⟨ahead.1, ahead.2, rfl⟩
  · exact .inl rfl

/-- The list after an acceptance that its lease allows. -/
def Talk.accepted (talk : Talk) (talker : Talker) (bytes : Bytes) : Talk :=
  ⟨some talker, (talk.fifo.accept (bytes.map fun byte => (byte, talker))).dropOldest
    (talk.fifo.waiting.length + bytes.length - QUEUE_BYTES)⟩

theorem Talk.accepted_waiting (talk : Talk) (talker : Talker) (bytes : Bytes) :
    (talk.accepted talker bytes).fifo.waiting.map (fun entry => entry.1.1) =
      (talk.fifo.waiting.map (fun entry => entry.1.1) ++ bytes).drop
        (talk.fifo.waiting.length + bytes.length - QUEUE_BYTES) := by
  have items := Fifo.waiting_accept talk.fifo (bytes.map fun byte => (byte, talker))
  have whole := congrArg (List.map Prod.fst) items
  simp only [List.map_append, List.map_map, Function.comp_def, List.map_id'] at whole
  rw [Talk.accepted, Fifo.waiting_dropOldest, List.map_drop, whole]

theorem Talk.act_accept {talk : Talk} {talker : Talker}
    (allowed : talk.lease = none ∨ talk.lease = some talker) (bytes : Bytes) :
    talk.act (.accept talker bytes) = some (talk.accepted talker bytes) := by
  rw [Talk.act, if_pos allowed, Talk.accepted]

/-- What an accepted submission leaves, before a backchannel is cut back. -/
theorem enqueue_simulated {state : State} {talk : Talk} (refines : Refines state talk)
    {talker : Talker} {pcma : Bytes} (small : pcma.length ≤ 8000) (gate : state.gate = true)
    (free : state.speaker.leased = true → state.speaker.talker = talker) :
    ∃ after, talk.act (.accept talker pcma) = some after ∧
      Refines { state with speaker := (state.speaker.lease talker).enqueue pcma small } after := by
  have allowed : talk.lease = none ∨ talk.lease = some talker := by
    rw [refines.lease]
    cases leased : state.speaker.leased with
    | false => exact .inl rfl
    | true => exact .inr (by rw [if_pos rfl, free leased])
  refine ⟨talk.accepted talker pcma, Talk.act_accept allowed pcma, ?_, ?_, refines.played,
    fun _ => gate⟩
  · have same : (state.speaker.lease talker).queue = state.speaker.queue := rfl
    rw [Talk.accepted_waiting, refines.length, ← refines.queue, enqueue_toList, same]
  · show some talker = some (if state.speaker.leased then state.speaker.talker else talker)
    cases leased : state.speaker.leased with
    | false => rfl
    | true => rw [if_pos rfl, free leased]

/-- What `trim` does to the list. -/
theorem trim_simulated {state : State} {talk : Talk} {s : Speaker} {http : Bool}
    (refines : Refines { state with speaker := s } talk) :
    (s.trim http = s) ∨
      (http = false ∧ ∃ after, talk.act .cutBack = some after ∧
        Refines { state with speaker := s.trim http } after) := by
  rcases trim_cases s http with same | ⟨rtsp, ahead, cut⟩
  · exact .inl same
  · refine .inr ⟨rtsp, ?_⟩
    have length := refines.length
    rw [cut]
    refine ⟨{ talk with fifo := talk.fifo.dropOldest (s.queue.count - TRIM_TO) }, ?_, ?_, ?_,
      refines.played, ?_⟩
    · rw [Talk.act, length, if_pos ahead]
    · have ring : s.queue.toList = talk.fifo.waiting.map fun entry => entry.1.1 := refines.queue
      simp only [dropOldest_queue, RingQueue.toList_drop, Fifo.waiting_dropOldest, List.map_drop,
        ring]
    · exact refines.lease
    · intro some
      apply refines.gate
      show s.queue.count ≠ 0
      unfold TRIM_ABOVE at ahead
      omega

theorem submit_simulated {state : State} {talk : Talk} (refines : Refines state talk)
    (talker : Talker) (http : Bool) (pcma : Bytes) :
    ∃ acts after, Explains (.submit talker http pcma) (state.talkSubmit talker http pcma).2 acts ∧
      runs Talk.act talk acts = some after ∧
        Refines (state.talkSubmit talker http pcma).2 after := by
  rcases talkSubmit_cases state talker http pcma with
    ⟨error, refused, is⟩ | ⟨small, gate, -, free, is⟩
  · rw [is]
    exact ⟨[], talk, .inl rfl, rfl, refines.queue, refines.lease, refines.played, refines.gate⟩
  · rw [is]
    obtain ⟨queued, acted, enqueued⟩ := enqueue_simulated refines small gate free
    rcases @trim_simulated state _ _ http enqueued with same | ⟨rtsp, after, cut, kept⟩
    · refine ⟨_, queued, .inr (.inl rfl), runs_one acted, ?_, ?_, enqueued.played, fun _ => gate⟩
      · rw [← enqueued.queue]
        exact congrArg (fun s => s.queue.toList) same
      · rw [enqueued.lease]
        exact congrArg (fun s => if s.leased then some s.talker else none) same.symm
    · refine ⟨_, after, .inr (.inr ⟨rtsp, rfl⟩), ?_, kept.queue, kept.lease, kept.played,
        kept.gate⟩
      rw [runs, acted]
      exact runs_one cut

/-- A call that leaves talkers, what was written and the thread as they are. -/
theorem Refines.same {state after : State} {talk : Talk} (refines : Refines state talk)
    (talkers : SameTalk state.speaker after.speaker) (stage : after.stage = state.stage)
    (sink : after.sink.talked = state.sink.talked) (gate : state.gate = true → after.gate = true) :
    Refines after talk where
  queue := by rw [← refines.queue, talkers.queue]
  lease := by rw [refines.lease, talkers.leased, talkers.talker]
  played := by rw [← refines.played, stage, sink]
  gate some := by
    rw [talkers.queue] at some
    exact gate (refines.gate some)

theorem release_simulated {state : State} {talk : Talk} (refines : Refines state talk)
    (owner : UInt64) :
    ∃ acts after, Explains (.release owner) (state.talkRelease owner) acts ∧
      runs Talk.act talk acts = some after ∧ Refines (state.talkRelease owner) after := by
  unfold State.talkRelease
  split
  · unfold Speaker.release
    split
    · rename_i held
      have leased : state.speaker.leased = true := (Bool.and_eq_true_iff.mp held).1
      have lease : talk.lease ≠ none := by
        rw [refines.lease, leased]
        exact fun nobody => by cases nobody
      refine ⟨[.release], { talk with fifo := talk.fifo.keepOldest RELEASE_TAIL }, .inr rfl,
        runs_one (if_neg lease), ?_, refines.lease, refines.played, ?_⟩
      · rw [RingQueue.toList_truncate, Fifo.waiting_keepOldest, List.map_take, refines.queue]
      · intro some
        apply refines.gate
        intro none
        rw [RingQueue.count_truncate, none] at some
        exact some (Nat.min_zero _)
    · exact ⟨[], talk, .inl rfl, rfl, refines⟩
  · exact ⟨[], talk, .inl rfl, rfl, refines⟩

theorem sirenStart_simulated {state : State} {talk : Talk} (refines : Refines state talk)
    (sound seconds : Nat) (percent : Int) :
    ∃ acts after,
      Explains (.sirenStart sound seconds percent) (state.sirenStart sound seconds percent).2 acts ∧
        runs Talk.act talk acts = some after ∧
        Refines (state.sirenStart sound seconds percent).2 after := by
  unfold State.sirenStart
  split
  · exact ⟨[], talk, .inl rfl, rfl, refines⟩
  · split
    · exact ⟨[], talk, .inl rfl, rfl, refines⟩
    · split
      · exact ⟨[], talk, .inl rfl, rfl, refines⟩
      · split
        · exact ⟨[], talk, .inl rfl, rfl, refines⟩
        · exact ⟨[.clear .siren], ⟨none, talk.fifo.keepOldest 0⟩, .inr rfl, rfl, rfl, rfl,
            refines.played, fun some => absurd rfl some⟩

theorem sirenStop_refines {state : State} {talk : Talk} (refines : Refines state talk) :
    Refines state.sirenStop talk := by
  unfold State.sirenStop
  split
  · exact refines.same ⟨rfl, rfl, rfl⟩ rfl rfl id
  · exact refines

theorem setVolume_refines {state : State} {talk : Talk} (refines : Refines state talk)
    (volume : Int) : Refines (state.setVolume volume).2 talk := by
  unfold State.setVolume
  split
  · exact refines
  · split
    · exact refines
    · exact refines.same ⟨rfl, rfl, rfl⟩ rfl rfl id

theorem stop_refines {state : State} {talk : Talk} (refines : Refines state talk) :
    Refines state.stop talk := by
  unfold State.stop
  split
  · exact refines.same ⟨rfl, rfl, rfl⟩ rfl rfl id
  · exact refines

/-- Every step of the service is its acts on the list. -/
theorem step_simulated {state after : State} {talk : Talk} {event : Event}
    (refines : Refines state talk) (stepped : step state event = some after) :
    ∃ acts next, Explains event after acts ∧ runs Talk.act talk acts = some next ∧
      Refines after next := by
  cases event with
  | passes time =>
      cases stepped
      exact ⟨[], talk, rfl, rfl, refines.same (.refl _) rfl rfl id⟩
  | gateOpens =>
      cases stepped
      exact ⟨[], talk, rfl, rfl, refines.same (.refl _) rfl rfl fun _ => rfl⟩
  | submit talker http pcma =>
      rw [← free_eq_some stepped]
      exact submit_simulated refines talker http pcma
  | release owner =>
      rw [← free_eq_some stepped]
      exact release_simulated refines owner
  | sirenStart sound seconds percent =>
      rw [← free_eq_some stepped]
      exact sirenStart_simulated refines sound seconds percent
  | sirenStop =>
      rw [← free_eq_some stepped]
      exact ⟨[], talk, rfl, rfl, sirenStop_refines refines⟩
  | setVolume volume =>
      rw [← free_eq_some stepped]
      exact ⟨[], talk, rfl, rfl, setVolume_refines refines volume⟩
  | volumeSet outcome =>
      obtain ⟨volume, -, rfl⟩ := Option.map_eq_some_iff.mp stepped
      exact ⟨[], talk, rfl, rfl,
        refines.same (.refl _) rfl (talked_setVolume _ _ _) id⟩
  | stop =>
      rw [← free_eq_some stepped]
      exact ⟨[], talk, rfl, rfl, stop_refines refines⟩
  | thread outcome =>
      cases stepped
      exact thread_simulated refines outcome

/-! ### Whole runs -/

/-- The service and the list, step by step. -/
def pairStep (pair : State × Talk) (entry : Event × List Act) (after : State × Talk) : Prop :=
  step pair.1 entry.1 = some after.1 ∧ Explains entry.1 after.1 entry.2 ∧
    runs Talk.act pair.2 entry.2 = some after.2

theorem runs_sound {talk after : Talk} {acts : List Act} (sound : talk.Sound)
    (ran : runs Talk.act talk acts = some after) : after.Sound :=
  (run_of_runs ran).preserves (fun _ _ _ kept acted => kept.act acted) sound

theorem pairStep_sound {pair after : State × Talk} {entry : Event × List Act}
    (sound : pair.2.Sound) (stepped : pairStep pair entry after) : after.2.Sound :=
  runs_sound sound stepped.2.2

theorem initial_refines (gate : Bool) (clock : Nat) :
    Refines (State.initial gate clock) Talk.empty :=
  ⟨rfl, rfl, rfl, fun some => absurd rfl some⟩

theorem run_simulated {start final : State} {talk : Talk} {events : List Event}
    (refines : Refines start talk) (ran : runs step start events = some final) :
    ∃ history after, history.map Prod.fst = events ∧
      Run pairStep (start, talk) history (final, after) ∧ Refines final after := by
  induction events generalizing start talk with
  | nil =>
      cases ran
      exact ⟨[], talk, rfl, .nil _, refines⟩
  | cons event events inductionHypothesis =>
      obtain ⟨middle, stepped, rest⟩ := Option.bind_eq_some_iff.mp ran
      obtain ⟨acts, next, explained, acted, kept⟩ := step_simulated refines stepped
      obtain ⟨history, after, same, run, ends⟩ := inductionHypothesis kept rest
      refine ⟨(event, acts) :: history, after, by rw [List.map_cons, same], ?_, ends⟩
      exact .cons ⟨stepped, explained, acted⟩ run

/-- Every run of the service, from its start, keeps the queue as a list: what is in the
ring is what waits on it, and what the sink was given, with the frame on its way to it, is
what came out of it. In it bytes wait for the holder of the lease alone, at most
`QUEUE_BYTES` of them, and come out in the order they were accepted in, once each. -/
theorem queue_refines_list (gate : Bool) (clock : Nat) (events : List Event) (final : State)
    (ran : runs step (State.initial gate clock) events = some final) :
    ∃ (history : List (Event × List Act)) (talk : Talk),
      history.map Prod.fst = events ∧
      Run pairStep (State.initial gate clock, Talk.empty) history (final, talk) ∧
      Refines final talk ∧
      final.speaker.queue.head < QUEUE_BYTES ∧ final.speaker.queue.count ≤ QUEUE_BYTES ∧
      List.Sublist (talk.fifo.played ++ talk.fifo.waiting) talk.fifo.accepted.zipIdx ∧
      (talk.fifo.played.map Prod.snd).Pairwise (· < ·) ∧
      ∀ entry ∈ talk.fifo.waiting, talk.lease = some entry.1.2 := by
  obtain ⟨history, talk, same, run, refines⟩ := run_simulated (initial_refines gate clock) ran
  have sound : talk.Sound :=
    run.preserves (fun _ _ _ kept stepped => pairStep_sound kept stepped) Talk.empty_sound
  exact ⟨history, talk, same, run, refines, final.speaker.queue.headInside,
    final.speaker.queue.countInside, sound.ordered, sound.ordered.places_ascend, sound.owned⟩

/-- A talker says two bytes through a speaker that works. -/
def shortTalk : List Event :=
  [.gateOpens, .submit ⟨1, 1⟩ true [1, 2]] ++ List.replicate 7 (.thread ⟨true, true, ""⟩)

theorem shortTalk_refines :
    ∃ final talk, runs step (State.initial false 0) shortTalk = some final ∧
      final.sink.talked = [1, 2] ∧ Refines final talk := by
  obtain ⟨-, talk, -, -, refines, -⟩ := queue_refines_list false 0 shortTalk _ rfl
  exact ⟨_, talk, rfl, by decide +kernel, refines⟩

/-- A long backchannel submission into an empty queue is cut back. -/
theorem accept_count {s : Speaker} (now : Nat) (talker : Talker) {pcma : Bytes}
    (small : pcma.length ≤ 8000) (empty : s.queue.count = 0) (ahead : pcma.length > TRIM_ABOVE) :
    (s.accept now talker false pcma small).queue.count = TRIM_TO := by
  have room : (makeRoom s.queue pcma.length).count = 0 := by
    unfold makeRoom
    split
    · rw [RingQueue.count_drop, empty, Nat.zero_sub]
    · exact empty
  have count : ((s.lease talker).enqueue pcma small).queue.count = pcma.length := by
    show (makeRoom s.queue pcma.length).count + pcma.length = _
    rw [room, Nat.zero_add]
  have kept : TRIM_TO ≤ TRIM_ABOVE := by
    unfold TRIM_TO
    decide
  show (((s.lease talker).enqueue pcma small).trim false).queue.count = TRIM_TO
  unfold Speaker.trim
  rw [count, if_pos (by simpa using ahead), dropOldest_queue, RingQueue.count_drop, count]
  omega

/-- Six hundred milliseconds and one sample at once. -/
def burst : Bytes := List.replicate 4801 0xd5

/-- A backchannel that runs ahead loses its oldest bytes though all of them fit. -/
theorem burst_cut_back :
    ∃ state, runs step (State.initial true 0) [.submit ⟨1, 1⟩ false burst] = some state ∧
      state.speaker.queue.count = 2400 ∧ burst.length ≤ QUEUE_BYTES := by
  have length : burst.length = 4801 := List.length_replicate
  have small : burst.length ≤ 8000 := by omega
  have given : ¬(burst = [] ∨ burst.length > 8000) := by
    rintro (none | large)
    · rw [none] at length
      cases length
    · omega
  refine ⟨{ State.initial true 0 with
    speaker := (Speaker.initial true).accept 0 ⟨1, 1⟩ false burst small }, ?_, ?_, ?_⟩
  · have accepted : ((State.initial true 0).talkSubmit ⟨1, 1⟩ false burst).2 =
        { State.initial true 0 with
          speaker := (Speaker.initial true).accept 0 ⟨1, 1⟩ false burst small } := by
      unfold State.talkSubmit
      rw [dif_neg given]
      rfl
    show (some ((State.initial true 0).talkSubmit ⟨1, 1⟩ false burst).2).bind _ = _
    rw [accepted]
    rfl
  · have count := @accept_count (Speaker.initial true) 0 ⟨1, 1⟩ burst small rfl
      (by rw [length]; decide)
    rw [count]
    unfold TRIM_TO
    rfl
  · rw [length]
    unfold QUEUE_BYTES
    decide

end JooanW3U.Media.SpeakerService
