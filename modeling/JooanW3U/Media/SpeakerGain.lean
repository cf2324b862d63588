import JooanW3U.Media.Speaker
import Mathlib.Tactic.ByContra

/-!
Owns the gain of the speaker service: when the output may be at a gain that is not the
configured volume, and which steps make a talker be heard at it. Main result: in a run
without such steps every frame of a talker is written at the configured volume.

Does not own the sound of a siren, which may be written at any gain.
-/

namespace JooanW3U.Media.SpeakerService

open JooanW3U.Library

/-! ### Steps that can leave a wrong gain -/

/-- The thread is about to change the gain for a siren, or to say so. -/
def Stage.levels : Stage → Bool
  | .leveling _ => true
  | .leveled => true
  | _ => false

/-- The output is being opened, or has been and the thread has not said so. -/
def Stage.opens : Stage → Bool
  | .opening _ => true
  | .switching => true
  | .started opened _ => opened
  | _ => false

def Stage.talks : Stage → Bool
  | .writing (.talker _) => true
  | _ => false

/-- Were no siren on and no volume to be put back, a talker would be heard at the
configured volume. -/
def State.atVolume (state : State) : Bool :=
  match state.stage with
  | .opening volume => volume = state.speaker.volume
  | .leveling _ => true
  | .leveled => true
  | .restoring _ => true
  | stage =>
      !(stage.opens || state.speaker.opened) || state.sink.gain = some state.speaker.volume

/-- A new volume that no call of the sink follows: the output is being opened for a
talker, or a siren has come on with a talker's frame on its way to the sink. -/
def State.volumeUnheard (state : State) : Bool :=
  (state.stage.opens && !state.speaker.opened && !state.speaker.sirenOn) ||
    (state.stage.talks && state.speaker.sirenOn)

/-- A step after which a talker is not heard at another gain than the configured
volume. -/
def careful (state : State) : Event → Bool
  | .submit talker http pcma =>
      -- A siren was stopped, and its session goes on with the talker.
      (state.talkSubmit talker http pcma).1 ≠ none ||
        !(state.speaker.session && (state.speaker.volumeRestore || state.stage.levels))
  | .sirenStop =>
      -- A siren is stopped before its first frame, and nothing puts the volume back.
      !state.speaker.sirenOn || state.speaker.volumeRestore || state.atVolume
  | .setVolume volume =>
      (state.setVolume volume).1 ≠ none || volume = state.speaker.volume || !state.volumeUnheard
  | .volumeSet outcome => outcome.applied || state.sink.gain = some state.speaker.volume
  | .thread outcome =>
      match state.stage with
      | .head =>
          -- A siren's time is over before its first frame.
          !(state.speaker.session && state.speaker.sirenOn &&
              state.clock ≥ state.speaker.sirenUntil) ||
            state.speaker.volumeRestore || state.atVolume
      | .opening _ => !outcome.ok || outcome.applied || state.speaker.sirenOn
      | .restoring volume =>
          state.speaker.sirenOn || state.setting.isSome ||
            (outcome.applied && volume = state.speaker.volume)
      | .writing (.talker _) =>
          state.setting.isNone || state.sink.gain = some state.speaker.volume
      | _ => true
  | _ => true

/-! ### The gain wherever the thread stands -/

/-- The gain is the configured volume, or a call of `set_volume` is about to make it so. -/
def Right (state : State) : Prop :=
  state.setting = none → state.sink.gain = some state.speaker.volume

/-- In a session with its output open. After a siren nothing waits until the volume is
back. -/
structure Busy (state : State) : Prop where
  session : state.speaker.session = true
  opened : state.speaker.opened = true
  owes : state.speaker.sirenOn = false → state.speaker.volumeRestore = true →
    state.speaker.queue.count = 0
  right : state.speaker.sirenOn = false → state.speaker.volumeRestore = false → Right state

/-- Without a session, with no volume to be put back. -/
structure Ended (state : State) : Prop where
  session : state.speaker.session = false
  restored : state.speaker.volumeRestore = false
  right : state.speaker.opened = true → state.speaker.sirenOn = false → Right state

/-- With an open output, at the start of a session. -/
structure Starting (state : State) : Prop where
  session : state.speaker.session = true
  restored : state.speaker.volumeRestore = false
  opened : state.sink.opened = true
  right : state.speaker.sirenOn = false → Right state

/-- At the end of a session. -/
structure Stopping (state : State) : Prop where
  session : state.speaker.session = false
  right : state.speaker.opened = true → state.speaker.sirenOn = false →
    state.speaker.volumeRestore = false → Right state

def GainAt (state : State) : Stage → Prop
  | .head =>
      (state.speaker.session = true → Busy state) ∧ (state.speaker.session = false → Ended state)
  | .retrying _ => Ended state
  | .retried _ _ => Ended state
  | .idleClosing => Ended state ∧ state.speaker.opened = false
  | .opening volume =>
      state.speaker.session = true ∧ state.speaker.volumeRestore = false ∧
        state.speaker.opened = false ∧
        (state.speaker.sirenOn = false → volume = state.speaker.volume)
  | .switching => Starting state
  | .started true _ => Starting state
  | .started false failure =>
      state.speaker.session = true ∧ state.speaker.opened = false ∧ failure ≠ none
  | .settling => Busy state
  | .underrun => Busy state
  | .leveling _ =>
      state.speaker.session = true ∧ state.speaker.opened = true ∧
        (state.speaker.sirenOn = false → state.speaker.queue.count = 0)
  | .leveled =>
      state.speaker.session = true ∧ state.speaker.opened = true ∧
        (state.speaker.sirenOn = false → state.speaker.queue.count = 0)
  | .writing source => Busy state ∧ ((Stage.writing source).talks = true → Right state)
  | .wrote _ => Busy state
  | .quieting _ => Stopping state
  | .muting closing => Stopping state ∧ (closing = true → state.speaker.opened = false)
  | .closing _ => Stopping state ∧ state.speaker.opened = false
  | .stopped _ => Stopping state
  | .restoring _ =>
      state.speaker.session = false ∧ state.speaker.volumeRestore = false ∧
        state.speaker.opened = true
  | .leaving _ _ => state.speaker.opened = false
  | .done => True

/-- What holds wherever the thread stands. -/
structure Steady (state : State) : Prop where
  alone : state.speaker.sirenOn = true → state.speaker.queue.count = 0
  gate : state.speaker.sirenOn = true → state.gate = true
  setting : ∀ volume, state.setting = some volume → volume = state.speaker.volume
  output : state.speaker.opened = true → state.sink.opened = true
  faulted : state.speaker.faulted = true →
    state.speaker.session = false ∧ state.speaker.opened = false

structure Level (state : State) : Prop where
  steady : Steady state
  stage : GainAt state state.stage

/-! ### Calls of other threads -/

/-- A call that ends no siren and leaves the flags of the thread as they are. -/
structure Carries (state after : State) : Prop where
  stage : after.stage = state.stage
  session : after.speaker.session = state.speaker.session
  opened : after.speaker.opened = state.speaker.opened
  restore : after.speaker.volumeRestore = state.speaker.volumeRestore
  output : after.sink.opened = state.sink.opened
  siren : after.speaker.sirenOn = false → state.speaker.sirenOn = false
  nothing : after.speaker.sirenOn = false → state.speaker.session = true →
    (state.speaker.volumeRestore = true ∨ state.stage.levels = true) →
    state.speaker.queue.count = 0 → after.speaker.queue.count = 0
  right : (state.speaker.opened = true ∨
      (state.stage.opens = true ∧ state.sink.opened = true)) →
    (after.speaker.sirenOn = false ∨ state.stage.talks = true) → Right state → Right after
  volume : after.speaker.sirenOn = false → state.stage.opens = true →
    state.speaker.opened = false → after.speaker.volume = state.speaker.volume

theorem Carries.busy {state after : State} (carries : Carries state after) (busy : Busy state) :
    Busy after where
  session := carries.session.trans busy.session
  opened := carries.opened.trans busy.opened
  owes quiet restore := by
    rw [carries.restore] at restore
    exact carries.nothing quiet busy.session (.inl restore) (busy.owes (carries.siren quiet) restore)
  right quiet restored := by
    rw [carries.restore] at restored
    exact carries.right (.inl busy.opened) (.inl quiet) (busy.right (carries.siren quiet) restored)

theorem Carries.ended {state after : State} (carries : Carries state after) (ended : Ended state) :
    Ended after where
  session := carries.session.trans ended.session
  restored := carries.restore.trans ended.restored
  right opened quiet := by
    rw [carries.opened] at opened
    exact carries.right (.inl opened) (.inl quiet) (ended.right opened (carries.siren quiet))

theorem Carries.starting {state after : State} (carries : Carries state after)
    (opens : state.stage.opens = true) (starting : Starting state) : Starting after where
  session := carries.session.trans starting.session
  restored := carries.restore.trans starting.restored
  opened := carries.output.trans starting.opened
  right quiet :=
    carries.right (.inr ⟨opens, starting.opened⟩) (.inl quiet) (starting.right (carries.siren quiet))

theorem Carries.stopping {state after : State} (carries : Carries state after)
    (stopping : Stopping state) : Stopping after where
  session := carries.session.trans stopping.session
  right opened quiet restored := by
    rw [carries.opened] at opened
    rw [carries.restore] at restored
    exact carries.right (.inl opened) (.inl quiet)
      (stopping.right opened (carries.siren quiet) restored)

theorem Carries.gainAt {state after : State} (carries : Carries state after)
    (at_stage : GainAt state state.stage) : GainAt after after.stage := by
  rw [carries.stage]
  cases stage : state.stage with
  | head =>
      rw [stage] at at_stage
      refine ⟨fun session => ?_, fun session => ?_⟩
      · rw [carries.session] at session
        exact carries.busy (at_stage.1 session)
      · rw [carries.session] at session
        exact carries.ended (at_stage.2 session)
  | retrying now => rw [stage] at at_stage; exact carries.ended at_stage
  | retried now muted => rw [stage] at at_stage; exact carries.ended at_stage
  | idleClosing =>
      rw [stage] at at_stage
      exact ⟨carries.ended at_stage.1, carries.opened.trans at_stage.2⟩
  | opening volume =>
      have opens : state.stage.opens = true := by rw [stage]; rfl
      rw [stage] at at_stage
      obtain ⟨session, restored, closed, same⟩ := at_stage
      refine ⟨carries.session.trans session, carries.restore.trans restored,
        carries.opened.trans closed, fun quiet => ?_⟩
      rw [carries.volume quiet opens closed]
      exact same (carries.siren quiet)
  | switching =>
      have opens : state.stage.opens = true := by rw [stage]; rfl
      rw [stage] at at_stage
      exact carries.starting opens at_stage
  | started opened failure =>
      cases opened with
      | true =>
          have opens : state.stage.opens = true := by rw [stage]; rfl
          rw [stage] at at_stage
          exact carries.starting opens at_stage
      | false =>
          rw [stage] at at_stage
          exact ⟨carries.session.trans at_stage.1, carries.opened.trans at_stage.2.1, at_stage.2.2⟩
  | settling => rw [stage] at at_stage; exact carries.busy at_stage
  | underrun => rw [stage] at at_stage; exact carries.busy at_stage
  | leveling gain =>
      have levels : state.stage.levels = true := by rw [stage]; rfl
      rw [stage] at at_stage
      obtain ⟨session, opened, nothing⟩ := at_stage
      exact ⟨carries.session.trans session, carries.opened.trans opened, fun quiet =>
        carries.nothing quiet session (.inr levels) (nothing (carries.siren quiet))⟩
  | leveled =>
      have levels : state.stage.levels = true := by rw [stage]; rfl
      rw [stage] at at_stage
      obtain ⟨session, opened, nothing⟩ := at_stage
      exact ⟨carries.session.trans session, carries.opened.trans opened, fun quiet =>
        carries.nothing quiet session (.inr levels) (nothing (carries.siren quiet))⟩
  | writing source =>
      rw [stage] at at_stage
      refine ⟨carries.busy at_stage.1, fun talks => ?_⟩
      have talking : state.stage.talks = true := by rw [stage]; exact talks
      exact carries.right (.inl at_stage.1.opened) (.inr talking) (at_stage.2 talks)
  | wrote accepted => rw [stage] at at_stage; exact carries.busy at_stage
  | quieting more => rw [stage] at at_stage; exact carries.stopping at_stage
  | muting closing =>
      rw [stage] at at_stage
      exact ⟨carries.stopping at_stage.1, fun closes => carries.opened.trans (at_stage.2 closes)⟩
  | closing muted =>
      rw [stage] at at_stage
      exact ⟨carries.stopping at_stage.1, carries.opened.trans at_stage.2⟩
  | stopped muted => rw [stage] at at_stage; exact carries.stopping at_stage
  | restoring volume =>
      rw [stage] at at_stage
      exact ⟨carries.session.trans at_stage.1, carries.restore.trans at_stage.2.1,
        carries.opened.trans at_stage.2.2⟩
  | leaving mute close => rw [stage] at at_stage; exact carries.opened.trans at_stage
  | done => trivial

/-- A step that leaves the siren, the volume, the flags and the sink as they are, and puts
nothing in the queue after a siren. -/
theorem Level.of_same {state after : State} (level : Level state)
    (stage : after.stage = state.stage) (sink : after.sink = state.sink)
    (setting : after.setting = state.setting)
    (session : after.speaker.session = state.speaker.session)
    (opened : after.speaker.opened = state.speaker.opened)
    (restore : after.speaker.volumeRestore = state.speaker.volumeRestore)
    (siren : after.speaker.sirenOn = state.speaker.sirenOn)
    (volume : after.speaker.volume = state.speaker.volume)
    (faulted : after.speaker.faulted = state.speaker.faulted)
    (gate : state.gate = true → after.gate = true)
    (nothing : (state.speaker.sirenOn = true ∨ (state.speaker.session = true ∧
        (state.speaker.volumeRestore = true ∨ state.stage.levels = true))) →
      state.speaker.queue.count = 0 → after.speaker.queue.count = 0) : Level after := by
  have carries : Carries state after :=
    { stage := stage
      session := session
      opened := opened
      restore := restore
      output := by rw [sink]
      siren := fun quiet => siren ▸ quiet
      nothing := fun _ busy owed => nothing (.inr ⟨busy, owed⟩)
      right := fun _ _ right => by
        unfold Right at right ⊢
        rw [setting, sink, volume]
        exact right
      volume := fun _ _ _ => volume }
  refine ⟨⟨fun on => ?_, fun on => ?_, fun value is => ?_, fun is => ?_, fun is => ?_⟩,
    carries.gainAt level.stage⟩
  · rw [siren] at on
    exact nothing (.inl on) (level.steady.alone on)
  · rw [siren] at on
    exact gate (level.steady.gate on)
  · rw [setting] at is
    rw [volume]
    exact level.steady.setting value is
  · rw [opened] at is
    rw [sink]
    exact level.steady.output is
  · rw [faulted] at is
    rw [session, opened]
    exact level.steady.faulted is

theorem trim_fields (s : Speaker) (http : Bool) :
    (s.trim http).session = s.session ∧ (s.trim http).opened = s.opened ∧
      (s.trim http).volumeRestore = s.volumeRestore ∧ (s.trim http).sirenOn = s.sirenOn ∧
      (s.trim http).volume = s.volume ∧ (s.trim http).faulted = s.faulted := by
  unfold Speaker.trim
  split <;> exact ⟨rfl, rfl, rfl, rfl, rfl, rfl⟩

theorem submit_level {state : State} (level : Level state) (talker : Talker) (http : Bool)
    (pcma : Bytes) (care : careful state (.submit talker http pcma) = true) :
    Level (state.talkSubmit talker http pcma).2 := by
  rcases talkSubmit_cases state talker http pcma with
    ⟨error, refused, is⟩ | ⟨small, gate, quiet, -, is⟩
  · rw [is]
    exact level.of_same rfl rfl rfl rfl rfl rfl rfl rfl rfl id fun _ => id
  · have alone : state.speaker.session = false ∨
        (state.speaker.volumeRestore = false ∧ state.stage.levels = false) := by
      simpa [careful, is] using care
    obtain ⟨session, opened, restore, siren, volume, faulted⟩ :=
      trim_fields ((state.speaker.lease talker).enqueue pcma small) http
    rw [is]
    refine level.of_same rfl rfl rfl session opened restore siren volume faulted id ?_
    rintro (on | ⟨busy, owed⟩)
    · rw [quiet] at on
      cases on
    · simp [busy] at alone
      simp [alone] at owed

theorem release_level {state : State} (level : Level state) (owner : UInt64) :
    Level (state.talkRelease owner) := by
  unfold State.talkRelease Speaker.release
  split
  · split
    · refine level.of_same rfl rfl rfl rfl rfl rfl rfl rfl rfl id fun _ none => ?_
      show min RELEASE_TAIL state.speaker.queue.count = 0
      rw [none, Nat.min_zero]
    · exact level
  · exact level

theorem stop_level {state : State} (level : Level state) : Level state.stop := by
  unfold State.stop
  split
  · exact level.of_same rfl rfl rfl rfl rfl rfl rfl rfl rfl id fun _ => id
  · exact level

/-- A siren that comes on leaves the gain to the thread. -/
theorem sirenStart_level {state : State} (level : Level state) (sound seconds : Nat)
    (percent : Int) : Level (state.sirenStart sound seconds percent).2 := by
  unfold State.sirenStart
  split
  · exact level
  · split
    · exact level
    · split
      · exact level
      · rename_i gate
        split
        · exact level
        · have open_gate : state.gate = true := by simpa using gate
          refine ⟨⟨fun _ => rfl, fun _ => open_gate, level.steady.setting, level.steady.output,
            level.steady.faulted⟩, Carries.gainAt ?_ level.stage⟩
          refine ⟨rfl, rfl, rfl, rfl, rfl, fun quiet => ?_, fun _ _ _ _ => rfl, fun _ _ right => right,
            fun _ _ _ => rfl⟩
          cases quiet

/-- A new volume with no call of the sink is unheard where it matters. -/
theorem unheard_call {state : State}
    (output : state.speaker.opened = true ∨
      (state.stage.opens = true ∧ state.sink.opened = true))
    (matters : state.speaker.sirenOn = false ∨ state.stage.talks = true)
    (uncalled : state.speaker.opened = true → state.speaker.sirenOn = true) :
    state.volumeUnheard = true := by
  unfold State.volumeUnheard
  cases opened : state.speaker.opened with
  | true =>
      have on := uncalled opened
      rcases matters with quiet | talks
      · rw [on] at quiet
        cases quiet
      · rw [on, talks]
        simp
  | false =>
      have opens := (output.resolve_left (by rw [opened]; exact Bool.false_ne_true)).1
      rw [opens]
      rcases matters with quiet | talks
      · rw [quiet]
        rfl
      · rw [talks]
        cases state.speaker.sirenOn <;> rfl

theorem setVolume_level {state : State} (level : Level state) (free : state.setting = none)
    (volume : Int) (care : careful state (.setVolume volume) = true) :
    Level (state.setVolume volume).2 := by
  unfold careful State.setVolume at care
  unfold State.setVolume
  split
  · exact level
  · rename_i range
    split
    · exact level
    · rename_i attached
      have heard : volume = state.speaker.volume ∨ state.volumeUnheard = false := by
        simpa [range, attached] using care
      have unheard : volume ≠ state.speaker.volume → state.volumeUnheard = false :=
        fun other => heard.resolve_left other
      refine ⟨⟨level.steady.alone, level.steady.gate, ?_, level.steady.output,
        level.steady.faulted⟩, @Carries.gainAt state _ ?_ level.stage⟩
      · intro value is
        dsimp only at is
        split at is
        · exact (Option.some.inj is).symm
        · cases is
      · refine ⟨rfl, rfl, rfl, rfl, rfl, id, fun _ _ _ => id, ?_, ?_⟩
        · intro output heard_by right uncalled
          by_cases same : volume = state.speaker.volume
          · rw [same]
            exact right free
          · exact absurd (unheard_call output heard_by (by simpa using uncalled))
              (by rw [unheard same]; exact Bool.false_ne_true)
        · intro quiet opens closed
          by_contra other
          have unsaid := unheard other
          rw [State.volumeUnheard, opens, closed] at unsaid
          have silent : state.speaker.sirenOn = false := quiet
          rw [silent] at unsaid
          cases unsaid

theorem setVolume_opened (sink : Sink) (volume : Int) (outcome : Outcome) :
    (sink.setVolume volume outcome).opened = sink.opened := by
  unfold Sink.setVolume
  split <;> rfl

theorem setVolume_gain {sink : Sink} {volume : Int} {outcome : Outcome} (opened : sink.opened = true)
    (applied : outcome.applied = true ∨ sink.gain = some volume) :
    (sink.setVolume volume outcome).gain = some volume := by
  unfold Sink.setVolume
  split
  · rfl
  · rename_i refused
    simp only [opened, Bool.true_and] at refused
    exact applied.resolve_left refused

theorem volumeSet_level {state : State} (level : Level state) {volume : Int} {outcome : Outcome}
    (setting : state.setting = some volume) (care : careful state (.volumeSet outcome) = true) :
    Level (state.volumeSet volume outcome).2 := by
  have same := level.steady.setting volume setting
  have applied : outcome.applied = true ∨ state.sink.gain = some volume := by
    rw [same]
    simpa [careful] using care
  refine ⟨⟨level.steady.alone, level.steady.gate, (fun _ is => by cases is), ?_,
    level.steady.faulted⟩, Carries.gainAt ?_ level.stage⟩
  · intro opened
    exact (setVolume_opened _ _ _).trans (level.steady.output opened)
  · refine ⟨rfl, rfl, rfl, rfl, setVolume_opened _ _ _, id, fun _ _ _ => id, ?_, fun _ _ _ => rfl⟩
    intro open_output _ _ _
    have output : state.sink.opened = true := by
      rcases open_output with opened | opens
      · exact level.steady.output opened
      · exact opens.2
    show (state.sink.setVolume volume outcome).gain = some state.speaker.volume
    rw [← same]
    exact setVolume_gain output applied

/-- Where the thread is about nothing of its own, the gain of an open output is looked at. -/
theorem atVolume_plain {state : State} {stage : Stage} (stands : state.stage = stage)
    (opens : stage.opens = false) (levels : stage.levels = false)
    (restores : ∀ volume, stage ≠ .restoring volume) (care : state.atVolume = true)
    (opened : state.speaker.opened = true) : Right state := by
  intro _
  unfold State.atVolume at care
  rw [stands] at care
  split at care
  · cases opens
  · cases levels
  · cases levels
  · exact absurd rfl (restores _)
  · simpa [opens, opened] using care

/-- The service as the end of a siren leaves it. -/
def State.silenced (state : State) : State := { state with speaker := state.speaker.silence }

theorem busy_silenced {state : State} (steady : Steady state) (on : state.speaker.sirenOn = true)
    (busy : Busy state)
    (care : state.speaker.volumeRestore = true ∨ (state.speaker.opened = true → Right state)) :
    Busy state.silenced where
  session := busy.session
  opened := busy.opened
  owes _ _ := steady.alone on
  right _ restored := by
    rcases care with owed | right
    · have none : state.speaker.volumeRestore = false := restored
      rw [owed] at none
      cases none
    · exact right busy.opened

theorem ended_silenced {state : State} (ended : Ended state)
    (care : state.speaker.volumeRestore = true ∨ (state.speaker.opened = true → Right state)) :
    Ended state.silenced where
  session := ended.session
  restored := ended.restored
  right opened _ := by
    rcases care with owed | right
    · rw [ended.restored] at owed
      cases owed
    · exact right opened

theorem stopping_silenced {state : State} (stopping : Stopping state)
    (care : state.speaker.volumeRestore = true ∨ (state.speaker.opened = true → Right state)) :
    Stopping state.silenced where
  session := stopping.session
  right opened _ restored := by
    rcases care with owed | right
    · have none : state.speaker.volumeRestore = false := restored
      rw [owed] at none
      cases none
    · exact right opened

theorem starting_silenced {state : State} (starting : Starting state)
    (care : state.speaker.volumeRestore = true ∨ Right state) :
    Starting state.silenced where
  session := starting.session
  restored := starting.restored
  opened := starting.opened
  right _ := by
    rcases care with owed | right
    · rw [starting.restored] at owed
      cases owed
    · exact right

/-- A siren that ends leaves the gain right wherever the thread stands. -/
theorem gainAt_silenced {state : State} (level : Level state) (on : state.speaker.sirenOn = true)
    (care : state.speaker.volumeRestore = true ∨ state.atVolume = true) :
    GainAt state.silenced state.stage := by
  have at_stage := level.stage
  have plain : ∀ {stage}, state.stage = stage → stage.opens = false → stage.levels = false →
      (∀ volume, stage ≠ .restoring volume) →
      state.speaker.volumeRestore = true ∨ (state.speaker.opened = true → Right state) :=
    fun stands opens levels restores =>
      care.imp_right fun held => atVolume_plain stands opens levels restores held
  cases stage : state.stage with
  | head =>
      rw [stage] at at_stage
      have care := plain stage rfl rfl fun _ is => by cases is
      exact ⟨fun session => busy_silenced level.steady on (at_stage.1 session) care,
        fun session => ended_silenced (at_stage.2 session) care⟩
  | retrying now =>
      rw [stage] at at_stage
      exact ended_silenced at_stage (plain stage rfl rfl fun _ is => by cases is)
  | retried now muted =>
      rw [stage] at at_stage
      exact ended_silenced at_stage (plain stage rfl rfl fun _ is => by cases is)
  | idleClosing =>
      rw [stage] at at_stage
      exact ⟨ended_silenced at_stage.1 (plain stage rfl rfl fun _ is => by cases is), at_stage.2⟩
  | opening volume =>
      rw [stage] at at_stage
      refine ⟨at_stage.1, at_stage.2.1, at_stage.2.2.1, fun _ => ?_⟩
      rcases care with owed | held
      · rw [at_stage.2.1] at owed
        cases owed
      · show volume = state.speaker.volume
        simpa [State.atVolume, stage] using held
  | switching =>
      rw [stage] at at_stage
      refine starting_silenced at_stage (care.imp_right fun held _ => ?_)
      simpa [State.atVolume, stage, Stage.opens] using held
  | started opened failure =>
      rw [stage] at at_stage
      cases opened with
      | true =>
          refine starting_silenced at_stage (care.imp_right fun held _ => ?_)
          simpa [State.atVolume, stage, Stage.opens] using held
      | false => exact at_stage
  | settling =>
      rw [stage] at at_stage
      exact busy_silenced level.steady on at_stage (plain stage rfl rfl fun _ is => by cases is)
  | underrun =>
      rw [stage] at at_stage
      exact busy_silenced level.steady on at_stage (plain stage rfl rfl fun _ is => by cases is)
  | leveling gain =>
      rw [stage] at at_stage
      exact ⟨at_stage.1, at_stage.2.1, fun _ => level.steady.alone on⟩
  | leveled =>
      rw [stage] at at_stage
      exact ⟨at_stage.1, at_stage.2.1, fun _ => level.steady.alone on⟩
  | writing source =>
      rw [stage] at at_stage
      exact ⟨busy_silenced level.steady on at_stage.1 (plain stage rfl rfl fun _ is => by cases is),
        at_stage.2⟩
  | wrote accepted =>
      rw [stage] at at_stage
      exact busy_silenced level.steady on at_stage (plain stage rfl rfl fun _ is => by cases is)
  | quieting more =>
      rw [stage] at at_stage
      exact stopping_silenced at_stage (plain stage rfl rfl fun _ is => by cases is)
  | muting closing =>
      rw [stage] at at_stage
      exact ⟨stopping_silenced at_stage.1 (plain stage rfl rfl fun _ is => by cases is), at_stage.2⟩
  | closing muted =>
      rw [stage] at at_stage
      exact ⟨stopping_silenced at_stage.1 (plain stage rfl rfl fun _ is => by cases is), at_stage.2⟩
  | stopped muted =>
      rw [stage] at at_stage
      exact stopping_silenced at_stage (plain stage rfl rfl fun _ is => by cases is)
  | restoring volume =>
      rw [stage] at at_stage
      exact at_stage
  | leaving mute close =>
      rw [stage] at at_stage
      exact at_stage
  | done => trivial

theorem steady_silenced {state : State} (steady : Steady state) :
    Steady state.silenced where
  alone on := by cases on
  gate on := by cases on
  setting := steady.setting
  output := steady.output
  faulted := steady.faulted

theorem sirenStop_level {state : State} (level : Level state)
    (care : careful state .sirenStop = true) : Level state.sirenStop := by
  unfold State.sirenStop
  split
  · rename_i sounds
    have on : state.speaker.sirenOn = true := (Bool.and_eq_true_iff.mp sounds).2
    have held : state.speaker.volumeRestore = true ∨ state.atVolume = true := by
      simpa [careful, on] using care
    exact ⟨steady_silenced level.steady, gainAt_silenced level on held⟩
  · exact level

/-! ### Sections of the thread -/

/-- The end of a session that closes the output. -/
theorem close_level {state : State} (now : Nat)
    (setting : ∀ volume, state.setting = some volume → volume = state.speaker.volume) :
    Level (state.locked (state.speaker.endSession true now)) := by
  have stopping : Stopping (state.locked (state.speaker.endSession true now)) :=
    ⟨rfl, fun opened => by cases opened⟩
  refine ⟨⟨fun on => (by cases on), fun on => (by cases on), setting, fun opened => (by cases opened),
    fun _ => ⟨rfl, rfl⟩⟩, ?_⟩
  show GainAt _ (state.speaker.endSession true now).2
  rcases endSession_stage state.speaker true now with stage | stage
  · rw [stage]
    exact stopping
  · rw [stage]
    exact ⟨stopping, fun _ => rfl⟩

/-- The end of a session that keeps the output open. -/
theorem keep_level {state : State} (steady : Steady state) (busy : Busy state)
    (quiet : state.speaker.sirenOn = false) (now : Nat) :
    Level (state.locked (state.speaker.endSession false now)) := by
  have stopping : Stopping (state.locked (state.speaker.endSession false now)) :=
    ⟨rfl, fun _ _ restored => busy.right quiet restored⟩
  refine ⟨⟨fun on => (by cases on), fun on => (by cases on), steady.setting, steady.output,
    fun faulted => ?_⟩, ?_⟩
  · have session := (steady.faulted faulted).1
    rw [busy.session] at session
    cases session
  · show GainAt _ (state.speaker.endSession false now).2
    rcases endSession_stage state.speaker false now with stage | stage
    · rw [stage]
      exact stopping
    · rw [stage]
      exact ⟨stopping, fun closing => by cases closing⟩

theorem finished_quiet {s : Speaker} {now : Nat} (done : s.finished now = true) :
    s.sirenOn = false := by
  unfold Speaker.finished at done
  rw [Bool.and_eq_true, Bool.not_eq_true'] at done
  exact done.1

/-- The next frame: a siren's with the volume to be put back, or a talker's at the
configured volume. -/
theorem next_level {state : State} (steady : Steady state) (busy : Busy state) :
    Level (state.locked state.speaker.next) := by
  unfold Speaker.next
  split
  · rename_i on
    split
    · refine ⟨⟨steady.alone, steady.gate, steady.setting, steady.output, steady.faulted⟩,
        busy.session, busy.opened, fun quiet => ?_⟩
      exact absurd (on.symm.trans quiet) (by decide)
    · refine ⟨⟨steady.alone, steady.gate, steady.setting, steady.output, steady.faulted⟩,
        ⟨busy.session, busy.opened, fun _ _ => steady.alone on, fun _ restored => ?_⟩,
        fun talks => ?_⟩
      · cases restored
      · cases talks
  · rename_i off
    have quiet : state.speaker.sirenOn = false := by simpa using off
    split
    · exact ⟨⟨steady.alone, steady.gate, steady.setting, steady.output, steady.faulted⟩,
        busy.session, busy.opened, busy.owes, busy.right⟩
    · rename_i waits
      have restored : state.speaker.volumeRestore = false := by
        cases owed : state.speaker.volumeRestore with
        | true => exact absurd (busy.owes quiet owed) waits
        | false => rfl
      have right : Right state := busy.right quiet restored
      refine ⟨⟨fun on => ?_, steady.gate, steady.setting, steady.output, steady.faulted⟩,
        ⟨busy.session, busy.opened, fun _ owed => ?_, fun _ _ => right⟩, fun _ => right⟩
      · exact absurd on off
      · exact absurd (owed.symm.trans restored) (by decide)

theorem inSession_level {state : State} (level : Level state) (head : state.stage = .head)
    (session : state.speaker.session = true) {outcome : Outcome}
    (care : careful state (.thread outcome) = true) :
    Level (state.locked (state.speaker.inSession state.clock)) := by
  have at_stage := level.stage
  have care := care
  rw [head] at at_stage
  -- The service once a siren whose time is over has ended.
  have expired : ∃ later : State, later.speaker = state.speaker.expire state.clock ∧
      (∀ next, later.locked next = state.locked next) ∧ Steady later ∧ Busy later := by
    unfold Speaker.expire
    split
    · rename_i late
      have on : state.speaker.sirenOn = true := (Bool.and_eq_true_iff.mp late).1
      have held : state.speaker.volumeRestore = true ∨ state.atVolume = true := by
        simp only [Bool.and_eq_true, decide_eq_true_iff] at late
        simpa [careful, head, session, late.1, late.2] using care
      have silenced := gainAt_silenced level on held
      rw [head] at silenced
      exact ⟨state.silenced, rfl, fun _ => rfl, steady_silenced level.steady, silenced.1 session⟩
    · exact ⟨state, rfl, fun _ => rfl, level.steady, at_stage.1 session⟩
  obtain ⟨later, speaker, same, steady, busy⟩ := expired
  unfold Speaker.inSession
  rw [← speaker, ← same]
  split
  · rename_i done
    exact keep_level steady busy (finished_quiet done) _
  · exact next_level steady busy

theorem start_level {state : State} (steady : Steady state) (ended : Ended state)
    (sound : state.speaker.faulted = false) : Level (state.locked state.speaker.start) := by
  have kept : Steady (state.locked state.speaker.start) :=
    ⟨steady.alone, steady.gate, steady.setting, steady.output, fun faulted =>
      absurd (faulted.symm.trans sound) (by decide)⟩
  refine ⟨kept, ?_⟩
  show GainAt _ state.speaker.start.2
  rcases start_stage state.speaker with ⟨opened, stage⟩ | ⟨closed, stage⟩
  · rw [stage]
    exact ⟨rfl, ended.restored, steady.output opened, ended.right opened⟩
  · rw [stage]
    refine ⟨rfl, ended.restored, closed, fun quiet => ?_⟩
    have off : state.speaker.sirenOn = false := quiet
    rw [off, if_neg Bool.false_ne_true]
    rfl

/-- The thread's flags and the volume stay as they are. -/
structure SameFlags (s after : Speaker) : Prop where
  session : after.session = s.session
  opened : after.opened = s.opened
  restore : after.volumeRestore = s.volumeRestore
  volume : after.volume = s.volume

theorem SameFlags.trans {s middle after : Speaker} (first : SameFlags s middle)
    (second : SameFlags middle after) : SameFlags s after :=
  ⟨second.session.trans first.session, second.opened.trans first.opened,
    second.restore.trans first.restore, second.volume.trans first.volume⟩

theorem SameFlags.ite {s yes no : Speaker} {condition : Prop} [Decidable condition]
    (first : SameFlags s yes) (second : SameFlags s no) :
    SameFlags s (if condition then yes else no) := by
  split
  · exact first
  · exact second

/-- The service at the end of the loop without a session. -/
def State.cleared (state : State) (now : Nat) : State :=
  { state with
    speaker := ((state.speaker.recover now).dropTalk state.gate).dropSiren state.gate }

theorem cleared_same (state : State) (now : Nat) :
    SameFlags state.speaker (state.cleared now).speaker := by
  have recovered : SameFlags state.speaker (state.speaker.recover now) :=
    .ite ⟨rfl, rfl, rfl, rfl⟩ ⟨rfl, rfl, rfl, rfl⟩
  have dropped : SameFlags (state.speaker.recover now)
      ((state.speaker.recover now).dropTalk state.gate) :=
    .ite ⟨rfl, rfl, rfl, rfl⟩ ⟨rfl, rfl, rfl, rfl⟩
  have silenced : SameFlags ((state.speaker.recover now).dropTalk state.gate)
      (state.cleared now).speaker := .ite ⟨rfl, rfl, rfl, rfl⟩ ⟨rfl, rfl, rfl, rfl⟩
  exact (recovered.trans dropped).trans silenced

/-- What a faulted speaker, or one whose gate is closed, is left with. -/
structure Dropped (state : State) (s : Speaker) : Prop where
  faulted : s.faulted = true →
    state.speaker.faulted = true ∧ s.queue.count = 0 ∧ s.sirenOn = false
  queue : s.queue.count = 0 ∨ s.queue.count = state.speaker.queue.count
  siren : s.sirenOn = true → state.speaker.sirenOn = true
  silenced : s.sirenOn = false → state.speaker.sirenOn = true →
    state.speaker.faulted = true ∨ state.gate = false

theorem recover_spec (s : Speaker) (now : Nat) :
    (s.recover now).queue = s.queue ∧ (s.recover now).sirenOn = s.sirenOn ∧
      ((s.recover now).faulted = true → s.faulted = true) := by
  unfold Speaker.recover
  split
  · exact ⟨rfl, rfl, fun faulted => by cases faulted⟩
  · exact ⟨rfl, rfl, id⟩

theorem dropTalk_spec (s : Speaker) (gate : Bool) :
    ((s.dropTalk gate).queue.count = 0 ∨
        ((s.dropTalk gate).queue.count = s.queue.count ∧ s.faulted = false)) ∧
      (s.dropTalk gate).sirenOn = s.sirenOn ∧ (s.dropTalk gate).faulted = s.faulted := by
  unfold Speaker.dropTalk
  split
  · exact ⟨.inl rfl, rfl, rfl⟩
  · rename_i stays
    refine ⟨?_, rfl, rfl⟩
    by_cases nothing : s.queue.count = 0
    · exact .inl nothing
    · refine .inr ⟨rfl, ?_⟩
      simp only [nothing, ne_eq, not_false_eq_true, decide_true, Bool.true_and, Bool.or_eq_true,
        not_or, Bool.not_eq_true] at stays
      exact stays.1

theorem dropSiren_spec (s : Speaker) (gate : Bool) :
    (s.dropSiren gate).queue = s.queue ∧ (s.dropSiren gate).faulted = s.faulted ∧
      ((s.dropSiren gate).sirenOn = true → s.sirenOn = true ∧ s.faulted = false) ∧
      ((s.dropSiren gate).sirenOn = false → s.sirenOn = true → s.faulted = true ∨ gate = false) := by
  unfold Speaker.dropSiren
  split
  · rename_i drops
    refine ⟨rfl, rfl, (fun on => by cases on), fun _ _ => ?_⟩
    simpa using (Bool.and_eq_true_iff.mp drops).2
  · rename_i stays
    refine ⟨rfl, rfl, fun on => ⟨on, ?_⟩, fun off on => absurd (off.symm.trans on) (by decide)⟩
    rw [on, Bool.true_and, Bool.or_eq_true, not_or, Bool.not_eq_true] at stays
    exact stays.1

theorem cleared_dropped (state : State) (now : Nat) :
    Dropped state (state.cleared now).speaker := by
  obtain ⟨firstQueue, firstSiren, firstFaulted⟩ := recover_spec state.speaker now
  obtain ⟨secondQueue, secondSiren, secondFaulted⟩ :=
    dropTalk_spec (state.speaker.recover now) state.gate
  obtain ⟨queue, faulted, on, off⟩ :=
    dropSiren_spec ((state.speaker.recover now).dropTalk state.gate) state.gate
  rw [secondSiren, firstSiren, secondFaulted] at on off
  refine ⟨fun is => ?_, ?_, fun is => (on is).1, fun is was => (off is was).imp_left firstFaulted⟩
  · have broken : (state.speaker.recover now).faulted = true := by
      rw [← secondFaulted, ← faulted]
      exact is
    refine ⟨firstFaulted broken, ?_, ?_⟩
    · show (((state.speaker.recover now).dropTalk state.gate).dropSiren state.gate).queue.count = 0
      rw [queue]
      exact secondQueue.resolve_right fun kept => absurd (broken.symm.trans kept.2) (by decide)
    · cases sounds : (state.cleared now).speaker.sirenOn with
      | false => rfl
      | true => exact absurd (broken.symm.trans (on sounds).2) (by decide)
  · show (((state.speaker.recover now).dropTalk state.gate).dropSiren state.gate).queue.count = 0 ∨
      (((state.speaker.recover now).dropTalk state.gate).dropSiren state.gate).queue.count = _
    rw [queue, ← firstQueue]
    exact secondQueue.imp_right And.left

theorem cleared_level {state : State} (steady : Steady state) (ended : Ended state) (now : Nat) :
    Steady (state.cleared now) ∧ Ended (state.cleared now) := by
  have same := cleared_same state now
  have dropped := cleared_dropped state now
  refine ⟨⟨fun on => ?_, fun on => steady.gate (dropped.siren on), fun value is => ?_,
    fun opened => ?_, fun faulted => ?_⟩, ⟨?_, ?_, fun opened quiet => ?_⟩⟩
  · rcases dropped.queue with nothing | kept
    · exact nothing
    · rw [kept]
      exact steady.alone (dropped.siren on)
  · rw [same.volume]
    exact steady.setting value is
  · rw [same.opened] at opened
    exact steady.output opened
  · rw [same.session, same.opened]
    exact steady.faulted (dropped.faulted faulted).1
  · exact same.session.trans ended.session
  · exact same.restore.trans ended.restored
  · rw [same.opened] at opened
    have silent : state.speaker.sirenOn = false := by
      cases was : state.speaker.sirenOn with
      | false => rfl
      | true =>
          rcases dropped.silenced quiet was with faulted | closed
          · exact absurd (opened.symm.trans (steady.faulted faulted).2) (by decide)
          · exact absurd ((steady.gate was).symm.trans closed) (by decide)
    have right := ended.right opened silent
    intro free
    rw [same.volume]
    exact right free

theorem idle_level {state : State} (steady : Steady state) (ended : Ended state) (now : Nat) :
    Level (state.locked (state.speaker.idle state.gate now)) := by
  unfold Speaker.idle
  split
  · refine ⟨⟨steady.alone, steady.gate, steady.setting, fun opened => (by cases opened),
      fun faulted => ⟨ended.session, rfl⟩⟩, ⟨ended.session, ended.restored, fun opened => ?_⟩, rfl⟩
    cases opened
  · obtain ⟨steady, ended⟩ := cleared_level steady ended now
    have dropped := cleared_dropped state now
    show Level ((state.cleared now).locked (state.cleared now).speaker.begin)
    unfold Speaker.begin
    split
    · exact ⟨⟨steady.alone, steady.gate, steady.setting, steady.output, steady.faulted⟩,
        fun session => absurd (session.symm.trans ended.session) (by decide),
        fun _ => ⟨ended.session, ended.restored, ended.right⟩⟩
    · rename_i plays
      refine start_level steady ended ?_
      cases faulted : (state.cleared now).speaker.faulted with
      | false => rfl
      | true =>
          have nothing := (dropped.faulted faulted).2
          simp [nothing.1, nothing.2] at plays

theorem atHead_level {state : State} (level : Level state) (head : state.stage = .head)
    {outcome : Outcome} (care : careful state (.thread outcome) = true) :
    Level (state.locked (state.speaker.atHead state.gate state.clock)) := by
  have at_stage := level.stage
  have steady := level.steady
  rw [head] at at_stage
  unfold Speaker.atHead
  split
  · exact ⟨⟨steady.alone, steady.gate, steady.setting, fun opened => (by cases opened),
      fun _ => ⟨rfl, rfl⟩⟩, rfl⟩
  · split
    · rename_i session
      exact inSession_level level head session care
    · rename_i idle
      have ended : Ended state := at_stage.2 (by simpa using idle)
      split
      · exact ⟨⟨steady.alone, steady.gate, steady.setting, steady.output, steady.faulted⟩,
          ended.session, ended.restored, ended.right⟩
      · exact idle_level steady ended _

theorem afterRetry_level {state : State} (level : Level state) {now : Nat} {muted : Bool}
    (stands : state.stage = .retried now muted) :
    Level (state.locked (state.speaker.afterRetry state.gate now muted)) := by
  have ended := level.stage
  have steady := level.steady
  rw [stands] at ended
  unfold Speaker.afterRetry Speaker.noteRetry
  split
  · exact @idle_level { state with speaker := { state.speaker with mutePending := false } }
      ⟨steady.alone, steady.gate, steady.setting, steady.output, steady.faulted⟩
      ⟨ended.session, ended.restored, ended.right⟩ now
  · exact idle_level steady ended now

theorem afterStart_level {state : State} (level : Level state) {opened : Bool}
    {failure : Option String} (stands : state.stage = .started opened failure) (now : Nat) :
    Level (state.locked (state.speaker.afterStart opened failure now)) := by
  have starting := level.stage
  have steady := level.steady
  rw [stands] at starting
  cases failure with
  | some error =>
      have setting : ∀ value, state.setting = some value →
          value = (state.speaker.noteOpened opened).volume := by
        intro value is
        unfold Speaker.noteOpened
        split <;> exact steady.setting value is
      exact @close_level { state with
        speaker := (state.speaker.noteOpened opened).noteFault
          (if error ≠ "" then error else "speaker output or amplifier failed") now } now setting
  | none =>
      cases opened with
      | false => exact absurd rfl starting.2.2
      | true =>
          have sound : state.speaker.faulted = true → False := fun faulted =>
            absurd ((steady.faulted faulted).1.symm.trans starting.session) (by decide)
          refine ⟨⟨steady.alone, steady.gate, steady.setting, fun _ => starting.opened,
            fun faulted => (sound faulted).elim⟩, starting.session, rfl, fun _ owed => ?_,
            fun quiet _ => starting.right quiet⟩
          exact absurd (owed.symm.trans starting.restored) (by decide)

theorem afterWrite_level {state : State} (level : Level state) {accepted : Bool}
    (stands : state.stage = .wrote accepted) (now : Nat) :
    Level (state.locked (state.speaker.afterWrite accepted now)) := by
  have busy := level.stage
  have steady := level.steady
  rw [stands] at busy
  unfold Speaker.afterWrite
  split
  · exact ⟨⟨steady.alone, steady.gate, steady.setting, steady.output, steady.faulted⟩,
      fun _ => ⟨busy.session, busy.opened, busy.owes, busy.right⟩,
      fun idle => absurd (idle.symm.trans busy.session) (by decide)⟩
  · split
    · exact @close_level { state with
        speaker := state.speaker.noteFault "audio output refused three frames" now } now
        steady.setting
    · exact ⟨⟨steady.alone, steady.gate, steady.setting, steady.output, steady.faulted⟩,
        fun _ => ⟨busy.session, busy.opened, busy.owes, busy.right⟩,
        fun idle => absurd (idle.symm.trans busy.session) (by decide)⟩

theorem afterUnderrun_level {state : State} (level : Level state)
    (stands : state.stage = .underrun) : Level (state.locked state.speaker.afterUnderrun) := by
  have busy := level.stage
  have steady := level.steady
  rw [stands] at busy
  unfold Speaker.afterUnderrun
  split
  · exact ⟨⟨steady.alone, steady.gate, steady.setting, steady.output, steady.faulted⟩,
      fun _ => ⟨busy.session, busy.opened, busy.owes, busy.right⟩,
      fun idle => absurd (idle.symm.trans busy.session) (by decide)⟩
  · exact ⟨⟨steady.alone, steady.gate, steady.setting, steady.output, steady.faulted⟩,
      ⟨busy.session, busy.opened, busy.owes, busy.right⟩, fun talks => by cases talks⟩

/-- After a siren the configured volume is put back before the next session. -/
theorem restoreVolume_level {state : State} (steady : Steady state) (stopping : Stopping state) :
    Level (state.locked state.speaker.restoreVolume) := by
  unfold Speaker.restoreVolume
  split
  · rename_i restores
    have opened : state.speaker.opened = true := (Bool.and_eq_true_iff.mp restores).2
    exact ⟨⟨steady.alone, steady.gate, steady.setting, steady.output, steady.faulted⟩,
      stopping.session, rfl, opened⟩
  · rename_i stays
    refine ⟨⟨steady.alone, steady.gate, steady.setting, steady.output, steady.faulted⟩,
      fun session => absurd (session.symm.trans stopping.session) (by decide),
      fun _ => ⟨stopping.session, rfl, fun opened quiet => ?_⟩⟩
    have output : state.speaker.opened = true := opened
    have restored : state.speaker.volumeRestore = false := by
      simpa [output] using stays
    exact stopping.right opened quiet restored

theorem afterStop_level {state : State} (level : Level state) {muted : Bool}
    (stands : state.stage = .stopped muted) :
    Level (state.locked (state.speaker.afterStop muted)) := by
  have stopping := level.stage
  have steady := level.steady
  rw [stands] at stopping
  unfold Speaker.afterStop Speaker.noteMute
  split
  · exact restoreVolume_level steady stopping
  · exact @restoreVolume_level
      { state with speaker := { state.speaker with mutePending := true, muteAttempts := 0 } }
      ⟨steady.alone, steady.gate, steady.setting, steady.output, steady.faulted⟩
      ⟨stopping.session, stopping.right⟩

/-! ### Operations of the thread -/

/-- An operation that leaves the output as it is. -/
theorem Steady.operated {state : State} (steady : Steady state) {sink : Sink} {stage : Stage}
    (output : state.speaker.opened = true → sink.opened = true) :
    Steady (state.operated sink stage) :=
  ⟨steady.alone, steady.gate, steady.setting, output, steady.faulted⟩

/-- An operation that leaves the gain as it is. -/
theorem Right.operated {state : State} (right : Right state) {sink : Sink} {stage : Stage}
    (gain : sink.gain = state.sink.gain) : Right (state.operated sink stage) := by
  intro free
  show sink.gain = some state.speaker.volume
  rw [gain]
  exact right free

theorem Busy.operated {state : State} (busy : Busy state) {sink : Sink} {stage : Stage}
    (gain : sink.gain = state.sink.gain) : Busy (state.operated sink stage) :=
  ⟨busy.session, busy.opened, busy.owes, fun quiet restored => (busy.right quiet restored).operated gain⟩

theorem Ended.operated {state : State} (ended : Ended state) {sink : Sink} {stage : Stage}
    (gain : sink.gain = state.sink.gain) : Ended (state.operated sink stage) :=
  ⟨ended.session, ended.restored, fun opened quiet => (ended.right opened quiet).operated gain⟩

theorem Stopping.operated {state : State} (stopping : Stopping state) {sink : Sink} {stage : Stage}
    (gain : sink.gain = state.sink.gain) : Stopping (state.operated sink stage) :=
  ⟨stopping.session, fun opened quiet restored =>
    (stopping.right opened quiet restored).operated gain⟩

/-- With its output closed, there is no gain to be wrong. -/
theorem Ended.closed {state : State} (ended : Ended state) (closed : state.speaker.opened = false)
    {sink : Sink} {stage : Stage} : Ended (state.operated sink stage) :=
  ⟨ended.session, ended.restored, fun opened => absurd (opened.symm.trans closed) (by decide)⟩

theorem Stopping.closed {state : State} (stopping : Stopping state)
    (closed : state.speaker.opened = false) {sink : Sink} {stage : Stage} :
    Stopping (state.operated sink stage) :=
  ⟨stopping.session, fun opened => absurd (opened.symm.trans closed) (by decide)⟩

theorem setAmplifier_output (sink : Sink) (on : Bool) (outcome : Outcome) :
    (sink.setAmplifier on outcome).opened = sink.opened ∧
      (sink.setAmplifier on outcome).gain = sink.gain := by
  unfold Sink.setAmplifier
  split <;> exact ⟨rfl, rfl⟩

/-- The volume that is put back after a siren is the configured one. -/
theorem restored_level {state : State} (level : Level state) {volume : Int}
    (stands : state.stage = .restoring volume) {outcome : Outcome}
    (care : careful state (.thread outcome) = true) :
    Level (state.operated (state.sink.setVolume volume outcome) .head) := by
  have at_stage := level.stage
  have steady := level.steady
  rw [stands] at at_stage
  obtain ⟨session, restored, opened⟩ := at_stage
  have output := steady.output opened
  refine ⟨steady.operated fun _ => (setVolume_opened _ _ _).trans output,
    fun busy => absurd (busy.symm.trans session) (by decide),
    fun _ => ⟨session, restored, fun _ quiet free => ?_⟩⟩
  have silent : state.speaker.sirenOn = false := quiet
  have unset : state.setting = none := free
  have given : outcome.applied = true ∧ volume = state.speaker.volume := by
    simpa [careful, stands, silent, unset] using care
  show (state.sink.setVolume volume outcome).gain = some state.speaker.volume
  rw [← given.2]
  exact setVolume_gain output (.inl given.1)

/-- The output is opened at the configured volume, or for a siren. -/
theorem opened_level {state : State} (level : Level state) {volume : Int}
    (stands : state.stage = .opening volume) {outcome : Outcome}
    (care : careful state (.thread outcome) = true) (ok : outcome.ok = true) :
    Level (state.operated (state.sink.openOutput volume outcome) .switching) := by
  have at_stage := level.stage
  have steady := level.steady
  rw [stands] at at_stage
  obtain ⟨session, restored, closed, same⟩ := at_stage
  have sink : state.sink.openOutput volume outcome =
      { state.sink with
        opened := true, gain := if outcome.applied then some volume else none } := by
    rw [Sink.openOutput, if_pos ok]
  rw [sink]
  refine ⟨steady.operated fun _ => rfl, session, restored, rfl, fun quiet _ => ?_⟩
  have silent : state.speaker.sirenOn = false := quiet
  have applied : outcome.applied = true := by
    simpa [careful, stands, silent, ok] using care
  show (if outcome.applied then some volume else none) = some state.speaker.volume
  rw [if_pos applied, same silent]

theorem thread_level {state : State} (level : Level state) {outcome : Outcome}
    (care : careful state (.thread outcome) = true) : Level (state.threadStep outcome) := by
  have at_stage := level.stage
  have steady := level.steady
  have switched := setAmplifier_output state.sink
  cases stage : state.stage with
  | head =>
      rw [State.threadStep, stage]
      exact atHead_level level stage care
  | retried now muted =>
      rw [State.threadStep, stage]
      exact afterRetry_level level stage
  | started opened failure =>
      rw [State.threadStep, stage]
      exact afterStart_level level stage _
  | wrote accepted =>
      rw [State.threadStep, stage]
      exact afterWrite_level level stage _
  | underrun =>
      rw [State.threadStep, stage]
      exact afterUnderrun_level level stage
  | stopped muted =>
      rw [State.threadStep, stage]
      exact afterStop_level level stage
  | retrying now =>
      rw [State.threadStep, stage]
      rw [stage] at at_stage
      exact ⟨steady.operated fun is => (switched _ _).1.trans (steady.output is),
        at_stage.operated (switched _ _).2⟩
  | idleClosing =>
      rw [State.threadStep, stage]
      rw [stage] at at_stage
      exact ⟨steady.operated fun is => absurd (is.symm.trans at_stage.2) (by decide),
        fun busy => absurd (busy.symm.trans at_stage.1.session) (by decide),
        fun _ => at_stage.1.closed at_stage.2⟩
  | opening volume =>
      have opening : state.threadStep outcome = state.operated (state.sink.openOutput volume outcome)
          (if outcome.ok then .switching else .started false (some outcome.error)) := by
        rw [State.threadStep, stage]
      rw [opening]
      by_cases ok : outcome.ok = true
      · rw [if_pos ok]
        exact opened_level level stage care ok
      · rw [if_neg ok, Sink.openOutput, if_neg ok]
        rw [stage] at at_stage
        exact ⟨steady.operated steady.output, at_stage.1, at_stage.2.2.1, by simp⟩
  | switching =>
      rw [State.threadStep, stage]
      rw [stage] at at_stage
      exact ⟨steady.operated fun is => (switched _ _).1.trans (steady.output is),
        at_stage.session, at_stage.restored, (switched _ _).1.trans at_stage.opened,
        fun quiet => (at_stage.right quiet).operated (switched _ _).2⟩
  | settling =>
      rw [State.threadStep, stage]
      rw [stage] at at_stage
      exact ⟨steady.operated steady.output, fun _ => at_stage.operated rfl,
        fun idle => absurd (idle.symm.trans at_stage.session) (by decide)⟩
  | leveling gain =>
      rw [State.threadStep, stage]
      rw [stage] at at_stage
      exact ⟨steady.operated fun is => (setVolume_opened _ _ _).trans (steady.output is), at_stage⟩
  | leveled =>
      rw [State.threadStep, stage]
      rw [stage] at at_stage
      obtain ⟨session, opened, nothing⟩ := at_stage
      exact ⟨⟨steady.alone, steady.gate, steady.setting, steady.output, steady.faulted⟩,
        ⟨session, opened, fun quiet _ => nothing quiet, fun _ restored => by cases restored⟩,
        fun talks => by cases talks⟩
  | writing source =>
      rw [State.threadStep, stage]
      rw [stage] at at_stage
      exact ⟨steady.operated steady.output, at_stage.1.operated rfl⟩
  | quieting more =>
      rw [State.threadStep, stage]
      rw [stage] at at_stage
      refine ⟨steady.operated steady.output, ?_⟩
      cases more with
      | true => exact at_stage.operated rfl
      | false => exact ⟨at_stage.operated rfl, fun closing => by cases closing⟩
  | muting closing =>
      rw [State.threadStep, stage]
      rw [stage] at at_stage
      refine ⟨steady.operated fun is => (switched _ _).1.trans (steady.output is), ?_⟩
      cases closing with
      | true => exact ⟨at_stage.1.operated (switched _ _).2, at_stage.2 rfl⟩
      | false => exact at_stage.1.operated (switched _ _).2
  | closing muted =>
      rw [State.threadStep, stage]
      rw [stage] at at_stage
      exact ⟨steady.operated fun is => absurd (is.symm.trans at_stage.2) (by decide),
        at_stage.1.closed at_stage.2⟩
  | restoring volume =>
      rw [State.threadStep, stage]
      exact restored_level level stage care
  | leaving mute close =>
      rw [State.threadStep, stage]
      rw [stage] at at_stage
      have closed : state.speaker.opened = true → ∀ sink : Sink, sink.opened = true :=
        fun is => absurd (is.symm.trans at_stage) (by decide)
      cases mute with
      | true => exact ⟨steady.operated fun is => closed is _, at_stage⟩
      | false =>
          cases close with
          | true => exact ⟨steady.operated fun is => closed is _, at_stage⟩
          | false =>
              exact ⟨⟨steady.alone, steady.gate, steady.setting, steady.output, steady.faulted⟩,
                trivial⟩
  | done =>
      rw [State.threadStep, stage]
      exact level

/-! ### Whole runs -/

def carefulStep (state : State) (event : Event) (after : State) : Prop :=
  step state event = some after ∧ careful state event = true

theorem free_eq_none {state next after : State} (stepped : state.free next = some after) :
    state.setting = none := by
  unfold State.free at stepped
  split at stepped
  · cases stepped
  · rename_i free
    simpa using free

theorem step_level {state after : State} {event : Event} (level : Level state)
    (stepped : carefulStep state event after) : Level after := by
  obtain ⟨stepped, care⟩ := stepped
  cases event with
  | passes time =>
      cases stepped
      exact level.of_same rfl rfl rfl rfl rfl rfl rfl rfl rfl id fun _ => id
  | gateOpens =>
      cases stepped
      exact level.of_same rfl rfl rfl rfl rfl rfl rfl rfl rfl (fun _ => rfl) fun _ => id
  | submit talker http pcma =>
      rw [← free_eq_some stepped]
      exact submit_level level talker http pcma care
  | release owner =>
      rw [← free_eq_some stepped]
      exact release_level level owner
  | sirenStart sound seconds percent =>
      rw [← free_eq_some stepped]
      exact sirenStart_level level sound seconds percent
  | sirenStop =>
      rw [← free_eq_some stepped]
      exact sirenStop_level level care
  | setVolume volume =>
      rw [← free_eq_some stepped]
      exact setVolume_level level (free_eq_none stepped) volume care
  | volumeSet outcome =>
      obtain ⟨volume, setting, rfl⟩ := Option.map_eq_some_iff.mp stepped
      exact volumeSet_level level setting care
  | stop =>
      rw [← free_eq_some stepped]
      exact stop_level level
  | thread outcome =>
      cases stepped
      exact thread_level level care

theorem initial_level (gate : Bool) (clock : Nat) : Level (State.initial gate clock) :=
  ⟨⟨fun on => (by cases on), fun on => (by cases on), fun _ is => (by cases is),
    fun opened => (by cases opened), fun faulted => by cases faulted⟩,
    fun session => (by cases session), fun _ => ⟨rfl, rfl, fun opened => by cases opened⟩⟩

/-- In every run of careful steps, a talker's frame goes to the sink at the configured
volume. -/
theorem talker_at_volume {gate : Bool} {clock : Nat} {events : List Event} {state : State}
    (run : Run carefulStep (State.initial gate clock) events state) {bytes : Bytes}
    (writes : state.stage = .writing (.talker bytes)) {outcome : Outcome}
    (care : careful state (.thread outcome) = true) :
    state.sink.gain = some state.speaker.volume := by
  have level : Level state :=
    run.preserves (fun _ _ _ kept stepped => step_level kept stepped) (initial_level gate clock)
  have at_stage := level.stage
  rw [writes] at at_stage
  cases setting : state.setting with
  | none => exact at_stage.2 rfl setting
  | some volume => simpa [careful, writes, setting] using care

/-- A talker up to the first frame. -/
def firstFrame : List Event :=
  [.gateOpens, .submit ⟨1, 1⟩ true [1, 2]] ++ List.replicate 6 (.thread ⟨true, true, ""⟩)

def carefulRun (events : List Event) : Option State :=
  runs (fun state event => if careful state event = true then step state event else none)
    (State.initial false 0) events

theorem firstFrame_careful : (carefulRun firstFrame).isSome = true := by decide +kernel

theorem firstFrame_at_volume :
    ∃ state, Run carefulStep (State.initial false 0) firstFrame state ∧
      state.stage = .writing (.talker [1, 2]) ∧ state.sink.gain = some state.speaker.volume := by
  have run : Run carefulStep (State.initial false 0) firstFrame (Option.get _ firstFrame_careful) :=
    run_of_guarded (Option.some_get firstFrame_careful).symm
  have writes : ((carefulRun firstFrame).get firstFrame_careful).stage = .writing (.talker [1, 2]) := by
    decide +kernel
  have care : careful ((carefulRun firstFrame).get firstFrame_careful)
      (.thread ⟨true, true, ""⟩) = true := by decide +kernel
  exact ⟨_, run, writes, talker_at_volume run writes care⟩

/-- A siren is stopped while its output settles, and a talker comes. -/
def stoppedSiren : List Event :=
  [.gateOpens, .sirenStart 0 3 50] ++ List.replicate 4 (.thread ⟨true, true, ""⟩) ++
    [.sirenStop, .submit ⟨1, 1⟩ true [1, 2]] ++ List.replicate 2 (.thread ⟨true, true, ""⟩)

/-- The talker is heard at the gain of the siren. -/
theorem stoppedSiren_at_sirenGain :
    ∃ state, runs step (State.initial false 0) stoppedSiren = some state ∧
      state.stage = .writing (.talker [1, 2]) ∧ state.speaker.volume = 60 ∧
      state.sink.gain = some (sirenGain 50) ∧ sirenGain 50 = 30 :=
  ⟨_, rfl, by decide +kernel, by decide +kernel, by decide +kernel, rfl⟩

end JooanW3U.Media.SpeakerService
