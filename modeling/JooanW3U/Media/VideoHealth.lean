import JooanW3U.Library.Runs
import JooanW3U.Media.Stream

/-!
Owns the health check of the main loop: its reading of the clock, the steps of
`jipc_video_healthy` under the locks of the streams, and the publishers between them.
Main result: when a check answers that streams with recent frames are healthy.

Does not own the watchdog that a check feeds, nor what stops after an unhealthy answer.
-/

namespace JooanW3U.Media.VideoHealth

open JooanW3U.Library

/-- The configuration of the service. -/
structure Config where
  sensors : Nat
  valid : 1 ≤ sensors ∧ sensors ≤ 2

/-- The streams a check asks for. -/
def Config.streams (config : Config) : Nat := config.sensors * 2

def HEALTH_US : Nat := 15000000

/-- What `jipc_video_healthy` reads of a stream with its mutex held. -/
def newestStamp (app : App) (channel : Nat) : Nat :=
  let ring := (app.streams channel).ring
  if ring.count ≠ 0 then (ring.item ring.count).ptsUs else 0

/-- A stamp that makes the answer unhealthy. -/
def stale (now stamp : Nat) : Bool :=
  stamp = 0 || now < stamp || now - stamp > HEALTH_US

/-- Where the main loop stands between two operations that others can see or change.
`seen` has the stamps a check has read, for statements about it. -/
inductive Stage
  | waiting
  | due
  | timed (now : Nat)
  | reading (now : Nat) (fresh : Bool) (seen : List Nat)
  | answered (now : Nat) (healthy : Bool)
  | stopped
deriving Repr, DecidableEq

structure State where
  app : App
  clock : Nat
  videoGraceUntil : Nat
  watchdogLast : Nat
  stage : Stage

/-- The service when its loop begins. -/
def State.initial (clock : Nat) : State := ⟨App.initial, clock, 0, clock, .waiting⟩

/-- The next operation of the main loop; `fed` is whether the watchdog can be fed. -/
def mainStep (config : Config) (fed : Bool) (state : State) : State :=
  match state.stage with
  | .waiting =>
      if state.clock - state.watchdogLast ≥ 1000000 then { state with stage := .due } else state
  | .due => { state with stage := .timed state.clock }
  | .timed now =>
      if state.app.privacyHold then
        { state with videoGraceUntil := now + HEALTH_US, stage := .answered now true }
      else { state with stage := .reading now true [] }
  | .reading now fresh seen =>
      if seen.length < config.streams then
        let stamp := newestStamp state.app seen.length
        let fresh := if stale now stamp then false else fresh
        { state with stage := .reading now fresh (seen ++ [stamp]) }
      else { state with stage := .answered now (fresh || now < state.videoGraceUntil) }
  | .answered now healthy =>
      if healthy && fed then { state with watchdogLast := now, stage := .waiting }
      else { state with stage := .stopped }
  | .stopped => state

inductive Event
  | passes (time : Nat)
  | publish (allocated : Bool) (channel : Nat) (data : Bytes) (ptsUs : Nat) (keyframe : Bool)
      (codec : Codec)
  | hold (on : Bool)
  | main (fed : Bool)
deriving Repr, DecidableEq

/-- One step of the service. Video is stamped by the monotonic clock, which is past
zero in a process that runs. -/
def step (config : Config) (state : State) : Event → Option State
  | .passes time => some { state with clock := state.clock + time }
  | .publish allocated channel data ptsUs keyframe codec =>
      if channel < videoStreams ∧ ptsUs = 0 then none
      else
        match state.app.publish allocated channel data ptsUs keyframe codec with
        | none => some state
        | some app => some { state with app := app }
  | .hold on => some { state with app := { state.app with privacyHold := on } }
  | .main fed => some (mainStep config fed state)

/-! ### What every run keeps -/

/-- Rings have slots, and the newest frame of a video stream has a stamp. -/
structure Stamped (app : App) : Prop where
  capacity : ∀ channel, 0 < (app.streams channel).ring.capacity
  newest : ∀ channel, channel < videoStreams → (app.streams channel).ring.count ≠ 0 →
    newestStamp app channel ≠ 0

/-- The locals of a check that is reading. -/
def Checked (config : Config) (state : State) : Prop :=
  match state.stage with
  | .timed now => now ≤ state.clock
  | .reading now fresh seen =>
      now ≤ state.clock ∧ seen.length ≤ config.streams ∧ fresh = seen.all fun stamp => !stale now stamp
  | _ => True

theorem initial_stamped : Stamped App.initial where
  capacity channel := by
    show 0 < if channel = audioStream then 32 else 4
    split <;> decide
  newest _ _ some := absurd rfl some

/-- A stream that gets a frame has its stamp as the newest. -/
theorem publish_stamped {app after : App} {allocated keyframe : Bool} {channel ptsUs : Nat}
    {data : Bytes} {codec : Codec} (stamped : Stamped app)
    (valid : ¬(channel < videoStreams ∧ ptsUs = 0))
    (published : app.publish allocated channel data ptsUs keyframe codec = some after) :
    Stamped after := by
  unfold App.publish at published
  by_cases refused : channel ≥ streamCount ∨ data = [] ∨ data.length > maxFrame ∨
      allocated = false ∨ (app.streams channel).ring.capacity = 0
  · rw [if_pos refused] at published
    cases published
  · rw [if_neg refused] at published
    cases published
    have ring : (if codec = Codec.h264 then (app.streams channel).recordParameters data
        else app.streams channel).ring = (app.streams channel).ring := by
      split
      · exact Stream.recordParameters_ring _ _
      · rfl
    constructor
    · intro other
      by_cases same : other = channel
      · subst same
        simp only [Function.update_self, BroadcastRing.push_capacity, ring]
        exact stamped.capacity other
      · simp only [Function.update_of_ne same]
        exact stamped.capacity other
    · intro other video counted
      by_cases same : other = channel
      · subst same
        simp only [newestStamp, Function.update_self, ring, BroadcastRing.push,
          BroadcastRing.item, Nat.add_sub_cancel, Nat.succ_ne_zero, ne_eq, not_false_eq_true,
          if_true, App.nextFrame]
        exact fun zero => valid ⟨video, zero⟩
      · simp only [newestStamp, Function.update_of_ne same] at counted ⊢
        exact stamped.newest other video counted

theorem mainStep_checked {config : Config} {fed : Bool} {state : State}
    (checked : Checked config state) : Checked config (mainStep config fed state) := by
  unfold Checked at checked
  unfold mainStep
  cases stage : state.stage with
  | waiting =>
      by_cases second : state.clock - state.watchdogLast ≥ 1000000
      · simp only [if_pos second, Checked]
      · simp only [if_neg second, Checked, stage]
  | due => exact Nat.le_refl _
  | timed now =>
      rw [stage] at checked
      by_cases held : state.app.privacyHold = true
      · simp only [if_pos held, Checked]
      · simp only [if_neg held, Checked]
        exact ⟨checked, Nat.zero_le _, rfl⟩
  | reading now fresh seen =>
      rw [stage] at checked
      obtain ⟨earlier, counted, all⟩ := checked
      by_cases more : seen.length < config.streams
      · simp only [if_pos more, Checked, List.length_append, List.length_singleton, List.all_append,
          List.all_cons, List.all_nil, Bool.and_true]
        refine ⟨earlier, more, ?_⟩
        rw [← all]
        cases stale now (newestStamp state.app seen.length) <;> simp
      · simp only [if_neg more, Checked]
  | answered now healthy =>
      by_cases good : (healthy && fed) = true
      · simp only [if_pos good, Checked]
      · simp only [if_neg good, Checked]
  | stopped => simp only [Checked, stage]

theorem mainStep_app (config : Config) (fed : Bool) (state : State) :
    (mainStep config fed state).app = state.app := by
  unfold mainStep
  split
  · split <;> rfl
  · rfl
  · split <;> rfl
  · split <;> rfl
  · split <;> rfl
  · rfl

theorem step_kept {config : Config} {state after : State} {event : Event}
    (kept : Stamped state.app ∧ Checked config state) (stepped : step config state event = some after) :
    Stamped after.app ∧ Checked config after := by
  obtain ⟨stamped, checked⟩ := kept
  cases event with
  | passes time =>
      cases stepped
      refine ⟨stamped, ?_⟩
      unfold Checked at checked ⊢
      cases stage : state.stage with
      | timed now =>
          rw [stage] at checked
          exact Nat.le_add_right_of_le checked
      | reading now fresh seen =>
          rw [stage] at checked
          exact ⟨Nat.le_add_right_of_le checked.1, checked.2⟩
      | waiting => trivial
      | due => trivial
      | answered => trivial
      | stopped => trivial
  | publish allocated channel data ptsUs keyframe codec =>
      dsimp only [step] at stepped
      by_cases invalid : channel < videoStreams ∧ ptsUs = 0
      · rw [if_pos invalid] at stepped
        cases stepped
      · rw [if_neg invalid] at stepped
        cases published : state.app.publish allocated channel data ptsUs keyframe codec with
        | none =>
            rw [published] at stepped
            cases stepped
            exact ⟨stamped, checked⟩
        | some app =>
            rw [published] at stepped
            cases stepped
            exact ⟨publish_stamped stamped invalid published, checked⟩
  | hold on =>
      cases stepped
      exact ⟨⟨stamped.capacity, stamped.newest⟩, checked⟩
  | main fed =>
      cases stepped
      refine ⟨?_, mainStep_checked checked⟩
      rw [mainStep_app]
      exact stamped

theorem run_kept {config : Config} {clock : Nat} {events : List Event} {state : State}
    (ran : runs (step config) (State.initial clock) events = some state) :
    Stamped state.app ∧ Checked config state :=
  (run_of_runs ran).preserves (fun _ _ _ kept stepped => step_kept kept stepped)
    ⟨initial_stamped, trivial⟩

/-! ### The answer -/

/-- The newest frame of a stream is at most 15 s old. -/
def Recent (state : State) (channel : Nat) : Prop :=
  let ring := (state.app.streams channel).ring
  ring.count ≠ 0 ∧ state.clock - (ring.item ring.count).ptsUs ≤ HEALTH_US

instance (state : State) (channel : Nat) : Decidable (Recent state channel) :=
  inferInstanceAs (Decidable (_ ∧ _))

/-- The camera is held for privacy or was until lately; or no stream had, when the check
read it, a frame from after the time the loop had read, and none that lacked a recent
frame then has got one since. -/
def Undisturbed (state : State) : Prop :=
  match state.stage with
  | .reading now _ seen =>
      now < state.videoGraceUntil ∨
        ∀ channel stamp, seen[channel]? = some stamp →
          stamp ≤ now ∧
            (newestStamp state.app channel = stamp ∨ (stamp ≠ 0 ∧ now - stamp ≤ HEALTH_US))
  | _ => True

theorem stale_eq_false {now stamp : Nat} :
    stale now stamp = false ↔ stamp ≠ 0 ∧ stamp ≤ now ∧ now - stamp ≤ HEALTH_US := by
  simp [stale]
  omega

theorem Recent.newestStamp {state : State} {channel : Nat} (recent : Recent state channel) :
    state.clock - newestStamp state.app channel ≤ HEALTH_US := by
  simp only [VideoHealth.newestStamp, if_pos recent.1]
  exact recent.2

/-- What a check that ends has read, and what it answers. -/
theorem answer_cases {config : Config} {state : State} {fed : Bool} {now : Nat} {healthy : Bool}
    (checked : Checked config state)
    (ends : (mainStep config fed state).stage = .answered now healthy) :
    (state.stage = .timed now ∧ healthy = true) ∨
      ∃ fresh seen, state.stage = .reading now fresh seen ∧ seen.length = config.streams ∧
        healthy = (fresh || now < state.videoGraceUntil) := by
  unfold mainStep at ends
  unfold Checked at checked
  cases stage : state.stage with
  | waiting => simp only [stage] at ends; split at ends <;> simp [stage] at ends
  | due => simp [stage] at ends
  | timed earlier =>
      simp only [stage] at ends
      by_cases held : state.app.privacyHold = true
      · simp only [if_pos held, Stage.answered.injEq] at ends
        exact .inl ⟨by rw [ends.1], ends.2.symm⟩
      · simp [if_neg held] at ends
  | reading earlier fresh seen =>
      simp only [stage] at ends checked
      by_cases more : seen.length < config.streams
      · simp [if_pos more] at ends
      · simp only [if_neg more, Stage.answered.injEq] at ends
        obtain ⟨rfl, answer⟩ := ends
        exact .inr ⟨fresh, seen, rfl, by omega, answer.symm⟩
  | answered earlier healthy =>
      simp only [stage] at ends
      split at ends <;> simp at ends
  | stopped => simp [stage] at ends

/-- The streams read fresh exactly when no publisher got in between. -/
theorem fresh_iff {state : State} {now : Nat} {seen : List Nat} (earlier : now ≤ state.clock)
    (newest : ∀ channel < seen.length, newestStamp state.app channel ≠ 0 ∧
      state.clock - newestStamp state.app channel ≤ HEALTH_US) :
    (seen.all fun stamp => !stale now stamp) = true ↔
      ∀ channel stamp, seen[channel]? = some stamp → stamp ≤ now ∧
        (newestStamp state.app channel = stamp ∨ (stamp ≠ 0 ∧ now - stamp ≤ HEALTH_US)) := by
  simp only [List.all_eq_true, Bool.not_eq_true', stale_eq_false]
  constructor
  · intro fresh channel stamp read
    have good := fresh stamp (List.mem_of_getElem? read)
    exact ⟨good.2.1, .inr ⟨good.1, good.2.2⟩⟩
  · intro quiet stamp member
    obtain ⟨channel, read⟩ := List.mem_iff_getElem?.mp member
    have inside := (List.getElem?_eq_some_iff.mp read).1
    have recent := newest channel inside
    obtain ⟨before, same | good⟩ := quiet channel stamp read
    · rw [same] at recent
      exact ⟨recent.1, before, by omega⟩
    · exact ⟨good.1, before, good.2⟩

/-- A check of streams that all have recent frames at its end answers healthy exactly
when no publisher got between its time and its readings. -/
theorem healthy_iff_undisturbed {config : Config} {clock : Nat} {events : List Event}
    {state : State} {fed : Bool} {now : Nat} {healthy : Bool}
    (ran : runs (step config) (State.initial clock) events = some state)
    (ends : (mainStep config fed state).stage = .answered now healthy) :
    ((∀ channel < config.streams, Recent state channel) → healthy = true) ↔
      ((∀ channel < config.streams, Recent state channel) → Undisturbed state) := by
  obtain ⟨stamped, checked⟩ := run_kept ran
  apply imp_congr_right
  intro recent
  unfold Undisturbed
  rcases answer_cases checked ends with ⟨timed, answer⟩ | ⟨fresh, seen, reading, all, answer⟩
  · simp only [timed, answer]
  · unfold Checked at checked
    simp only [reading] at checked ⊢
    have video : config.streams ≤ videoStreams := by
      have valid := config.valid
      show config.sensors * 2 ≤ 4
      omega
    have newest : ∀ channel < seen.length, newestStamp state.app channel ≠ 0 ∧
        state.clock - newestStamp state.app channel ≤ HEALTH_US := by
      intro channel inside
      have fine := recent channel (by omega)
      exact ⟨stamped.newest channel (by omega) fine.1, fine.newestStamp⟩
    rw [answer, checked.2.2, Bool.or_eq_true, decide_eq_true_iff, Or.comm,
      fresh_iff checked.1 newest]

/-- One sensor, and no frame between the time of the check and its readings. -/
theorem quiet_healthy :
    ∃ state : State,
      ((∀ channel < 2, Recent state channel) → true = true) ↔
        ((∀ channel < 2, Recent state channel) → Undisturbed state) :=
  ⟨_, @healthy_iff_undisturbed ⟨1, by decide⟩ 100000000
    [.publish true 0 [0x65] 100000000 true .h264, .publish true 1 [0x65] 100000000 true .h264,
      .passes 1000000, .main true, .main true, .main true, .main true, .main true]
    _ true 101000000 true rfl (by decide)⟩

/-- One sensor; a frame comes in on its first stream after the loop has read the time. -/
def overtaken : List Event :=
  [.publish true 0 [0x65] 100000000 true .h264, .publish true 1 [0x65] 100000000 true .h264,
    .passes 1000000, .main true, .main true, .passes 10,
    .publish true 0 [0x65] 101000005 true .h264, .main true, .main true, .main true]

theorem overtaken_unhealthy :
    ∃ state, runs (step ⟨1, by decide⟩) (State.initial 100000000) overtaken = some state ∧
      (∀ channel < 2, Recent state channel) ∧
      (mainStep ⟨1, by decide⟩ true state).stage = .answered 101000000 false :=
  ⟨_, rfl, by decide, by decide⟩

end JooanW3U.Media.VideoHealth
