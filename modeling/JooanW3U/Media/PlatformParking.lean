import JooanW3U.Media.PlatformSafety

/-!
Owns the parking move of privacy: from the privacy change on, through any client
operations and worker turns, the move keeps its target until the head is read
there, or the platform faults.  A stop and the removal of a preset are the two
operations that end it; without them nothing does.
-/

namespace JooanW3U.Media.Platform

open JooanW3U.Library

/-! ## The parking move -/

/-- The move that `start` has under way is still under way. -/
structure Going (start m : Machine) : Prop where
  active : m.goto_active = true
  unfaulted : m.faulted = false
  across : m.target_x = start.target_x
  along : m.target_y = start.target_y
  deadline : m.goto_until = start.goto_until

/-- A MOTOR_MOVE closes one axis of the way to this target, the pan first. -/
def Act.Towards (target_x target_y : Int) : Act → Prop
  | .move _ x y _ _ dx dy _ =>
      (dx, dy) = (target_x - x, if target_x - x = 0 then target_y - y else 0)
  | _ => True

/-- Since `start` every MOTOR_MOVE went towards its target. -/
def Grown (start m : Machine) : Prop :=
  ∃ more, m.acts = start.acts ++ more ∧
    ∀ act ∈ more, act.Towards start.target_x start.target_y

/-- The head was read at the target of `start`, and no MOTOR_MOVE was issued since. -/
def Arrived (start m : Machine) : Prop :=
  m.goto_active = false ∧ m.chunk_active = false ∧
    ∃ before moving after,
      m.acts = before ++ .position start.target_x start.target_y moving :: after ∧
        start.acts <+: before ∧ ∀ act ∈ after, act.isMove = false

/-- The platform has faulted and stopped the head. -/
def Machine.Halted (m : Machine) : Prop :=
  m.faulted = true ∧ m.goto_active = false

/-- What the platform keeps from the start of a parking move on. -/
structure Parked (start m : Machine) : Prop where
  privacy : m.privacy = true
  opened : m.motor_fd = true
  idle : m.homing = .idle
  unleased : m.lease_until = 0
  running : m.quitting = false
  grown : Grown start m
  phase : m.Halted ∨ Going start m ∨ Arrived start m

theorem Grown.isPrefix {start m : Machine} (grown : Grown start m) : start.acts <+: m.acts := by
  obtain ⟨more, same, -⟩ := grown
  exact ⟨more, same.symm⟩

theorem Grown.append {start m m' : Machine} {later : List Act} (grown : Grown start m)
    (same : m'.acts = m.acts ++ later)
    (towards : ∀ act ∈ later, act.Towards start.target_x start.target_y) : Grown start m' := by
  obtain ⟨more, earlier, kept⟩ := grown
  refine ⟨more ++ later, by rw [same, earlier, List.append_assoc], ?_⟩
  intro act member
  rcases List.mem_append.mp member with early | late
  · exact kept act early
  · exact towards act late

theorem Act.towards_of_routine {act : Act} (routine : act.isRoutine = true) (x y : Int) :
    act.Towards x y := by
  cases act <;> simp_all [Act.isRoutine, Act.Towards]

theorem Arrived.routine {start m : Machine} (arrived : Arrived start m) {m' : Machine}
    {more : List Act} (same : m'.acts = m.acts ++ more) (routine : ∀ act ∈ more, act.isRoutine = true)
    (still : m'.goto_active = false) (landed : m'.chunk_active = false) : Arrived start m' := by
  obtain ⟨-, -, before, moving, after, split, later, quiet⟩ := arrived
  refine ⟨still, landed, before, moving, after ++ more, by simp [same, split], later, ?_⟩
  intro act member
  rcases List.mem_append.mp member with early | late
  · exact quiet act early
  · have plain := routine act late
    cases act <;> simp_all [Act.isRoutine, Act.isMove]

theorem Parked.sensed {start m m' : Machine} (parked : Parked start m) (sensed : Sensed m m') :
    Parked start m' := by
  obtain ⟨x, y, moving, known, more, rfl, routine⟩ := sensed
  exact {
    privacy := parked.privacy
    opened := parked.opened
    idle := parked.idle
    unleased := parked.unleased
    running := parked.running
    grown := parked.grown.append rfl fun act member =>
      Act.towards_of_routine (routine act member) _ _
    phase := parked.phase.imp id (Or.imp (fun going => { going with }) fun arrived =>
      arrived.routine rfl routine arrived.1 arrived.2.1) }

/-- A stop leaves a fault and an arrival what they are. -/
theorem Parked.stopped {start m : Machine} (parked : Parked start m) (a : Halt)
    (settled : m.Halted ∨ Arrived start m) : Parked start (motor_stop_motion a m).2 := by
  have cleared : Parked start m.cleared :=
    { parked with
      unleased := rfl
      phase := settled.imp (fun halted => ⟨halted.1, rfl⟩) fun arrived =>
        .inr (arrived.routine (List.append_nil _).symm (by simp) rfl rfl) }
  exact cleared.sensed (motor_stop_motion_sensed a m)

theorem Parked.fault {start m : Machine} (parked : Parked start m) (a : Halt) :
    Parked start (worker_error a m) := by
  have faulty : Parked start { m.cleared with faulted := true } :=
    { parked with unleased := rfl, phase := .inl ⟨rfl, rfl⟩ }
  have sensed : Sensed { m.cleared with faulted := true } (worker_error a m) := by
    obtain ⟨x, y, moving, known, more, same, routine⟩ := motor_stop_motion_sensed a m
    exact ⟨x, y, moving, known, more, by rw [worker_error, same], routine⟩
  exact faulty.sensed sensed

/-! ## The worker -/

/-- The last act is the reading of where the head is. -/
def Fresh (start m : Machine) : Prop :=
  ∃ before moving, m.acts = before ++ [.position m.x m.y moving] ∧ start.acts <+: before

theorem fresh_of_read {start m m' : Machine} {reading : Option MotorPosition}
    (grown : start.acts <+: m.acts) (read : motor_read reading m = (true, m')) :
    Fresh start m' := by
  rcases motor_read_cases reading m with failed | ⟨position, ok⟩
  · exact absurd (failed.symm.trans read) (by simp)
  · obtain ⟨-, rfl⟩ := Prod.mk.inj (ok.symm.trans read)
    exact ⟨m.acts, _, rfl, grown⟩

/-- A head read at the target stops there. -/
theorem Parked.arrives {start m : Machine} (parked : Parked start m) (going : Going start m)
    (fresh : Fresh start m) (there : gotoMove m = (0, 0)) (a : Halt) :
    Parked start (motor_stop_motion a m).2 := by
  obtain ⟨before, moving, split, later⟩ := fresh
  have here : m.x = start.target_x ∧ m.y = start.target_y := by
    obtain ⟨across, along⟩ := Prod.mk.inj there
    rw [if_pos across] at along
    rw [← going.across, ← going.along]
    omega
  have cleared : Parked start m.cleared :=
    { parked with
      unleased := rfl
      phase := .inr (.inr ⟨rfl, rfl, before, moving, [], by
        rw [← here.1, ← here.2]
        exact split, later, by simp⟩) }
  exact cleared.sensed (motor_stop_motion_sensed a m)

theorem Parked.sent {start m : Machine} (parked : Parked start m) (going : Going start m)
    (purpose : Purpose) (a : Answers) :
    Parked start (send purpose (gotoMove m).1 (gotoMove m).2 a m) := by
  have towards : ∀ taken, Act.Towards start.target_x start.target_y
      (.move purpose m.x m.y m.pan_max m.tilt_max (gotoMove m).1 (gotoMove m).2 taken) := by
    intro taken
    rw [← going.across, ← going.along]
    exact rfl
  have asked : Parked start (m.atSpeed a) := by
    exact parked.sensed (ioctl_sensed _ a.speed rfl m)
  have moved : Parked start
      ((m.atSpeed a).log (.move purpose m.x m.y m.pan_max m.tilt_max (gotoMove m).1
        (gotoMove m).2 a.move)) :=
    { asked with
      grown := asked.grown.append rfl (by simpa using towards a.move)
      phase := .inr (.inl { going with }) }
  rw [send_cases]
  by_cases speed : a.speed = false
  · rw [if_pos speed]
    exact asked.fault a.error
  rw [if_neg speed]
  by_cases move : a.move = false
  · simp only [if_pos move]
    exact moved.fault a.error
  · simp only [if_neg move]
    exact { moved with phase := .inr (.inl { going with }) }

theorem Parked.next {start m : Machine} (parked : Parked start m) (going : Going start m)
    (fresh : Fresh start m) (now : Nat) (a : Answers) : Parked start (next_move now a m) := by
  unfold next_move
  rw [if_pos going.active]
  by_cases there : gotoMove m = (0, 0)
  · simp only [if_pos there]
    exact parked.arrives going fresh there a.halt
  · simp only [if_neg there]
    exact parked.sent going .goto a

theorem Going.sensed {start m m' : Machine} (going : Going start m) (sensed : Sensed m m') :
    Going start m' := by
  obtain ⟨_, _, _, _, _, rfl, -⟩ := sensed
  exact { going with }

theorem Parked.ticked {start m : Machine} (parked : Parked start m) (now : Nat) (a : Answers) :
    Parked start (native_tick now a m) := by
  unfold native_tick
  rw [if_neg fun homing => homing.1 parked.idle]
  by_cases nothing : m.motor_fd = false ∨ m.faulted = true ∨
      (m.goto_active = false ∧ m.lease_until = 0 ∧ m.chunk_active = false)
  · rw [if_pos nothing]
    exact parked
  rw [if_neg nothing]
  have going : Going start m := by
    rcases parked.phase with halted | going | arrived
    · exact absurd (.inr (.inl halted.1)) nothing
    · exact going
    · exact absurd (.inr (.inr ⟨arrived.1, parked.unleased, arrived.2.1⟩)) nothing
  by_cases late : m.goto_active = true ∧ m.goto_until ≤ now
  · rw [if_pos late]
    exact parked.fault a.error
  rw [if_neg late, if_neg fun expired => expired.1 parked.unleased]
  have sensed := motor_read_sensed a.reading m
  cases read : motor_read a.reading m with
  | mk done here =>
      rw [read] at sensed
      cases done with
      | false => exact (parked.sensed sensed).fault a.error
      | true =>
          have fresh := fresh_of_read parked.grown.isPrefix read
          have parkedHere := parked.sensed sensed
          have goingHere := going.sensed sensed
          simp only
          by_cases chunk : here.chunk_active = true
          · rw [if_pos chunk]
            by_cases moving : here.moving = true
            · rw [if_pos moving]
              exact parkedHere
            rw [if_neg moving]
            have stops := stopAndRead_sensed a.stop a.again here
            cases ran : (ioctl .stop a.stop).andThen (motor_read a.again) here with
            | mk done ended =>
                rw [ran] at stops
                have parkedThere := parkedHere.sensed stops
                cases done with
                | false => exact parkedThere.fault a.error
                | true =>
                    obtain ⟨asked, stopped, read'⟩ := Attempt.andThen_eq_true ran
                    have grown : start.acts <+: asked.acts := by
                      obtain ⟨-, rfl⟩ := Prod.mk.inj stopped
                      exact parkedHere.grown.isPrefix.trans (List.prefix_append _ _)
                    have freshThere := fresh_of_read grown read'
                    have goingThere := goingHere.sensed stops
                    have landed : Parked start { ended with chunk_active := false } :=
                      { parkedThere with phase := .inr (.inl { goingThere with }) }
                    exact landed.next { goingThere with } freshThere now a
          · rw [if_neg chunk]
            exact parkedHere.next goingHere fresh now a

/-- While privacy is on no position is tracked. -/
theorem Parked.tracked {start m : Machine} (parked : Parked start m) (written : Bool) (now : Nat) :
    Parked start (position_track written now m) := by
  unfold position_track
  rw [if_pos (by simp [parked.privacy])]
  exact { parked with phase := parked.phase.imp id (Or.imp (fun going => { going with }) id) }

theorem Parked.turned {start m : Machine} (parked : Parked start m) (kept : m.app_stop = false)
    (now : Nat) (a : Answers) : Parked start (worker_turn now a m) := by
  unfold worker_turn
  rw [if_neg (by simp [parked.running, kept])]
  have ticked := parked.ticked now a
  simp only
  split
  · exact ticked
  · exact ticked.tracked a.positionWritten now

theorem Parked.returned {start m : Machine} (parked : Parked start m) (at_tick : Nat) (failed : Bool)
    (a : Answers) : Parked start (reset_returned at_tick failed a m) := by
  unfold reset_returned
  by_cases fails : failed = true
  · simp only [if_pos fails]
    have ended : Parked start { m with worker := .loop, homing := .idle } :=
      { parked with
        idle := rfl
        phase := parked.phase.imp id (Or.imp (fun going => { going with }) id) }
    exact ended.fault a.error
  · simp only [if_neg fails]
    exact { parked with phase := parked.phase.imp id (Or.imp (fun going => { going with }) id) }

/-- At its deadline the move is over: the head had arrived or the platform faults. -/
theorem Parked.overdue {start m : Machine} (parked : Parked start m) (kept : m.app_stop = false)
    {now : Nat} (late : start.goto_until ≤ now) (a : Answers) :
    (worker_turn now a m).goto_active = false := by
  have halts : ∀ m : Machine, (worker_error a.error m).goto_active = false := by
    intro m
    obtain ⟨_, _, _, _, _, same, -⟩ := motor_stop_motion_sensed a.error m
    rw [worker_error, same]
    rfl
  have ticked : (native_tick now a m).goto_active = false := by
    unfold native_tick
    rw [if_neg fun homing => homing.1 parked.idle]
    rcases parked.phase with halted | going | arrived
    · rw [if_pos (.inr (.inl halted.1))]
      exact halted.2
    · rw [if_neg (by simp [parked.opened, going.active, going.unfaulted]),
        if_pos ⟨going.active, going.deadline.trans_le late⟩]
      exact halts m
    · rw [if_pos (.inr (.inr ⟨arrived.1, parked.unleased, arrived.2.1⟩))]
      exact arrived.1
  unfold worker_turn
  rw [if_neg (by simp [parked.running, kept])]
  have parkedNow := parked.ticked now a
  simp only
  split
  · exact ticked
  · unfold position_track
    rw [if_pos (by simp [parkedNow.privacy])]
    exact ticked

/-! ## Client operations -/

/-- With privacy on and the device open, only these operations get to the motor. -/
theorem Parked.performed {start m : Machine} (parked : Parked start m) {r : Request}
    {value : Int} (now : Nat) (a : Answers) (allowed : ¬r.operation.waitsForPrivacy)
    (kept : m.goto_active = true → r.operation ≠ .ptz_stop ∧ r.operation ≠ .preset_remove) :
    Parked start (perform r value now a m).2 := by
  have halts : ¬(r.operation ≠ .ptz_stop ∧ r.operation ≠ .preset_remove) →
      m.Halted ∨ Arrived start m := by
    intro stops
    rcases parked.phase with halted | going | arrived
    · exact .inl halted
    · exact absurd (kept going.active) stops
    · exact .inr arrived
  have presets : ∀ (m : Machine) presets, Parked start m → Parked start { m with presets } := by
    intro m presets parked
    exact { parked with phase := parked.phase.imp id (Or.imp (fun going => { going with }) id) }
  have saved : ∀ (m : Machine) message slot preset, Parked start m →
      Parked start (keepIfSaved message slot preset a m).2 := by
    intro m message slot preset parked
    unfold keepIfSaved
    split
    · exact presets m _ parked
    · exact parked
  unfold perform
  cases operation : r.operation with
  | ptz | ptz_nudge | ptz_recalibrate | preset_set | preset_goto | preset_patrol =>
      exact absurd (by rw [operation]; decide) allowed
  | ptz_stop =>
      have stopped := parked.stopped a.halt (halts (by simp [operation]))
      simp only [control_stop]
      split
      · next ran =>
          rw [ran] at stopped
          exact stopped
      · next ran =>
          rw [ran] at stopped
          exact stopped
  | preset_remove =>
      have stopped := parked.stopped a.halt (halts (by simp [operation]))
      simp only [control_preset_remove]
      split
      · next ran =>
          rw [ran] at stopped
          exact stopped
      · next ran =>
          rw [ran] at stopped
          exact saved _ _ _ _ stopped
  | preset_rename =>
      simp only [control_preset_rename]
      split
      · exact parked
      · exact parked
      · split
        · exact parked
        · exact saved _ _ _ _ parked
  | night | ircut | white_light | pilot_led | speaker_enable | ir_mode | other =>
      exact { parked with phase := parked.phase.imp id (Or.imp (fun going => { going with }) id) }

theorem Parked.open {start m : Machine} (parked : Parked start m) (a : Answers) :
    motor_open_device a m = (true, m) :=
  if_pos parked.opened

theorem Parked.controlled {start m : Machine} (parked : Parked start m) (r : Request)
    (now : Nat) (a : Answers)
    (kept : m.goto_active = true → r.invalid = none →
      r.operation ≠ .ptz_stop ∧ r.operation ≠ .preset_remove) :
    Parked start (platform_control r now a m).2 := by
  have dispatched : r.invalid = none → ∀ value, Parked start (dispatch r value now a m).2 := by
    intro valid value
    unfold dispatch
    rw [if_neg fun waits => waits.1 parked.idle]
    by_cases hidden : r.operation.waitsForPrivacy
    · rw [if_pos ⟨parked.privacy, hidden⟩]
      exact parked
    · rw [if_neg fun refused => hidden refused.2]
      exact parked.performed now a hidden fun going => kept going valid
  unfold platform_control
  cases valid : r.invalid with
  | some message => exact parked
  | none =>
      by_cases stopping : m.app_stop = true ∨ m.quitting = true
      · simp only [if_pos stopping]
        exact parked
      simp only [if_neg stopping, parked.open a]
      cases allocate r m with
      | none => exact parked
      | some value =>
          simp only
          split
          · exact dispatched valid value
          · exact dispatched valid value

theorem Parked.moved {start m : Machine} (parked : Parked start m) (kind : Move)
    (x y speed : ℚ) (now : Nat) (a : Answers) :
    Parked start (jipc_platform_move kind x y speed now a m).2 := by
  unfold jipc_platform_move
  by_cases stopping : m.app_stop = true ∨ m.quitting = true
  · rw [if_pos stopping]
    exact parked
  · rw [if_neg stopping, parked.open a]
    simp only [if_neg fun homing : m.homing ≠ .idle => homing parked.idle, if_pos parked.privacy]
    exact parked

theorem Parked.shown {start m : Machine} (parked : Parked start m) (a : Answers) :
    Parked start (read_status a m) := by
  unfold read_status
  rw [if_neg fun running => running parked.idle, Attempt.andThen_done (parked.open a)]
  exact parked.sensed (motor_read_sensed a.reading m)

/-! ## Runs -/

/-- A client's operation on the head or the outputs, or a turn of the worker, while
the application runs. -/
def byClient (m : Machine) (e : Entry) : Prop :=
  m.app_stop = false ∧
    match e.event with
    | .control _ | .move _ _ _ _ | .status | .worker | .resetReturns _ => True
    | _ => False

instance (m : Machine) (e : Entry) : Decidable (byClient m e) :=
  decidable_of_iff (m.app_stop = false ∧ (match e.event with
      | .control _ | .move _ _ _ _ | .status | .worker | .resetReturns _ => true
      | _ => false) = true) (by unfold byClient; cases e.event <;> simp)

/-- A stop or the removal of a preset, while the head is under way. -/
def cancels (m : Machine) (e : Entry) : Prop :=
  m.goto_active = true ∧
    match e.event with
    | .control r => r.invalid = none ∧ (r.operation = .ptz_stop ∨ r.operation = .preset_remove)
    | _ => False

instance (m : Machine) (e : Entry) : Decidable (cancels m e) :=
  decidable_of_iff (m.goto_active = true ∧ (match e.event with
      | .control r => r.invalid.isNone && (r.operation = .ptz_stop || r.operation = .preset_remove)
      | _ => false) = true) (by unfold cancels; cases e.event <;> simp)

theorem parked_step {start m m' : Machine} {e : Entry} (parked : Parked start m)
    (client : byClient m e) (kept : ¬cancels m e) (stepped : step m e = some m') :
    Parked start m' := by
  obtain ⟨event, now, a⟩ := e
  obtain ⟨running, named⟩ := client
  cases event with
  | privacy on slot => exact named.elim
  | start => exact named.elim
  | appStop => exact named.elim
  | quit => exact named.elim
  | worker =>
      cases at_ : m.worker with
      | loop =>
          simp only [step, at_, Option.some.injEq] at stepped
          exact stepped ▸ parked.turned running now a
      | resetting since => simp [step, at_] at stepped
      | exited => simp [step, at_] at stepped
  | resetReturns failed =>
      cases at_ : m.worker with
      | resetting since =>
          simp only [step, at_, Option.some.injEq] at stepped
          exact stepped ▸ (parked.returned since failed a).tracked a.positionWritten since
      | loop => simp [step, at_] at stepped
      | exited => simp [step, at_] at stepped
  | control r =>
      simp only [step, Entry.call, parked.running, Bool.false_eq_true, if_false,
        Option.some.injEq] at stepped
      refine stepped ▸ parked.controlled r now a fun going valid => ?_
      by_contra stops
      exact kept ⟨going, valid, by tauto⟩
  | move kind x y speed =>
      simp only [step, Entry.call, parked.running, Bool.false_eq_true, if_false,
        Option.some.injEq] at stepped
      exact stepped ▸ parked.moved kind x y speed now a
  | status =>
      simp only [step, Entry.call, parked.running, Bool.false_eq_true, if_false,
        Option.some.injEq] at stepped
      exact stepped ▸ parked.shown a

/-- The opening and the stop of a privacy change leave the head still, whatever the
driver answers. -/
theorem halted_still {m m' : Machine} {a : Answers} {done : Bool} (sound : m.head.Sound)
    (ran : (motor_open_device a).andThen (motor_stop_motion a.halt) m = (done, m')) :
    m'.goto_active = false := by
  cases opening : motor_open_device a m with
  | mk ready opened =>
      cases ready with
      | true =>
          rw [Attempt.andThen_done opening] at ran
          obtain ⟨_, _, _, _, _, rfl, -⟩ := sensed_of_stop ran
          rfl
      | false =>
          rw [Attempt.andThen_refused opening] at ran
          obtain ⟨-, rfl⟩ := Prod.mk.inj ran
          have closed : m.motor_fd = false := by
            by_contra fd
            rw [motor_open_device, if_pos (by simpa using fd)] at opening
            exact absurd (congrArg Prod.fst opening) nofun
          have still : m.head.goto = none := (sound.closed closed).1.1
          obtain ⟨_, _, _, _, _, _, _, _, rfl, -⟩ := opened_of_open opening
          simpa [Machine.head] using still

theorem returnHere_same (was : Bool) (m : Machine) :
    ∃ returning, m.returnHere was = { m with returning } := by
  unfold Machine.returnHere
  split
  · exact ⟨_, rfl⟩
  · exact ⟨_, rfl⟩

/-- A privacy change that leaves the head under way has sent it to its target. -/
theorem parking_starts {m start : Machine} {slot : Int} {now : Nat} {a : Answers}
    (sound : m.head.Sound) (parks : step m ⟨.privacy true slot, now, a⟩ = some start)
    (started : start.goto_active = true) :
    Parked start start ∧ start.target_y = (m.parked slot).2 ∧
      start.target_x = if (m.parked slot).1 < 0 then start.x else (m.parked slot).1 := by
  have running : m.quitting = false := by
    by_contra quitting
    simp [step, Entry.call, quitting] at parks
  simp only [step, Entry.call, running, Bool.false_eq_true, if_false, Option.some.injEq] at parks
  have soundHere : (m.parking true slot).head.Sound := sound
  unfold jipc_platform_privacy at parks
  simp only at parks
  by_cases homing : (m.parking true slot).homing ≠ .idle
  · rw [if_pos homing] at parks
    have still := (soundHere.stillHoming (by simpa [Machine.head] using homing)).1
    subst parks
    exact absurd started (by simpa [Machine.head] using still)
  rw [if_neg homing] at parks
  cases ran : (motor_open_device a).andThen (motor_stop_motion a.halt) (m.parking true slot) with
  | mk done halted =>
      have still := halted_still soundHere ran
      cases done with
      | false =>
          simp only [ran] at parks
          exact absurd (parks ▸ started) (by simp [still])
      | true =>
          obtain ⟨opened, ready, stopped⟩ := Attempt.andThen_eq_true ran
          have fd := motor_open_device_fd ready
          obtain ⟨_, _, _, _, _, _, _, _, rfl, -⟩ := opened_of_open ready
          obtain ⟨_, _, _, _, _, rfl, -⟩ := sensed_of_stop stopped
          simp only [ran, if_true] at parks
          obtain ⟨returning, noted⟩ := returnHere_same m.privacy _
          rw [noted] at parks
          subst parks
          refine ⟨?_, rfl, rfl⟩
          exact {
            privacy := rfl
            opened := fd
            idle := not_not.mp homing
            unleased := rfl
            running := running
            grown := ⟨[], (List.append_nil _).symm, by simp⟩
            phase := .inr (.inl ⟨rfl, rfl, rfl, rfl, rfl⟩) }

/-- Privacy is switched on with the head at (2040, 600). -/
def parkingEntry : Entry := ⟨.privacy true 0, 1000, driverAt 2040 600 "4080" "1230"⟩

/-- The head goes down to the end of its tilt. -/
def arrivalEntries : List Entry :=
  [⟨.worker, 11000, driverAt 2040 600 "4080" "1230"⟩,
    ⟨request .ptz 10 0, 200000, driverAt 2040 700 "4080" "1230"⟩,
    ⟨.worker, 1500000, driverAt 2040 1230 "4080" "1230"⟩]

/-- A reading of the head at this place. -/
def Act.isAt (target_x target_y : Int) : Act → Bool
  | .position x y _ => x = target_x && y = target_y
  | _ => false

/-- The head is on its way when preset 1 is removed, though it was never set. -/
def removalEntries : List Entry :=
  [⟨.worker, 11000, driverAt 2040 600 "4080" "1230"⟩,
    ⟨request .preset_remove 1 0, 200000, driverAt 2040 700 "4080" "1230"⟩]

end JooanW3U.Media.Platform
