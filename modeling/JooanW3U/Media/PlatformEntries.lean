import JooanW3U.Media.PlatformRefinement

/-!
Owns the refinement of whole entries: the worker's turn, each control, exact
moves, privacy, status reads, start and stop are runs of the abstract head, and so
is every run of the system.  Also owns the two conditions under which an entry
does without the head's lapses.
-/

namespace JooanW3U.Media.Platform

open JooanW3U.Library

section

variable (lapses : Lapses)

/-! ## The worker's turn -/

/-- The machine after the speed of a displacement was asked for. -/
def Machine.atSpeed (m : Machine) (a : Answers) : Machine :=
  m.log (.speed
    (if m.goto_active = true then (if m.goto_rate ≠ 0 then m.goto_rate else MOTOR_RATE)
      else m.rate) a.speed)

/-- `send` asks for the speed, then for the displacement, and fails where one is refused. -/
theorem send_cases (purpose : Purpose) (dx dy : Int) (a : Answers) (m : Machine) :
    send purpose dx dy a m =
      if a.speed = false then worker_error a.error (m.atSpeed a)
      else
        let moved := (m.atSpeed a).log
          (.move purpose m.x m.y m.pan_max m.tilt_max dx dy a.move)
        if a.move = false then worker_error a.error moved
        else { moved with moving := true, chunk_active := true } := by
  unfold send Attempt.andThen ioctl Machine.atSpeed
  cases a.speed <;> cases a.move <;> rfl

theorem send_reaches (purpose : Purpose) (dx dy : Int) {a : Answers} {start m : Machine}
    (refused : Reaches lapses start (m.atSpeed a))
    (sent : Reaches lapses start
      ((m.atSpeed a).log (.move purpose m.x m.y m.pan_max m.tilt_max dx dy a.move))) :
    Reaches lapses start (send purpose dx dy a m) := by
  rw [send_cases]
  by_cases speed : a.speed = false
  · rw [if_pos speed]
    exact refused.trans (worker_error_reaches lapses a.error _)
  rw [if_neg speed]
  by_cases move : a.move = false
  · simp only [if_pos move]
    exact sent.trans (worker_error_reaches lapses a.error _)
  · simp only [if_neg move]
    exact sent.trans (.same rfl)

theorem manualMove_inside (now : Nat) {m : Machine} (here : m.head.InBox m.x m.y)
    (travel : 0 ≤ m.pan_max ∧ 0 ≤ m.tilt_max) :
    m.head.InBox (m.x + (manualMove now m).1) (m.y + (manualMove now m).2) := by
  have back : ∀ here there : Int, here + (there - here) = there := by
    intro here there
    omega
  unfold manualMove
  by_cases panning : m.vx ≠ 0
  · simp only [if_pos panning]
    have across := clamp_inside travel.1
    show m.head.InBox (m.x + (_ - m.x)) (m.y + 0)
    rw [back, Int.add_zero]
    exact ⟨(across _).1, (across _).2, here.2.2⟩
  simp only [if_neg panning]
  by_cases tilting : m.vy ≠ 0
  · simp only [if_pos tilting]
    have along := clamp_inside travel.2
    show m.head.InBox (m.x + 0) (m.y + (_ - m.y))
    rw [back, Int.add_zero]
    exact ⟨here.1, here.2.1, (along _).1, (along _).2⟩
  · simp only [if_neg tilting]
    show m.head.InBox (m.x + 0) (m.y + 0)
    rw [Int.add_zero, Int.add_zero]
    exact here

theorem gotoMove_axis (m : Machine) :
    ((gotoMove m).1 = m.target_x - m.x ∧ (gotoMove m).2 = 0) ∨
      ((gotoMove m).1 = 0 ∧ (gotoMove m).2 = m.target_y - m.y) := by
  unfold gotoMove
  by_cases there : m.target_x - m.x = 0
  · exact .inr ⟨there, by simp [there]⟩
  · exact .inl ⟨rfl, by simp [there]⟩

/-- The next displacement, from a fresh reading. -/
theorem next_move_reaches (now : Nat) (a : Answers) {m : Machine}
    (here : m.head.InBox m.x m.y) : Reaches lapses m (next_move now a m) := by
  unfold next_move
  by_cases going : m.goto_active = true
  · rw [if_pos going]
    have target : m.head.goto = some (m.target_x, m.target_y) := by simp [Machine.head, going]
    by_cases arrived : gotoMove m = (0, 0)
    · simp only [if_pos arrived]
      exact motor_stop_motion_reaches lapses a.halt m
    · simp only [if_neg arrived]
      apply send_reaches lapses
      · exact speed_reaches lapses _ a.speed m
      · apply (speed_reaches lapses _ a.speed m).trans
        exact .step fun _ => .drove a.move target here (gotoMove_axis m)
  rw [if_neg going]
  by_cases leased : m.lease_until ≠ 0 ∧ m.manual_sent = false
  · rw [if_pos leased]
    have spent : Reaches lapses m { m with manual_sent := true } := .step fun _ => .spent
    by_cases nowhere : manualMove now m = (0, 0)
    · simp only [if_pos nowhere]
      exact spent.trans (motor_stop_motion_reaches lapses a.halt _)
    · simp only [if_neg nowhere]
      apply send_reaches lapses
      · exact spent.trans (speed_reaches lapses _ a.speed _)
      · -- The head sends and spends the move at once.
        refine .ofSound fun sound => ?_
        apply (speed_reaches lapses _ a.speed m).trans
        refine .step fun _ => ?_
        apply HeadStep.nudged a.move
        · exact decide_eq_true leased.1
        · exact leased.2
        · exact manualMove_inside now here sound.travel
  · rw [if_neg leased]
    exact motor_stop_motion_reaches lapses a.halt m

theorem native_tick_reaches (now : Nat) {a : Answers} {m : Machine}
    (lapse : lapses.staleTrust = true ∨ m.position_trusted = false ∨
      ¬(m.motor_fd = true ∧ m.homing ≠ .idle ∧ homeTickFails now a m)) :
    Reaches lapses m (native_tick now a m) := by
  unfold native_tick
  by_cases homing : m.homing ≠ .idle ∧ m.motor_fd = true
  · rw [if_pos homing]
    apply home_tick_reaches lapses now homing.2 homing.1
    rcases lapse with stale | distrusted | runs
    · exact .inl stale
    · exact .inr (.inl distrusted)
    · exact .inr (.inr fun fails => runs ⟨homing.2, homing.1, fails⟩)
  rw [if_neg homing]
  by_cases nothing : m.motor_fd = false ∨ m.faulted = true ∨
      (m.goto_active = false ∧ m.lease_until = 0 ∧ m.chunk_active = false)
  · rw [if_pos nothing]
    exact .refl m
  rw [if_neg nothing]
  have opened : m.motor_fd = true := by
    by_contra closed
    exact nothing (.inl (by simpa using closed))
  have idle : m.homing = .idle := by
    by_contra running
    exact homing ⟨running, opened⟩
  by_cases late : m.goto_active = true ∧ m.goto_until ≤ now
  · rw [if_pos late]
    exact worker_error_reaches lapses a.error m
  rw [if_neg late]
  by_cases expired : m.lease_until ≠ 0 ∧ m.lease_until ≤ now
  · rw [if_pos expired]
    have stops := motor_stop_motion_reaches lapses a.halt m
    have sensed := motor_stop_motion_sensed a.halt m
    cases stopped : motor_stop_motion a.halt m with
    | mk done halted =>
        rw [stopped] at stops sensed
        have marked : Reaches lapses m (halted.log .expired) := by
          apply stops.trans
          refine .step fun _ => .expired ?_ ?_
          · obtain ⟨_, _, _, _, _, rfl, -⟩ := sensed
            exact ⟨rfl, rfl⟩
          · obtain ⟨_, _, _, _, _, rfl, -⟩ := sensed
            simp [Machine.head, Machine.cleared, idle]
        cases done with
        | true => exact marked
        | false => exact marked.trans (worker_error_reaches lapses a.error _)
  rw [if_neg expired]
  refine .ofSound fun sound => ?_
  have reads := motor_read_reaches lapses a.reading m
  cases read : motor_read a.reading m with
  | mk done sensed =>
      rw [read] at reads
      cases done with
      | false => exact reads.trans (worker_error_reaches lapses a.error _)
      | true =>
          apply reads.trans
          dsimp only
          by_cases chunk : sensed.chunk_active = true
          · rw [if_pos chunk]
            by_cases moving : sensed.moving = true
            · rw [if_pos moving]
              exact .refl _
            rw [if_neg moving]
            refine .ofSound fun sensedSound => ?_
            have stops := stopAndRead_reaches lapses a.stop a.again sensed
            cases ran : (ioctl .stop a.stop).andThen (motor_read a.again) sensed with
            | mk done ended =>
                rw [ran] at stops
                cases done with
                | false => exact stops.trans (worker_error_reaches lapses a.error _)
                | true =>
                    have here := stopAndRead_inside sensedSound ran
                    have finished : Reaches lapses ended { ended with chunk_active := false } :=
                      .same rfl
                    exact (stops.trans finished).trans (next_move_reaches lapses now a here)
          · rw [if_neg chunk]
            exact next_move_reaches lapses now a (motor_read_inside sound read)

theorem position_save_reaches (written : Bool) {m : Machine} (trusted : m.position_trusted = true)
    (idle : m.homing = .idle) : Reaches lapses m (position_save written m) :=
  .step fun _ => .saved written trusted (by simp [Machine.head, idle])

theorem position_track_reaches (written : Bool) (now : Nat) (m : Machine) :
    Reaches lapses m (position_track written now m) := by
  unfold position_track
  by_cases untracked : m.known = false ∨ m.position_trusted = false ∨ m.faulted = true ∨
      m.homing ≠ .idle ∨ m.moving = true ∨ m.goto_active = true ∨ m.privacy = true ∨
      m.patrol_move = true ∨ m.lease_until ≠ 0 ∨ m.saved = some (m.x, m.y)
  · rw [if_pos untracked]
    exact .same rfl
  rw [if_neg untracked]
  by_cases started : m.position_quiet_until = 0
  · rw [if_pos started]
    exact .same rfl
  rw [if_neg started]
  by_cases waiting : now < m.position_quiet_until
  · rw [if_pos waiting]
    exact .refl m
  rw [if_neg waiting]
  have ready : Reaches lapses m { m with position_quiet_until := 0 } := .same rfl
  apply ready.trans
  simp only [not_or, Decidable.not_not] at untracked
  apply position_save_reaches lapses
  · simpa using untracked.2.1
  · exact untracked.2.2.2.1

/-- A homing run fails at this turn of the worker. -/
def turnFails (now : Nat) (a : Answers) (m : Machine) : Prop :=
  ¬(m.quitting = true ∨ m.app_stop = true) ∧ m.motor_fd = true ∧ m.homing ≠ .idle ∧
    homeTickFails now a m

instance (now : Nat) (a : Answers) (m : Machine) : Decidable (turnFails now a m) :=
  inferInstanceAs (Decidable (_ ∧ _))

theorem worker_turn_reaches (now : Nat) {a : Answers} {m : Machine}
    (lapse : lapses.staleTrust = true ∨ m.position_trusted = false ∨ ¬turnFails now a m) :
    Reaches lapses m (worker_turn now a m) := by
  unfold worker_turn
  by_cases stopping : m.quitting = true ∨ m.app_stop = true
  · rw [if_pos stopping]
    exact (motor_stop_motion_reaches lapses a.halt m).trans (.same rfl)
  rw [if_neg stopping]
  have ticked : Reaches lapses m (native_tick now a m) := by
    apply native_tick_reaches lapses now
    rcases lapse with stale | distrusted | runs
    · exact .inl stale
    · exact .inr (.inl distrusted)
    · exact .inr (.inr fun fails => runs ⟨stopping, fails⟩)
  simp only
  split
  · exact ticked
  · exact ticked.trans (position_track_reaches lapses a.positionWritten now _)

theorem reset_returned_reaches (now : Nat) {failed : Bool} (a : Answers) {m : Machine}
    (lapse : lapses.staleTrust = true ∨ m.position_trusted = false ∨ failed = false) :
    Reaches lapses m (reset_returned now failed a m) := by
  have looped : Reaches lapses m { m with worker := .loop } := .same rfl
  apply looped.trans
  unfold reset_returned
  by_cases fails : failed = true
  · simp only [if_pos fails]
    apply homingFails_reaches lapses a
    rcases lapse with stale | distrusted | returned
    · exact .inl stale
    · exact .inr distrusted
    · exact absurd fails (by simp [returned])
  · simp only [if_neg fails]
    exact .same rfl

/-! ## Controls -/

theorem sensed_of_stop {a : Halt} {m m' : Machine} {done : Bool}
    (ran : motor_stop_motion a m = (done, m')) : Sensed m.cleared m' := by
  have sensed := motor_stop_motion_sensed a m
  rwa [ran] at sensed

theorem reaches_of_stop {a : Halt} {m m' : Machine} {done : Bool}
    (ran : motor_stop_motion a m = (done, m')) : Reaches lapses m m' := by
  have reaches := motor_stop_motion_reaches lapses a m
  rwa [ran] at reaches

/-- The head comes under a lease, or under a manual move of no extent. -/
theorem manual_reaches {m m' : Machine}
    (same : m'.head = { m.head with leased := decide (m'.lease_until ≠ 0) })
    (ready : m.head.Sound → m.head.goto = none) (idle : m.homing = .idle)
    (opened : m.motor_fd = true) : Reaches lapses m (m'.accept .manual) := by
  refine .step fun sound => ?_
  show HeadStep lapses m.head (m'.head.log (.accepted .manual))
  rw [same]
  exact .manual _ (ready sound) (by simp [Machine.head, idle]) opened

theorem sendTo_reaches {x y goto_rate : Int} {goto_until : Nat} {patrol_move : Bool}
    {command : Command} {m : Machine} (still : m.head.Still) (idle : m.homing = .idle)
    (opened : m.motor_fd = true) (notManual : command ≠ .manual)
    (inside : lapses.overshoot = true ∨ m.head.InBox x y) :
    Reaches lapses m (m.sendTo x y goto_until goto_rate patrol_move command) :=
  .step fun _ => .commanded still (by simp [Machine.head, idle]) opened notManual inside

theorem control_motion_reaches (nudge : Bool) (value value2 : Int) (now : Nat) {a : Answers}
    {m : Machine} (opened : m.motor_fd = true) (idle : m.homing = .idle) :
    Reaches lapses m (control_motion nudge value value2 now a m).2 := by
  simp only [control_motion]
  split
  · next same =>
      apply manual_reaches lapses _ _ idle opened
      · have kept : (if nudge = true then m.lease_until else now + MANUAL_LEASE_US) ≠ 0 := by
          split
          · exact same.2.2.2
          · simp [MANUAL_LEASE_US]
        simp [Machine.head, kept, same.2.2.2]
      · intro sound
        apply sound.exclusive.resolve_right
        simpa [Machine.head] using same.2.2.2
  · split
    · next halted ran => exact reaches_of_stop lapses ran
    · next halted ran =>
        apply (reaches_of_stop lapses ran).trans
        obtain ⟨_, _, _, _, _, rfl, -⟩ := sensed_of_stop ran
        exact manual_reaches lapses rfl (fun _ => rfl) idle opened

theorem control_stop_reaches (a : Answers) (m : Machine) :
    Reaches lapses m (control_stop a m).2 := by
  unfold control_stop
  split
  · next ran => exact reaches_of_stop lapses ran
  · next ran => exact reaches_of_stop lapses ran

theorem keepIfSaved_reaches (message : String) (slot : Nat) {preset : Option SavedPreset}
    (a : Answers) {m : Machine}
    (positive : m.head.Sound → ∀ p, preset = some p → 0 ≤ p.x ∧ 0 ≤ p.y) :
    Reaches lapses m (keepIfSaved message slot preset a m).2 := by
  unfold keepIfSaved
  split
  · refine .step fun sound => .stored ?_
    intro p member
    obtain ⟨entry, inSlots, same⟩ := List.mem_filterMap.mp member
    rcases List.mem_or_eq_of_mem_set inSlots with before | rfl
    · exact sound.stored p (List.mem_filterMap.mpr ⟨entry, before, same⟩)
    · obtain ⟨kept, rfl, rfl⟩ := Option.map_eq_some_iff.mp same
      exact positive sound kept rfl
  · exact .refl m

/-- A preset that is found is one of the positions kept. -/
theorem presetAt_stored {m : Machine} {slot : Int} {preset : SavedPreset}
    (found : presetAt m.presets slot = some preset) : (preset.x, preset.y) ∈ m.head.stored := by
  unfold presetAt at found
  split at found
  · have member : some preset ∈ m.presets := by
      generalize (slot - 1).toNat = index at found
      rw [List.getD_eq_getElem?_getD] at found
      cases at_slot : m.presets[index]? with
      | none => simp [at_slot] at found
      | some entry =>
          have same : entry = some preset := by simpa [at_slot] using found
          exact same ▸ List.mem_of_getElem? at_slot
    exact List.mem_filterMap.mpr ⟨some preset, member, rfl⟩
  · exact absurd found nofun

theorem control_preset_set_reaches (value : Int) (name : Option Name) (a : Answers) (m : Machine) :
    Reaches lapses m (control_preset_set value name a m).2 := by
  have reaches : Reaches lapses m
      ((motor_stop_motion a.halt).andThen (motor_read a.reading) m).2 :=
    Attempt.andThen_related (Reaches lapses) Reaches.trans
      (motor_stop_motion_reaches lapses a.halt) (motor_read_reaches lapses a.reading) m
  refine .ofSound fun sound => ?_
  unfold control_preset_set
  split
  · next ran =>
      rw [ran] at reaches
      exact reaches
  · next read ran =>
      rw [ran] at reaches
      apply reaches.trans
      obtain ⟨halted, stopped, sensed⟩ := Attempt.andThen_eq_true ran
      have here := motor_read_inside ((reaches_of_stop lapses stopped).sound sound) sensed
      simp only
      split
      · exact .refl _
      · apply keepIfSaved_reaches lapses
        intro _ p same
        have : ⟨read.x, read.y, _⟩ = p := Option.some.inj same
        subst this
        exact ⟨here.1, here.2.2.1⟩

theorem control_preset_rename_reaches (value : Int) (name : Option Name) (a : Answers)
    (m : Machine) : Reaches lapses m (control_preset_rename value name a m).2 := by
  unfold control_preset_rename
  split
  · exact .refl m
  · exact .refl m
  · next found =>
      split
      · exact .refl m
      · apply keepIfSaved_reaches lapses
        intro sound p same
        obtain rfl := Option.some.inj same
        exact sound.stored _ (presetAt_stored found)

theorem control_preset_remove_reaches (value : Int) (a : Answers) (m : Machine) :
    Reaches lapses m (control_preset_remove value a m).2 := by
  unfold control_preset_remove
  split
  · next ran => exact reaches_of_stop lapses ran
  · next ran =>
      apply (reaches_of_stop lapses ran).trans
      exact keepIfSaved_reaches lapses _ _ a fun _ p none => absurd none nofun

theorem control_preset_goto_reaches (patrol : Bool) (value : Int) (now : Nat) (a : Answers)
    {m : Machine} (opened : m.motor_fd = true) (idle : m.homing = .idle) :
    Reaches lapses m (control_preset_goto patrol value now a m).2 := by
  refine .ofSound fun sound => ?_
  unfold control_preset_goto
  split
  · exact .refl m
  · next preset found =>
      have positive := sound.stored _ (presetAt_stored found)
      split
      · exact .refl m
      · next inTravel =>
          split
          · next ran => exact reaches_of_stop lapses ran
          · next ran =>
              apply (reaches_of_stop lapses ran).trans
              obtain ⟨_, _, _, _, _, rfl, -⟩ := sensed_of_stop ran
              have inside : m.head.InBox preset.x preset.y := by
                have low : 0 ≤ preset.x ∧ 0 ≤ preset.y := positive
                show 0 ≤ preset.x ∧ preset.x ≤ m.pan_max ∧ 0 ≤ preset.y ∧ preset.y ≤ m.tilt_max
                omega
              exact sendTo_reaches lapses ⟨rfl, rfl⟩ idle opened (by decide) (.inr inside)

theorem saveFirst_reaches (sensed written : Bool) {m : Machine} (idle : m.homing = .idle) :
    Reaches lapses m (saveFirst sensed written m) := by
  unfold saveFirst
  split
  · next save => exact position_save_reaches lapses written save.2.1 idle
  · exact .refl m

theorem saveFirst_kept (sensed written : Bool) (m : Machine) :
    (saveFirst sensed written m).motor_fd = m.motor_fd ∧
      (saveFirst sensed written m).limits = m.limits ∧
      (saveFirst sensed written m).position_trusted = m.position_trusted := by
  unfold saveFirst
  split <;> exact ⟨rfl, rfl, rfl⟩

theorem control_recalibrate_reaches (now : Nat) {a : Answers} {m : Machine}
    (opened : m.motor_fd = true) (idle : m.homing = .idle)
    (lapse : lapses.staleTrust = true ∨ m.position_trusted = false ∨ ¬beginFails m.limits a) :
    Reaches lapses m (control_recalibrate now a m).2 := by
  have read := motor_read_reaches lapses a.reading m
  have sensed := motor_read_sensed a.reading m
  unfold control_recalibrate
  generalize motor_read a.reading m = reading at read sensed
  obtain ⟨done, here⟩ := reading
  have facts : here.motor_fd = true ∧ here.homing = .idle ∧ here.limits = m.limits ∧
      here.position_trusted = m.position_trusted := by
    obtain ⟨_, _, _, _, _, rfl, -⟩ := sensed
    exact ⟨opened, idle, rfl, rfl⟩
  have kept := saveFirst_kept done a.positionWritten here
  have saved := read.trans (saveFirst_reaches lapses done a.positionWritten facts.2.1)
  dsimp only at saved ⊢
  generalize saveFirst done a.positionWritten here = ready at saved kept ⊢
  have accepted : Reaches lapses ready
      ({ ready with patrol_move := false }.accept .recalibrate) :=
    .step fun _ => .homes (.inl rfl)
  have begun := motor_home_begin_reaches lapses now (a := a)
    (m := { ready with patrol_move := false }.accept .recalibrate) (kept.1.trans facts.1)
    (by
      intro command last
      have same : Command.recalibrate = command := by
        simpa [Machine.accept, Machine.log, Act.command?] using last
      exact .inl same.symm)
    (by simp [Machine.accept, Machine.log, Act.settles])
    (by
      show lapses.staleTrust = true ∨ ready.position_trusted = false ∨ ¬beginFails ready.limits a
      rw [kept.2.2, kept.2.1, facts.2.2.1, facts.2.2.2]
      exact lapse)
  have ran := (saved.trans accepted).trans begun
  split
  · next begins =>
      rw [begins] at ran
      exact ran
  · next begins =>
      rw [begins] at ran
      exact ran.trans (worker_error_reaches lapses a.error _)

/-- The operations on the outputs leave the head. -/
theorem perform_reaches (r : Request) (value : Int) (now : Nat) {a : Answers} {m : Machine}
    (opened : r.operation.opensMotor → m.motor_fd = true)
    (idle : r.operation.waitsForHoming → m.homing = .idle)
    (lapse : lapses.staleTrust = true ∨ m.position_trusted = false ∨
      ¬(r.operation = .ptz_recalibrate ∧ beginFails m.limits a)) :
    Reaches lapses m (perform r value now a m).2 := by
  unfold perform
  cases operation : r.operation with
  | ptz =>
      rw [operation] at opened idle
      exact control_motion_reaches lapses _ _ _ now (opened (by decide)) (idle (by decide))
  | ptz_nudge =>
      rw [operation] at opened idle
      exact control_motion_reaches lapses _ _ _ now (opened (by decide)) (idle (by decide))
  | ptz_stop => exact control_stop_reaches lapses a m
  | ptz_recalibrate =>
      rw [operation] at opened idle
      apply control_recalibrate_reaches lapses now (opened (by decide)) (idle (by decide))
      simpa [operation] using lapse
  | preset_set => exact control_preset_set_reaches lapses value r.name a m
  | preset_goto =>
      rw [operation] at opened idle
      exact control_preset_goto_reaches lapses _ _ now a (opened (by decide)) (idle (by decide))
  | preset_remove => exact control_preset_remove_reaches lapses value a m
  | preset_rename => exact control_preset_rename_reaches lapses value r.name a m
  | preset_patrol =>
      rw [operation] at opened idle
      exact control_preset_goto_reaches lapses _ _ now a (opened (by decide)) (idle (by decide))
  | night | ircut | white_light | pilot_led | speaker_enable | ir_mode | other =>
      exact .same rfl

end

end JooanW3U.Media.Platform
