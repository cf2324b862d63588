import JooanW3U.Media.PlatformEntries

/-!
Owns the refinement of the whole system: each entry from the outside and each step
is a run of the abstract head, and so is every run of the system.  Also owns the
two conditions under which a step does without the head's lapses.
-/

namespace JooanW3U.Media.Platform

open JooanW3U.Library

/-! ## The two conditions -/

/-- The entry gets to `motor_home_begin` if the device can be opened. -/
def asksHoming (m : Machine) (e : Entry) : Prop :=
  match e.event with
  | .start => m.motor_home = true ∧ m.marker = false
  | .control r => r.operation = .ptz_recalibrate ∧ r.invalid = none ∧ m.app_stop = false ∧
      m.homing = .idle ∧ m.privacy = false
  | _ => False

instance (m : Machine) (e : Entry) : Decidable (asksHoming m e) := by
  unfold asksHoming
  split <;> infer_instance

/-- A homing run fails in this entry, from its MOTOR_RESET on: at a worker's turn, as
the driver's reset returns, or where the run begins. -/
def homingLost (m : Machine) (e : Entry) : Prop :=
  match e.event with
  | .worker => turnFails e.now e.answers m
  | .resetReturns failed => failed = true
  | _ => asksHoming m e ∧ (motor_open_device e.answers m).1 = true ∧
      beginFails (motor_open_device e.answers m).2.limits e.answers

instance (m : Machine) (e : Entry) : Decidable (homingLost m e) := by
  unfold homingLost
  split <;> infer_instance

/-- The position privacy chooses, before the device is opened; a negative `x` of a
parking position is where the head is. -/
def Machine.chosen (on : Bool) (slot : Int) (m : Machine) : Option (Int × Int) :=
  if on = true then some (m.parked slot)
  else if m.privacy = true then m.returning.or m.saved
  else none

def chosenInside (limits : Int × Int) (on : Bool) (target : Int × Int) : Prop :=
  ((on = true ∧ target.1 < 0) ∨ (0 ≤ target.1 ∧ target.1 ≤ limits.1)) ∧
    0 ≤ target.2 ∧ target.2 ≤ limits.2

instance (limits : Int × Int) (on : Bool) (target : Int × Int) :
    Decidable (chosenInside limits on target) :=
  inferInstanceAs (Decidable (_ ∧ _))

/-- A privacy change sends the head to a position outside the limits in force once
the device is open. -/
def parksOutside (m : Machine) (e : Entry) : Prop :=
  match e.event with
  | .privacy on slot =>
      let opening := motor_open_device e.answers (m.parking on slot)
      m.homing = .idle ∧ opening.1 = true ∧ e.answers.halt.ok opening.2.limits ∧
        ∃ target ∈ m.chosen on slot, ¬chosenInside opening.2.limits on target
  | _ => False

instance (m : Machine) (e : Entry) : Decidable (parksOutside m e) := by
  unfold parksOutside
  split <;> infer_instance

section

variable (lapses : Lapses)

/-! ## Entries from the outside -/

theorem reaches_of_open {a : Answers} {m m' : Machine} {done : Bool}
    (ran : motor_open_device a m = (done, m')) : Reaches lapses m m' := by
  have reaches := motor_open_device_reaches lapses a m
  rwa [ran] at reaches

theorem opened_of_open {a : Answers} {m m' : Machine} {done : Bool}
    (ran : motor_open_device a m = (done, m')) : Opened m m' := by
  have opened := motor_open_device_opened a m
  rwa [ran] at opened

theorem dispatch_reaches (r : Request) (value : Int) (now : Nat) {a : Answers} {m : Machine}
    (opened : r.operation.opensMotor → m.motor_fd = true)
    (lapse : lapses.staleTrust = true ∨ m.position_trusted = false ∨
      ¬(r.operation = .ptz_recalibrate ∧ m.homing = .idle ∧ m.privacy = false ∧
        beginFails m.limits a)) :
    Reaches lapses m (dispatch r value now a m).2 := by
  unfold dispatch
  by_cases waits : m.homing ≠ .idle ∧ r.operation.waitsForHoming
  · rw [if_pos waits]
    exact .refl m
  rw [if_neg waits]
  by_cases hidden : m.privacy = true ∧ r.operation.waitsForPrivacy
  · rw [if_pos hidden]
    exact .refl m
  rw [if_neg hidden]
  have idle : r.operation.waitsForHoming → m.homing = .idle := by
    intro waiting
    by_contra running
    exact waits ⟨running, waiting⟩
  apply perform_reaches lapses r value now opened idle
  rcases lapse with stale | distrusted | runs
  · exact .inl stale
  · exact .inr (.inl distrusted)
  · refine .inr (.inr fun ⟨recalibrates, fails⟩ => runs ⟨recalibrates, ?_, ?_, fails⟩)
    · exact idle (.inr (.inl recalibrates))
    · by_contra shown
      exact hidden ⟨by simpa using shown, .inr (.inl recalibrates)⟩

theorem platform_control_reaches (r : Request) (now : Nat) {a : Answers} {m : Machine}
    (lapse : lapses.staleTrust = true ∨ m.position_trusted = false ∨
      ¬homingLost m ⟨.control r, now, a⟩) :
    Reaches lapses m (platform_control r now a m).2 := by
  unfold platform_control
  split
  · exact .refl m
  next valid =>
    split
    · exact .refl m
    next going =>
      split
      · exact .refl m
      next value _ =>
        split
        · next opens =>
            split
            · next ran => exact reaches_of_open lapses ran
            · next opened ran =>
                apply (reaches_of_open lapses ran).trans
                have kept := (opened_of_open ran).kept
                apply dispatch_reaches lapses r value now fun _ => motor_open_device_fd ran
                rw [kept.1, kept.2.1, kept.2.2]
                rcases lapse with stale | distrusted | runs
                · exact .inl stale
                · exact .inr (.inl distrusted)
                · refine .inr (.inr fun ⟨recalibrates, idle, shown, fails⟩ => runs ?_)
                  refine ⟨⟨recalibrates, valid, ?_, idle, shown⟩, ?_, ?_⟩
                  · exact by simpa using fun stopped => going (.inl stopped)
                  · exact congrArg Prod.fst ran
                  · simpa only [ran] using fails
        · next closed =>
            apply dispatch_reaches lapses r value now fun opens => absurd opens closed
            exact .inr (.inr fun ⟨recalibrates, _⟩ => closed (.inr (.inl recalibrates)))

theorem kept_of_stop {a : Halt} {m m' : Machine} {done : Bool}
    (ran : motor_stop_motion a m = (done, m')) :
    m'.head.Still ∧ m'.motor_fd = m.motor_fd ∧ m'.homing = m.homing := by
  obtain ⟨_, _, _, _, _, rfl, -⟩ := sensed_of_stop ran
  exact ⟨⟨rfl, rfl⟩, rfl, rfl⟩

theorem jipc_platform_move_reaches (kind : Move) (x y speed : ℚ) (now : Nat) (a : Answers)
    (m : Machine) : Reaches lapses m (jipc_platform_move kind x y speed now a m).2 := by
  refine .ofSound fun sound => ?_
  unfold jipc_platform_move
  split
  · exact .refl m
  split
  · next ran => exact reaches_of_open lapses ran
  next opened ran =>
    apply (reaches_of_open lapses ran).trans
    split
    · exact .refl opened
    next idle =>
      split
      · exact .refl opened
      split
      · next stopped => exact reaches_of_stop lapses stopped
      next stopped =>
        apply (reaches_of_stop lapses stopped).trans
        have fd := motor_open_device_fd ran
        refine .ofSound fun halted => ?_
        have across := clamp_inside halted.travel.1
        have along := clamp_inside halted.travel.2
        obtain ⟨still, sameFd, sameHoming⟩ := kept_of_stop stopped
        apply sendTo_reaches lapses still (sameHoming.trans (by simpa using idle))
          (sameFd.trans fd) (by decide)
        exact .inr ⟨(across _).1, (across _).2, (along _).1, (along _).2⟩

/-- What the opening and the stop of a privacy change leave. -/
theorem openAndStop {a : Answers} {m m' : Machine} (sound : m.head.Sound)
    (ran : (motor_open_device a).andThen (motor_stop_motion a.halt) m = (true, m')) :
    m'.motor_fd = true ∧ m'.head.Still ∧ m'.homing = m.homing ∧ m'.head.InBox m'.x m'.y ∧
      m'.privacy_x = m.privacy_x ∧ m'.privacy_y = m.privacy_y ∧
      m'.returning = m.returning ∧ m'.saved = m.saved ∧
      (motor_open_device a m).1 = true ∧ a.halt.ok m'.limits ∧
      m'.limits = (motor_open_device a m).2.limits := by
  obtain ⟨opened, ready, stopped⟩ := Attempt.andThen_eq_true ran
  have fd := motor_open_device_fd ready
  have here := motor_stop_motion_inside ((reaches_of_open ⟨true, true⟩ ready).sound sound) fd stopped
  have ok := motor_stop_motion_ok fd stopped
  obtain ⟨_, _, _, _, _, _, _, _, same, -⟩ := opened_of_open ready
  obtain ⟨_, _, _, _, _, rfl, -⟩ := sensed_of_stop stopped
  rw [ready]
  subst same
  exact ⟨fd, ⟨rfl, rfl⟩, rfl, here, rfl, rfl, rfl, rfl, rfl, ok, rfl⟩

theorem returnHere_head (was : Bool) (m : Machine) :
    (m.returnHere was).head = m.head ∧ (m.returnHere was).homing = m.homing ∧
      (m.returnHere was).motor_fd = m.motor_fd ∧ (m.returnHere was).x = m.x ∧
      (m.returnHere was).privacy_x = m.privacy_x ∧ (m.returnHere was).privacy_y = m.privacy_y := by
  unfold Machine.returnHere
  split <;> exact ⟨rfl, rfl, rfl, rfl, rfl, rfl⟩

theorem jipc_platform_privacy_reaches (on : Bool) (slot : Int) (now : Nat) {a : Answers}
    {m : Machine}
    (lapse : lapses.overshoot = true ∨ ¬parksOutside m ⟨.privacy on slot, now, a⟩) :
    Reaches lapses m (jipc_platform_privacy on slot now a m).2 := by
  have parked : Reaches lapses m (m.parking on slot) := .same rfl
  apply parked.trans
  refine .ofSound fun sound => ?_
  have reaches : Reaches lapses (m.parking on slot)
      ((motor_open_device a).andThen (motor_stop_motion a.halt) (m.parking on slot)).2 :=
    Attempt.andThen_related (Reaches lapses) Reaches.trans (motor_open_device_reaches lapses a)
      (motor_stop_motion_reaches lapses a.halt) _
  unfold jipc_platform_privacy
  simp only
  split
  · exact .refl _
  next idle =>
    have homing : m.homing = .idle := by simpa [Machine.parking] using idle
    split
    · next ran =>
        rw [ran] at reaches
        exact reaches
    next halted ran =>
      rw [ran] at reaches
      obtain ⟨fd, still, sameHoming, here, px, py, returning, saved, opens, ok, limits⟩ :=
        openAndStop sound ran
      have rest : halted.homing = .idle := sameHoming.trans homing
      apply reaches.trans
      -- A target outside the travel is the lapse.
      have inside : ∀ target, m.chosen on slot = some target → lapses.overshoot = true ∨
          chosenInside halted.limits on target := by
        intro target chosen
        by_cases fits : chosenInside halted.limits on target
        · exact .inr fits
        · refine .inl (lapse.resolve_right ?_)
          rw [not_not]
          exact ⟨homing, opens, limits ▸ ok, target, chosen, limits ▸ fits⟩
      cases on with
      | true =>
          obtain ⟨head, sameIdle, sameFd, sameX, samePx, samePy⟩ := returnHere_head m.privacy halted
          have noted : Reaches lapses halted (halted.returnHere m.privacy) := .same head
          apply noted.trans
          simp only [↓reduceIte]
          apply sendTo_reaches lapses
          · rw [head]
            exact still
          · rw [sameIdle]
            exact rest
          · rw [sameFd]
            exact fd
          · decide
          · rw [head, sameX, samePx, samePy, px, py]
            have parkedAt : (m.parking true slot).privacy_x = (m.parked slot).1 ∧
                (m.parking true slot).privacy_y = (m.parked slot).2 := ⟨rfl, rfl⟩
            rw [parkedAt.1, parkedAt.2]
            refine (inside (m.parked slot) rfl).imp id fun fits => ?_
            obtain ⟨across, along⟩ := fits
            split
            · exact ⟨here.1, here.2.1, along.1, along.2⟩
            · next positive =>
                have across := across.resolve_left fun back => positive back.2
                exact ⟨across.1, across.2, along.1, along.2⟩
      | false =>
          simp only [Bool.false_eq_true, ↓reduceIte]
          have target : ∀ x y, m.privacy = true → halted.returning.or halted.saved = some (x, y) →
              lapses.overshoot = true ∨ halted.head.InBox x y := by
            intro x y was back
            have chosen : m.chosen false slot = some (x, y) := by
              simp only [Machine.chosen, Bool.false_eq_true, ↓reduceIte, if_pos was]
              rw [← back, returning, saved]
              rfl
            refine (inside (x, y) chosen).imp id fun fits => ?_
            have across := fits.1.resolve_left fun back => Bool.false_ne_true back.1
            exact ⟨across.1, across.2, fits.2.1, fits.2.2⟩
          split
          · next was =>
              split
              · next x y back =>
                  have noted : Reaches lapses halted { halted with returning := none } := .same rfl
                  apply noted.trans
                  have inTravel := target x y was (by rw [back]; rfl)
                  exact sendTo_reaches lapses (m := { halted with returning := none }) still rest fd
                    (by decide) inTravel
              · next x y none back =>
                  have inTravel := target x y was (by rw [none, back]; rfl)
                  exact sendTo_reaches lapses still rest fd (by decide) inTravel
              · exact .refl _
          · exact .refl _

theorem read_status_reaches (a : Answers) (m : Machine) :
    Reaches lapses m (read_status a m) := by
  unfold read_status
  split
  · exact .refl m
  · exact Attempt.andThen_related (Reaches lapses) Reaches.trans
      (motor_open_device_reaches lapses a) (motor_read_reaches lapses a.reading) m

theorem jipc_platform_start_reaches (now : Nat) {a : Answers} {m : Machine}
    (lapse : lapses.staleTrust = true ∨ m.position_trusted = false ∨
      ¬homingLost m ⟨.start, now, a⟩) :
    Reaches lapses m (jipc_platform_start now a m) := by
  unfold jipc_platform_start
  split
  · exact .refl m
  next asked =>
    cases ran : motor_open_device a m with
    | mk done opened =>
        have reaches := reaches_of_open lapses ran
        cases done with
        | false =>
            rw [Attempt.andThen_refused ran]
            exact reaches.trans (worker_error_reaches lapses a.error _)
        | true =>
            rw [Attempt.andThen_done ran]
            have fd := motor_open_device_fd ran
            have marked : Reaches lapses opened (opened.log (.accepted .start)) :=
              .step fun _ => .homes (.inr rfl)
            have begun := motor_home_begin_reaches lapses now (a := a)
              (m := opened.log (.accepted .start)) fd
              (by
                intro command last
                have same : Command.start = command := by
                  simpa [Machine.log, Act.command?] using last
                exact .inr same.symm)
              (by simp [Machine.log, Act.settles])
              (by
                show lapses.staleTrust = true ∨ opened.position_trusted = false ∨
                  ¬beginFails opened.limits a
                rw [(opened_of_open ran).kept.2.1]
                rcases lapse with stale | distrusted | runs
                · exact .inl stale
                · exact .inr (.inl distrusted)
                · refine .inr (.inr fun fails => runs ⟨?_, ?_, ?_⟩)
                  · show m.motor_home = true ∧ m.marker = false
                    simpa using asked
                  · exact congrArg Prod.fst ran
                  · simpa only [ran] using fails)
            have run := (reaches.trans marked).trans begun
            split
            · next begins =>
                rw [begins] at run
                exact run
            · next begins =>
                rw [begins] at run
                exact run.trans (worker_error_reaches lapses a.error _)

theorem jipc_platform_stop_reaches (a : Answers) (m : Machine) :
    Reaches lapses m (jipc_platform_stop a m) := by
  have quits : Reaches lapses m { m with quitting := true } := .same rfl
  exact quits.trans (motor_stop_motion_reaches lapses a.halt _)

/-! ## The system -/

/-- An entry from the outside, while the platform is not going down. -/
theorem step_call {m m' result : Machine} {e : Entry}
    (outside : step m e = if m.quitting = true then none else some result)
    (stepped : step m e = some m') : m' = result := by
  rw [outside] at stepped
  split at stepped
  · exact absurd stepped nofun
  · exact (Option.some.inj stepped).symm

/-- A step is a run of the head, which takes a lapse only where the step's own
condition fails. -/
theorem step_reaches {m m' : Machine} {e : Entry}
    (overshoot : lapses.overshoot = true ∨ ¬parksOutside m e)
    (staleTrust : lapses.staleTrust = true ∨ m.position_trusted = false ∨ ¬homingLost m e)
    (stepped : step m e = some m') : Reaches lapses m m' := by
  obtain ⟨event, now, a⟩ := e
  cases event with
  | worker =>
      cases at_loop : m.worker with
      | loop =>
          simp only [step, at_loop, Option.some.injEq] at stepped
          subst stepped
          apply worker_turn_reaches lapses now
          exact staleTrust
      | resetting | exited => simp [step, at_loop] at stepped
  | resetReturns failed =>
      cases inside : m.worker with
      | resetting at_tick =>
          simp only [step, inside, Option.some.injEq] at stepped
          subst stepped
          have returned : Reaches lapses m (reset_returned at_tick failed a m) := by
            apply reset_returned_reaches lapses at_tick a
            refine staleTrust.imp id (Or.imp id fun runs => ?_)
            by_contra fails
            exact runs (by simpa [homingLost] using fails)
          exact returned.trans (position_track_reaches lapses a.positionWritten at_tick _)
      | loop | exited => simp [step, inside] at stepped
  | control r =>
      obtain rfl := step_call rfl stepped
      exact platform_control_reaches lapses r now staleTrust
  | move kind x y speed =>
      obtain rfl := step_call rfl stepped
      exact jipc_platform_move_reaches lapses kind x y speed now a m
  | privacy on slot =>
      obtain rfl := step_call rfl stepped
      exact jipc_platform_privacy_reaches lapses on slot now overshoot
  | status =>
      obtain rfl := step_call rfl stepped
      exact read_status_reaches lapses a m
  | start =>
      obtain rfl := step_call rfl stepped
      exact jipc_platform_start_reaches lapses now staleTrust
  | appStop =>
      obtain rfl := step_call rfl stepped
      exact .same rfl
  | quit =>
      obtain rfl := step_call rfl stepped
      exact jipc_platform_stop_reaches lapses a m

end

end JooanW3U.Media.Platform
