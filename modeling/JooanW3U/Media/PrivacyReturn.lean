import JooanW3U.Media.PlatformSafety

/-!
Owns where the head is sent when privacy ends: over any run of privacy changes and
ticks, back to where the last switch-on found it. That is where it was before the first
one exactly when no later switch-on catches the head elsewhere.

Does not own the way there, nor what a driver call that fails leaves behind.
-/

namespace JooanW3U.Media.Platform

open JooanW3U.Library

/-- What a tick leaves alone outside homing. -/
structure Memory where
  privacy : Bool
  returning : Option (Int × Int)
  target : Int × Int
  homing : Homing
  trusted : Bool

def Machine.memory (m : Machine) : Memory :=
  ⟨m.privacy, m.returning, (m.target_x, m.target_y), m.homing, m.position_trusted⟩

/-! ### Ticks -/

theorem Sensed.memory {m m' : Machine} (sensed : Sensed m m') : m'.memory = m.memory := by
  obtain ⟨_, _, _, _, _, rfl, -⟩ := sensed
  rfl

theorem Opened.memory {m m' : Machine} (opened : Opened m m') : m'.memory = m.memory := by
  obtain ⟨_, _, _, _, _, _, _, _, rfl, -⟩ := opened
  rfl

theorem stop_memory (a : Halt) (m : Machine) : (motor_stop_motion a m).2.memory = m.memory :=
  (motor_stop_motion_sensed a m).memory

theorem error_memory (a : Halt) (m : Machine) : (worker_error a m).memory = m.memory :=
  stop_memory a m

theorem send_memory (purpose : Purpose) (dx dy : Int) (a : Answers) (m : Machine) :
    (send purpose dx dy a m).memory = m.memory := by
  rw [send_cases]
  by_cases speed : a.speed = false
  · rw [if_pos speed]
    exact error_memory a.error (m.atSpeed a)
  · rw [if_neg speed]
    by_cases move : a.move = false
    · simp only [if_pos move]
      exact error_memory a.error _
    · simp only [if_neg move]
      rfl

theorem next_move_memory (now : Nat) (a : Answers) (m : Machine) :
    (next_move now a m).memory = m.memory := by
  unfold next_move
  split
  · simp only
    split
    · exact stop_memory a.halt m
    · exact send_memory .goto _ _ a m
  · split
    · simp only
      split
      · exact stop_memory a.halt { m with manual_sent := true }
      · exact send_memory .manual _ _ a { m with manual_sent := true }
    · exact stop_memory a.halt m

theorem native_tick_memory (now : Nat) (a : Answers) {m : Machine} (idle : m.homing = .idle) :
    (native_tick now a m).memory = m.memory := by
  unfold native_tick
  rw [if_neg fun homing => homing.1 idle]
  split
  · rfl
  · split
    · exact error_memory a.error m
    · split
      · have stopped := stop_memory a.halt m
        split
        · next m' ran =>
            rw [ran] at stopped
            exact stopped
        · next m' ran =>
            rw [ran] at stopped
            exact (error_memory a.error (m'.log .expired)).trans stopped
      · have sensed := (motor_read_sensed a.reading m).memory
        split
        · next m' read =>
            rw [read] at sensed
            exact (error_memory a.error m').trans sensed
        · next m' read =>
            rw [read] at sensed
            split
            · split
              · exact sensed
              · have again := (stopAndRead_sensed a.stop a.again m').memory.trans sensed
                split
                · next m'' ran =>
                    rw [ran] at again
                    exact (error_memory a.error m'').trans again
                · next m'' ran =>
                    rw [ran] at again
                    exact (next_move_memory now a { m'' with chunk_active := false }).trans again
            · exact (next_move_memory now a m').trans sensed

theorem position_track_memory (written : Bool) (now : Nat) (m : Machine) :
    (position_track written now m).memory = m.memory := by
  unfold position_track
  split
  · rfl
  · split
    · rfl
    · split <;> rfl

theorem worker_turn_memory (now : Nat) (a : Answers) {m : Machine} (idle : m.homing = .idle) :
    (worker_turn now a m).memory = m.memory := by
  unfold worker_turn
  split
  · exact stop_memory a.halt m
  · have ticked := native_tick_memory now a idle
    simp only
    split
    · exact ticked
    · exact (position_track_memory a.positionWritten now _).trans ticked

theorem reset_returned_memory (now : Nat) (failed : Bool) (a : Answers) {m : Machine}
    (idle : m.homing = .idle) : (reset_returned now failed a m).memory = m.memory := by
  have still : ({ m with worker := .loop, homing := .idle } : Machine).memory = m.memory := by
    simp only [Machine.memory, idle]
  unfold reset_returned
  simp only
  split
  · exact (error_memory a.error _).trans still
  · rfl

/-! ### Changes -/

/-- Where a privacy change finds the head, if its driver calls succeed. -/
def foundAt (a : Answers) (m : Machine) : Option (Int × Int) :=
  match (motor_open_device a).andThen (motor_stop_motion a.halt) m with
  | (true, m) => some (m.x, m.y)
  | (false, _) => none

def Entry.found (m : Machine) (e : Entry) : Option (Int × Int) :=
  match e.event with
  | .privacy on slot => foundAt e.answers (m.parking on slot)
  | _ => none

/-- The entry switches privacy on. -/
def Entry.switchesOn (m : Machine) (e : Entry) : Bool :=
  match e.event with
  | .privacy on _ => on && !m.privacy
  | _ => false

/-- The same is remembered. -/
def Remembers (m m' : Machine) : Prop := m'.memory = m.memory

theorem Remembers.trans {first middle last : Machine} (left : Remembers first middle)
    (right : Remembers middle last) : Remembers first last :=
  Eq.trans right left

theorem halted_memory (a : Answers) (m : Machine) :
    Remembers m ((motor_open_device a).andThen (motor_stop_motion a.halt) m).2 :=
  Attempt.andThen_related Remembers Remembers.trans
    (fun m => (motor_open_device_opened a m).memory) (stop_memory a.halt) m

theorem stop_known {a : Halt} {m m' : Machine} (opened : m.motor_fd = true)
    (stopped : motor_stop_motion a m = (true, m')) : m'.known = true := by
  rw [motor_stop_motion, if_pos opened] at stopped
  split at stopped
  · next rest ran =>
      obtain ⟨middle, -, read⟩ := Attempt.andThen_eq_true ran
      obtain ⟨-, rfl⟩ := Prod.mk.inj stopped
      rcases motor_read_cases a.reading middle with failed | ⟨position, ok⟩
      · exact absurd (failed.symm.trans read) (by simp)
      · obtain ⟨-, rfl⟩ := Prod.mk.inj (ok.symm.trans read)
        rfl
  · exact absurd (congrArg Prod.fst stopped) Bool.false_ne_true

/-- The head that a change has stopped: where it is, and what is remembered so far. -/
theorem found_halted {a : Answers} {m : Machine} {position : Int × Int}
    (found : foundAt a m = some position) :
    ∃ halted, (motor_open_device a).andThen (motor_stop_motion a.halt) m = (true, halted) ∧
      (halted.x, halted.y) = position ∧ halted.known = true ∧ halted.memory = m.memory := by
  have same : _ = m.memory := halted_memory a m
  unfold foundAt at found
  split at found
  · next halted ran =>
      rw [ran] at same
      obtain ⟨middle, opened, stopped⟩ := Attempt.andThen_eq_true ran
      have known := stop_known (motor_open_device_fd opened) stopped
      exact ⟨halted, ran, Option.some.inj found, known, same⟩
  · exact absurd found nofun

/-- The head may be sent back: while privacy is on, the return position is `latest`. -/
structure Holds (latest : Int × Int) (m : Machine) : Prop where
  idle : m.homing = .idle
  trusted : m.position_trusted = true
  returning : m.privacy = true → m.returning = some latest

theorem Holds.same {latest : Int × Int} {m m' : Machine} (holds : Holds latest m)
    (same : m'.memory = m.memory) : Holds latest m' := by
  obtain ⟨idle, trusted, returning⟩ := holds
  simp only [Machine.memory, Memory.mk.injEq] at same
  obtain ⟨privacy, kept, -, homing, trust⟩ := same
  exact ⟨homing.trans idle, trust.trans trusted, fun on =>
    kept.trans (returning (privacy.symm.trans on))⟩

/-- The head is on its way to this position. -/
def Machine.SentTo (position : Int × Int) (m : Machine) : Prop :=
  m.goto_active = true ∧ (m.target_x, m.target_y) = position

theorem switch_on {m : Machine} {a : Answers} {position : Int × Int} {slot : Int} {now : Nat}
    (off : m.privacy = false) (idle : m.homing = .idle) (trusted : m.position_trusted = true)
    (found : foundAt a (m.parking true slot) = some position) :
    Holds position (jipc_platform_privacy true slot now a m).2 := by
  obtain ⟨halted, ran, here, known, same⟩ := found_halted found
  simp only [Machine.memory, Memory.mk.injEq] at same
  obtain ⟨-, -, -, homing, trust⟩ := same
  have calibrated : halted.known = true ∧ halted.position_trusted = true :=
    ⟨known, trust.trans trusted⟩
  unfold jipc_platform_privacy
  rw [if_neg (fun homing => homing idle), ran]
  simp only [if_true, Machine.returnHere, if_pos (And.intro off calibrated), here]
  exact ⟨homing.trans idle, trust.trans trusted, fun _ => rfl⟩

/-- A repeated switch-on remembers nothing new, whatever the driver answers. -/
theorem stay_on {m : Machine} {latest : Int × Int} (holds : Holds latest m) (on : m.privacy = true)
    (slot : Int) (now : Nat) (a : Answers) :
    Holds latest (jipc_platform_privacy true slot now a m).2 := by
  have parking : Holds latest (m.parking true slot) :=
    ⟨holds.idle, holds.trusted, fun _ => holds.returning on⟩
  have halted := parking.same (halted_memory a (m.parking true slot))
  unfold jipc_platform_privacy
  rw [if_neg (fun homing => homing holds.idle)]
  split
  · next m' ran =>
      rw [ran] at halted
      exact halted
  · next m' ran =>
      rw [ran] at halted
      have again : ¬(m.privacy = false ∧ m'.known = true ∧ m'.position_trusted = true) := by
        simp [on]
      simp only [if_true, Machine.returnHere, if_neg again]
      exact ⟨halted.idle, halted.trusted, halted.returning⟩

theorem switch_off {m : Machine} {a : Answers} {latest : Int × Int} {slot : Int} {now : Nat}
    (holds : Holds latest m) (on : m.privacy = true)
    (found : (foundAt a (m.parking false slot)).isSome = true) :
    Holds latest (jipc_platform_privacy false slot now a m).2 ∧
      (jipc_platform_privacy false slot now a m).2.SentTo latest := by
  obtain ⟨position, found⟩ := Option.isSome_iff_exists.mp found
  obtain ⟨halted, ran, -, -, same⟩ := found_halted found
  simp only [Machine.memory, Memory.mk.injEq] at same
  obtain ⟨privacy, returning, -, homing, trust⟩ := same
  have remembered : halted.returning = some latest := returning.trans (holds.returning on)
  unfold jipc_platform_privacy
  rw [if_neg (fun homing => homing holds.idle), ran]
  simp only [Bool.false_eq_true, if_false, if_pos on, remembered]
  exact ⟨⟨homing.trans holds.idle, trust.trans holds.trusted, fun stays =>
    absurd (privacy.symm.trans stays) Bool.false_ne_true⟩, rfl, rfl⟩

theorem privacy_is_set (on : Bool) (slot : Int) (now : Nat) (a : Answers) (m : Machine) :
    (jipc_platform_privacy on slot now a m).2.privacy = on := by
  have halted : _ = (m.parking on slot).memory := halted_memory a (m.parking on slot)
  have kept := congrArg Memory.privacy halted
  unfold jipc_platform_privacy
  simp only
  split
  · rfl
  · split
    · next m' ran =>
        rw [ran] at kept
        exact kept
    · next m' ran =>
        rw [ran] at kept
        split
        · unfold Machine.returnHere
          split <;> exact kept
        · split
          · split <;> exact kept
          · exact kept

/-! ### Runs -/

/-- Where the last switch-on found the head, after this entry. -/
def Entry.latest (m : Machine) (e : Entry) (latest : Int × Int) : Int × Int :=
  if e.switchesOn m = true then (e.found m).getD latest else latest

def lastFound : Machine → List Entry → Int × Int → Int × Int
  | _, [], latest => latest
  | m, e :: rest, latest =>
      match step m e with
      | none => latest
      | some m' => lastFound m' rest (e.latest m latest)

/-- A tick, or a privacy change whose driver calls succeed; privacy is ended only
where it is on. -/
def Entry.answered (m : Machine) (e : Entry) : Bool :=
  match e.event with
  | .privacy true _ => m.privacy || (e.found m).isSome
  | .privacy false _ => m.privacy && (e.found m).isSome
  | .worker => true
  | .resetReturns _ => true
  | _ => false

/-- A switch-on finds the head back where it was sent. -/
def Back (m : Machine) (e : Entry) : Prop :=
  e.switchesOn m = true → e.found m = some (m.target_x, m.target_y)

theorem change_made {m m' : Machine} {e : Entry} {on : Bool} {slot : Int}
    (event : e.event = .privacy on slot) (stepped : step m e = some m') :
    m' = (jipc_platform_privacy on slot e.now e.answers m).2 := by
  simp only [step, event, Entry.call] at stepped
  split at stepped
  · contradiction
  · exact (Option.some.inj stepped).symm

/-- One entry of a run: a tick, or one of the two changes. -/
theorem answered_cases {m m' : Machine} {e : Entry} (stepped : step m e = some m')
    (answered : e.answered m = true) (idle : m.homing = .idle) :
    (e.switchesOn m = false ∧ Remembers m m') ∨
      ∃ on slot, e.event = .privacy on slot ∧
        m' = (jipc_platform_privacy on slot e.now e.answers m).2 := by
  cases event : e.event with
  | privacy on slot =>
      exact .inr ⟨on, slot, rfl, change_made event stepped⟩
  | worker =>
      left
      simp only [step, event] at stepped
      cases at_loop : m.worker with
      | loop =>
          rw [at_loop] at stepped
          rw [← Option.some.inj stepped]
          exact ⟨by simp only [Entry.switchesOn, event], worker_turn_memory e.now e.answers idle⟩
      | resetting _ => simp [at_loop] at stepped
      | exited => simp [at_loop] at stepped
  | resetReturns failed =>
      left
      simp only [step, event] at stepped
      cases at_reset : m.worker with
      | resetting now =>
          rw [at_reset] at stepped
          rw [← Option.some.inj stepped]
          exact ⟨by simp only [Entry.switchesOn, event],
            (position_track_memory _ _ _).trans (reset_returned_memory now failed e.answers idle)⟩
      | loop => simp [at_reset] at stepped
      | exited => simp [at_reset] at stepped
  | _ => simp [Entry.answered, event] at answered

theorem answered_keeps {m m' : Machine} {e : Entry} {latest : Int × Int}
    (stepped : step m e = some m') (answered : e.answered m = true) (holds : Holds latest m) :
    Holds (e.latest m latest) m' := by
  rcases answered_cases stepped answered holds.idle with ⟨quiet, same⟩ | ⟨on, slot, event, rfl⟩
  · rw [Entry.latest, if_neg (Bool.not_eq_true _ ▸ quiet)]
    exact holds.same same
  · cases on with
    | false =>
        have stays : e.switchesOn m = false := by simp only [Entry.switchesOn, event, Bool.false_and]
        simp only [Entry.answered, event, Bool.and_eq_true, Entry.found] at answered
        rw [Entry.latest, if_neg (Bool.not_eq_true _ ▸ stays)]
        exact (switch_off holds answered.1 answered.2).1
    | true =>
        cases privacy : m.privacy with
        | true =>
            have stays : e.switchesOn m = false := by simp [Entry.switchesOn, event, privacy]
            rw [Entry.latest, if_neg (Bool.not_eq_true _ ▸ stays)]
            exact stay_on holds privacy slot e.now e.answers
        | false =>
            have switches : e.switchesOn m = true := by simp [Entry.switchesOn, event, privacy]
            simp only [Entry.answered, event, privacy, Bool.false_or] at answered
            obtain ⟨position, found⟩ := Option.isSome_iff_exists.mp answered
            rw [Entry.latest, if_pos switches, found, Option.getD_some]
            simp only [Entry.found, event] at found
            exact switch_on privacy holds.idle holds.trusted found

theorem answered_run {m m' : Machine} {entries : List Entry} {latest : Int × Int}
    (run : Runs (fun m e => e.answered m = true) m entries m') (holds : Holds latest m) :
    Holds (lastFound m entries latest) m' := by
  induction run generalizing latest with
  | nil m => exact holds
  | cons first _ inductionHypothesis =>
      have kept := inductionHypothesis (answered_keeps first.1 first.2 holds)
      simp only [lastFound, first.1]
      exact kept

theorem off_sends {m m' : Machine} {e : Entry} {slot : Int} {latest : Int × Int}
    (event : e.event = .privacy false slot) (stepped : step m e = some m')
    (answered : e.answered m = true) (holds : Holds latest m) : m'.SentTo latest := by
  rw [change_made event stepped]
  simp only [Entry.answered, event, Bool.and_eq_true, Entry.found] at answered
  exact (switch_off holds answered.1 answered.2).2

/-- While privacy is off the head has been sent to `origin`, while it is on it will be. -/
structure Home (origin : Int × Int) (m : Machine) : Prop where
  holds : Holds origin m
  target : m.privacy = false → (m.target_x, m.target_y) = origin

theorem home_keeps {m m' : Machine} {e : Entry} {origin : Int × Int} (stepped : step m e = some m')
    (answered : e.answered m = true) (back : Back m e) (home : Home origin m) : Home origin m' := by
  have latest : e.latest m origin = origin := by
    unfold Entry.latest
    split
    · next switches =>
        have off : m.privacy = false := by
          unfold Entry.switchesOn at switches
          split at switches
          · simp only [Bool.and_eq_true, Bool.not_eq_true'] at switches
            exact switches.2
          · exact absurd switches Bool.false_ne_true
        rw [back switches, Option.getD_some]
        exact home.target off
    · rfl
  have holds := answered_keeps stepped answered home.holds
  rw [latest] at holds
  refine ⟨holds, fun off => ?_⟩
  rcases answered_cases stepped answered home.holds.idle with ⟨-, same⟩ | ⟨on, slot, event, rfl⟩
  · have target : (m'.target_x, m'.target_y) = (m.target_x, m.target_y) := congrArg Memory.target same
    have privacy : m'.privacy = m.privacy := congrArg Memory.privacy same
    exact target.trans (home.target (privacy.symm.trans off))
  · rw [privacy_is_set] at off
    rw [off] at event
    exact (off_sends event stepped answered home.holds).2

/-- The last off of a run of privacy changes and ticks sends the head to where it was
before the first on exactly when the last switch-on found it there; it does whenever each
later switch-on finds the head back where it was sent. -/
theorem last_off_returns_iff {start begun m after : Machine} {first last : Entry}
    {entries : List Entry} {slot last_slot : Int} {origin : Int × Int}
    (off : start.privacy = false) (idle : start.homing = .idle)
    (trusted : start.position_trusted = true) (first_on : first.event = .privacy true slot)
    (found : first.found start = some origin) (began : step start first = some begun)
    (run : Runs (fun m e => e.answered m = true) begun entries m)
    (last_off : last.event = .privacy false last_slot) (answered : last.answered m = true)
    (ended : step m last = some after) :
    (after.SentTo origin ↔ lastFound begun entries origin = origin) ∧
      (Runs (fun m e => e.answered m = true ∧ Back m e) begun entries m → after.SentTo origin) := by
  have holds : Holds origin begun := by
    rw [change_made first_on began]
    simp only [Entry.found, first_on] at found
    exact switch_on off idle trusted found
  have on : begun.privacy = true := by
    rw [change_made first_on began]
    exact privacy_is_set true slot first.now first.answers start
  have sent := off_sends last_off ended answered (answered_run run holds)
  constructor
  · constructor
    · intro goes
      exact sent.2.symm.trans goes.2
    · intro same
      exact same ▸ sent
  · intro back
    have home : Home origin m := by
      apply back.preserves _ ⟨holds, fun ends => absurd (on.symm.trans ends) (by decide)⟩
      intro m e m' home stepped
      exact home_keeps stepped.1 stepped.2.1 stepped.2.2 home
    exact off_sends last_off ended answered home.holds

/-- Privacy is switched on at (2040, 600), off again at its parking position, and on once
more with the head here. -/
def toggles (y : Int) : List Entry :=
  [⟨.worker, 11000, driverAt 2040 600 "4080" "1230"⟩,
    ⟨.privacy false 0, 5000000, driverAt 2040 1230 "4080" "1230"⟩,
    ⟨.worker, 5011000, driverAt 2040 1230 "4080" "1230"⟩,
    ⟨.privacy true 0, 6000000, driverAt 2040 y "4080" "1230"⟩]

def switchOn : Entry := ⟨.privacy true 0, 1000, driverAt 2040 600 "4080" "1230"⟩

def switchOff : Entry := ⟨.privacy false 0, 7000000, driverAt 2040 1100 "4080" "1230"⟩

/-- The state after the toggles and the last off, if every entry meets a condition. -/
def toggled (y : Int) : Option (Machine × Machine × Machine) :=
  (step homedBoot.machine switchOn).bind fun begun =>
    (runs (fun m e => if e.answered m = true then step m e else none) begun (toggles y)).bind
      fun m => if switchOff.answered m = true then (step m switchOff).map fun after => (begun, m, after)
        else none

theorem toggled_runs {y : Int} {begun m after : Machine} (ran : toggled y = some (begun, m, after)) :
    step homedBoot.machine switchOn = some begun ∧
      Runs (fun m e => e.answered m = true) begun (toggles y) m ∧
      switchOff.answered m = true ∧ step m switchOff = some after := by
  obtain ⟨begun, began, ran⟩ := Option.bind_eq_some_iff.mp ran
  obtain ⟨m, toggled, ran⟩ := Option.bind_eq_some_iff.mp ran
  split at ran
  · next answered =>
      obtain ⟨after, ended, same⟩ := Option.map_eq_some_iff.mp ran
      cases same
      exact ⟨began, run_of_guarded toggled, answered, ended⟩
  · exact absurd ran nofun

/-- Switched on again once it is back, the head comes back again. -/
theorem last_off_returns_home :
    ∃ begun m after, toggled 600 = some (begun, m, after) ∧ after.SentTo (2040, 600) := by
  have ends : (toggled 600).isSome = true := by decide +kernel
  obtain ⟨⟨begun, m, after⟩, ran⟩ := Option.isSome_iff_exists.mp ends
  obtain ⟨began, run, answered, ended⟩ := toggled_runs ran
  have same : (toggled 600).map (fun states => lastFound states.1 (toggles 600) (2040, 600)) =
      some (2040, 600) := by decide +kernel
  rw [ran, Option.map_some] at same
  have found : switchOn.found homedBoot.machine = some (2040, 600) := by decide +kernel
  exact ⟨begun, m, after, ran, (last_off_returns_iff rfl rfl rfl rfl found began run rfl answered
    ended).1.mpr (Option.some.inj same)⟩

/-- Switched on again on its way back, at (2040, 900), the head is left there. -/
theorem off_leaves_head_on_its_way :
    ¬∀ (start begun m after : Machine) (first last : Entry) (entries : List Entry)
      (slot last_slot : Int) (origin : Int × Int),
      start.privacy = false → start.homing = .idle → start.position_trusted = true →
      first.event = .privacy true slot → first.found start = some origin →
      step start first = some begun → Runs (fun m e => e.answered m = true) begun entries m →
      last.event = .privacy false last_slot → last.answered m = true → step m last = some after →
      after.SentTo origin := by
  intro claimed
  have sent : (toggled 900).map (fun states => (states.2.2.target_x, states.2.2.target_y)) =
      some (2040, 900) := by decide +kernel
  obtain ⟨⟨begun, m, after⟩, ran, target⟩ := Option.map_eq_some_iff.mp sent
  obtain ⟨began, run, answered, ended⟩ := toggled_runs ran
  have found : switchOn.found homedBoot.machine = some (2040, 600) := by decide +kernel
  have home := claimed _ begun m after switchOn switchOff _ 0 0 (2040, 600) rfl rfl rfl rfl found
    began run rfl answered ended
  exact absurd (target.symm.trans home.2) (by decide)

end JooanW3U.Media.Platform
