import Mathlib.Logic.Relation
import JooanW3U.Library.History
import JooanW3U.Media.Platform

/-!
Owns the abstract pan/tilt head: what it is under (a goto, a lease of a manual
move, a homing run), which acts it may log then, and the invariants of its runs.
Two lapses of the code are parameters of a step, so that a run without them is
told from one with them.

Does not own the code's entries; their refinement to this head is elsewhere.
-/

namespace JooanW3U.Media.Platform

open JooanW3U.Library

/-! ## Acts -/

namespace Act

def isMove : Act → Bool
  | .move .. => true
  | _ => false

def isAccepted : Act → Bool
  | .accepted _ => true
  | _ => false

/-- The command an act accepts. -/
def command? : Act → Option (Option Command)
  | .accepted command => some (some command)
  | _ => none

/-- An expiry stops the head until a command is accepted. -/
def settles : Act → Option Bool
  | .expired => some true
  | .accepted _ => some false
  | _ => none

/-- MOTOR_RESET takes the origin away and a completed homing run gives one. -/
def calibrates : Act → Option Bool
  | .homed => some true
  | .reset => some false
  | _ => none

/-- The acts every stop and every reading may log. -/
def isRoutine : Act → Bool
  | .stop _ | .speed .. | .position .. => true
  | _ => false

/-- The acts that are no command, no expiry and no MOTOR_MOVE. -/
def isQuiet : Act → Bool
  | .move .. | .accepted _ | .expired => false
  | _ => true

theorem of_isQuiet {act : Act} (quiet : act.isQuiet = true) :
    act.isMove = false ∧ act.isAccepted = false ∧ act.command? = none ∧ act.settles = none := by
  cases act with
  | move | accepted | expired => exact absurd quiet Bool.false_ne_true
  | _ => exact ⟨rfl, rfl, rfl, rfl⟩

/-- A MOTOR_MOVE outside homing ends within the limits in force. -/
def EndsInside : Act → Prop
  | .move purpose x y pan_max tilt_max dx dy _ =>
      purpose = .sweep ∨
        (0 ≤ x + dx ∧ x + dx ≤ pan_max ∧ 0 ≤ y + dy ∧ y + dy ≤ tilt_max)
  | _ => True

end Act

/-- The last command accepted. -/
def lastAccepted (acts : List Act) : Option Command :=
  lastSet Act.command? none acts

/-- A lease has expired since the last command was accepted. -/
def settled (acts : List Act) : Bool :=
  lastSet Act.settles false acts

/-- The last MOTOR_RESET was followed by a homing run that completed. -/
def calibrated (acts : List Act) : Bool :=
  lastSet Act.calibrates true acts

/-- The MOTOR_MOVEs since the last command was accepted. -/
def movesSince (acts : List Act) : Nat :=
  countSince Act.isAccepted Act.isMove acts

section Snoc

variable (acts : List Act) (act : Act)

@[simp] theorem lastAccepted_snoc :
    lastAccepted (acts ++ [act]) = act.command?.getD (lastAccepted acts) :=
  lastSet_snoc _ _ acts act

@[simp] theorem settled_snoc :
    settled (acts ++ [act]) = act.settles.getD (settled acts) :=
  lastSet_snoc _ _ acts act

@[simp] theorem calibrated_snoc :
    calibrated (acts ++ [act]) = act.calibrates.getD (calibrated acts) :=
  lastSet_snoc _ _ acts act

@[simp] theorem movesSince_snoc :
    movesSince (acts ++ [act]) =
      if act.isAccepted then 0 else if act.isMove then movesSince acts + 1 else movesSince acts :=
  countSince_snoc _ _ acts act

end Snoc

def Command.homes (command : Command) : Prop :=
  command = .recalibrate ∨ command = .start

/-! ## The head -/

/-- The head, the positions kept as presets and the saved last position. -/
structure Head where
  opened : Bool
  x : Int
  y : Int
  pan_max : Int
  tilt_max : Int
  goto : Option (Int × Int)
  leased : Bool
  sent : Bool
  homing : Bool
  trusted : Bool
  stored : List (Int × Int)
  saved : Option (Int × Int)
  acts : List Act

namespace Head

/-- Nothing moves the head. -/
def Still (h : Head) : Prop :=
  h.goto = none ∧ h.leased = false

def InBox (h : Head) (x y : Int) : Prop :=
  0 ≤ x ∧ x ≤ h.pan_max ∧ 0 ≤ y ∧ y ≤ h.tilt_max

def log (h : Head) (act : Act) : Head :=
  { h with acts := h.acts ++ [act] }

section Log

variable (h : Head) (act : Act)

@[simp] theorem lastAccepted_log :
    lastAccepted (h.log act).acts = act.command?.getD (lastAccepted h.acts) :=
  lastAccepted_snoc h.acts act

@[simp] theorem settled_log :
    Platform.settled (h.log act).acts = act.settles.getD (Platform.settled h.acts) :=
  settled_snoc h.acts act

@[simp] theorem calibrated_log :
    calibrated (h.log act).acts = act.calibrates.getD (calibrated h.acts) :=
  calibrated_snoc h.acts act

@[simp] theorem movesSince_log :
    movesSince (h.log act).acts =
      if act.isAccepted then 0
      else if act.isMove then movesSince h.acts + 1 else movesSince h.acts :=
  movesSince_snoc h.acts act

end Log

def move (h : Head) (purpose : Purpose) (dx dy : Int) (taken : Bool) : Head :=
  h.log (.move purpose h.x h.y h.pan_max h.tilt_max dx dy taken)

end Head

/-- Where the code falls short: privacy chooses a target outside the travel, and a
homing run fails while the position is trusted. -/
structure Lapses where
  overshoot : Bool
  staleTrust : Bool

/-- The head's steps. -/
inductive HeadStep (lapses : Lapses) (h : Head) : Head → Prop
  | device (opened : Bool) : h.Still → h.homing = false → HeadStep lapses h { h with opened }
  | limits {pan_max tilt_max : Int} : 100 ≤ pan_max → 100 ≤ tilt_max → h.Still →
      HeadStep lapses h { h with pan_max, tilt_max }
  | sensed {x y : Int} (moving : Bool) : h.InBox x y →
      HeadStep lapses h ({ h with x, y }.log (.position x y moving))
  | halted : HeadStep lapses h { h with goto := none, leased := false, sent := false }
  | stop (taken : Bool) : HeadStep lapses h (h.log (.stop taken))
  | speed (rate : Int) (taken : Bool) : HeadStep lapses h (h.log (.speed rate taken))
  | expired : h.Still → h.homing = false → HeadStep lapses h (h.log .expired)
  | manual (leased : Bool) : h.goto = none → h.homing = false → h.opened = true →
      HeadStep lapses h ({ h with leased }.log (.accepted .manual))
  | commanded {command : Command} {x y : Int} : h.Still → h.homing = false → h.opened = true →
      command ≠ .manual → lapses.overshoot = true ∨ h.InBox x y →
      HeadStep lapses h ({ h with goto := some (x, y) }.log (.accepted command))
  | homes {command : Command} : command.homes → HeadStep lapses h (h.log (.accepted command))
  | begun : h.Still → h.opened = true → (∀ c, lastAccepted h.acts = some c → c.homes) →
      settled h.acts = false →
      HeadStep lapses h
        { (h.log .reset).move .sweep (HOME_PAN_STEPS / 2) 0 true with homing := true }
  | resetRefused : lapses.staleTrust = true ∨ h.trusted = false →
      HeadStep lapses h (h.log .reset)
  | sweepRefused : (∀ c, lastAccepted h.acts = some c → c.homes) → settled h.acts = false →
      lapses.staleTrust = true ∨ h.trusted = false →
      HeadStep lapses h ((h.log .reset).move .sweep (HOME_PAN_STEPS / 2) 0 false)
  | rammed : h.homing = true → HeadStep lapses h (h.log .reset)
  | homingFailed : lapses.staleTrust = true ∨ h.trusted = false →
      HeadStep lapses h { h with homing := false }
  | homed {goto : Option (Int × Int)} : h.homing = true →
      (∀ x y, goto = some (x, y) → h.InBox x y) →
      HeadStep lapses h ({ h with homing := false, trusted := true, goto }.log .homed)
  | drove {x y dx dy : Int} (taken : Bool) : h.goto = some (x, y) → h.InBox h.x h.y →
      (dx = x - h.x ∧ dy = 0) ∨ (dx = 0 ∧ dy = y - h.y) →
      HeadStep lapses h (h.move .goto dx dy taken)
  | nudged {dx dy : Int} (taken : Bool) : h.leased = true → h.sent = false →
      h.InBox (h.x + dx) (h.y + dy) →
      HeadStep lapses h ({ h with sent := true }.move .manual dx dy taken)
  | spent : HeadStep lapses h { h with sent := true }
  | stored {stored : List (Int × Int)} : (∀ p ∈ stored, 0 ≤ p.1 ∧ 0 ≤ p.2) →
      HeadStep lapses h { h with stored }
  | saved (written : Bool) : h.trusted = true → h.homing = false →
      HeadStep lapses h
        ({ h with saved := if written then some (h.x, h.y) else h.saved }.log
          (.saved h.x h.y written))

/-! ## What every run keeps -/

/-- No MOTOR_MOVE stands where a lease has expired since the last command. -/
def movesAreAsked (before : List Act) (act : Act) : Prop :=
  act.isMove = true → settled before = false

namespace Head

structure Sound (h : Head) : Prop where
  travel : 0 ≤ h.pan_max ∧ 0 ≤ h.tilt_max
  stored : ∀ p ∈ h.stored, 0 ≤ p.1 ∧ 0 ≤ p.2
  exclusive : h.goto = none ∨ h.leased = false
  stillHoming : h.homing = true → h.Still
  closed : h.opened = false → h.Still ∧ h.homing = false
  homingAsked : h.homing = true → ∀ command, lastAccepted h.acts = some command → command.homes
  gotoAsked : h.goto ≠ none → lastAccepted h.acts ≠ some .manual
  settledStill : settled h.acts = true → h.Still ∧ h.homing = false
  once : lastAccepted h.acts = some .manual →
    movesSince h.acts ≤ 1 ∧ (movesSince h.acts = 1 → h.leased = true → h.sent = true)
  asked : Placed movesAreAsked h.acts

theorem Sound.quiet {h : Head} (sound : h.Sound) {act : Act} (quiet : act.isQuiet = true) :
    (h.log act).Sound := by
  obtain ⟨noMove, noAccept, noCommand, noExpiry⟩ := Act.of_isQuiet quiet
  have last : lastAccepted (h.log act).acts = lastAccepted h.acts := by simp [noCommand]
  have same : settled (h.log act).acts = settled h.acts := by simp [noExpiry]
  have count : movesSince (h.log act).acts = movesSince h.acts := by simp [noMove, noAccept]
  exact {
    travel := sound.travel
    stored := sound.stored
    exclusive := sound.exclusive
    stillHoming := sound.stillHoming
    closed := sound.closed
    homingAsked := by rw [last]; exact sound.homingAsked
    gotoAsked := by rw [last]; exact sound.gotoAsked
    settledStill := by rw [same]; exact sound.settledStill
    once := by rw [last, count]; exact sound.once
    asked := sound.asked.snoc fun moves => absurd moves (by simp [noMove]) }

/-- A MOTOR_MOVE is logged where the last command is not a manual move, or where it
is one that has issued none yet. -/
theorem Sound.move {h : Head} (sound : h.Sound) {purpose : Purpose} {dx dy : Int} {taken : Bool}
    (unsettled : settled h.acts = false)
    (first : lastAccepted h.acts = some .manual → movesSince h.acts = 0 ∧ h.sent = true) :
    (h.move purpose dx dy taken).Sound := by
  have last : lastAccepted (h.move purpose dx dy taken).acts = lastAccepted h.acts := by
    simp [Head.move, Act.command?]
  have same : settled (h.move purpose dx dy taken).acts = false := by
    simp [Head.move, Act.settles, unsettled]
  exact {
    travel := sound.travel
    stored := sound.stored
    exclusive := sound.exclusive
    stillHoming := sound.stillHoming
    closed := sound.closed
    homingAsked := by rw [last]; exact sound.homingAsked
    gotoAsked := by rw [last]; exact sound.gotoAsked
    settledStill := by simp [same]
    once := by
      intro manual
      obtain ⟨none, sent⟩ := first (last ▸ manual)
      have one : movesSince (h.move purpose dx dy taken).acts = 1 := by
        simp [Head.move, Act.isAccepted, Act.isMove, none]
      exact ⟨by omega, fun _ _ => sent⟩
    asked := sound.asked.snoc fun _ => unsettled }

/-- A command is logged: what is under way must be what it may ask for. -/
theorem Sound.accept {h : Head} {command : Command} (travel : 0 ≤ h.pan_max ∧ 0 ≤ h.tilt_max)
    (stored : ∀ p ∈ h.stored, 0 ≤ p.1 ∧ 0 ≤ p.2)
    (exclusive : h.goto = none ∨ h.leased = false) (stillHoming : h.homing = true → h.Still)
    (closed : h.opened = false → h.Still ∧ h.homing = false)
    (homingAsked : h.homing = true → command.homes)
    (gotoAsked : h.goto ≠ none → command ≠ .manual) (asked : Placed movesAreAsked h.acts) :
    (h.log (.accepted command)).Sound := by
  have last : lastAccepted (h.log (.accepted command)).acts = some command := by
    simp [Act.command?]
  exact {
    travel := travel
    stored := stored
    exclusive := exclusive
    stillHoming := stillHoming
    closed := closed
    homingAsked := by
      intro homing other same
      rw [last] at same
      exact Option.some.inj same ▸ homingAsked homing
    gotoAsked := by
      intro going same
      rw [last] at same
      exact gotoAsked going (Option.some.inj same)
    settledStill := by simp [Act.settles]
    once := by simp [Act.isAccepted]
    asked := asked.snoc fun moves => absurd moves Bool.false_ne_true }

/-- The start of a homing run: both requests under a command that homes. -/
theorem Sound.sweep {h : Head} (sound : h.Sound)
    (homes : ∀ command, lastAccepted h.acts = some command → command.homes)
    (fresh : Platform.settled h.acts = false) (taken : Bool) :
    ((h.log .reset).move .sweep (HOME_PAN_STEPS / 2) 0 taken).Sound := by
  have reset : (h.log .reset).Sound := sound.quiet rfl
  apply reset.move
  · simpa [Act.settles] using fresh
  · intro manual
    have last : lastAccepted h.acts = some .manual := by
      simpa [Act.command?] using manual
    exact absurd (homes _ last) (by simp [Command.homes])

end Head

theorem sound_step {lapses : Lapses} {h h' : Head} (step : HeadStep lapses h h')
    (sound : h.Sound) : h'.Sound := by
  have unsettled : h.goto ≠ none ∨ h.leased = true ∨ h.homing = true →
      settled h.acts = false := by
    intro busy
    by_contra expired
    have still := sound.settledStill (by simpa using expired)
    rcases busy with going | leased | homing
    · exact going still.1.1
    · exact absurd still.1.2 (by simp [leased])
    · exact absurd still.2 (by simp [homing])
  cases step with
  | device opened still idle => exact { sound with closed := fun _ => ⟨still, idle⟩ }
  | limits wide tall still =>
      exact { sound with travel := ⟨Int.le_trans (by decide) wide, Int.le_trans (by decide) tall⟩ }
  | sensed moving inside =>
      apply Head.Sound.quiet
      · exact { sound with }
      · rfl
  | halted =>
      exact { sound with
        exclusive := .inl rfl
        stillHoming := fun _ => ⟨rfl, rfl⟩
        closed := fun closed => ⟨⟨rfl, rfl⟩, (sound.closed closed).2⟩
        gotoAsked := fun going => absurd rfl going
        settledStill := fun settled => ⟨⟨rfl, rfl⟩, (sound.settledStill settled).2⟩
        once := fun manual =>
          ⟨(sound.once manual).1, fun _ leased => absurd leased Bool.false_ne_true⟩ }
  | stop taken => exact sound.quiet rfl
  | speed rate taken => exact sound.quiet rfl
  | expired still idle =>
      have last : lastAccepted (h.log .expired).acts = lastAccepted h.acts := by
        simp [Act.command?]
      have count : movesSince (h.log .expired).acts = movesSince h.acts := by
        simp [Act.isMove, Act.isAccepted]
      exact {
        travel := sound.travel
        stored := sound.stored
        exclusive := sound.exclusive
        stillHoming := sound.stillHoming
        closed := sound.closed
        homingAsked := by rw [last]; exact sound.homingAsked
        gotoAsked := by rw [last]; exact sound.gotoAsked
        settledStill := fun _ => ⟨still, idle⟩
        once := by rw [last, count]; exact sound.once
        asked := sound.asked.snoc fun moves => absurd moves Bool.false_ne_true }
  | manual leased ready idle opened =>
      apply Head.Sound.accept
      · exact sound.travel
      · exact sound.stored
      · exact .inl ready
      · exact fun homing => absurd homing (by simp [idle])
      · exact fun closed => absurd closed (by simp [opened])
      · exact fun homing => absurd homing (by simp [idle])
      · exact fun going => absurd ready going
      · exact sound.asked
  | commanded still idle opened notManual inside =>
      apply Head.Sound.accept
      · exact sound.travel
      · exact sound.stored
      · exact .inr still.2
      · exact fun homing => absurd homing (by simp [idle])
      · exact fun closed => absurd closed (by simp [opened])
      · exact fun homing => absurd homing (by simp [idle])
      · exact fun _ => notManual
      · exact sound.asked
  | homes homes =>
      apply Head.Sound.accept sound.travel sound.stored sound.exclusive sound.stillHoming sound.closed
      · exact fun _ => homes
      · rintro - rfl
        exact absurd homes (by simp [Command.homes])
      · exact sound.asked
  | begun still opened homes fresh =>
      exact { (sound.sweep homes fresh true) with
        stillHoming := fun _ => still
        closed := fun closed => absurd (opened.symm.trans closed) (by decide)
        homingAsked := by
          intro _ command last
          exact homes command (by simpa [Head.move, Act.command?] using last)
        settledStill := by simp [Head.move, Act.settles, fresh] }
  | resetRefused lapse => exact sound.quiet rfl
  | sweepRefused homes fresh lapse => exact sound.sweep homes fresh false
  | rammed homing => exact sound.quiet rfl
  | homingFailed lapse =>
      exact { sound with
        stillHoming := fun homing => absurd homing Bool.false_ne_true
        closed := fun closed => ⟨(sound.closed closed).1, rfl⟩
        homingAsked := fun homing => absurd homing Bool.false_ne_true
        settledStill := fun settled => ⟨(sound.settledStill settled).1, rfl⟩ }
  | @homed goto homing inside =>
      have still := sound.stillHoming homing
      have arrived : Head.Sound { h with homing := false, trusted := true, goto } :=
        { sound with
          exclusive := .inr still.2
          stillHoming := fun homing => absurd homing Bool.false_ne_true
          closed := fun closed => absurd (sound.closed closed).2 (by simp [homing])
          homingAsked := fun homing => absurd homing Bool.false_ne_true
          gotoAsked := fun _ manual =>
            absurd (sound.homingAsked homing _ manual) (by simp [Command.homes])
          settledStill := fun settled => absurd (sound.settledStill settled).2 (by simp [homing]) }
      exact arrived.quiet rfl
  | drove taken going inside one =>
      have under : h.goto ≠ none := by simp [going]
      exact sound.move (unsettled (.inl under)) fun manual => absurd manual (sound.gotoAsked under)
  | nudged taken leased unsent inside =>
      have fresh : lastAccepted h.acts = some .manual → movesSince h.acts = 0 := by
        intro manual
        obtain ⟨atMost, spent⟩ := sound.once manual
        by_contra some
        have one : movesSince h.acts = 1 := by omega
        exact absurd (spent one leased) (by simp [unsent])
      have readied : Head.Sound { h with sent := true } :=
        { sound with once := fun manual => ⟨(sound.once manual).1, fun _ _ => rfl⟩ }
      exact readied.move (unsettled (.inr (.inl leased))) fun manual => ⟨fresh manual, rfl⟩
  | spent =>
      exact { sound with
        once := fun manual => ⟨(sound.once manual).1, fun _ _ => rfl⟩ }
  | stored positive => exact { sound with stored := positive }
  | saved written trusted idle =>
      apply Head.Sound.quiet
      · exact { sound with }
      · rfl

/-! ## Without an overshoot -/

/-- Every goto target is in the travel and every MOTOR_MOVE outside homing ended there. -/
structure Head.Inside (h : Head) : Prop where
  target : ∀ x y, h.goto = some (x, y) → h.InBox x y
  moves : ∀ act ∈ h.acts, act.EndsInside

theorem Head.Inside.logged {h : Head} (inside : h.Inside) {act : Act} (ends : act.EndsInside) :
    (h.log act).Inside where
  target := inside.target
  moves other member := by
    rcases List.mem_append.mp member with earlier | last
    · exact inside.moves other earlier
    · exact List.mem_singleton.mp last ▸ ends

theorem inside_step {lapses : Lapses} (noOvershoot : lapses.overshoot = false) {h h' : Head}
    (step : HeadStep lapses h h') (inside : h.Inside) : h'.Inside := by
  have reset : (h.log .reset).Inside := inside.logged trivial
  cases step with
  | device | spent | homingFailed | stored => exact { inside with }
  | limits _ _ still =>
      exact ⟨fun x y going => absurd (still.1.symm.trans going) nofun, inside.moves⟩
  | halted => exact ⟨nofun, inside.moves⟩
  | sensed | saved =>
      apply Head.Inside.logged
      · exact { inside with }
      · exact trivial
  | stop | speed | expired | homes | resetRefused | rammed => exact inside.logged trivial
  | manual _ ready =>
      apply Head.Inside.logged
      · exact ⟨fun x y going => absurd (ready.symm.trans going) nofun, inside.moves⟩
      · exact trivial
  | @commanded command x y _ _ _ _ lapse =>
      have within : h.InBox x y := by simpa [noOvershoot] using lapse
      apply Head.Inside.logged
      · exact ⟨fun x' y' same => by
          obtain ⟨rfl, rfl⟩ := Prod.mk.inj (Option.some.inj same)
          exact within, inside.moves⟩
      · exact trivial
  | begun =>
      have swept : ((h.log .reset).move .sweep (HOME_PAN_STEPS / 2) 0 true).Inside :=
        reset.logged (.inl rfl)
      exact ⟨swept.target, swept.moves⟩
  | sweepRefused => exact reset.logged (.inl rfl)
  | homed _ within =>
      apply Head.Inside.logged
      · exact ⟨within, inside.moves⟩
      · exact trivial
  | @drove x y dx dy taken going here one =>
      have there : h.InBox x y := inside.target x y going
      apply inside.logged
      show Purpose.goto = .sweep ∨ h.InBox (h.x + dx) (h.y + dy)
      have arrives : h.InBox (h.x + dx) (h.y + dy) := by
        simp only [Head.InBox] at there here ⊢
        omega
      exact .inr arrives
  | @nudged dx dy taken _ _ within =>
      apply Head.Inside.logged
      · exact { inside with }
      · exact .inr within

/-! ## Without stale trust -/

/-- A position is saved only where the coordinates are calibrated. -/
def savesAreCalibrated (before : List Act) : Act → Prop
  | .saved .. => calibrated before = true
  | _ => True

structure Head.Calibrated (h : Head) : Prop where
  trust : h.trusted = true → h.homing = true ∨ calibrated h.acts = true
  saves : Placed savesAreCalibrated h.acts

theorem Head.Calibrated.logged {h : Head} (good : h.Calibrated) {act : Act}
    (silent : act.calibrates = none) (fits : savesAreCalibrated h.acts act) :
    (h.log act).Calibrated where
  trust := by
    rw [Head.calibrated_log, silent]
    exact good.trust
  saves := good.saves.snoc fits

theorem calibrated_step {lapses : Lapses} (noStaleTrust : lapses.staleTrust = false) {h h' : Head}
    (step : HeadStep lapses h h') (good : h.Calibrated) : h'.Calibrated := by
  have distrusted : lapses.staleTrust = true ∨ h.trusted = false → h.trusted = false := by
    rw [noStaleTrust]
    exact fun lapse => lapse.resolve_left Bool.false_ne_true
  have resetSaves : Placed savesAreCalibrated (h.log .reset).acts := good.saves.snoc trivial
  cases step with
  | device | limits | halted | spent | stored => exact { good with }
  | stop | speed | expired | homes | drove => exact good.logged rfl trivial
  | sensed | manual | commanded | nudged =>
      apply Head.Calibrated.logged
      · exact { good with }
      · rfl
      · exact trivial
  | begun =>
      exact ⟨fun _ => .inl rfl, resetSaves.snoc trivial⟩
  | resetRefused lapse =>
      exact ⟨fun trusted => absurd trusted (by simp [Head.log, distrusted lapse]),
        resetSaves⟩
  | sweepRefused _ _ lapse =>
      exact ⟨fun trusted => absurd trusted (by simp [Head.move, Head.log, distrusted lapse]),
        resetSaves.snoc trivial⟩
  | rammed homing => exact ⟨fun _ => .inl homing, resetSaves⟩
  | homingFailed lapse =>
      exact ⟨fun trusted => absurd trusted (by simp [distrusted lapse]), good.saves⟩
  | homed =>
      exact ⟨fun _ => .inr (by simp [Act.calibrates]), good.saves.snoc trivial⟩
  | saved written trusted idle =>
      apply Head.Calibrated.logged
      · exact { good with }
      · rfl
      · exact (good.trust trusted).resolve_left (by simp [idle])

/-! ## The saved position -/

/-- The saved position is the first one or was written by a logged save. -/
def Head.SavedBy (first : Option (Int × Int)) (h : Head) : Prop :=
  h.saved = first ∨ ∃ x y, h.saved = some (x, y) ∧ .saved x y true ∈ h.acts

theorem Head.SavedBy.grown {first : Option (Int × Int)} {h h' : Head} (origin : h.SavedBy first)
    (same : h'.saved = h.saved) (grows : ∀ act ∈ h.acts, act ∈ h'.acts) : h'.SavedBy first := by
  rcases origin with initial | ⟨x, y, written, member⟩
  · exact .inl (same.trans initial)
  · exact .inr ⟨x, y, same.trans written, grows _ member⟩

theorem savedBy_step {lapses : Lapses} {first : Option (Int × Int)} {h h' : Head}
    (step : HeadStep lapses h h') (origin : h.SavedBy first) : h'.SavedBy first := by
  cases step with
  | device | limits | halted | spent | stored | homingFailed => exact origin.grown rfl fun _ => id
  | saved written trusted idle =>
      cases written with
      | true => exact .inr ⟨h.x, h.y, rfl, List.mem_append_right _ (List.mem_singleton.mpr rfl)⟩
      | false => exact origin.grown rfl fun _ member => List.mem_append_left _ member
  | begun | sweepRefused =>
      exact origin.grown rfl fun _ member =>
        List.mem_append_left _ (List.mem_append_left _ member)
  | _ => exact origin.grown rfl fun _ member => List.mem_append_left _ member

/-! ## Runs -/

/-- Any number of steps of the head. -/
abbrev HeadRun (lapses : Lapses) : Head → Head → Prop :=
  Relation.ReflTransGen (HeadStep lapses)

theorem HeadRun.preserves {lapses : Lapses} {invariant : Head → Prop}
    (kept : ∀ {h h'}, HeadStep lapses h h' → invariant h → invariant h') {h h' : Head}
    (run : HeadRun lapses h h') (initially : invariant h) : invariant h' := by
  induction run with
  | refl => exact initially
  | tail _ step inductionHypothesis => exact kept step inductionHypothesis

end JooanW3U.Media.Platform
