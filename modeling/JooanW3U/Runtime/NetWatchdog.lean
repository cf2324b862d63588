import JooanW3U.Library.Runs
import Mathlib.Data.Nat.Digits.Defs

/-!
Owns the network watchdog of the supervisor, `jl_net_watchdog`, over any order of checks
and boots: the count of its reboots in flash, the variables of a boot, and beside them what
the network really did. Main result: the back-off keeps its contract exactly in the runs
where no answer clears the count before the network has stayed up for 30 minutes.

Does not own the notes about lost links and crashes. Writes to flash succeed.
-/

namespace JooanW3U.Runtime.NetWatchdog

open JooanW3U.Library

/-- What one call sees: maintenance or a Wi-Fi trial, whether the gateway is known, the
uptime, whether the gateway answers and whether the driver has logged a crash. -/
structure Check where
  maintenance : Bool
  gateway : Bool
  now : Nat
  answers : Bool
  dumped : Bool
deriving Repr, DecidableEq

/-- `jl_netdog_ok`, `jl_netdog_down` and the file `netdog-reboots`. -/
structure Camera where
  ok : Bool
  down : Option Nat
  reboots : Option (List Char)
deriving Repr, DecidableEq

/-! ### The count in flash -/

def countLine (count : Nat) : List Char := Nat.toDigits 10 count ++ ['\n']

/-- The number in the file, 0 where there is none. -/
def countOf : Option (List Char) → Nat
  | none => 0
  | some text =>
      let line := text.takeWhile (· ≠ '\n')
      if line ≠ [] ∧ line.all Char.isDigit = true then Nat.ofDigitChars 10 line 0 else 0

theorem countOf_countLine (count : Nat) : countOf (some (countLine count)) = count := by
  have digits : ∀ c ∈ Nat.toDigits 10 count, c.isDigit = true := fun c member =>
    Nat.isDigit_of_mem_toDigits (by decide) (by decide) member
  have kept : ∀ c ∈ Nat.toDigits 10 count, decide (c ≠ '\n') = true := by
    intro c member
    apply decide_eq_true
    rintro rfl
    exact absurd (digits '\n' member) (by decide)
  have line : (countLine count).takeWhile (· ≠ '\n') = Nat.toDigits 10 count := by
    unfold countLine
    rw [List.takeWhile_append_of_pos kept]
    simp
  unfold countOf
  dsimp only
  rw [line, if_pos ⟨Nat.toDigits_ne_nil, List.all_eq_true.mpr digits⟩,
    Nat.ofDigitChars_ten_toDigits]

/-! ### The watchdog -/

/-- The call asks the gateway. -/
def Check.asks (check : Check) : Bool := !check.maintenance && check.gateway

/-- The uptime a reboot waits for after so many others. -/
def backOff (count : Nat) : Nat := 900 <<< min count 4

/-- `jl_net_watchdog`, with whether it reboots; `downLimit` is `JL_NETDOG_DOWN`. -/
def netWatchdog (downLimit : Nat) (camera : Camera) (check : Check) : Camera × Bool :=
  if check.maintenance || !check.gateway then ({ camera with down := none }, false)
  else if check.answers then
    ({ ok := true
       down := none
       reboots := if 1800 ≤ check.now then none else camera.reboots }, false)
  else
    let down := camera.down.getD check.now
    let limit := if check.dumped then 30 else downLimit
    if check.now < down + limit then ({ camera with down := some down }, false)
    else
      let count := countOf camera.reboots
      let wait := if count ≠ 0 || !camera.ok then backOff count else 0
      if check.now < wait then ({ camera with down := some down }, false)
      else ({ camera with down := some down, reboots := some (countLine (count + 1)) }, true)

/-! ### What the network did -/

/-- Whether it worked in this boot, since when every check was answered, and the reboots by
the watchdog since it last stayed up for 30 minutes. -/
structure Network where
  worked : Bool
  upSince : Option Nat
  consecutive : Nat
deriving Repr, DecidableEq

namespace Network

/-- The network with an answer at this uptime has stayed up for 30 minutes. -/
def stayedUp (network : Network) (now : Nat) : Bool :=
  network.upSince.any fun since => since + 1800 ≤ now

def after (network : Network) (check : Check) (rebooted : Bool) : Network :=
  if !check.asks then network
  else if check.answers then
    { worked := true
      upSince := some (network.upSince.getD check.now)
      consecutive := if network.stayedUp check.now then 0 else network.consecutive }
  else
    { network with
      upSince := none
      consecutive := if rebooted then network.consecutive + 1 else network.consecutive }

end Network

inductive Event
  | boot
  | check (check : Check)
deriving Repr, DecidableEq

structure State where
  camera : Camera
  network : Network
deriving Repr, DecidableEq

/-- A camera whose watchdog has never rebooted. -/
def start : State := ⟨⟨false, none, none⟩, ⟨false, none, 0⟩⟩

def step (downLimit : Nat) (state : State) : Event → State
  | .boot =>
      { camera := { state.camera with ok := false, down := none }
        network := { state.network with worked := false, upSince := none } }
  | .check check =>
      { camera := (netWatchdog downLimit state.camera check).1
        network := state.network.after check (netWatchdog downLimit state.camera check).2 }

/-- The contract, for one event: the reboot after `consecutive` others comes at their
back-off, but for a first one in a boot whose network had worked; and the count goes only
where the network has stayed up for 30 minutes. -/
def Lawful (downLimit : Nat) (state : State) : Event → Prop
  | .boot => True
  | .check check =>
      ((netWatchdog downLimit state.camera check).2 = true →
        900 * 2 ^ min state.network.consecutive 4 ≤ check.now ∨
          state.network.consecutive = 0 ∧ state.network.worked = true) ∧
      (countOf state.camera.reboots ≠ 0 →
        countOf (netWatchdog downLimit state.camera check).1.reboots = 0 →
          check.answers = true ∧ state.network.stayedUp check.now = true)

/-- The gateway answers at an uptime of 30 minutes or more while there is a count, and the
network has not stayed up for 30 minutes. -/
def forgetsEarly (state : State) : Event → Bool
  | .boot => false
  | .check check =>
      check.asks && check.answers && decide (1800 ≤ check.now) &&
        decide (countOf state.camera.reboots ≠ 0) && !state.network.stayedUp check.now

/-- What the script keeps is what the network did. -/
structure Faithful (state : State) : Prop where
  count : countOf state.camera.reboots = state.network.consecutive
  worked : state.camera.ok = state.network.worked

theorem faithful_start : Faithful start := ⟨rfl, rfl⟩

/-! ### What a call does -/

section Calls

variable {downLimit : Nat} {camera : Camera} {check : Check}

theorem netWatchdog_silent (silent : check.asks = false) :
    netWatchdog downLimit camera check = ({ camera with down := none }, false) := by
  have skipped : (check.maintenance || !check.gateway) = true := by
    unfold Check.asks at silent
    cases held : check.maintenance <;> simp_all
  rw [netWatchdog, if_pos skipped]

theorem asks_iff : check.asks = true ↔ (check.maintenance || !check.gateway) = false := by
  unfold Check.asks
  cases check.maintenance <;> cases check.gateway <;> decide

theorem netWatchdog_answered (asked : check.asks = true) (answered : check.answers = true) :
    netWatchdog downLimit camera check =
      ({ ok := true
         down := none
         reboots := if 1800 ≤ check.now then none else camera.reboots }, false) := by
  rw [netWatchdog, asks_iff.mp asked, if_neg Bool.false_ne_true, if_pos answered]

/-- A check without an answer keeps what the boot knows; a reboot counts itself, and comes
at its back-off or as the first one where the network had worked. -/
theorem netWatchdog_unanswered (asked : check.asks = true) (unanswered : check.answers = false) :
    (netWatchdog downLimit camera check).1.ok = camera.ok ∧
      (((netWatchdog downLimit camera check).2 = false ∧
          (netWatchdog downLimit camera check).1.reboots = camera.reboots) ∨
        ((netWatchdog downLimit camera check).2 = true ∧
          (netWatchdog downLimit camera check).1.reboots =
            some (countLine (countOf camera.reboots + 1)) ∧
          (backOff (countOf camera.reboots) ≤ check.now ∨
            countOf camera.reboots = 0 ∧ camera.ok = true))) := by
  rw [netWatchdog, asks_iff.mp asked, if_neg Bool.false_ne_true, unanswered,
    if_neg Bool.false_ne_true]
  dsimp only
  by_cases early : check.now < camera.down.getD check.now + if check.dumped = true then 30 else downLimit
  · rw [if_pos early]
    exact ⟨rfl, .inl ⟨rfl, rfl⟩⟩
  · rw [if_neg early]
    by_cases waits : (countOf camera.reboots ≠ 0 || !camera.ok) = true
    · rw [if_pos waits]
      by_cases held : check.now < backOff (countOf camera.reboots)
      · rw [if_pos held]
        exact ⟨rfl, .inl ⟨rfl, rfl⟩⟩
      · rw [if_neg held]
        exact ⟨rfl, .inr ⟨rfl, rfl, .inl (Nat.le_of_not_lt held)⟩⟩
    · rw [if_neg waits, if_neg (Nat.not_lt_zero check.now)]
      refine ⟨rfl, .inr ⟨rfl, rfl, .inr ?_⟩⟩
      simpa using waits

theorem backOff_eq (count : Nat) : backOff count = 900 * 2 ^ min count 4 := Nat.shiftLeft_eq _ _

end Calls

/-! ### Runs -/

variable {downLimit : Nat}

theorem step_check (state : State) (check : Check) :
    step downLimit state (.check check) =
      ⟨(netWatchdog downLimit state.camera check).1,
        state.network.after check (netWatchdog downLimit state.camera check).2⟩ := rfl

section Network

variable {network : Network} {check : Check} {rebooted : Bool}

theorem after_silent (silent : check.asks = false) : network.after check rebooted = network := by
  rw [Network.after, silent, if_pos (by decide)]

theorem after_answered (asked : check.asks = true) (answered : check.answers = true) :
    network.after check rebooted =
      ⟨true, some (network.upSince.getD check.now),
        if network.stayedUp check.now then 0 else network.consecutive⟩ := by
  rw [Network.after, asked, if_neg (by decide), if_pos answered]

theorem after_unanswered (asked : check.asks = true) (unanswered : check.answers = false) :
    network.after check rebooted =
      ⟨network.worked, none,
        if rebooted then network.consecutive + 1 else network.consecutive⟩ := by
  rw [Network.after, asked, if_neg (by decide), unanswered, if_neg Bool.false_ne_true]

/-- A network that has stayed up for 30 minutes is found so at an uptime of 30 minutes. -/
theorem late_of_stayedUp {now : Nat} (up : network.stayedUp now = true) : 1800 ≤ now := by
  obtain ⟨since, -, late⟩ := (Option.any_eq_true _ _).mp up
  have late := of_decide_eq_true late
  omega

end Network

/-- An answer that does not clear the count early finds no count, or a network that has
stayed up. -/
theorem uncounted_or_up {state : State} {check : Check} (asked : check.asks = true)
    (answered : check.answers = true) (late : 1800 ≤ check.now)
    (fine : forgetsEarly state (.check check) = false) :
    countOf state.camera.reboots = 0 ∨ state.network.stayedUp check.now = true := by
  simp only [forgetsEarly] at fine
  rw [asked, answered, decide_eq_true late] at fine
  cases up : state.network.stayedUp check.now with
  | true => exact .inr rfl
  | false =>
      rw [up] at fine
      simpa using fine

theorem lawful_check {state : State} {check : Check} :
    Lawful downLimit state (.check check) ↔
      ((netWatchdog downLimit state.camera check).2 = true →
        900 * 2 ^ min state.network.consecutive 4 ≤ check.now ∨
          state.network.consecutive = 0 ∧ state.network.worked = true) ∧
      (countOf state.camera.reboots ≠ 0 →
        countOf (netWatchdog downLimit state.camera check).1.reboots = 0 →
          check.answers = true ∧ state.network.stayedUp check.now = true) :=
  Iff.rfl

theorem step_faithful (state : State) (event : Event) (faithful : Faithful state)
    (fine : forgetsEarly state event = false) : Faithful (step downLimit state event) := by
  cases event with
  | boot => exact ⟨faithful.count, rfl⟩
  | check check =>
      rw [step_check]
      cases asked : check.asks with
      | false =>
          rw [netWatchdog_silent asked, after_silent asked]
          exact ⟨faithful.count, faithful.worked⟩
      | true =>
          cases answered : check.answers with
          | true =>
              rw [netWatchdog_answered asked answered, after_answered asked answered]
              refine ⟨?_, rfl⟩
              by_cases up : state.network.stayedUp check.now = true
              · dsimp only
                rw [if_pos (late_of_stayedUp up), if_pos up]
                rfl
              · dsimp only
                rw [if_neg up, ← faithful.count]
                by_cases late : 1800 ≤ check.now
                · rw [if_pos late]
                  exact ((uncounted_or_up asked answered late fine).resolve_right up).symm
                · rw [if_neg late]
          | false =>
              obtain ⟨same, ⟨idle, kept⟩ | ⟨rebooted, counted, -⟩⟩ :=
                @netWatchdog_unanswered downLimit state.camera check asked answered
              · rw [after_unanswered asked answered, idle, if_neg Bool.false_ne_true]
                exact ⟨kept ▸ faithful.count, same ▸ faithful.worked⟩
              · rw [after_unanswered asked answered, rebooted, if_pos rfl]
                refine ⟨?_, same ▸ faithful.worked⟩
                rw [counted, countOf_countLine, faithful.count]

/-- A step is lawful where the script's count is that of the network and no answer clears
it early. -/
theorem lawful_of_fine (state : State) (event : Event) (faithful : Faithful state)
    (fine : forgetsEarly state event = false) : Lawful downLimit state event := by
  cases event with
  | boot => trivial
  | check check =>
      cases asked : check.asks with
      | false =>
          rw [lawful_check]
          rw [netWatchdog_silent asked]
          exact ⟨nofun, fun some none => absurd none some⟩
      | true =>
          cases answered : check.answers with
          | true =>
              rw [lawful_check]
              rw [netWatchdog_answered asked answered]
              refine ⟨nofun, fun counted cleared => ⟨answered, ?_⟩⟩
              by_cases late : 1800 ≤ check.now
              · exact (uncounted_or_up asked answered late fine).resolve_left counted
              · rw [if_neg late] at cleared
                exact absurd cleared counted
          | false =>
              obtain ⟨same, ⟨idle, kept⟩ | ⟨rebooted, counted, waited⟩⟩ :=
                @netWatchdog_unanswered downLimit state.camera check asked answered
              · rw [lawful_check]
                rw [idle, kept]
                exact ⟨nofun, fun some none => absurd none some⟩
              · rw [lawful_check]
                rw [counted, countOf_countLine]
                refine ⟨fun _ => ?_, fun _ none => absurd none (Nat.succ_ne_zero _)⟩
                rw [faithful.count, faithful.worked, backOff_eq] at waited
                exact waited

/-- An answer that clears the count early breaks the contract. -/
theorem fine_of_lawful (state : State) (event : Event) (lawful : Lawful downLimit state event) :
    forgetsEarly state event = false := by
  cases event with
  | boot => rfl
  | check check =>
      rw [Bool.eq_false_iff]
      intro early
      simp only [forgetsEarly, Bool.and_eq_true, decide_eq_true_eq, Bool.not_eq_true'] at early
      obtain ⟨⟨⟨⟨asked, answered⟩, late⟩, counted⟩, down⟩ := early
      have cleared := (lawful.2 counted)
      rw [netWatchdog_answered asked answered, if_pos late] at cleared
      exact absurd (cleared rfl).2 (by simp [down])

/-- In a run of checks and boots the watchdog keeps its back-off and its count exactly where
no answer clears the count before the network has stayed up for 30 minutes. -/
theorem backs_off_iff (downLimit : Nat) (events : List Event) :
    (∀ earlier event, earlier ++ [event] <+: events →
        Lawful downLimit (earlier.foldl (step downLimit) start) event) ↔
      ∀ earlier event, earlier ++ [event] <+: events →
        forgetsEarly (earlier.foldl (step downLimit) start) event = false := by
  constructor
  · intro lawful earlier event before
    exact fine_of_lawful _ event (lawful earlier event before)
  · intro fine earlier event before
    have inside := (List.prefix_append earlier [event]).trans before
    have faithful := prefixes_keep step_faithful faithful_start fine earlier inside
    exact lawful_of_fine _ event faithful (fine earlier event before)

/-- One answer at 30 minutes of uptime, the first of its boot, clears the count. -/
theorem single_answer_forgets :
    ¬∀ earlier event,
      earlier ++ [event] <+:
        [.check ⟨false, true, 600, false, false⟩, .check ⟨false, true, 900, false, false⟩, .boot,
          .check ⟨false, true, 1800, true, false⟩] →
      Lawful 300 (earlier.foldl (step 300) start) event := by
  intro lawful
  have last := lawful
    [.check ⟨false, true, 600, false, false⟩, .check ⟨false, true, 900, false, false⟩, .boot]
    (.check ⟨false, true, 1800, true, false⟩) (List.prefix_refl _)
  have cleared := (last.2 (by decide) (by decide)).2
  revert cleared
  decide

end JooanW3U.Runtime.NetWatchdog
