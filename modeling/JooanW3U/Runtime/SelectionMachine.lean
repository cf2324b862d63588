import JooanW3U.Library.Runs
import JooanW3U.Runtime.Boot

/-!
Owns the runtime selection machine: boots, installations and promotions in any
order, each cut off or failing anywhere, and what holds of the record, the slots
and the trials after all of them.

Storage commands are only cut off here; the lock, the hooks and the storage
checks may also fail.
-/

namespace JooanW3U.Runtime

open JooanW3U.Library JooanW3U.Library.Crash

/-! ### Reading the history -/

/-- The record after these marks, newest first. -/
def recordAfter (initial : Record) : List Mark → Record
  | [] => initial
  | .wrote record :: _ => record
  | _ :: earlier => recordAfter initial earlier

def Record.Names (record : Record) (slot : Slot) : Prop :=
  record.stable = some slot ∨ record.pending = some slot

/-- In how many boots the recorded candidate was started, and whether the current
boot is one of them. -/
structure Trial where
  boots : Nat
  begun : Bool
deriving Repr, DecidableEq

/-- A write that changes the candidate ends its trial. -/
def trialAfter (initial : Record) : List Mark → Trial
  | [] => ⟨0, false⟩
  | .booted :: earlier => { trialAfter initial earlier with begun := false }
  | .wrote record :: earlier =>
      if record.pending = (recordAfter initial earlier).pending then trialAfter initial earlier
      else ⟨0, false⟩
  | .started slot :: earlier =>
      let trial := trialAfter initial earlier
      if (recordAfter initial earlier).pending = some slot ∧ trial.begun = false then
        ⟨trial.boots + 1, true⟩
      else trial
  | .healthy _ :: earlier => trialAfter initial earlier

/-- The slot passed its health hook in this boot, since the last write. -/
def PassedHealth (slot : Slot) : List Mark → Prop
  | [] => False
  | .booted :: _ => False
  | .wrote _ :: _ => False
  | .started _ :: earlier => PassedHealth slot earlier
  | .healthy other :: earlier => other = slot ∨ PassedHealth slot earlier

/-- What a write of `record` over `before` may make stable. -/
def Promotes (before : Record) (earlier : List Mark) (record : Record) : Prop :=
  ∀ slot, record.stable = some slot → before.stable ≠ some slot →
    before.pending = some slot ∧ (before.stable = none ∨ PassedHealth slot earlier)

/-- Every slot that became stable was the candidate, and passed its health hook or
had no stable slot to replace. -/
def Promoted (initial : Record) (history : List Mark) : Prop :=
  ∀ later record earlier, history = later ++ .wrote record :: earlier →
    Promotes (recordAfter initial earlier) earlier record

theorem promoted_nil (initial : Record) : Promoted initial [] := by
  intro later record earlier shape
  exact absurd shape (List.append_ne_nil_of_right_ne_nil later (List.cons_ne_nil _ _)).symm

/-- A new mark has only to justify the slot it makes stable. -/
theorem promoted_cons {initial : Record} {mark : Mark} {history : List Mark}
    (promoted : Promoted initial history)
    (justified : ∀ record, mark = .wrote record →
      Promotes (recordAfter initial history) history record) :
    Promoted initial (mark :: history) := by
  intro later record earlier shape
  cases later with
  | nil =>
      obtain ⟨rfl, rfl⟩ := List.cons.inj shape
      exact justified record rfl
  | cons newest later =>
      obtain ⟨rfl, rest⟩ := List.cons.inj shape
      exact promoted later record earlier rest

/-! ### The invariant -/

/-- What holds of the camera between any two commands. -/
structure Sound (digests : Digests) (initial : Record) (machine : Machine) : Prop where
  read : readSelection machine.selection = some (recordAfter initial machine.history)
  verified : ∀ slot, (recordAfter initial machine.history).Names slot →
    verifyArchive digests (machine.dirs slot .current) = true
  once : (trialAfter initial machine.history).boots ≤ 1
  untried : (recordAfter initial machine.history).pending ≠ none →
    (recordAfter initial machine.history).attempted = false →
      (trialAfter initial machine.history).boots = 0
  promoted : Promoted initial machine.history

/-- The invariant with the record and the trial it is about. -/
structure Holding (digests : Digests) (initial : Record) (record : Record) (trial : Trial)
    (machine : Machine) : Prop where
  sound : Sound digests initial machine
  record : recordAfter initial machine.history = record
  trial : trialAfter initial machine.history = trial

section Machine

variable {digests : Digests} {initial record : Record} {trial : Trial}

theorem Sound.holding {machine : Machine} (sound : Sound digests initial machine) :
    Holding digests initial (recordAfter initial machine.history)
      (trialAfter initial machine.history) machine :=
  ⟨sound, rfl, rfl⟩

/-- A change of neither the record, the history nor a named slot. -/
theorem Sound.carried {machine after : Machine} (sound : Sound digests initial machine)
    (selection : after.selection = machine.selection) (history : after.history = machine.history)
    (dirs : ∀ slot, (recordAfter initial machine.history).Names slot →
      after.dirs slot .current = machine.dirs slot .current) :
    Sound digests initial after where
  read := by
    rw [selection, history]
    exact sound.read
  verified := by
    intro slot named
    rw [history] at named
    rw [dirs slot named]
    exact sound.verified slot named
  once := by
    rw [history]
    exact sound.once
  untried := by
    rw [history]
    exact sound.untried
  promoted := by
    rw [history]
    exact sound.promoted

theorem Holding.carried {machine after : Machine}
    (holding : Holding digests initial record trial machine)
    (selection : after.selection = machine.selection) (history : after.history = machine.history)
    (dirs : ∀ slot, record.Names slot → after.dirs slot .current = machine.dirs slot .current) :
    Holding digests initial record trial after where
  sound := by
    refine holding.sound.carried selection history fun slot named => ?_
    rw [holding.record] at named
    exact dirs slot named
  record := by
    rw [history]
    exact holding.record
  trial := by
    rw [history]
    exact holding.trial

theorem Holding.verified {machine : Machine}
    (holding : Holding digests initial record trial machine) {slot : Slot}
    (named : record.Names slot) : verifyArchive digests (machine.dirs slot .current) = true := by
  apply holding.sound.verified slot
  rw [holding.record]
  exact named

/-- The trial after a write. -/
def Trial.rewritten (trial : Trial) (before record : Record) : Trial :=
  if record.pending = before.pending then trial else ⟨0, false⟩

/-- What a script must show of a record before it writes it. -/
structure Writable (digests : Digests) (before record : Record) (machine : Machine) : Prop where
  valid : record.Valid
  verified : ∀ slot, record.Names slot → verifyArchive digests (machine.dirs slot .current) = true
  fresh : record.pending ≠ none → record.attempted = false → record.pending ≠ before.pending
  promotes : Promotes before machine.history record

theorem Holding.written {machine after : Machine} {next : Record}
    (holding : Holding digests initial record trial machine)
    (writable : Writable digests record next machine) (wrote : Written machine next after) :
    Holding digests initial next (trial.rewritten record next) after := by
  have shape : after = _ := wrote
  have records : recordAfter initial after.history = next := by
    rw [shape]
    rfl
  have trials : trialAfter initial after.history = trial.rewritten record next := by
    rw [shape]
    show (if next.pending = (recordAfter initial machine.history).pending then _ else _) = _
    rw [holding.record, holding.trial]
    rfl
  have counted : (trial.rewritten record next).boots ≤ 1 := by
    have once := holding.sound.once
    rw [holding.trial] at once
    unfold Trial.rewritten
    split
    · exact once
    · exact Nat.zero_le 1
  refine ⟨⟨?_, ?_, ?_, ?_, ?_⟩, records, trials⟩
  · rw [records, shape]
    exact readSelection_text writable.valid
  · rw [records, shape]
    exact writable.verified
  · rw [trials]
    exact counted
  · rw [records, trials]
    intro named untried
    rw [Trial.rewritten, if_neg (writable.fresh named untried)]
  · rw [shape]
    refine promoted_cons holding.sound.promoted fun other same => ?_
    cases same
    rw [holding.record]
    exact writable.promotes

/-! ### Scripts under the invariant -/

theorem attempt_holding {pre : Machine → Prop} (sound : ∀ machine, pre machine →
    Sound digests initial machine) :
    Triple pre attempt (fun _ => pre) (Sound digests initial) :=
  attempt_keeps.consequence (fun _ holds => holds) (fun _ _ holds => holds) sound

theorem readRecord_holding :
    Triple (Holding digests initial record trial) readRecord
      (fun value machine => value = some record ∧ Holding digests initial record trial machine)
      (Sound digests initial) := by
  refine triple_get fun machine holding => ⟨?_, holding⟩
  rw [← holding.record]
  exact holding.sound.read

/-- A write that keeps to `Writable` ends with the new record or not at all. -/
theorem writeSelection_holding {next : Record} {pre : Machine → Prop}
    (holds : ∀ machine, pre machine → Holding digests initial record trial machine ∧
      Writable digests record next machine) :
    Triple pre (writeSelection false next)
      (fun ok machine => ok = true ∧
        Holding digests initial next (trial.rewritten record next) machine)
      (Sound digests initial) := by
  refine triple_of_base fun base started => ?_
  obtain ⟨holding, writable⟩ := holds base started
  have unwritten : ∀ machine, Unwritten base machine → Sound digests initial machine := by
    intro machine same
    have shape : machine = _ := same
    exact (holding.carried (by rw [shape]) (by rw [shape]) fun _ _ => by rw [shape]).sound
  refine (writeSelection_triple base false next).consequence ?_ ?_ ?_
  · rintro machine rfl
    rfl
  · rintro ok machine (⟨wrote, succeeded⟩ | ⟨-, flaky, -⟩)
    · refine ⟨Bool.of_not_eq_false fun failed => ?_, holding.written writable wrote⟩
      cases succeeded failed
    · cases flaky
  · rintro machine (wrote | same)
    · exact (holding.written writable wrote).sound
    · exact unwritten machine same

/-- A cleanup around a slot set that covers what the record names. -/
theorem pruneOtherSlots_holding {keep : Option Slot} (mayFail : Bool)
    (covered : ∀ slot, record.Names slot → keep = some slot) :
    Triple (Holding digests initial record trial) (pruneOtherSlots mayFail keep)
      (fun _ => Holding digests initial record trial) (Sound digests initial) := by
  have kept : Keeps (Holding digests initial record trial) (pruneOtherSlots mayFail keep) := by
    refine keeps_of_relation (sameButSlots_refl (prunedSlots keep))
      (fun base => pruneOtherSlots_keeps base mayFail keep) ?_
    intro base machine holding same
    refine holding.carried (by rw [same.rest]) (by rw [same.rest]) fun slot named => ?_
    have outside : slot ∉ prunedSlots keep := by
      rw [covered slot named]
      exact not_mem_prunedSlots slot
    rw [same.kept slot outside]
  exact kept.consequence (fun _ holds => holds) (fun _ _ holds => holds) fun _ holds => holds.sound

theorem steady_names {stable : Option Slot} {slot : Slot}
    (named : (Record.steady stable).Names slot) : stable = some slot := by
  rcases named with same | same
  · exact same
  · cases same

/-- Ending a trial with `slot`, which the record names and may make stable. -/
theorem steady_writable {machine : Machine} {slot : Slot}
    (holding : Holding digests initial record trial machine) (named : record.Names slot)
    (promotes : Promotes record machine.history (.steady (some slot))) :
    Writable digests record (.steady (some slot)) machine where
  valid := steady_valid _
  verified other same := by
    cases Option.some.inj (steady_names same)
    exact holding.verified named
  fresh absent := absurd rfl absent
  promotes := promotes

/-- Keeping the stable slot promotes nothing. -/
theorem promotes_same {before after : Record} (earlier : List Mark)
    (same : after.stable = before.stable) : Promotes before earlier after := by
  intro slot stable other
  rw [same] at stable
  exact absurd stable other

/-- A candidate may replace no stable slot at all. -/
theorem promotes_only {before : Record} (earlier : List Mark) {slot : Slot}
    (pending : before.pending = some slot) (alone : before.stable = none) :
    Promotes before earlier (.steady (some slot)) := by
  intro other same _
  cases Option.some.inj same
  exact ⟨pending, .inl alone⟩

/-- Writing the record without a candidate. -/
theorem writeSteady_holding {slot : Slot} (named : record.Names slot)
    (promotes : ∀ earlier, Promotes record earlier (.steady (some slot))) :
    Triple (Holding digests initial record trial) (writeSelection false (.steady (some slot)))
      (fun ok machine => ok = true ∧ Holding digests initial (.steady (some slot))
        (trial.rewritten record (.steady (some slot))) machine) (Sound digests initial) :=
  writeSelection_holding fun machine holding =>
    ⟨holding, steady_writable holding named (promotes machine.history)⟩

/-- A cleanup around the only slot the record names. -/
theorem pruneSteady_holding (slot : Slot) :
    Triple (Holding digests initial (.steady (some slot)) trial)
      (pruneOtherSlots false (some slot))
      (fun _ => Holding digests initial (.steady (some slot)) trial) (Sound digests initial) :=
  pruneOtherSlots_holding false fun _ named => steady_names named

/-- A mark that is no write, with the trial it leads to. -/
theorem Holding.marked {machine after : Machine}
    (holding : Holding digests initial record trial machine) (mark : Mark) {next : Trial}
    (unwritten : ∀ other, mark ≠ .wrote other)
    (trials : trialAfter initial (mark :: machine.history) = next) (once : next.boots ≤ 1)
    (untried : record.pending ≠ none → record.attempted = false → next.boots = 0)
    (history : after.history = mark :: machine.history)
    (selection : after.selection = machine.selection) (dirs : after.dirs = machine.dirs) :
    Holding digests initial record next after := by
  have records : recordAfter initial after.history = record := by
    rw [history, ← holding.record]
    cases mark with
    | wrote other => exact absurd rfl (unwritten other)
    | booted => rfl
    | started slot => rfl
    | healthy slot => rfl
  have counted : trialAfter initial after.history = next := by
    rw [history, trials]
  refine ⟨⟨?_, ?_, ?_, ?_, ?_⟩, records, counted⟩
  · rw [records, selection, ← holding.record]
    exact holding.sound.read
  · rw [records, dirs]
    exact fun slot named => holding.verified named
  · rw [counted]
    exact once
  · rw [records, counted]
    exact untried
  · rw [history]
    exact promoted_cons holding.sound.promoted fun other same => absurd same (unwritten other)

theorem Holding.once {machine : Machine}
    (holding : Holding digests initial record trial machine) : trial.boots ≤ 1 := by
  rw [← holding.trial]
  exact holding.sound.once

theorem Holding.untried {machine : Machine}
    (holding : Holding digests initial record trial machine) (named : record.pending ≠ none)
    (fresh : record.attempted = false) : trial.boots = 0 := by
  have untried := holding.sound.untried
  rw [holding.record, holding.trial] at untried
  exact untried named fresh

theorem Holding.apart {machine : Machine}
    (holding : Holding digests initial record trial machine) : record.Valid := by
  have valid := readSelection_valid holding.sound.read
  rw [holding.record] at valid
  exact valid

/-- A new boot. -/
theorem Sound.booted {machine : Machine} (sound : Sound digests initial machine) :
    Sound digests initial
      { machine with running := none, history := .booted :: machine.history } := by
  have holding := sound.holding
  have booted : Holding digests initial (recordAfter initial machine.history)
      { trialAfter initial machine.history with begun := false }
      { machine with running := none, history := .booted :: machine.history } :=
    holding.marked .booted (fun _ => Mark.noConfusion) rfl holding.once holding.untried rfl rfl rfl
  exact booted.sound

/-- The hook of a slot that is not the candidate is not a trial. -/
theorem Holding.startedOther {machine : Machine}
    (holding : Holding digests initial record trial machine) {slot : Slot}
    (other : record.pending ≠ some slot) :
    Holding digests initial record trial
      { machine with slotStarted := true, history := .started slot :: machine.history } := by
  refine holding.marked (.started slot) (fun _ => Mark.noConfusion) ?_ holding.once
    holding.untried rfl rfl rfl
  simp only [trialAfter, holding.record, holding.trial, other, false_and, if_false]

theorem Holding.healthy {machine : Machine}
    (holding : Holding digests initial record trial machine) (slot : Slot) :
    Holding digests initial record trial
      { machine with history := .healthy slot :: machine.history } :=
  holding.marked (.healthy slot) (fun _ => Mark.noConfusion) holding.trial holding.once
    holding.untried rfl rfl rfl

/-- The trial of `slot` is marked as attempted, and no earlier boot started it. -/
def InTrial (digests : Digests) (initial : Record) (stable : Option Slot) (slot : Slot)
    (machine : Machine) : Prop :=
  ∃ trial, Holding digests initial ⟨stable, some slot, true⟩ trial machine ∧
    (trial.boots = 0 ∨ trial.begun = true)

theorem InTrial.sound {stable : Option Slot} {slot : Slot} {machine : Machine}
    (testing : InTrial digests initial stable slot machine) : Sound digests initial machine := by
  obtain ⟨trial, holding, -⟩ := testing
  exact holding.sound

theorem InTrial.started {stable : Option Slot} {slot : Slot} {machine : Machine}
    (testing : InTrial digests initial stable slot machine) :
    InTrial digests initial stable slot
      { machine with slotStarted := true, history := .started slot :: machine.history } := by
  obtain ⟨trial, holding, first | again⟩ := testing
  · by_cases begun : trial.begun = true
    · refine ⟨trial, holding.marked (.started slot) (fun _ => Mark.noConfusion) ?_
        holding.once holding.untried rfl rfl rfl, .inr begun⟩
      simp only [trialAfter, holding.trial, begun, Bool.true_eq_false, and_false, if_false]
    · have fresh : trial.begun = false := Bool.of_not_eq_true begun
      refine ⟨⟨1, true⟩, holding.marked (.started slot) (fun _ => Mark.noConfusion) ?_
        (Nat.le_refl 1) (fun _ untried => by cases untried) rfl rfl rfl, .inr rfl⟩
      simp only [trialAfter, holding.record, holding.trial, fresh, first, and_self, if_true,
        Nat.zero_add]
  · refine ⟨trial, holding.marked (.started slot) (fun _ => Mark.noConfusion) ?_
      holding.once holding.untried rfl rfl rfl, .inr again⟩
    simp only [trialAfter, holding.trial, again, Bool.true_eq_false, and_false, if_false]

/-! ### Starting and promoting a slot -/

/-- The volatile files, the shell variable and `selection.new` do not matter. -/
def SameOnFlash (base machine : Machine) : Prop :=
  machine.selection = base.selection ∧ machine.dirs = base.dirs ∧ machine.history = base.history

theorem Holding.sameOnFlash {base machine : Machine}
    (holding : Holding digests initial record trial base) (same : SameOnFlash base machine) :
    Holding digests initial record trial machine :=
  holding.carried same.1 same.2.2 fun _ _ => by rw [same.2.1]

theorem InTrial.sameOnFlash {stable : Option Slot} {slot : Slot} {base machine : Machine}
    (testing : InTrial digests initial stable slot base) (same : SameOnFlash base machine) :
    InTrial digests initial stable slot machine := by
  obtain ⟨trial, holding, begun⟩ := testing
  exact ⟨trial, holding.sameOnFlash same, begun⟩

/-- Starting a slot keeps what its mark and the volatile files keep. -/
theorem startSlot_holding {pre : Machine → Prop} {slot : Slot} (mayFail : Bool)
    (sound : ∀ machine, pre machine → Sound digests initial machine)
    (volatile : ∀ base machine, pre base → SameOnFlash base machine → pre machine)
    (started : ∀ machine, pre machine →
      pre { machine with slotStarted := true, history := .started slot :: machine.history }) :
    Triple pre (startSlot digests mayFail slot) (fun _ => pre) (Sound digests initial) := by
  unfold startSlot
  refine triple_bind (fun _ => pre)
    (triple_modify fun machine holds => volatile machine _ holds ⟨rfl, rfl, rfl⟩) fun _ => ?_
  refine triple_bind (fun _ => pre) (triple_get fun _ holds => holds) fun verified => ?_
  refine triple_ite (fun _ => ?_) fun _ => triple_pure fun _ holds => holds
  have running : Triple pre (.run (setRunning mayFail (some slot))) (fun _ => pre)
      (Sound digests initial) := by
    refine triple_run ?_ (fun _ holds _ => holds) fun machine _ holds =>
      ⟨fun _ => holds, sound machine holds⟩
    intro machine after holds effect
    cases Option.some.inj effect
    exact volatile machine _ holds ⟨rfl, rfl, rfl⟩
  refine triple_bind (fun _ => pre) (triple_bind (fun _ => pre) (attempt_holding sound)
    fun ok => triple_ite (fun _ => running) fun _ => triple_pure fun _ holds => holds)
    fun marked => ?_
  refine triple_ite (fun _ => ?_) fun _ => triple_pure fun _ holds => holds
  exact triple_bind (fun _ => pre) (triple_modify started) fun _ => attempt_holding sound

/-- The promotion helper either promotes, or leaves the record and the trial. -/
theorem markHealthy_holding (slot : Slot) :
    Triple (Holding digests initial record trial) (markHealthy false slot)
      (fun ok machine => if ok then Sound digests initial machine
        else Holding digests initial record trial machine)
      (Sound digests initial) := by
  have refused : Triple (Holding digests initial record trial) (pure false : Shell Bool)
      (fun ok machine => if ok then Sound digests initial machine
        else Holding digests initial record trial machine) (Sound digests initial) :=
    triple_pure fun _ holds => holds
  unfold markHealthy
  refine triple_bind _ (attempt_holding fun _ holds => holds.sound) fun locked => ?_
  refine triple_ite (fun _ => ?_) fun _ => refused
  refine triple_bind _ readRecord_holding fun value => ?_
  refine triple_of_fact (fun _ holds => holds.1) ?_
  rintro rfl
  refine Triple.consequence ?_ (fun _ holds => holds.2) (fun _ _ holds => holds) fun _ holds => holds
  refine triple_ite (fun candidate => ?_) fun _ => refused
  have named : record.Names slot := .inr candidate.1
  refine triple_bind (fun _ => Holding digests initial record trial)
    (triple_get fun _ holds => holds) fun running => ?_
  refine triple_ite (fun _ => ?_) fun _ => refused
  have passed : Triple (Holding digests initial record trial) (.run (healthHook slot))
      (fun ok machine => Holding digests initial record trial machine ∧
        (ok = true → PassedHealth slot machine.history)) (Sound digests initial) := by
    refine triple_run ?_ ?_ ?_
    · intro machine after holding effect
      cases Option.some.inj effect
      exact ⟨holding.healthy slot, fun _ => .inl rfl⟩
    · intro machine _ effect
      cases effect
    · intro machine torn holding
      exact ⟨fun _ => ⟨holding, fun failed => by cases failed⟩, holding.sound⟩
  have written : Triple (fun machine => Holding digests initial record trial machine ∧
        PassedHealth slot machine.history) (writeSelection false (.steady (some slot)))
      (fun ok machine => ok = true ∧ Holding digests initial (.steady (some slot))
        (trial.rewritten record (.steady (some slot))) machine) (Sound digests initial) := by
    refine writeSelection_holding fun machine holds => ?_
    obtain ⟨holding, healthy⟩ := holds
    refine ⟨holding, steady_writable holding named fun other same _ => ?_⟩
    cases Option.some.inj same
    exact ⟨candidate.1, .inr healthy⟩
  refine triple_bind (fun ok machine => if ok then Holding digests initial (.steady (some slot))
      (trial.rewritten record (.steady (some slot))) machine
    else Holding digests initial record trial machine) ?_ fun promoted => ?_
  · refine triple_bind _ passed fun healthy => ?_
    cases healthy with
    | false => exact triple_pure fun _ holds => holds.1
    | true =>
        refine written.consequence (fun _ holds => ⟨holds.1, holds.2 rfl⟩) ?_ fun _ holds => holds
        rintro ok machine ⟨rfl, holding⟩
        exact holding
  · cases promoted with
    | false => exact refused
    | true =>
        exact triple_bind _ (pruneSteady_holding slot) fun _ =>
          triple_pure fun _ holding => holding.sound

/-! ### One boot -/

/-- What the selection phase goes on with, by the record in its shell variables. -/
def Resolved (digests : Digests) (initial : Record) (value : Option Record)
    (machine : Machine) : Prop :=
  match value with
  | none => Sound digests initial machine
  | some record =>
      (record.pending ≠ none → record.attempted = false) ∧
        ∃ trial, Holding digests initial record trial machine

theorem resolveTrial_holding :
    Triple (Holding digests initial record trial) (resolveTrial false record)
      (Resolved digests initial) (Sound digests initial) := by
  -- A record without a candidate is one the phase can go on with.
  have ended : ∀ (stable : Option Slot) (ok : Bool) (machine : Machine),
      Holding digests initial (.steady stable) (trial.rewritten record (.steady stable)) machine →
        Resolved digests initial (some (.steady stable)) machine :=
    fun stable ok machine holding => ⟨fun absent => absurd rfl absent, _, holding⟩
  have exits : ∀ (next : Record) (trial : Trial),
      Triple (Holding digests initial next trial) (pure none : Shell (Option Record))
        (Resolved digests initial) (Sound digests initial) :=
    fun next trial => triple_pure fun _ holding => holding.sound
  unfold resolveTrial
  refine triple_ite (fun tried => ?_) fun untried => ?_
  · obtain ⟨slot, pending⟩ := Option.ne_none_iff_exists'.mp tried.1
    refine triple_ite (fun alone => ?_) fun backed => ?_
    · rw [pending]
      refine triple_bind _ (writeSteady_holding (.inr pending)
        fun earlier => promotes_only earlier pending alone) fun ok => ?_
      refine Triple.consequence ?_ (fun _ holds => holds.2) (fun _ _ holds => holds)
        fun _ holds => holds
      exact triple_ite (fun _ => triple_pure fun machine holding => ended _ ok machine holding)
        fun _ => exits _ _
    · obtain ⟨stable, known⟩ := Option.ne_none_iff_exists'.mp backed
      rw [known]
      have restored : Triple (Holding digests initial record trial)
          ((writeSelection false (.steady (some stable))).andThen
            (pruneOtherSlots false (some stable)))
          (fun _ => Holding digests initial (.steady (some stable))
            (trial.rewritten record (.steady (some stable)))) (Sound digests initial) := by
        refine triple_andThen ((writeSteady_holding (.inl known)
          fun _ => promotes_same _ known.symm).consequence (fun _ holds => holds) ?_
          fun _ holds => holds) (pruneSteady_holding stable)
        rintro ok machine ⟨rfl, holding⟩
        exact holding
      refine triple_bind _ restored fun ok => ?_
      exact triple_ite (fun _ => triple_pure fun machine holding => ended _ ok machine holding)
        fun _ => exits _ _
  · refine triple_pure fun machine holding => ⟨fun named => ?_, trial, holding⟩
    exact Bool.of_not_eq_true fun attempted => untried ⟨named, attempted⟩

/-- The record on flash when the selection phase is done with `record`. -/
def Selected (digests : Digests) (initial record : Record) (machine : Machine) : Prop :=
  match record.pending with
  | none => ∃ trial, Holding digests initial record trial machine
  | some slot => InTrial digests initial record.stable slot machine

theorem selected_none (absent : record.pending = none) (machine : Machine) :
    Selected digests initial record machine ↔
      ∃ trial, Holding digests initial record trial machine := by
  rw [Selected, absent]

theorem selected_some {slot : Slot} (pending : record.pending = some slot) (machine : Machine) :
    Selected digests initial record machine ↔
      InTrial digests initial record.stable slot machine := by
  rw [Selected, pending]

theorem beginTrial_holding (fresh : record.pending ≠ none → record.attempted = false) :
    Triple (Holding digests initial record trial) (beginTrial false record)
      (fun ok machine => ok = true ∧ Selected digests initial record machine)
      (Sound digests initial) := by
  unfold beginTrial
  refine triple_ite (fun named => ?_) fun absent => triple_pure fun machine holding => ?_
  · obtain ⟨slot, pending⟩ := Option.ne_none_iff_exists'.mp named
    have writable : ∀ machine, Holding digests initial record trial machine →
        Holding digests initial record trial machine ∧
          Writable digests record { record with attempted := true } machine := by
      intro machine holding
      refine ⟨holding, ⟨holding.apart.apart, fun absent => absurd absent named⟩, ?_, ?_,
        promotes_same _ rfl⟩
      · exact fun other same => holding.verified same
      · intro _ untried
        cases untried
    refine triple_of_fact (fun _ holding => holding.untried named (fresh named)) fun first => ?_
    refine (writeSelection_holding writable).consequence (fun _ holds => holds) ?_
      fun _ holds => holds
    rintro ok machine ⟨rfl, holding⟩
    refine ⟨rfl, ?_⟩
    have same : trial.rewritten record { record with attempted := true } = trial := if_pos rfl
    rw [same, pending] at holding
    exact (selected_some pending machine).mpr ⟨trial, holding, .inl first⟩
  · exact ⟨rfl, (selected_none (not_not.mp absent) machine).mpr ⟨trial, holding⟩⟩

theorem Selected.sound {machine : Machine} (selected : Selected digests initial record machine) :
    Sound digests initial machine := by
  unfold Selected at selected
  split at selected
  · obtain ⟨trial, holding⟩ := selected
    exact holding.sound
  · exact selected.sound

theorem steadyCleanup_holding (mayFail : Bool) :
    Triple (Selected digests initial record) (steadyCleanup mayFail record)
      (fun _ => Selected digests initial record) (Sound digests initial) := by
  unfold steadyCleanup
  refine triple_ite (fun absent => ?_) fun _ => triple_pure fun _ holds => holds
  refine triple_of_base fun base selected => ?_
  obtain ⟨trial, holding⟩ := (selected_none absent base).mp selected
  refine (pruneOtherSlots_holding mayFail fun slot named => ?_).consequence
    (fun _ same => same ▸ holding)
    (fun _ machine kept => (selected_none absent machine).mpr ⟨trial, kept⟩) fun _ sound => sound
  rcases named with stable | pending
  · exact stable
  · rw [absent] at pending
    cases pending

theorem readRecord_sound {base : Machine} (sound : Sound digests initial base) :
    Triple (fun machine => machine = base) readRecord
      (fun value machine => value = some (recordAfter initial base.history) ∧
        Holding digests initial (recordAfter initial base.history)
          (trialAfter initial base.history) machine) (Sound digests initial) := by
  refine readRecord_holding.consequence ?_ (fun _ _ holds => holds) fun _ holds => holds
  rintro _ rfl
  exact sound.holding

/-- The selection phase ends with a record it can start, or exits. -/
theorem bootSelection_holding :
    Triple (Sound digests initial) (bootSelection false)
      (fun value machine => match value with
        | none => Sound digests initial machine
        | some record => Selected digests initial record machine)
      (Sound digests initial) := by
  unfold bootSelection
  refine triple_bind _ (attempt_holding fun _ sound => sound) fun locked => ?_
  refine triple_ite (fun _ => ?_) fun _ => triple_pure fun _ sound => sound
  refine triple_of_base fun base sound => ?_
  refine triple_bind _ (readRecord_sound sound) fun value => ?_
  refine triple_of_fact (fun _ holds => holds.1) ?_
  rintro rfl
  refine triple_bind _ (resolveTrial_holding.consequence (fun _ holds => holds.2)
    (fun _ _ holds => holds) fun _ holds => holds) fun resolved => ?_
  cases resolved with
  | none => exact triple_pure fun _ holds => holds
  | some record =>
      refine triple_of_base fun machine ready => ?_
      obtain ⟨fresh, trial, holding⟩ := ready
      refine triple_bind _ ((beginTrial_holding fresh).consequence (fun _ same => same ▸ holding)
        (fun _ _ holds => holds) fun _ holds => holds) fun ok => ?_
      refine triple_of_fact (fun _ holds => holds.1) ?_
      rintro rfl
      refine triple_bind _ ((steadyCleanup_holding false).consequence (fun _ holds => holds.2)
        (fun _ _ holds => holds) fun _ holds => holds) fun _ => ?_
      exact triple_pure fun _ selected => selected

theorem markHealthy_trial (stable : Option Slot) (slot : Slot) :
    Triple (InTrial digests initial stable slot) (markHealthy false slot)
      (fun ok machine => if ok then Sound digests initial machine
        else InTrial digests initial stable slot machine)
      (Sound digests initial) := by
  refine triple_of_base fun base testing => ?_
  obtain ⟨trial, holding, begun⟩ := testing
  refine (markHealthy_holding slot).consequence (fun _ same => same ▸ holding) ?_
    fun _ sound => sound
  intro ok machine kept
  cases ok with
  | true => exact kept
  | false => exact ⟨trial, kept, begun⟩

theorem startSlot_trial (mayFail : Bool) (stable : Option Slot) (slot : Slot) :
    Triple (InTrial digests initial stable slot) (startSlot digests mayFail slot)
      (fun _ => InTrial digests initial stable slot) (Sound digests initial) :=
  startSlot_holding mayFail (fun _ testing => testing.sound)
    (fun _ _ testing same => testing.sameOnFlash same) fun _ testing => testing.started

/-- The trial window leaves the trial as it is, or has promoted the candidate. -/
theorem trialLoop_holding (stable : Option Slot) (slot : Slot) (rounds : Nat) :
    Triple (InTrial digests initial stable slot) (trialLoop digests false slot rounds)
      (fun ok machine => if ok then Sound digests initial machine
        else InTrial digests initial stable slot machine)
      (Sound digests initial) := by
  have trying : Triple (InTrial digests initial stable slot) attempt
      (fun _ => InTrial digests initial stable slot) (Sound digests initial) :=
    attempt_holding fun _ testing => testing.sound
  induction rounds with
  | zero => exact triple_pure fun _ testing => testing
  | succ rounds inductionHypothesis =>
      unfold trialLoop
      refine triple_bind _ trying fun alive => triple_ite (fun _ => ?_) fun _ => ?_
      · refine triple_bind _ (markHealthy_trial stable slot) fun promoted => ?_
        cases promoted with
        | true => exact triple_pure fun _ sound => sound
        | false => exact inductionHypothesis
      · refine triple_bind _ trying fun _ => ?_
        exact triple_bind _ (startSlot_trial false stable slot) fun _ => inductionHypothesis

/-- Starting a slot that is not the recorded candidate. -/
def NotCandidate (digests : Digests) (initial : Record) (slot : Slot) (machine : Machine) : Prop :=
  ∃ record trial, Holding digests initial record trial machine ∧ record.pending ≠ some slot

theorem startSlot_notCandidate (mayFail : Bool) (slot : Slot) :
    Triple (NotCandidate digests initial slot) (startSlot digests mayFail slot)
      (fun _ => Sound digests initial) (Sound digests initial) := by
  have sound : ∀ machine, NotCandidate digests initial slot machine →
      Sound digests initial machine := by
    rintro machine ⟨record, trial, holding, -⟩
    exact holding.sound
  refine (startSlot_holding mayFail sound ?_ ?_).consequence (fun _ holds => holds)
    (fun _ machine holds => sound machine holds) fun _ holds => holds
  · rintro base machine ⟨record, trial, holding, other⟩ same
    exact ⟨record, trial, holding.sameOnFlash same, other⟩
  · rintro machine ⟨record, trial, holding, other⟩
    exact ⟨record, trial, holding.startedOther other, other⟩

/-- Going back to the stable slot, with or without the lock. -/
theorem restoreStable_holding (stable slot : Slot) :
    Triple (InTrial digests initial (some stable) slot) (restoreStable digests false stable)
      (fun _ => Sound digests initial) (Sound digests initial) := by
  have kept : ∀ machine, InTrial digests initial (some stable) slot machine →
      NotCandidate digests initial stable machine := by
    rintro machine ⟨trial, holding, -⟩
    exact ⟨_, trial, holding, holding.apart.apart (Option.some_ne_none slot)⟩
  have restored : Triple (InTrial digests initial (some stable) slot)
      ((writeSelection false (.steady (some stable))).ignore.andThen
        (pruneOtherSlots false (some stable)))
      (fun _ => NotCandidate digests initial stable) (Sound digests initial) := by
    refine triple_of_base fun base testing => ?_
    obtain ⟨trial, holding, -⟩ := testing
    have steady : Triple (Holding digests initial ⟨some stable, some slot, true⟩ trial)
        ((writeSelection false (.steady (some stable))).ignore.andThen
          (pruneOtherSlots false (some stable)))
        (fun _ machine => ∃ next, Holding digests initial (.steady (some stable)) next machine)
        (Sound digests initial) := by
      refine triple_andThen (triple_bind _ (writeSteady_holding (.inl rfl)
        fun earlier => promotes_same earlier rfl) fun _ => triple_pure fun _ holds => holds.2) ?_
      exact (pruneSteady_holding stable).consequence (fun _ holds => holds)
        (fun _ _ holds => ⟨_, holds⟩) fun _ holds => holds
    refine steady.consequence (fun _ same => same ▸ holding) ?_ fun _ holds => holds
    rintro ok machine ⟨next, ended⟩
    exact ⟨_, next, ended, fun named => by cases named⟩
  unfold restoreStable
  refine triple_bind (fun _ => InTrial digests initial (some stable) slot) ?_ fun stopped => ?_
  · refine triple_bind (fun _ => InTrial digests initial (some stable) slot)
      (triple_get fun _ testing => testing) fun started => ?_
    exact triple_ite (fun _ => attempt_holding fun _ testing => testing.sound)
      fun _ => triple_pure fun _ testing => testing
  · refine triple_ite (fun _ => ?_) fun _ => triple_pure fun _ testing => testing.sound
    refine triple_bind (fun _ => NotCandidate digests initial stable) ?_
      fun _ => startSlot_notCandidate false stable
    refine triple_bind _ (attempt_holding fun _ testing => testing.sound) fun locked => ?_
    exact triple_ite (fun _ => restored) fun _ => triple_pure kept

theorem trialFailed_holding (stable : Option Slot) (slot : Slot) :
    Triple (InTrial digests initial stable slot) (trialFailed digests false slot stable)
      (fun _ => Sound digests initial) (Sound digests initial) := by
  cases stable with
  | some stable => exact restoreStable_holding stable slot
  | none =>
      refine triple_bind _ (attempt_holding fun _ testing => testing.sound) fun locked => ?_
      refine triple_ite (fun _ => ?_) fun _ => triple_pure fun _ testing => testing.sound
      refine triple_of_base fun base testing => ?_
      obtain ⟨trial, holding, -⟩ := testing
      exact (writeSteady_holding (.inr rfl) fun earlier => promotes_only earlier rfl rfl).consequence
        (fun _ same => same ▸ holding) (fun _ _ holds => holds.2.sound) fun _ sound => sound

theorem bootScript_keeps_sound (rounds : Nat) :
    Keeps (Sound digests initial) (bootScript digests false rounds) := by
  unfold bootScript
  refine keeps_bind (keeps_modify fun _ sound => sound.booted) fun _ => ?_
  refine triple_bind _ bootSelection_holding fun value => ?_
  cases value with
  | none => exact keeps_pure false
  | some record =>
      obtain ⟨stable, pending, attempted⟩ := record
      cases pending with
      | some slot =>
          refine triple_bind _ (startSlot_trial false stable slot) fun _ => ?_
          refine triple_bind _ (trialLoop_holding stable slot rounds) fun promoted => ?_
          cases promoted with
          | true => exact triple_pure fun _ sound => sound
          | false => exact trialFailed_holding stable slot
      | none =>
          cases stable with
          | none => exact triple_pure fun _ selected => selected.sound
          | some running =>
              refine (startSlot_notCandidate false running).consequence ?_ (fun _ _ sound => sound)
                fun _ sound => sound
              rintro machine ⟨trial, holding⟩
              exact ⟨_, trial, holding, fun named => by cases named⟩

/-! ### An installation -/

theorem empty_names (slot : Slot) : ¬ Record.empty.Names slot := by
  rintro (same | same) <;> cases same

/-- While the record names no slot, nothing done to the slots breaks the invariant. -/
theorem Holding.emptyCarried {machine after : Machine}
    (holding : Holding digests initial .empty trial machine)
    (rest : after = { machine with dirs := after.dirs }) :
    Holding digests initial .empty trial after :=
  holding.carried (by rw [rest]) (by rw [rest]) fun slot named => absurd named (empty_names slot)

/-- The empty record is on flash, and of `target` only this much is known. -/
def Replacing (digests : Digests) (initial : Record) (trial : Trial) (target : Slot)
    (current new : Option SlotDir) (machine : Machine) : Prop :=
  Holding digests initial .empty trial machine ∧ machine.dirs target .current = current ∧
    machine.dirs target .new = new

theorem Replacing.sound {target : Slot} {current new : Option SlotDir} {machine : Machine}
    (replacing : Replacing digests initial trial target current new machine) :
    Sound digests initial machine := replacing.1.sound

section Replacing

variable {target : Slot} {current new : Option SlotDir} {stage : SlotDir}

/-- A change of `target` alone, with what is known of it afterwards. -/
theorem Replacing.updated {machine : Machine}
    (replacing : Replacing digests initial trial target current new machine)
    (dirs : Stage → Option SlotDir) :
    Replacing digests initial trial target (dirs .current) (dirs .new)
      { machine with dirs := Function.update machine.dirs target dirs } := by
  refine ⟨replacing.1.emptyCarried rfl, ?_, ?_⟩
  · exact congrFun (Function.update_self target dirs machine.dirs) .current
  · exact congrFun (Function.update_self target dirs machine.dirs) .new

/-- A step of the installation that changes nothing known here. -/
theorem replacing_cons {step : Shell Bool} {rest : List (Shell Bool)}
    (kept : Triple (Replacing digests initial trial target current new) step
      (fun _ => Replacing digests initial trial target current new) (Sound digests initial))
    (continues : Triple (Replacing digests initial trial target current new) (.steps rest)
      (fun _ => Sound digests initial) (Sound digests initial)) :
    Triple (Replacing digests initial trial target current new) (.steps (step :: rest))
      (fun _ => Sound digests initial) (Sound digests initial) := by
  refine triple_steps_cons _ (kept.consequence (fun _ holds => holds) ?_ fun _ sound => sound)
    continues
  intro ok machine replacing
  cases ok with
  | true => exact replacing
  | false => exact replacing.sound

theorem replacing_sync :
    Triple (Replacing digests initial trial target current new) (.ignore (.run (housekeeping false)))
      (fun _ => Replacing digests initial trial target current new) (Sound digests initial) := by
  refine triple_bind (fun _ => Replacing digests initial trial target current new) ?_
    fun _ => triple_pure fun _ replacing => replacing
  exact housekeeping_triple (fun _ replacing => replacing) (fun _ _ replacing => replacing)
    fun _ replacing => replacing.sound

theorem replacing_attempt :
    Triple (Replacing digests initial trial target current new) attempt
      (fun _ => Replacing digests initial trial target current new) (Sound digests initial) :=
  attempt_holding fun _ replacing => replacing.sound

theorem removeAll_replacing (target : Slot) :
    Triple (Holding digests initial .empty trial) (.run (removeAll false))
      (fun ok machine => if ok then Replacing digests initial trial target none none machine
        else Sound digests initial machine) (Sound digests initial) := by
  have kept : ∀ machine dirs, Holding digests initial .empty trial machine →
      Holding digests initial .empty trial { machine with dirs := dirs } :=
    fun _ _ holding => holding.emptyCarried rfl
  refine triple_run ?_ ?_ ?_
  · intro machine after holding effect
    cases Option.some.inj effect
    show Replacing digests initial trial target none none _
    exact ⟨kept machine _ holding, rfl, rfl⟩
  · intro machine _ effect
    cases effect
  · intro machine torn holding
    exact ⟨fun flaky => absurd flaky Bool.false_ne_true, (kept machine _ holding).sound⟩

theorem makeNew_replacing :
    Triple (Replacing digests initial trial target none none) (.run (makeNew target false))
      (fun ok machine => if ok then
          Replacing digests initial trial target none (some ⟨none, none⟩) machine
        else Sound digests initial machine) (Sound digests initial) := by
  refine triple_run ?_ (fun _ replacing _ => replacing.sound)
    fun _ _ replacing => ⟨fun flaky => absurd flaky Bool.false_ne_true, replacing.sound⟩
  intro machine after replacing effect
  have vacant : machine.dirs target .new = none := replacing.2.2
  simp only [makeNew, Command.atomic, vacant] at effect
  cases Option.some.inj effect
  have updated := replacing.updated
    (Function.update (machine.dirs target) .new (some ⟨none, none⟩))
  rw [Function.update_self, Function.update_of_ne (by decide), replacing.2.1] at updated
  exact updated

theorem copyStage_replacing {files : SlotDir} :
    Triple (Replacing digests initial trial target none (some files))
      (.run (copyStage stage target false))
      (fun ok machine => if ok then
          Replacing digests initial trial target none (some stage) machine
        else Sound digests initial machine) (Sound digests initial) := by
  refine triple_run ?_ (fun _ replacing _ => replacing.sound) ?_
  · intro machine after replacing effect
    have made : machine.dirs target .new = some files := replacing.2.2
    simp only [copyStage, made, Option.map_some] at effect
    cases Option.some.inj effect
    have updated := replacing.updated (Function.update (machine.dirs target) .new (some stage))
    rw [Function.update_self, Function.update_of_ne (by decide), replacing.2.1] at updated
    exact updated
  · intro machine torn replacing
    refine ⟨fun flaky => absurd flaky Bool.false_ne_true, ?_⟩
    cases torn with
    | zero => exact replacing.sound
    | succ count => exact (replacing.updated _).sound

theorem moveNew_replacing :
    Triple (Replacing digests initial trial target none (some stage)) (.run (moveNew target false))
      (fun ok machine => if ok then
          Replacing digests initial trial target (some stage) none machine
        else Sound digests initial machine) (Sound digests initial) := by
  refine triple_run ?_ (fun _ replacing _ => replacing.sound)
    fun _ _ replacing => ⟨fun flaky => absurd flaky Bool.false_ne_true, replacing.sound⟩
  intro machine after replacing effect
  have vacant : machine.dirs target .current = none := replacing.2.1
  have made : machine.dirs target .new = some stage := replacing.2.2
  simp only [moveNew, Command.atomic, made, vacant, Option.map_some, Option.getD_none] at effect
  cases Option.some.inj effect
  have updated := replacing.updated (Function.update
    (Function.update (machine.dirs target) .current (some stage)) .new none)
  rw [Function.update_self, Function.update_of_ne (by decide), Function.update_self] at updated
  exact updated

/-- The record of a freshly staged runtime. -/
theorem staged_writable {machine : Machine} (verified : verifyArchive digests (some stage) = true)
    (replacing : Replacing digests initial trial target (some stage) none machine) :
    Writable digests .empty ⟨none, some target, false⟩ machine where
  valid := ⟨fun _ => Option.some_ne_none target, fun _ => rfl⟩
  verified slot named := by
    rcases named with same | same
    · cases same
    · cases Option.some.inj same
      rw [replacing.2.1]
      exact verified
  fresh _ _ same := by cases same
  promotes slot same := by cases same

/-- An installation only writes a record that names nothing, and one that names
what it has just verified. -/
theorem replaceRuntime_holding (verified : verifyArchive digests (some stage) = true) :
    Triple (Holding digests initial record trial) (replaceRuntime digests false stage target)
      (fun _ => Sound digests initial) (Sound digests initial) := by
  have emptied : ∀ machine, Holding digests initial record trial machine →
      Holding digests initial record trial machine ∧ Writable digests record .empty machine := by
    intro machine holding
    refine ⟨holding, ⟨fun named => absurd rfl named, fun _ => rfl⟩, ?_, ?_, ?_⟩
    · exact fun slot named => absurd named (empty_names slot)
    · exact fun named => absurd rfl named
    · exact fun slot same => by cases same
  unfold replaceRuntime
  refine triple_steps_cons (Holding digests initial record trial)
    (housekeeping_triple (fun _ holding => holding) (fun flaky => by cases flaky)
      fun _ holding => holding.sound) ?_
  refine triple_steps_cons (Holding digests initial .empty (trial.rewritten record .empty))
    ((writeSelection_holding emptied).consequence (fun _ holds => holds) ?_ fun _ sound => sound) ?_
  · rintro ok machine ⟨rfl, holding⟩
    exact holding
  refine triple_steps_cons _ (removeAll_replacing target) ?_
  refine replacing_cons replacing_sync ?_
  refine replacing_cons replacing_attempt (replacing_cons replacing_attempt
    (replacing_cons replacing_attempt ?_))
  refine triple_steps_cons _ makeNew_replacing ?_
  refine triple_steps_cons _ copyStage_replacing ?_
  refine replacing_cons (triple_get fun _ replacing => replacing) (replacing_cons replacing_sync ?_)
  refine triple_steps_cons _ moveNew_replacing ?_
  refine replacing_cons replacing_sync (replacing_cons replacing_attempt ?_)
  have written : Triple (Replacing digests initial (trial.rewritten record .empty) target
        (some stage) none)
      (writeSelection false ⟨none, some target, false⟩)
      (fun ok machine => ok = true ∧ Sound digests initial machine) (Sound digests initial) :=
    (writeSelection_holding fun _ replacing =>
      ⟨replacing.1, staged_writable verified replacing⟩).consequence (fun _ holds => holds)
      (fun _ _ holds => ⟨holds.1, holds.2.sound⟩) fun _ sound => sound
  have kept : Keeps (Sound digests initial)
      (.steps [.ignore (.run (housekeeping false)), attempt]) := by
    refine keeps_andThen (keeps_ignore ?_) (keeps_andThen attempt_keeps (keeps_pure true))
    exact housekeeping_triple (fun _ sound => sound) (fun _ _ sound => sound) fun _ sound => sound
  refine triple_steps_cons (Sound digests initial) (written.consequence (fun _ holds => holds) ?_
    fun _ sound => sound) kept
  rintro ok machine ⟨rfl, sound⟩
  exact sound

end Replacing

theorem installRuntime_keeps_sound (stage : SlotDir) (target : Option Slot) :
    Keeps (Sound digests initial) (installRuntime digests false stage target) := by
  have refused : Keeps (Sound digests initial) (pure false : Shell Bool) := keeps_pure false
  unfold installRuntime
  refine keeps_ite (fun verified => ?_) fun _ => refused
  refine keeps_bind attempt_keeps fun locked => keeps_ite (fun _ => ?_) fun _ => refused
  refine triple_of_base fun base sound => ?_
  refine triple_bind _ (readRecord_sound sound) fun value => triple_of_fact (fun _ holds => holds.1) ?_
  rintro rfl
  refine Triple.consequence ?_ (fun _ holds => holds.2) (fun _ _ holds => holds) fun _ holds => holds
  refine triple_bind _ (attempt_holding fun _ holding => holding.sound) fun idle => ?_
  refine triple_ite (fun _ => ?_) fun _ => triple_pure fun _ holding => holding.sound
  split
  · refine Triple.consequence ?_ (fun _ holding => holding.sound) (fun _ _ sound => sound)
      fun _ sound => sound
    exact keeps_andThen attempt_keeps (keeps_get _)
  · exact replaceRuntime_holding verified

/-! ### Runs of the machine -/

/-- One operation with the fates of its commands. -/
inductive Operation
  | boot (rounds : Nat) (fates : List Fate)
  | install (stage : SlotDir) (target : Option Slot) (fates : List Fate)
  | markHealthy (slot : Slot) (fates : List Fate)

/-- The state an operation stops in, at its end or where it is cut off. -/
def perform (digests : Digests) (machine : Machine) : Operation → Machine
  | .boot rounds fates => (bootScript digests false rounds fates machine).state
  | .install stage target fates => (installRuntime digests false stage target fates machine).state
  | .markHealthy slot fates => (markHealthy false slot fates machine).state

theorem markHealthy_keeps_sound (slot : Slot) :
    Keeps (Sound digests initial) (markHealthy false slot) := by
  refine triple_of_base fun base sound => ?_
  have held : ∀ machine, machine = base → Holding digests initial (recordAfter initial base.history)
      (trialAfter initial base.history) machine := by
    rintro _ rfl
    exact sound.holding
  refine (markHealthy_holding slot).consequence held ?_ fun _ kept => kept
  intro ok machine kept
  cases ok with
  | true => exact kept
  | false => exact kept.sound

theorem perform_keeps_sound (machine : Machine) (operation : Operation)
    (sound : Sound digests initial machine) :
    Sound digests initial (perform digests machine operation) := by
  cases operation with
  | boot rounds fates => exact (bootScript_keeps_sound rounds).state fates sound
  | install stage target fates => exact (installRuntime_keeps_sound stage target).state fates sound
  | markHealthy slot fates => exact (markHealthy_keeps_sound slot).state fates sound

/-- A camera between two operations, before any of the marks. -/
theorem sound_initial {machine : Machine} (unmarked : machine.history = [])
    (read : readSelection machine.selection = some record)
    (verified : ∀ slot, record.Names slot →
      verifyArchive digests (machine.dirs slot .current) = true) :
    Sound digests record machine := by
  refine ⟨?_, ?_, ?_, ?_, ?_⟩ <;> rw [unmarked]
  · exact read
  · exact verified
  · exact Nat.zero_le 1
  · exact fun _ _ => rfl
  · exact promoted_nil record

end Machine

/-- After any operations, each stopped anywhere: the record parses, the slots it
names verify, a recorded candidate was started in at most one boot while a stable
slot is recorded, and every slot that became stable had passed its health hook as
the candidate, or replaced no stable slot. -/
theorem perform_sound (digests : Digests) (start : Machine) (initial : Record)
    (unmarked : start.history = []) (read : readSelection start.selection = some initial)
    (verified : ∀ slot, initial.Names slot →
      verifyArchive digests (start.dirs slot .current) = true) (operations : List Operation) :
    let machine := operations.foldl (perform digests) start
    ∃ record, readSelection machine.selection = some record ∧
      record = recordAfter initial machine.history ∧
      (∀ slot, record.Names slot → verifyArchive digests (machine.dirs slot .current) = true) ∧
      (record.stable ≠ none → (trialAfter initial machine.history).boots ≤ 1) ∧
      Promoted initial machine.history := by
  intro machine
  have sound : Sound digests initial machine :=
    foldl_preserves (fun state operation => perform_keeps_sound state operation) operations
      (sound_initial unmarked read verified)
  exact ⟨recordAfter initial machine.history, sound.read, rfl, sound.verified, fun _ => sound.once,
    sound.promoted⟩

/-- An update of a steady camera whose second boot loses power in the trial. -/
def updateRun : List Operation :=
  [.boot 2 [], .install emptyStage none [], .boot 2 (List.replicate 12 .ok ++ [.cut 0]),
    .boot 2 []]

theorem perform_sound_update :
    let machine := updateRun.foldl (perform emptyDigests) steadyMachine
    ∃ record, readSelection machine.selection = some record ∧
      record = recordAfter (.steady (some .A)) machine.history ∧
      (∀ slot, record.Names slot →
        verifyArchive emptyDigests (machine.dirs slot .current) = true) ∧
      (record.stable ≠ none → (trialAfter (.steady (some .A)) machine.history).boots ≤ 1) ∧
      Promoted (.steady (some .A)) machine.history := by
  refine perform_sound emptyDigests steadyMachine (.steady (some .A)) rfl (by decide) ?_ updateRun
  intro slot named
  cases Option.some.inj (steady_names named)
  decide

end JooanW3U.Runtime
