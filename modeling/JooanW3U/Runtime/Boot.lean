import JooanW3U.Runtime.Selection

/-!
Owns the scripts that change the selection record: the boot script from its
selection phase to the end of a trial, the promotion helper and
`install-runtime.sh`. Main result: what the selection phase of a boot keeps.

The lock, the hooks and the storage checks may fail at any time. Does not own
the supervisor loop or Wi-Fi.
-/

namespace JooanW3U.Runtime

open JooanW3U.Library.Crash

/-- `jl_lock`, `jl_unpack_archive`, a hook or a storage check: it may fail, and
changes nothing modelled here. -/
def attempt : Shell Bool := .run .check

def readRecord : Shell (Option Record) := .get fun machine => readSelection machine.selection

/-! ### The selection phase -/

/-- A trial that an earlier boot began: kept when it is the only runtime, else
rolled back. The value is the record as the shell variables hold it, `none` where
the boot script exits. -/
def resolveTrial (mayFail : Bool) (record : Record) : Shell (Option Record) :=
  if record.pending ≠ none ∧ record.attempted = true then
    if record.stable = none then do
      if ← writeSelection mayFail (.steady record.pending) then
        pure (some (.steady record.pending))
      else pure none
    else do
      if ← (writeSelection mayFail (.steady record.stable)).andThen
          (pruneOtherSlots mayFail record.stable) then
        pure (some (.steady record.stable))
      else pure none
  else pure (some record)

/-- Mark a fresh candidate as attempted before it is started. -/
def beginTrial (mayFail : Bool) (record : Record) : Shell Bool :=
  if record.pending ≠ none then writeSelection mayFail { record with attempted := true }
  else pure true

/-- The steady cleanup after the lock is released. -/
def steadyCleanup (mayFail : Bool) (record : Record) : Shell Bool :=
  if record.pending = none then pruneOtherSlots mayFail record.stable else pure true

/-- The selection phase of `boot.sh`. -/
def bootSelection (mayFail : Bool) : Shell (Option Record) := do
  if ← attempt then
    match ← readRecord with
    | none => do
        let _ ← steadyCleanup mayFail .empty
        pure (some .empty)
    | some record =>
        match ← resolveTrial mayFail record with
        | none => pure none
        | some record =>
            if ← beginTrial mayFail record then do
              let _ ← steadyCleanup mayFail record
              pure (some record)
            else pure none
  else pure none

/-! ### Slots and promotion -/

/-- `jl_set_running`. -/
def setRunning (mayFail : Bool) (slot : Option Slot) : Command Machine :=
  .atomic mayFail fun machine => some { machine with running := slot }

/-- `jl_start_slot`; the start hook runs after the slot is marked started. -/
def startSlot (digests : Digests) (mayFail : Bool) (slot : Slot) : Shell Bool := do
  .modify fun machine => { machine with slotStarted := false }
  if ← .get fun machine => verifyArchive digests (machine.dirs slot .current) then
    if ← attempt.andThen (.run (setRunning mayFail (some slot))) then
      .modify fun machine =>
        { machine with slotStarted := true, history := .started slot :: machine.history }
      attempt
    else pure false
  else pure false

/-- `jl_stop_slot`. -/
def stopSlot : Shell Bool := attempt

/-- The health hook of a slot. -/
def healthHook (slot : Slot) : Command Machine :=
  .atomic true fun machine => some { machine with history := .healthy slot :: machine.history }

/-- `mark-healthy.sh`. -/
def markHealthy (mayFail : Bool) (slot : Slot) : Shell Bool := do
  if ← attempt then
    match ← readRecord with
    | none => pure false
    | some record =>
        if record.pending = some slot ∧ record.attempted = true then do
          if (← .get Machine.running) = some slot then
            if ← (Script.run (healthHook slot)).andThen
                (writeSelection mayFail (.steady (some slot))) then
              let _ ← pruneOtherSlots mayFail (some slot)
              pure true
            else pure false
          else pure false
        else pure false
  else pure false

/-! ### The trial -/

/-- The trial window: at most `rounds` times, restart a dead runtime or try to
promote a live one. -/
def trialLoop (digests : Digests) (mayFail : Bool) (slot : Slot) : Nat → Shell Bool
  | 0 => pure false
  | rounds + 1 => do
      if ← attempt then
        if ← markHealthy mayFail slot then pure true
        else trialLoop digests mayFail slot rounds
      else
        let _ ← stopSlot
        let _ ← startSlot digests mayFail slot
        trialLoop digests mayFail slot rounds

/-- Never overlap two slots: a slot that was started is stopped first. -/
def stopStarted : Shell Bool := do
  if ← .get Machine.slotStarted then stopSlot else pure true

/-- After a failed trial with a stable runtime to go back to. -/
def restoreStable (digests : Digests) (mayFail : Bool) (stable : Slot) : Shell Bool := do
  if ← stopStarted then
    let _ ← attempt.andThen ((writeSelection mayFail (.steady (some stable))).ignore.andThen
      (pruneOtherSlots mayFail (some stable)))
    startSlot digests mayFail stable
  else pure false

/-- What follows a failed trial. -/
def trialFailed (digests : Digests) (mayFail : Bool) (slot : Slot) : Option Slot → Shell Bool
  | none => attempt.andThen (writeSelection mayFail (.steady (some slot)))
  | some stable => restoreStable digests mayFail stable

/-- `boot.sh` from the selection phase to the end of the trial. -/
def bootScript (digests : Digests) (mayFail : Bool) (rounds : Nat) : Shell Bool := do
  .modify fun machine => { machine with running := none, history := .booted :: machine.history }
  match ← bootSelection mayFail with
  | none => pure false
  | some record =>
      match record.pending, record.stable with
      | some trial, stable => do
          let _ ← startSlot digests mayFail trial
          if ← trialLoop digests mayFail trial rounds then pure true
          else trialFailed digests mayFail trial stable
      | none, some running => startSlot digests mayFail running
      | none, none => pure true

/-! ### Installing a runtime -/

/-- `rm -rf` of all six slot directories. -/
def removeAll (mayFail : Bool) : Command Machine where
  effect machine := some { machine with dirs := fun _ _ => none }
  torn choice machine :=
    { machine with
      dirs := fun slot stage =>
        eroded (choice / (stage.place * if slot = .A then 1 else 125)) (machine.dirs slot stage) }
  mayFail

/-- `mkdir` of the new directory of a slot. -/
def makeNew (slot : Slot) (mayFail : Bool) : Command Machine :=
  .atomic mayFail fun machine =>
    match machine.dirs slot .new with
    | some _ => none
    | none =>
        some { machine with
          dirs := Function.update machine.dirs slot
            (Function.update (machine.dirs slot) .new (some ⟨none, none⟩)) }

/-- The two files of `stage` when `cp` has written `count` bytes of them. -/
def copied (stage : SlotDir) (count : Nat) : SlotDir :=
  match stage.archive with
  | none => ⟨none, none⟩
  | some archive =>
      if count ≤ archive.length then ⟨some (archive.take count), none⟩
      else ⟨some archive, stage.digest.map fun digest => digest.take (count - archive.length - 1)⟩

/-- `cp` of the staged files into the new directory. -/
def copyStage (stage : SlotDir) (slot : Slot) (mayFail : Bool) : Command Machine where
  effect machine :=
    (machine.dirs slot .new).map fun _ =>
      { machine with
        dirs := Function.update machine.dirs slot
          (Function.update (machine.dirs slot) .new (some stage)) }
  torn
    | 0, machine => machine
    | count + 1, machine =>
        { machine with
          dirs := Function.update machine.dirs slot
            (Function.update (machine.dirs slot) .new
              ((machine.dirs slot .new).map fun _ => copied stage count)) }
  mayFail

/-- `mv` of the new directory to the slot's name; into it, when that exists. -/
def moveNew (slot : Slot) (mayFail : Bool) : Command Machine :=
  .atomic mayFail fun machine =>
    (machine.dirs slot .new).map fun files =>
      { machine with
        dirs := Function.update machine.dirs slot
          (Function.update
            (Function.update (machine.dirs slot) .current
              (some ((machine.dirs slot .current).getD files)))
            .new none) }

/-- The destructive part of `install-runtime.sh`. -/
def replaceRuntime (digests : Digests) (mayFail : Bool) (stage : SlotDir) (target : Slot) :
    Shell Bool :=
  .steps
    [.run (housekeeping mayFail), writeSelection mayFail .empty, .run (removeAll mayFail),
      .ignore (.run (housekeeping mayFail)), attempt, attempt, attempt,
      .run (makeNew target mayFail), .run (copyStage stage target mayFail),
      .get fun machine => verifyArchive digests (machine.dirs target .new),
      .ignore (.run (housekeeping mayFail)), .run (moveNew target mayFail),
      .ignore (.run (housekeeping mayFail)), attempt,
      writeSelection mayFail ⟨none, some target, false⟩,
      .ignore (.run (housekeeping mayFail)), attempt]

/-- The pending archive is the staged one. -/
def matchesStage (digests : Digests) (stage : SlotDir) (existing : Option SlotDir) : Bool :=
  match existing, stage with
  | some ⟨some archive, some digest⟩, ⟨some staged, some stagedDigest⟩ =>
      substituted digest = substituted stagedDigest && verifyArchive digests existing &&
        digests.sha256 archive = digests.sha256 staged
  | _, _ => false

/-- The slot to stage into when none is asked for. -/
def Record.freeSlot (record : Record) : Slot := if record.stable = some .A then .B else .A

/-- `install-runtime.sh`; an optional second argument names the slot. -/
def installRuntime (digests : Digests) (mayFail : Bool) (stage : SlotDir) (target : Option Slot) :
    Shell Bool := do
  if verifyArchive digests (some stage) = true then
    if ← attempt then
      match ← readRecord with
      | none => pure false
      | some record =>
          -- No Wi-Fi transaction may be open.
          if ← attempt then
            match record.pending with
            | some slot =>
                attempt.andThen
                  (.get fun machine => matchesStage digests stage (machine.dirs slot .current))
            | none => replaceRuntime digests mayFail stage (target.getD record.freeSlot)
          else pure false
    else pure false
  else pure false

/-! ### What the selection phase keeps -/

/-- The slot a boot keeps: the stable one, or the candidate when there is none. -/
def Record.retained (record : Record) : Option Slot := record.stable.or record.pending

theorem attempt_keeps {Invariant : Machine → Prop} : Keeps Invariant attempt := keeps_check

theorem resolveTrial_keeps {Property : (Slot → Stage → Option SlotDir) → Prop} (mayFail : Bool)
    (record : Record)
    (written : ∀ other, Keeps (fun machine => Property machine.dirs) (writeSelection mayFail other))
    (pruned : record.pending = none ∨ record.attempted = true →
      Keeps (fun machine => Property machine.dirs) (pruneOtherSlots mayFail record.retained)) :
    Triple (fun machine => Property machine.dirs) (resolveTrial mayFail record)
      (fun value machine => Property machine.dirs ∧
        ∀ other, value = some other → other.pending = none →
          Keeps (fun machine => Property machine.dirs) (pruneOtherSlots mayFail other.stable))
      (fun machine => Property machine.dirs) := by
  have stopped : ∀ value : Option Record, value = none → ∀ other, value = some other →
      other.pending = none → Keeps (fun machine : Machine => Property machine.dirs)
        (pruneOtherSlots mayFail other.stable) := by
    rintro _ rfl other absent
    cases absent
  unfold resolveTrial
  refine triple_ite (fun tried => ?_) fun fresh => ?_
  · have safe := pruned (.inr tried.2)
    refine triple_ite (fun alone => ?_) fun backed => ?_
    · have kept : record.retained = record.pending := by
        rw [Record.retained, alone, Option.none_or]
      refine triple_bind _ (written _) fun ok => triple_ite (fun _ => ?_) fun _ => ?_
      · refine triple_pure fun _ holds => ⟨holds, ?_⟩
        intro other same _
        cases same
        exact kept ▸ safe
      · exact triple_pure fun _ holds => ⟨holds, stopped none rfl⟩
    · have kept : record.retained = record.stable := by
        obtain ⟨slot, known⟩ := Option.ne_none_iff_exists'.mp backed
        rw [Record.retained, known, Option.some_or]
      rw [kept] at safe
      refine triple_bind _ (keeps_andThen (written _) safe) fun ok =>
        triple_ite (fun _ => ?_) fun _ => ?_
      · refine triple_pure fun _ holds => ⟨holds, ?_⟩
        intro other same _
        cases same
        exact safe
      · exact triple_pure fun _ holds => ⟨holds, stopped none rfl⟩
  · refine triple_pure fun _ holds => ⟨holds, ?_⟩
    intro other same absent
    cases same
    have kept : record.retained = record.stable := by
      rw [Record.retained, absent, Option.or_none]
    exact kept ▸ pruned (.inl absent)

/-- The phase touches the slots only through a cleanup around the retained slot,
and not at all for a candidate that has not been tried. -/
theorem bootSelection_triple (Property : (Slot → Stage → Option SlotDir) → Prop) (mayFail : Bool)
    {text : Option (List Char)} {record : Record} (read : readSelection text = some record)
    (pruned : record.pending = none ∨ record.attempted = true →
      Keeps (fun machine => Property machine.dirs) (pruneOtherSlots mayFail record.retained)) :
    Triple (fun machine => machine.selection = text ∧ Property machine.dirs)
      (bootSelection mayFail) (fun _ machine => Property machine.dirs)
      (fun machine => Property machine.dirs) := by
  have written : ∀ other, Keeps (fun machine => Property machine.dirs)
      (writeSelection mayFail other) :=
    writeSelection_keeps_dirs Property mayFail
  have cleaned : ∀ other : Record, (other.pending = none → Keeps
      (fun machine => Property machine.dirs) (pruneOtherSlots mayFail other.stable)) →
      Keeps (fun machine => Property machine.dirs) (steadyCleanup mayFail other) :=
    fun other safe => keeps_ite safe fun _ => keeps_pure true
  have continued : ∀ other : Record, (other.pending = none → Keeps
      (fun machine => Property machine.dirs) (pruneOtherSlots mayFail other.stable)) →
      Keeps (fun machine => Property machine.dirs) (do
        if ← beginTrial mayFail other then do
          let _ ← steadyCleanup mayFail other
          pure (some other)
        else pure none) := by
    intro other safe
    refine keeps_bind (keeps_ite (fun _ => written _) fun _ => keeps_pure true) fun ok => ?_
    refine keeps_ite (fun _ => ?_) fun _ => keeps_pure none
    exact keeps_bind (cleaned other safe) fun _ => keeps_pure _
  refine triple_bind (fun _ machine => machine.selection = text ∧ Property machine.dirs)
    (attempt_keeps.consequence (fun _ holds => holds) (fun _ _ holds => holds)
      fun _ holds => holds.2) fun locked => ?_
  refine triple_ite (fun _ => ?_) fun _ => triple_pure fun _ holds => holds.2
  refine triple_bind (fun value machine => value = some record ∧ Property machine.dirs)
    (triple_get fun machine holds => ⟨holds.1 ▸ read, holds.2⟩) fun value => ?_
  refine triple_of_fact (fun _ holds => holds.1) ?_
  rintro rfl
  refine triple_bind (fun value machine => Property machine.dirs ∧
    ∀ other, value = some other → other.pending = none →
      Keeps (fun machine => Property machine.dirs) (pruneOtherSlots mayFail other.stable))
    ?_ fun resolved => ?_
  · refine (resolveTrial_keeps mayFail record written pruned).consequence
      (fun _ holds => holds.2) (fun _ _ holds => holds) fun _ holds => holds
  · refine triple_of_fact (fun _ holds => holds.2) fun safe => ?_
    cases resolved with
    | none => exact triple_pure fun _ holds => holds.1
    | some other =>
        exact (continued other (safe other rfl)).consequence (fun _ holds => holds.1)
          (fun _ _ holds => holds) fun _ holds => holds

/-- Whatever the record, the slot it retains loses nothing in the selection phase
of a boot, and no slot does when its candidate has not been tried, wherever the
phase is cut off or fails. -/
theorem bootSelection_keeps_retained (digests : Digests) (mayFail : Bool) (machine : Machine)
    (record : Record) (read : readSelection machine.selection = some record) (fates : List Fate) :
    (∀ slot, record.retained = some slot →
      verifyArchive digests (machine.dirs slot .current) = true →
        verifyArchive digests ((bootSelection mayFail fates machine).state.dirs slot .current) =
          true) ∧
      (record.pending ≠ none → record.attempted = false →
        (bootSelection mayFail fates machine).state.dirs = machine.dirs) := by
  refine ⟨fun slot retained verified => ?_, fun named fresh => ?_⟩
  · have kept := (bootSelection_triple (fun dirs => dirs slot = machine.dirs slot) mayFail read
      fun _ => retained ▸ pruneOtherSlots_keeps_slot mayFail slot _).state fates ⟨rfl, rfl⟩
    rw [kept]
    exact verified
  · refine (bootSelection_triple (fun dirs => dirs = machine.dirs) mayFail read ?_).state fates
      ⟨rfl, rfl⟩
    rintro (absent | tried)
    · exact absurd absent named
    · rw [fresh] at tried
      cases tried

/-! ### An installation cut off between its renames -/

/-- Digests of the empty file. -/
def emptyDigests : Digests where
  md5 _ := "d41d8cd98f00b204e9800998ecf8427e".toList
  sha256 _ := "e3b0c44298fc1c149afbf4c8996fb92427ae41e4649b934ca495991b7852b855".toList

/-- A staged runtime whose archive verifies. -/
def emptyStage : SlotDir := ⟨some [], some "d41d8cd98f00b204e9800998ecf8427e\n".toList⟩

def blankMachine : Machine := ⟨none, none, fun _ _ => none, none, false, []⟩

/-- Both slots installed, `A` recorded as stable. -/
def steadyMachine : Machine :=
  { blankMachine with
    selection := some "A - 0\n".toList
    dirs := fun _ stage => if stage = .current then some emptyStage else none }

/-- A boot from there, cut off while it removes `B`. -/
theorem bootSelection_keeps_retained_steady :
    (∀ slot, (Record.steady (some .A)).retained = some slot →
      verifyArchive emptyDigests (steadyMachine.dirs slot .current) = true →
        verifyArchive emptyDigests
          ((bootSelection true [.ok, .cut 31] steadyMachine).state.dirs slot .current) = true) ∧
      ((Record.steady (some .A)).pending ≠ none → (Record.steady (some .A)).attempted = false →
        (bootSelection true [.ok, .cut 31] steadyMachine).state.dirs = steadyMachine.dirs) :=
  bootSelection_keeps_retained emptyDigests true steadyMachine (.steady (some .A)) (by decide)
    [.ok, .cut 31]

/-- An installation cut off after its second rename, before its pending record. -/
def cutInstall : Machine :=
  (installRuntime emptyDigests true emptyStage none
    (List.replicate 19 .ok ++ [.cut 0]) blankMachine).state

theorem boot_removes_staged_runtime :
    verifyArchive emptyDigests (cutInstall.dirs .A .current) = true ∧
      ∀ slot, verifyArchive emptyDigests
        ((bootSelection true [] cutInstall).state.dirs slot .current) = false := by
  refine ⟨by decide, fun slot => ?_⟩
  cases slot <;> decide

end JooanW3U.Runtime
