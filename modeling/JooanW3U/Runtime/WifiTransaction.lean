import JooanW3U.Library.Runs
import JooanW3U.Runtime.Selection

/-!
Owns `wifi-transaction.sh` with its commit, rollback and snapshot hooks: the
journal in its three directories, the five calls, and what any order of calls,
reboots, failures and power losses leaves of `config/wifi.json`.

Every command may fail or be cut off. Does not own the apply and health hooks,
which do not write `wifi.json`, nor the unpacking of the slot that holds the hooks.
-/

namespace JooanW3U.Runtime.Wifi

open JooanW3U.Library JooanW3U.Library.Crash

/-! ### The journal -/

/-- The files of a transaction directory. `backup` is the directory of that name,
with the `wifi.json` in it. -/
structure Journal where
  slot : Option (List Char)
  candidate : Option Bytes
  backup : Option (Option Bytes)
  deadline : Option (List Char)
deriving Repr, DecidableEq

def Journal.empty : Journal := ⟨none, none, none, none⟩

/-- What the calls leave in their order; `began` holds the candidate and its deadline,
`healthy` the uptime read after the health hook passed. -/
inductive Mark
  | booted
  | began (candidate : Bytes) (deadline : Nat)
  | healthy (uptime : Nat)
  | committed (candidate : Bytes)
  | rolledBack
deriving Repr, DecidableEq

/-- `config/wifi.json` and its `.new`, the directories `wifi-trial.new` and
`wifi-trial`, whether `wifi-committed` and `wifi-rolled-back` exist, and the marks
so far, newest first. -/
structure Camera where
  wifi : Option Bytes
  wifiNew : Option Bytes
  trialNew : Option Journal
  trial : Option Journal
  committed : Bool
  rolledBack : Bool
  history : List Mark
deriving Repr, DecidableEq

abbrev Shell := Script Camera

/-! ### Text files -/

def slotLine : Slot → List Char
  | .A => ['A', '\n']
  | .B => ['B', '\n']

/-- `IFS= read -r`: fails where the line does not end. -/
def readLine (text : List Char) : Option (List Char) :=
  if '\n' ∈ text then some (text.takeWhile (· ≠ '\n')) else none

/-- A line `jl_slot_valid` accepts. -/
def readSlot (text : List Char) : Option Slot :=
  (readLine text).bind fun line =>
    if line = ['A'] then some .A else if line = ['B'] then some .B else none

def numberLine (number : Nat) : List Char := Nat.toDigits 10 number ++ ['\n']

/-- A line of decimal digits, as the shell compares it. -/
def readNumber (text : List Char) : Option Nat :=
  (readLine text).bind fun line =>
    if line ≠ [] ∧ line.all Char.isDigit = true then some (Nat.ofDigitChars 10 line 0) else none

theorem readLine_line {line : List Char} (one : '\n' ∉ line) :
    readLine (line ++ ['\n']) = some line := by
  have ends : '\n' ∈ line ++ ['\n'] := List.mem_append_right line List.mem_cons_self
  rw [readLine, if_pos ends]
  have kept : ∀ c ∈ line, decide (c ≠ '\n') = true := by
    intro c member
    exact decide_eq_true fun same => one (same ▸ member)
  rw [List.takeWhile_append_of_pos kept]
  simp

theorem readSlot_slotLine (slot : Slot) : readSlot (slotLine slot) = some slot := by
  cases slot <;> decide

theorem readNumber_numberLine (number : Nat) : readNumber (numberLine number) = some number := by
  have digits : ∀ c ∈ Nat.toDigits 10 number, c.isDigit = true := fun c member =>
    Nat.isDigit_of_mem_toDigits (by decide) (by decide) member
  have one : '\n' ∉ Nat.toDigits 10 number := fun member => by
    have digit := digits '\n' member
    cases digit
  unfold readNumber numberLine
  rw [readLine_line one, Option.bind_some, if_pos, Nat.ofDigitChars_ten_toDigits]
  exact ⟨Nat.toDigits_ne_nil, List.all_eq_true.mpr digits⟩

/-! ### Commands -/

/-- A command that changes nothing modelled here: the lock, `chmod`, `sync`, the
hooks that do not write `wifi.json`. -/
def attempt : Shell Bool := .run .check

/-- A file cut off while it is written: not opened yet, or any beginning. -/
def tornFile {Item : Type} (contents : List Item) (count : Nat) (old : Option (List Item)) :
    Option (List Item) :=
  match count with
  | 0 => old
  | count + 1 => some (contents.take count)

/-- A command that writes in `wifi-trial.new`. -/
def stage (write : Camera → Journal → Journal) (torn : Nat → Camera → Journal → Journal) :
    Command Camera where
  effect camera :=
    camera.trialNew.map fun journal => { camera with trialNew := some (write camera journal) }
  torn count camera := { camera with trialNew := camera.trialNew.map (torn count camera) }
  mayFail := true

/-- `mkdir -p wifi-trial.new/backup`. -/
def makeStaging : Command Camera where
  effect camera :=
    let journal := camera.trialNew.getD .empty
    some { camera with
      trialNew := some { journal with backup := some (journal.backup.getD none) } }
  torn
    | 0, camera => camera
    | _ + 1, camera => { camera with trialNew := some (camera.trialNew.getD .empty) }
  mayFail := true

def printSlot (slot : Slot) : Command Camera :=
  stage (fun _ journal => { journal with slot := some (slotLine slot) })
    fun count _ journal => { journal with slot := tornFile (slotLine slot) count journal.slot }

def copyCandidate (candidate : Bytes) : Command Camera :=
  stage (fun _ journal => { journal with candidate := some candidate })
    fun count _ journal => { journal with candidate := tornFile candidate count journal.candidate }

/-- `wifi-snapshot.sh`. -/
def snapshot : Command Camera :=
  stage
    (fun camera journal =>
      { journal with backup := some (camera.wifi.or (journal.backup.getD none)) })
    fun count camera journal =>
      { journal with
        backup := some (match camera.wifi with
          | some network => tornFile network count (journal.backup.getD none)
          | none => journal.backup.getD none) }

def printDeadline (deadline : Nat) : Command Camera :=
  stage (fun _ journal => { journal with deadline := some (numberLine deadline) })
    fun count _ journal =>
      { journal with deadline := tornFile (numberLine deadline) count journal.deadline }

/-- `mv wifi-trial.new wifi-trial`; into it, when that exists. -/
def openTrial (candidate : Bytes) (deadline : Nat) : Command Camera :=
  .atomic true fun camera =>
    camera.trialNew.map fun journal =>
      { camera with
        trialNew := none
        trial := some (camera.trial.getD journal)
        history := .began candidate deadline :: camera.history }

/-- `rm -rf wifi-rolled-back wifi-committed`. -/
def clearEnded : Command Camera where
  effect camera := some { camera with committed := false, rolledBack := false }
  torn choice camera :=
    { camera with
      rolledBack := camera.rolledBack && choice % 2 = 0
      committed := camera.committed && choice / 2 % 2 = 0 }
  mayFail := true

/-- `cp` to `wifi.json.new`. -/
def copyNetwork (network : Bytes) : Command Camera where
  effect camera := some { camera with wifiNew := some network }
  torn count camera := { camera with wifiNew := tornFile network count camera.wifiNew }
  mayFail := true

/-- `mv wifi.json.new wifi.json`. -/
def moveNetwork : Command Camera :=
  .atomic true fun camera =>
    camera.wifiNew.map fun network => { camera with wifi := some network, wifiNew := none }

/-- `rm -f wifi.json`. -/
def removeNetwork : Command Camera :=
  .atomic true fun camera => some { camera with wifi := none }

/-- `mv wifi-trial wifi-rolled-back`. -/
def closeRolledBack : Command Camera :=
  .atomic true fun camera =>
    camera.trial.map fun _ =>
      { camera with trial := none, rolledBack := true, history := .rolledBack :: camera.history }

/-- `mv wifi-trial wifi-committed`. -/
def closeCommitted (candidate : Bytes) : Command Camera :=
  .atomic true fun camera =>
    camera.trial.map fun _ =>
      { camera with
        trial := none
        committed := true
        history := .committed candidate :: camera.history }

/-- `wifi-health.sh`, with the uptime read after it. -/
def healthHook (uptime : Nat) : Command Camera :=
  .atomic true fun camera => some { camera with history := .healthy uptime :: camera.history }

/-! ### Hooks and calls -/

/-- `wifi-rollback.sh`. -/
def rollbackHook : Option (Option Bytes) → Shell Bool
  | none => pure false
  | some (some network) =>
      .steps [.run (copyNetwork network), attempt, .run moveNetwork, attempt]
  | some none => .steps [.run removeNetwork, attempt]

/-- `wifi-commit.sh`. -/
def commitHook : Option Bytes → Shell Bool
  | none => pure false
  | some network =>
      .steps [.run (copyNetwork network), attempt, attempt, .run moveNetwork, attempt]

/-- The slot of the journal is read, and its hooks are unpacked. -/
def hooks (journal : Journal) : Shell Bool :=
  .steps [.get fun _ => (journal.slot.bind readSlot).isSome, attempt]

/-- `jl_wifi_rollback` up to its reboot. -/
def rollbackTrial : Shell Bool := do
  match ← .get Camera.trial with
  | none => pure true
  | some journal =>
      .steps
        [hooks journal, .get fun camera => !camera.rolledBack, rollbackHook journal.backup,
          .run closeRolledBack, .ignore attempt]

/-- No transaction is in progress or recorded. -/
def Camera.idle (camera : Camera) : Bool :=
  camera.trial.isNone && camera.trialNew.isNone && !camera.rolledBack && !camera.committed

/-- The `apply` call, up to the mutation of the network. -/
def beginTransaction (candidate : Bytes) (slot : Slot) (uptime : Nat) : Shell Bool :=
  .steps
    [attempt, attempt, .run makeStaging, .run (printSlot slot), .run (copyCandidate candidate),
      attempt, .run snapshot, .run (printDeadline (uptime + 90)),
      .run (openTrial candidate (uptime + 90)), .ignore attempt]

/-- The `apply` call; `running` is what the volatile file of that name holds. -/
def apply (candidate : Bytes) (running : Option Slot) (uptime : Nat) : Shell Bool := do
  if ← .steps [attempt, .run clearEnded, .get Camera.idle] then
    match running with
    | none => pure false
    | some slot =>
        if ← beginTransaction candidate slot uptime then
          if ← attempt then pure true
          else
            let _ ← rollbackTrial
            pure false
        else pure false
  else pure false

/-- The `commit` call. -/
def commit (uptime : Nat) : Shell Bool := do
  if ← attempt then
    match ← .get fun camera => if camera.committed then none else camera.trial with
    | none => pure false
    | some journal =>
        if ← (hooks journal).andThen (.run (healthHook uptime)) then
          match journal.deadline.bind readNumber with
          | none => pure false
          | some deadline =>
              if uptime < deadline then
                .steps
                  [commitHook journal.candidate,
                    .run (closeCommitted (journal.candidate.getD [])), .ignore attempt]
              else
                let _ ← rollbackTrial
                pure false
        else pure false
  else pure false

/-- The `tick` call. -/
def tick (uptime : Nat) : Shell Bool := do
  if ← attempt then
    match ← .get Camera.trial with
    | none => pure true
    | some journal =>
        match journal.deadline.bind readNumber with
        | none => pure false
        | some deadline => if deadline ≤ uptime then rollbackTrial else pure true
  else pure false

/-- The `rollback` and `recover` calls. -/
def recover : Shell Bool := attempt.andThen rollbackTrial

inductive Operation
  | boot
  | apply (candidate : Bytes) (running : Option Slot) (uptime : Nat) (fates : List Fate)
  | commit (uptime : Nat) (fates : List Fate)
  | tick (uptime : Nat) (fates : List Fate)
  | rollback (fates : List Fate)
  | recover (fates : List Fate)

/-- The state a call stops in, at its end or where it is cut off. -/
def perform (camera : Camera) : Operation → Camera
  | .boot => { camera with history := .booted :: camera.history }
  | .apply candidate running uptime fates => (apply candidate running uptime fates camera).state
  | .commit uptime fates => (commit uptime fates camera).state
  | .tick uptime fates => (tick uptime fates camera).state
  | .rollback fates => (recover fates camera).state
  | .recover fates => (recover fates camera).state

/-! ### Reading the history -/

/-- The network in force outside a transaction: that of the last commit. -/
def settled (initial : Option Bytes) : List Mark → Option Bytes
  | [] => initial
  | .committed candidate :: _ => some candidate
  | _ :: earlier => settled initial earlier

/-- The transaction that is in progress, with its candidate and deadline. -/
def opened : List Mark → Option (Bytes × Nat)
  | [] => none
  | .began candidate deadline :: _ => some (candidate, deadline)
  | .committed _ :: _ => none
  | .rolledBack :: _ => none
  | .booted :: earlier => opened earlier
  | .healthy _ :: earlier => opened earlier

/-- Since the transaction began, the health hook passed before `deadline`. -/
def PassedInTime (deadline : Nat) : List Mark → Prop
  | .healthy uptime :: earlier => uptime < deadline ∨ PassedInTime deadline earlier
  | .booted :: earlier => PassedInTime deadline earlier
  | _ => False

/-- Every commit was of the transaction in progress, after its health hook had
passed in time. -/
def Commits (history : List Mark) : Prop :=
  ∀ later candidate earlier, history = later ++ .committed candidate :: earlier →
    ∃ deadline, opened earlier = some (candidate, deadline) ∧ PassedInTime deadline earlier

theorem commits_nil : Commits [] := by
  intro later candidate earlier shape
  exact absurd shape (List.append_ne_nil_of_right_ne_nil later (List.cons_ne_nil _ _)).symm

theorem commits_cons {mark : Mark} {history : List Mark} (commits : Commits history)
    (passed : ∀ candidate, mark = .committed candidate →
      ∃ deadline, opened history = some (candidate, deadline) ∧ PassedInTime deadline history) :
    Commits (mark :: history) := by
  intro later candidate earlier shape
  cases later with
  | nil =>
      obtain ⟨rfl, rfl⟩ := List.cons.inj shape
      exact passed candidate rfl
  | cons newest later =>
      obtain ⟨rfl, rest⟩ := List.cons.inj shape
      exact commits later candidate earlier rest

/-! ### The invariant -/

/-- No transaction is in progress. -/
structure Idle (initial : Option Bytes) (camera : Camera) : Prop where
  trial : camera.trial = none
  wifi : camera.wifi = settled initial camera.history
  opened : opened camera.history = none
  commits : Commits camera.history
  staging : camera.trialNew ≠ none → camera.committed = false ∧ camera.rolledBack = false

/-- What the journal of a transaction holds. -/
def journalOf (slot : Slot) (candidate : Bytes) (before : Option Bytes) (deadline : Nat) : Journal :=
  ⟨some (slotLine slot), some candidate, some before, some (numberLine deadline)⟩

/-- A transaction, with its journal. -/
structure Transaction where
  slot : Slot
  candidate : Bytes
  before : Option Bytes
  deadline : Nat

def Transaction.journal (transaction : Transaction) : Journal :=
  journalOf transaction.slot transaction.candidate transaction.before transaction.deadline

/-- The transaction is in progress. -/
structure InProgress (initial : Option Bytes) (transaction : Transaction) (camera : Camera) :
    Prop where
  trial : camera.trial = some transaction.journal
  staging : camera.trialNew = none
  unended : camera.committed = false ∧ camera.rolledBack = false
  settled : settled initial camera.history = transaction.before
  opened : opened camera.history = some (transaction.candidate, transaction.deadline)
  commits : Commits camera.history
  wifi : camera.wifi = transaction.before ∨ camera.wifi = some transaction.candidate

/-- What holds of the camera between any two commands. -/
def Sound (initial : Option Bytes) (camera : Camera) : Prop :=
  Idle initial camera ∨ ∃ transaction, InProgress initial transaction camera

section Calls

variable {initial : Option Bytes} {transaction : Transaction}

theorem InProgress.sound {camera : Camera} (inProgress : InProgress initial transaction camera) :
    Sound initial camera := .inr ⟨transaction, inProgress⟩

theorem attempt_keeps {Invariant : Camera → Prop} : Keeps Invariant attempt := keeps_check

theorem attempt_holding {pre crash : Camera → Prop} (cuts : ∀ camera, pre camera → crash camera) :
    Triple pre attempt (fun _ => pre) crash :=
  attempt_keeps.consequence (fun _ holds => holds) (fun _ _ holds => holds) cuts

theorem InProgress.withNetwork {camera : Camera}
    (inProgress : InProgress initial transaction camera) (wifiNew : Option Bytes) :
    InProgress initial transaction { camera with wifiNew := wifiNew } :=
  ⟨inProgress.trial, inProgress.staging, inProgress.unended, inProgress.settled,
    inProgress.opened, inProgress.commits, inProgress.wifi⟩

/-- The transaction, with `wifi.json` replaced by one of its two networks. -/
theorem InProgress.replaced {camera : Camera}
    (inProgress : InProgress initial transaction camera) {wifi : Option Bytes}
    (wifiNew : Option Bytes) (allowed : wifi = transaction.before ∨ wifi = some transaction.candidate) :
    InProgress initial transaction { camera with wifi := wifi, wifiNew := wifiNew } :=
  ⟨inProgress.trial, inProgress.staging, inProgress.unended, inProgress.settled,
    inProgress.opened, inProgress.commits, allowed⟩

/-- The transaction in progress after these marks. -/
def Held (initial : Option Bytes) (transaction : Transaction) (marks : List Mark)
    (camera : Camera) : Prop :=
  InProgress initial transaction camera ∧ camera.history = marks

section Hooks

variable {marks : List Mark} {network : Option Bytes}

/-- What a hook is to leave: it may fail anywhere, and has replaced `wifi.json`
when it does not. -/
abbrev Replaces (initial : Option Bytes) (transaction : Transaction) (marks : List Mark)
    (network : Option Bytes) (script : Shell Bool) : Prop :=
  Triple (Held initial transaction marks) script
    (fun ok camera => Held initial transaction marks camera ∧ (ok = true → camera.wifi = network))
    (InProgress initial transaction)

theorem replaced_attempt :
    Triple (fun camera => Held initial transaction marks camera ∧ camera.wifi = network)
      (.steps [attempt])
      (fun ok camera => Held initial transaction marks camera ∧
        (ok = true → camera.wifi = network)) (InProgress initial transaction) := by
  exact triple_steps_keep (attempt_holding fun _ holds => holds.1.1)
    (fun _ holds => ⟨holds.1, fun failed => absurd failed Bool.false_ne_true⟩)
    (triple_steps_nil fun _ holds => ⟨holds.1, fun _ => holds.2⟩)

/-- The copy waits in `wifi.json.new`. -/
def Copied (initial : Option Bytes) (transaction : Transaction) (marks : List Mark)
    (network : Bytes) (camera : Camera) : Prop :=
  Held initial transaction marks camera ∧ camera.wifiNew = some network

theorem copied_attempt {network : Bytes} {rest : List (Shell Bool)}
    (continues : Triple (Copied initial transaction marks network) (.steps rest)
      (fun ok camera => Held initial transaction marks camera ∧
        (ok = true → camera.wifi = some network)) (InProgress initial transaction)) :
    Triple (Copied initial transaction marks network) (.steps (attempt :: rest))
      (fun ok camera => Held initial transaction marks camera ∧
        (ok = true → camera.wifi = some network)) (InProgress initial transaction) := by
  exact triple_steps_keep (attempt_holding fun _ copied => copied.1.1)
    (fun _ copied => ⟨copied.1, fun failed => absurd failed Bool.false_ne_true⟩) continues

theorem copyNetwork_replaces {network : Bytes} {rest : List (Shell Bool)}
    (continues : Triple (Copied initial transaction marks network) (.steps rest)
      (fun ok camera => Held initial transaction marks camera ∧
        (ok = true → camera.wifi = some network)) (InProgress initial transaction)) :
    Replaces initial transaction marks (some network)
      (.steps (.run (copyNetwork network) :: rest)) := by
  refine triple_steps_cons _ (triple_run ?_ ?_ ?_) continues
  · intro camera after held effect
    cases Option.some.inj effect
    exact ⟨⟨held.1.withNetwork _, held.2⟩, rfl⟩
  · intro camera _ effect
    cases effect
  · intro camera torn held
    have left := held.1.withNetwork (tornFile network torn camera.wifiNew)
    exact ⟨fun _ => ⟨⟨left, held.2⟩, fun failed => absurd failed Bool.false_ne_true⟩, left⟩

theorem moveNetwork_replaces {network : Bytes}
    (allowed : some network = transaction.before ∨ some network = some transaction.candidate) :
    Triple (Copied initial transaction marks network) (.steps [.run moveNetwork, attempt])
      (fun ok camera => Held initial transaction marks camera ∧
        (ok = true → camera.wifi = some network)) (InProgress initial transaction) := by
  have failed : ∀ camera, Copied initial transaction marks network camera →
      Held initial transaction marks camera ∧ (false = true → camera.wifi = some network) :=
    fun camera copied => ⟨copied.1, fun failed => absurd failed Bool.false_ne_true⟩
  refine triple_steps_cons (fun camera => Held initial transaction marks camera ∧
    camera.wifi = some network) (triple_run ?_ (fun camera copied _ => failed camera copied)
      fun camera _ copied => ⟨fun _ => failed camera copied, copied.1.1⟩) replaced_attempt
  intro camera after copied effect
  have waiting : camera.wifiNew = some network := copied.2
  simp only [moveNetwork, Command.atomic, waiting, Option.map_some] at effect
  cases Option.some.inj effect
  exact ⟨⟨copied.1.1.replaced none allowed, copied.1.2⟩, rfl⟩

theorem rollbackHook_replaces :
    Replaces initial transaction marks transaction.before
      (rollbackHook (some transaction.before)) := by
  cases saved : transaction.before with
  | some network =>
      exact copyNetwork_replaces (copied_attempt (moveNetwork_replaces (.inl saved.symm)))
  | none =>
      refine triple_steps_cons (fun camera => Held initial transaction marks camera ∧
        camera.wifi = none) (triple_run ?_ ?_ ?_) replaced_attempt
      · intro camera after held effect
        cases Option.some.inj effect
        exact ⟨⟨held.1.replaced camera.wifiNew (.inl saved.symm), held.2⟩, rfl⟩
      · intro camera _ effect
        cases effect
      · intro camera _ held
        exact ⟨fun _ => ⟨held, fun failed => absurd failed Bool.false_ne_true⟩, held.1⟩

theorem commitHook_replaces :
    Replaces initial transaction marks (some transaction.candidate)
      (commitHook (some transaction.candidate)) :=
  copyNetwork_replaces (copied_attempt (copied_attempt (moveNetwork_replaces (.inr rfl))))

end Hooks

/-! ### Ending a transaction -/

theorem InProgress.rolledBack {camera : Camera}
    (inProgress : InProgress initial transaction camera)
    (restored : camera.wifi = transaction.before) :
    Idle initial
      { camera with trial := none, rolledBack := true, history := .rolledBack :: camera.history } where
  trial := rfl
  wifi := restored.trans inProgress.settled.symm
  opened := rfl
  commits := commits_cons inProgress.commits fun _ same => by cases same
  staging present := absurd inProgress.staging present

theorem InProgress.committed {camera : Camera}
    (inProgress : InProgress initial transaction camera)
    (replaced : camera.wifi = some transaction.candidate)
    (passed : PassedInTime transaction.deadline camera.history) :
    Idle initial
      { camera with
        trial := none
        committed := true
        history := .committed transaction.candidate :: camera.history } where
  trial := rfl
  wifi := replaced
  opened := rfl
  commits := by
    refine commits_cons inProgress.commits fun candidate same => ?_
    cases same
    exact ⟨transaction.deadline, inProgress.opened, passed⟩
  staging present := absurd inProgress.staging present

theorem hooks_holding {pre crash : Camera → Prop} (journal : Journal)
    (cuts : ∀ camera, pre camera → crash camera) :
    Triple pre (hooks journal) (fun _ => pre) crash := by
  exact triple_steps_keep (triple_get fun _ holds => holds) (fun _ holds => holds)
    (triple_steps_keep (attempt_holding cuts) (fun _ holds => holds)
      (triple_steps_nil fun _ holds => holds))

/-- A rollback ends the transaction with the earlier network, or leaves it in progress. -/
theorem rollbackTrial_holding (marks : List Mark) :
    Triple (Held initial transaction marks) rollbackTrial (fun _ => Sound initial)
      (Sound initial) := by
  have crashes : ∀ camera, Held initial transaction marks camera → Sound initial camera :=
    fun camera held => held.1.sound
  unfold rollbackTrial
  refine triple_bind (fun value camera => value = some transaction.journal ∧
    Held initial transaction marks camera)
    (triple_get fun camera held => ⟨held.1.trial, held⟩) fun value => ?_
  refine triple_of_fact (fun _ holds => holds.1) ?_
  rintro rfl
  refine Triple.consequence ?_ (fun _ holds => holds.2) (fun _ _ holds => holds) fun _ holds => holds
  refine triple_steps_keep (hooks_holding transaction.journal crashes) crashes ?_
  refine triple_steps_keep (triple_get fun _ held => held) crashes ?_
  refine triple_steps_cons (fun camera => Held initial transaction marks camera ∧
    camera.wifi = transaction.before) (rollbackHook_replaces.consequence (fun _ held => held) ?_
      fun _ inProgress => inProgress.sound) ?_
  · intro ok camera replaced
    cases ok with
    | true => exact ⟨replaced.1, replaced.2 rfl⟩
    | false => exact crashes camera replaced.1
  refine triple_steps_cons (Idle initial) (triple_run ?_ ?_ ?_) ?_
  · rintro camera after ⟨held, restored⟩ effect
    simp only [closeRolledBack, Command.atomic, held.1.trial, Option.map_some] at effect
    cases Option.some.inj effect
    exact held.1.rolledBack restored
  · exact fun camera holds _ => crashes camera holds.1
  · exact fun camera _ holds => ⟨fun _ => crashes camera holds.1, crashes camera holds.1⟩
  · refine triple_steps_keep (triple_bind _ (attempt_holding fun _ idle => .inl idle) fun _ =>
      triple_pure fun _ idle => idle) (fun _ idle => .inl idle) ?_
    exact triple_steps_nil fun _ idle => .inl idle

/-- Scripts that look at the trial first, for each case of the invariant. -/
theorem keeps_sound_of_trial {Value : Type} {script : Script Camera Value}
    (idle : Keeps (Idle initial) script)
    (inProgress : ∀ transaction marks, Triple (Held initial transaction marks) script
      (fun _ => Sound initial) (Sound initial)) : Keeps (Sound initial) script := by
  intro fates camera sound
  rcases sound with closed | ⟨transaction, running⟩
  · exact idle.consequence (fun _ holds => holds) (fun _ _ kept => .inl kept)
      (fun _ kept => .inl kept) fates camera closed
  · exact inProgress transaction camera.history fates camera ⟨running, rfl⟩

theorem rollbackTrial_keeps_sound : Keeps (Sound initial) rollbackTrial := by
  refine keeps_sound_of_trial ?_ fun _ marks => rollbackTrial_holding marks
  refine triple_bind (fun value camera => value = none ∧ Idle initial camera)
    (triple_get fun camera idle => ⟨idle.trial, idle⟩) fun value => ?_
  refine triple_of_fact (fun _ holds => holds.1) ?_
  rintro rfl
  exact triple_pure fun _ holds => holds.2

/-! ### Each call keeps the invariant -/

theorem journal_deadline (transaction : Transaction) :
    transaction.journal.deadline.bind readNumber = some transaction.deadline :=
  readNumber_numberLine transaction.deadline

theorem recover_keeps_sound : Keeps (Sound initial) recover :=
  keeps_andThen attempt_keeps rollbackTrial_keeps_sound

theorem tick_keeps_sound (uptime : Nat) : Keeps (Sound initial) (tick uptime) := by
  unfold tick
  refine keeps_bind attempt_keeps fun locked => keeps_ite (fun _ => ?_) fun _ => keeps_pure false
  refine keeps_sound_of_trial ?_ fun transaction marks => ?_
  · refine triple_bind (fun value camera => value = none ∧ Idle initial camera)
      (triple_get fun camera idle => ⟨idle.trial, idle⟩) fun value => ?_
    refine triple_of_fact (fun _ holds => holds.1) ?_
    rintro rfl
    exact triple_pure fun _ holds => holds.2
  · refine triple_bind (fun value camera => value = some transaction.journal ∧
      Held initial transaction marks camera)
      (triple_get fun camera held => ⟨held.1.trial, held⟩) fun value => ?_
    refine triple_of_fact (fun _ holds => holds.1) ?_
    rintro rfl
    refine Triple.consequence ?_ (fun _ holds => holds.2) (fun _ _ holds => holds)
      fun _ holds => holds
    dsimp only
    rw [journal_deadline]
    exact triple_ite (fun _ => rollbackTrial_holding marks) fun _ =>
      triple_pure fun _ held => held.1.sound

/-- The last steps of a commit, after its health hook passed in time. -/
theorem commitSteps_holding {marks : List Mark} (passed : PassedInTime transaction.deadline marks) :
    Triple (Held initial transaction marks)
      (.steps
        [commitHook (some transaction.candidate), .run (closeCommitted transaction.candidate),
          .ignore attempt])
      (fun _ => Sound initial) (Sound initial) := by
  refine triple_steps_cons (fun camera => Held initial transaction marks camera ∧
    camera.wifi = some transaction.candidate) (commitHook_replaces.consequence (fun _ held => held)
      ?_ fun _ inProgress => inProgress.sound) ?_
  · intro ok camera replaced
    cases ok with
    | true => exact ⟨replaced.1, replaced.2 rfl⟩
    | false => exact replaced.1.1.sound
  refine triple_steps_cons (Idle initial) (triple_run ?_ ?_ ?_) ?_
  · rintro camera after ⟨held, replaced⟩ effect
    simp only [closeCommitted, Command.atomic, held.1.trial, Option.map_some] at effect
    cases Option.some.inj effect
    refine held.1.committed replaced ?_
    rw [held.2]
    exact passed
  · exact fun camera holds _ => holds.1.1.sound
  · exact fun camera _ holds => ⟨fun _ => holds.1.1.sound, holds.1.1.sound⟩
  · refine triple_steps_keep (triple_bind _ (attempt_holding fun _ idle => .inl idle) fun _ =>
      triple_pure fun _ idle => idle) (fun _ idle => .inl idle) ?_
    exact triple_steps_nil fun _ idle => .inl idle

theorem InProgress.healthy {camera : Camera} (inProgress : InProgress initial transaction camera)
    (uptime : Nat) :
    InProgress initial transaction
      { camera with history := .healthy uptime :: camera.history } :=
  ⟨inProgress.trial, inProgress.staging, inProgress.unended, inProgress.settled,
    inProgress.opened, commits_cons inProgress.commits fun _ same => Mark.noConfusion same,
    inProgress.wifi⟩

theorem commit_keeps_sound (uptime : Nat) : Keeps (Sound initial) (commit uptime) := by
  unfold commit
  refine keeps_bind attempt_keeps fun locked => keeps_ite (fun _ => ?_) fun _ => keeps_pure false
  refine keeps_sound_of_trial ?_ fun transaction marks => ?_
  · refine triple_bind (fun value camera => value = none ∧ Idle initial camera)
      (triple_get fun camera idle => ⟨by rw [idle.trial, ite_self], idle⟩) fun value => ?_
    refine triple_of_fact (fun _ holds => holds.1) ?_
    rintro rfl
    exact triple_pure fun _ holds => holds.2
  · refine triple_bind (fun value camera => value = some transaction.journal ∧
      Held initial transaction marks camera) (triple_get fun camera held => ⟨?_, held⟩)
      fun value => ?_
    · rw [held.1.unended.1, if_neg Bool.false_ne_true, held.1.trial]
    refine triple_of_fact (fun _ holds => holds.1) ?_
    rintro rfl
    refine Triple.consequence ?_ (fun _ holds => holds.2) (fun _ _ holds => holds)
      fun _ holds => holds
    have crashes : ∀ camera, Held initial transaction marks camera → Sound initial camera :=
      fun camera held => held.1.sound
    -- The hook leaves its mark when it passes, and nothing when it does not.
    have hook : Triple (Held initial transaction marks) (.run (healthHook uptime))
        (fun ok camera => if ok then Held initial transaction (.healthy uptime :: marks) camera
          else Sound initial camera) (Sound initial) := by
      refine triple_run ?_ ?_ fun camera _ held => ⟨fun _ => crashes camera held, crashes camera held⟩
      · intro camera after held effect
        cases Option.some.inj effect
        exact ⟨held.1.healthy uptime, congrArg _ held.2⟩
      · intro camera _ effect
        cases effect
    refine triple_bind (fun ok camera => if ok then
        Held initial transaction (.healthy uptime :: marks) camera else Sound initial camera)
      (triple_andThen ((hooks_holding transaction.journal crashes).consequence
        (fun _ held => held) ?_ fun _ sound => sound) hook) fun healthy => ?_
    · intro ok camera held
      cases ok with
      | true => exact held
      | false => exact crashes camera held
    cases healthy with
    | false => exact triple_pure fun _ sound => sound
    | true =>
        rw [if_pos rfl, journal_deadline]
        refine triple_ite (fun intime => commitSteps_holding (.inl intime)) fun _ => ?_
        exact triple_bind _ (rollbackTrial_holding _) fun _ => triple_pure fun _ sound => sound

/-- The staging directory holds `journal`; nothing is in progress or recorded. -/
structure Staged (initial : Option Bytes) (marks : List Mark) (journal : Option Journal)
    (camera : Camera) : Prop where
  idle : Idle initial camera
  staging : camera.trialNew = journal
  unended : camera.committed = false ∧ camera.rolledBack = false
  history : camera.history = marks

section Staging

variable {marks : List Mark} {journal : Option Journal}

theorem Idle.restaged {camera : Camera} (idle : Idle initial camera)
    (unended : camera.committed = false ∧ camera.rolledBack = false) (journal : Option Journal) :
    Idle initial { camera with trialNew := journal } :=
  ⟨idle.trial, idle.wifi, idle.opened, idle.commits, fun _ => unended⟩

theorem Staged.restaged {camera : Camera} (staged : Staged initial marks journal camera)
    (next : Option Journal) : Staged initial marks next { camera with trialNew := next } :=
  ⟨staged.idle.restaged staged.unended next, rfl, staged.unended, staged.history⟩

theorem Staged.sound {camera : Camera} (staged : Staged initial marks journal camera) :
    Sound initial camera := .inl staged.idle

/-- One file of the staging directory. -/
theorem stage_holding {files : Journal} {write : Camera → Journal → Journal}
    {torn : Nat → Camera → Journal → Journal} {rest : List (Shell Bool)} (next : Journal)
    (writes : ∀ camera, Staged initial marks (some files) camera → write camera files = next)
    (continues : Triple (Staged initial marks (some next)) (.steps rest) (fun _ => Sound initial)
      (Sound initial)) :
    Triple (Staged initial marks (some files)) (.steps (.run (stage write torn) :: rest))
      (fun _ => Sound initial) (Sound initial) := by
  refine triple_steps_cons _ (triple_run ?_ (fun _ staged _ => staged.sound) ?_) continues
  · intro camera after staged effect
    simp only [stage, staged.staging, Option.map_some, writes camera staged] at effect
    cases Option.some.inj effect
    exact staged.restaged (some next)
  · intro camera count staged
    have left : Sound initial ((stage write torn).torn count camera) := (staged.restaged _).sound
    exact ⟨fun _ => left, left⟩

theorem staged_attempt {rest : List (Shell Bool)}
    (continues : Triple (Staged initial marks journal) (.steps rest) (fun _ => Sound initial)
      (Sound initial)) :
    Triple (Staged initial marks journal) (.steps (attempt :: rest)) (fun _ => Sound initial)
      (Sound initial) :=
  triple_steps_keep (attempt_holding fun _ staged => staged.sound) (fun _ staged => staged.sound)
    continues

theorem openTrial_held {slot : Slot} {candidate : Bytes} {deadline : Nat} {camera : Camera}
    (staged : Staged initial marks
      (some (journalOf slot candidate (settled initial marks) deadline)) camera) :
    InProgress initial ⟨slot, candidate, settled initial marks, deadline⟩
      { camera with
        trialNew := none
        trial := some (journalOf slot candidate (settled initial marks) deadline)
        history := .began candidate deadline :: camera.history } where
  trial := rfl
  staging := rfl
  unended := staged.unended
  settled := by
    show Wifi.settled initial camera.history = Wifi.settled initial marks
    rw [staged.history]
  opened := rfl
  commits := commits_cons staged.idle.commits fun _ same => Mark.noConfusion same
  wifi := by
    left
    have wifi := staged.idle.wifi
    rw [staged.history] at wifi
    exact wifi

theorem beginTransaction_holding (candidate : Bytes) (slot : Slot) (uptime : Nat) :
    Triple (Staged initial marks none) (beginTransaction candidate slot uptime)
      (fun _ => Sound initial) (Sound initial) := by
  unfold beginTransaction
  refine staged_attempt (staged_attempt ?_)
  refine triple_steps_cons (Staged initial marks (some ⟨none, none, some none, none⟩))
    (triple_run ?_ (fun _ staged _ => staged.sound) ?_) ?_
  · intro camera after staged effect
    simp only [makeStaging, staged.staging, Option.getD_none, Journal.empty] at effect
    cases Option.some.inj effect
    exact staged.restaged _
  · intro camera count staged
    have left : Sound initial (makeStaging.torn count camera) := by
      cases count with
      | zero => exact staged.sound
      | succ count => exact (staged.restaged _).sound
    exact ⟨fun _ => left, left⟩
  refine stage_holding ⟨some (slotLine slot), none, some none, none⟩ (fun _ _ => rfl) ?_
  refine stage_holding ⟨some (slotLine slot), some candidate, some none, none⟩ (fun _ _ => rfl) ?_
  refine staged_attempt ?_
  refine stage_holding ⟨some (slotLine slot), some candidate, some (settled initial marks), none⟩
    ?_ ?_
  · intro camera staged
    have wifi := staged.idle.wifi
    rw [staged.history] at wifi
    rw [wifi, Option.getD_some, Option.or_none]
  refine stage_holding (journalOf slot candidate (settled initial marks) (uptime + 90))
    (fun _ _ => rfl) ?_
  refine triple_steps_cons (Sound initial) (triple_run ?_ (fun _ staged _ => staged.sound)
    fun _ _ staged => ⟨fun _ => staged.sound, staged.sound⟩) ?_
  · intro camera after staged effect
    simp only [openTrial, Command.atomic, staged.staging, Option.map_some, staged.idle.trial,
      Option.getD_none] at effect
    cases Option.some.inj effect
    exact (openTrial_held staged).sound
  · exact keeps_steps fun step member => by
      rw [List.mem_singleton.mp member]
      exact keeps_ignore attempt_keeps

end Staging

theorem clearEnded_keeps_sound : Keeps (Sound initial) (.run clearEnded) := by
  have kept : ∀ camera committed rolledBack, Sound initial camera →
      (camera.committed = false → committed = false) →
      (camera.rolledBack = false → rolledBack = false) →
      Sound initial { camera with committed := committed, rolledBack := rolledBack } := by
    rintro camera committed rolledBack (idle | ⟨transaction, inProgress⟩) first second
    · refine .inl ⟨idle.trial, idle.wifi, idle.opened, idle.commits, fun present => ?_⟩
      exact ⟨first (idle.staging present).1, second (idle.staging present).2⟩
    · exact .inr ⟨transaction, inProgress.trial, inProgress.staging,
        ⟨first inProgress.unended.1, second inProgress.unended.2⟩, inProgress.settled,
        inProgress.opened, inProgress.commits, inProgress.wifi⟩
  refine keeps_run ?_ ?_
  · intro camera after sound effect
    cases Option.some.inj effect
    exact kept camera false false sound (fun _ => rfl) fun _ => rfl
  · intro camera choice sound
    refine kept camera _ _ sound ?_ ?_
    · intro unended
      rw [unended, Bool.false_and]
    · intro unended
      rw [unended, Bool.false_and]

theorem idle_staged {camera : Camera} (sound : Sound initial camera) (idle : camera.idle = true) :
    Staged initial camera.history none camera := by
  simp only [Camera.idle, Bool.and_eq_true, Option.isNone_iff_eq_none, Bool.not_eq_true'] at idle
  obtain ⟨⟨⟨trial, staging⟩, rolledBack⟩, committed⟩ := idle
  rcases sound with closed | ⟨transaction, inProgress⟩
  · exact ⟨closed, staging, ⟨committed, rolledBack⟩, rfl⟩
  · rw [inProgress.trial] at trial
    cases trial

theorem apply_keeps_sound (candidate : Bytes) (running : Option Slot) (uptime : Nat) :
    Keeps (Sound initial) (apply candidate running uptime) := by
  unfold apply
  have stops : ∀ camera, Sound initial camera →
      Sound initial camera ∧ (false = true → camera.idle = true) :=
    fun camera sound => ⟨sound, fun failed => absurd failed Bool.false_ne_true⟩
  refine triple_bind (fun ok camera => Sound initial camera ∧ (ok = true → camera.idle = true)) ?_
    fun ready => ?_
  · refine triple_steps_keep attempt_keeps stops (triple_steps_keep clearEnded_keeps_sound stops ?_)
    refine triple_steps_cons (fun camera => Sound initial camera ∧ camera.idle = true)
      (triple_get fun camera sound => ?_)
      (triple_steps_nil fun _ holds => ⟨holds.1, fun _ => holds.2⟩)
    by_cases known : camera.idle = true
    · rw [if_pos known]
      exact ⟨sound, known⟩
    · rw [if_neg known]
      exact stops camera sound
  · refine triple_ite (fun succeeded => ?_) fun _ => triple_pure fun _ holds => holds.1
    cases running with
    | none => exact triple_pure fun _ holds => holds.1
    | some slot =>
        refine triple_of_base fun base started => ?_
        have staged : ∀ camera, camera = base → Staged initial base.history none camera := by
          rintro _ rfl
          exact idle_staged started.1 (started.2 succeeded)
        refine triple_bind _ ((beginTransaction_holding candidate slot uptime).consequence staged
          (fun _ _ sound => sound) fun _ sound => sound) fun began => ?_
        refine keeps_ite (fun _ => ?_) fun _ => keeps_pure false
        refine keeps_bind attempt_keeps fun applied => keeps_ite (fun _ => keeps_pure true) fun _ => ?_
        exact keeps_bind rollbackTrial_keeps_sound fun _ => keeps_pure false

/-! ### Runs of calls -/

theorem Sound.booted {camera : Camera} (sound : Sound initial camera) :
    Sound initial { camera with history := .booted :: camera.history } := by
  rcases sound with idle | ⟨transaction, inProgress⟩
  · exact .inl ⟨idle.trial, idle.wifi, idle.opened,
      commits_cons idle.commits fun _ same => Mark.noConfusion same, idle.staging⟩
  · exact .inr ⟨transaction, inProgress.trial, inProgress.staging, inProgress.unended,
      inProgress.settled, inProgress.opened,
      commits_cons inProgress.commits fun _ same => Mark.noConfusion same, inProgress.wifi⟩

theorem perform_keeps_sound (camera : Camera) (operation : Operation)
    (sound : Sound initial camera) : Sound initial (perform camera operation) := by
  cases operation with
  | boot => exact sound.booted
  | apply candidate running uptime fates =>
      exact (apply_keeps_sound candidate running uptime).state fates sound
  | commit uptime fates => exact (commit_keeps_sound uptime).state fates sound
  | tick uptime fates => exact (tick_keeps_sound uptime).state fates sound
  | rollback fates => exact recover_keeps_sound.state fates sound
  | recover fates => exact recover_keeps_sound.state fates sound

end Calls

/-- A camera without a transaction, before any of the marks. -/
def Camera.settledOn (wifi wifiNew : Option Bytes) (committed rolledBack : Bool) : Camera :=
  ⟨wifi, wifiNew, none, none, committed, rolledBack, []⟩

theorem settledOn_sound (wifi wifiNew : Option Bytes) (committed rolledBack : Bool) :
    Sound wifi (Camera.settledOn wifi wifiNew committed rolledBack) :=
  .inl ⟨rfl, rfl, rfl, commits_nil, fun present => absurd rfl present⟩

/-- Outside a transaction, an uninterrupted `apply` with no staging left behind
begins one. -/
theorem apply_begins {camera : Camera} (trial : camera.trial = none)
    (staging : camera.trialNew = none) (candidate : Bytes) (slot : Slot) (uptime : Nat) :
    ∃ after journal, Completes (apply candidate (some slot) uptime) camera true after ∧
      after.trial = some journal ∧ journal.candidate = some candidate := by
  let cleared : Camera := { camera with committed := false, rolledBack := false }
  let staged : Journal → Camera := fun files => { cleared with trialNew := some files }
  let journal := journalOf slot candidate (camera.wifi.or none) (uptime + 90)
  let began : Camera :=
    { cleared with
      trialNew := none
      trial := some journal
      history := .began candidate (uptime + 90) :: camera.history }
  have waited : ∀ before, Completes attempt before true before := completes_check
  have written : ∀ (write : Camera → Journal → Journal) torn files,
      Completes (.run (stage write torn)) (staged files) true
        (staged (write (staged files) files)) :=
    fun write torn files => completes_run rfl
  have ready : Completes (.steps [attempt, .run clearEnded, .get Camera.idle]) camera true
      cleared := by
    have idle : cleared.idle = true := by
      simp only [Camera.idle, cleared, trial, staging, Option.isNone_none, Bool.not_false,
        Bool.and_self]
    have looked := completes_get Camera.idle cleared
    rw [idle] at looked
    exact completes_steps_cons (waited camera) (completes_steps_cons (completes_run rfl)
      (completes_steps_cons looked (completes_steps_nil cleared)))
  have made : Completes (.run makeStaging) cleared true
      (staged { Journal.empty with backup := some none }) := by
    refine completes_run ?_
    simp only [makeStaging, staged, cleared, staging, Option.getD_none, Journal.empty]
  have opens : Completes (.run (openTrial candidate (uptime + 90))) (staged journal) true began := by
    refine completes_run ?_
    simp only [openTrial, Command.atomic, staged, cleared, began, trial, Option.map_some,
      Option.getD_none]
  have begins : Completes (beginTransaction candidate slot uptime) cleared true began := by
    refine completes_steps_cons (waited _) (completes_steps_cons (waited _) ?_)
    refine completes_steps_cons made (completes_steps_cons (written _ _ _)
      (completes_steps_cons (written _ _ _) ?_))
    refine completes_steps_cons (waited _) (completes_steps_cons (written _ _ _)
      (completes_steps_cons (written _ _ _) ?_))
    exact completes_steps_cons opens (completes_steps_cons (completes_ignore (waited _))
      (completes_steps_nil _))
  refine ⟨began, journal, ?_, rfl, rfl⟩
  exact completes_bind ready (completes_bind begins (completes_bind (waited _)
    (completes_pure _ true)))

/-- A staging was left behind; `wifi.json` is this one. -/
structure Stuck (journal : Journal) (wifi : Option Bytes) (camera : Camera) : Prop where
  trial : camera.trial = none
  staging : camera.trialNew = some journal
  wifi : camera.wifi = wifi

section Stuck

variable {journal : Journal} {wifi : Option Bytes}

/-- A call that looks at the trial first finds none. -/
theorem keeps_stuck_of_none {Found : Type} {look : Camera → Option Found}
    {next : Option Found → Shell Bool} (found : ∀ camera, Stuck journal wifi camera →
      look camera = none) (continues : Keeps (Stuck journal wifi) (next none)) :
    Keeps (Stuck journal wifi) (.get look >>= next) := by
  refine triple_bind (fun value camera => value = none ∧ Stuck journal wifi camera)
    (triple_get fun camera stuck => ⟨found camera stuck, stuck⟩) fun value => ?_
  refine triple_of_fact (fun _ holds => holds.1) ?_
  rintro rfl
  exact continues.consequence (fun _ holds => holds.2) (fun _ _ stuck => stuck) fun _ stuck => stuck

theorem rollbackTrial_keeps_stuck : Keeps (Stuck journal wifi) rollbackTrial :=
  keeps_stuck_of_none (fun _ stuck => stuck.trial) (keeps_pure true)

theorem apply_keeps_stuck (candidate : Bytes) (running : Option Slot) (uptime : Nat) :
    Triple (Stuck journal wifi) (apply candidate running uptime)
      (fun ok camera => ok = false ∧ Stuck journal wifi camera) (Stuck journal wifi) := by
  unfold apply
  have cleared : Keeps (Stuck journal wifi) (.run clearEnded) := by
    refine keeps_run ?_ ?_
    · intro camera after stuck effect
      cases Option.some.inj effect
      exact ⟨stuck.trial, stuck.staging, stuck.wifi⟩
    · intro camera choice stuck
      exact ⟨stuck.trial, stuck.staging, stuck.wifi⟩
  have refused : Triple (Stuck journal wifi) (.get Camera.idle)
      (fun ok camera => ok = false ∧ Stuck journal wifi camera) (Stuck journal wifi) := by
    refine triple_get fun camera stuck => ⟨?_, stuck⟩
    simp only [Camera.idle, stuck.staging, Option.isNone_some, Bool.and_false, Bool.false_and]
  refine triple_bind (fun ok camera => ok = false ∧ Stuck journal wifi camera) ?_ fun ready => ?_
  · refine triple_steps_keep attempt_keeps (fun _ stuck => ⟨rfl, stuck⟩)
      (triple_steps_keep cleared (fun _ stuck => ⟨rfl, stuck⟩) ?_)
    refine triple_steps_cons (fun _ => False) (refused.consequence (fun _ stuck => stuck) ?_
      fun _ stuck => stuck) (triple_steps_nil fun _ impossible => impossible.elim)
    rintro ok camera ⟨rfl, stuck⟩
    exact ⟨rfl, stuck⟩
  · refine triple_of_fact (fun _ holds => holds.1) ?_
    rintro rfl
    exact triple_pure fun _ holds => ⟨rfl, holds.2⟩

theorem tick_keeps_stuck (uptime : Nat) : Keeps (Stuck journal wifi) (tick uptime) :=
  keeps_bind attempt_keeps fun _ => keeps_ite
    (fun _ => keeps_stuck_of_none (fun _ stuck => stuck.trial) (keeps_pure true))
    fun _ => keeps_pure false

theorem commit_keeps_stuck (uptime : Nat) : Keeps (Stuck journal wifi) (commit uptime) :=
  keeps_bind attempt_keeps fun _ => keeps_ite
    (fun _ => keeps_stuck_of_none (fun _ stuck => by rw [stuck.trial, ite_self]) (keeps_pure false))
    fun _ => keeps_pure false

theorem perform_keeps_stuck (camera : Camera) (operation : Operation)
    (stuck : Stuck journal wifi camera) : Stuck journal wifi (perform camera operation) := by
  have recovered : Keeps (Stuck journal wifi) recover :=
    keeps_andThen attempt_keeps rollbackTrial_keeps_stuck
  cases operation with
  | boot => exact ⟨stuck.trial, stuck.staging, stuck.wifi⟩
  | apply candidate running uptime fates =>
      have kept : Keeps (Stuck journal wifi) (apply candidate running uptime) :=
        (apply_keeps_stuck candidate running uptime).consequence (fun _ holds => holds)
          (fun _ _ holds => holds.2) fun _ holds => holds
      exact kept.state fates stuck
  | commit uptime fates => exact (commit_keeps_stuck uptime).state fates stuck
  | tick uptime fates => exact (tick_keeps_stuck uptime).state fates stuck
  | rollback fates => exact recovered.state fates stuck
  | recover fates => exact recovered.state fates stuck

end Stuck

/-- After any calls and reboots, each call stopped anywhere: `wifi.json` is the
network of the last commit, or the candidate of the transaction in progress; a
commit was of the transaction in progress after its health hook passed before its
deadline; an ended transaction leaves room for the next; a staging that did not
finish does not, and `wifi.json` stays. -/
theorem transaction_sound (wifi wifiNew : Option Bytes) (committed rolledBack : Bool)
    (operations : List Operation) :
    let camera := operations.foldl perform (Camera.settledOn wifi wifiNew committed rolledBack)
    (camera.trial = none → camera.wifi = settled wifi camera.history) ∧
      (∀ journal, camera.trial = some journal → ∃ candidate, journal.candidate = some candidate ∧
        (camera.wifi = settled wifi camera.history ∨ camera.wifi = some candidate)) ∧
      Commits camera.history ∧
      (camera.trial = none → camera.committed = true ∨ camera.rolledBack = true →
        ∀ candidate slot uptime, ∃ after journal,
          Completes (apply candidate (some slot) uptime) camera true after ∧
            after.trial = some journal ∧ journal.candidate = some candidate) ∧
      (camera.trialNew ≠ none → ∀ operation,
        (perform camera operation).trialNew = camera.trialNew ∧
          (perform camera operation).trial = none ∧
          (perform camera operation).wifi = camera.wifi) := by
  intro camera
  have sound : Sound wifi camera :=
    foldl_preserves (fun state operation => perform_keeps_sound state operation) operations
      (settledOn_sound wifi wifiNew committed rolledBack)
  rcases sound with idle | ⟨transaction, inProgress⟩
  · refine ⟨fun _ => idle.wifi, ?_, idle.commits, ?_, ?_⟩
    · intro journal trial
      rw [idle.trial] at trial
      cases trial
    · intro trial ended candidate slot uptime
      have staging : camera.trialNew = none := by
        by_contra present
        obtain ⟨uncommitted, kept⟩ := idle.staging present
        rcases ended with committed | rolledBack
        · exact absurd (uncommitted.symm.trans committed) Bool.false_ne_true
        · exact absurd (kept.symm.trans rolledBack) Bool.false_ne_true
      exact apply_begins trial staging candidate slot uptime
    · intro present operation
      obtain ⟨journal, staging⟩ := Option.ne_none_iff_exists'.mp present
      have stuck := perform_keeps_stuck camera operation ⟨idle.trial, staging, rfl⟩
      exact ⟨stuck.staging.trans staging.symm, stuck.trial, stuck.wifi⟩
  · refine ⟨?_, ?_, inProgress.commits, ?_, ?_⟩
    · intro trial
      rw [inProgress.trial] at trial
      cases trial
    · intro journal trial
      rw [inProgress.trial] at trial
      cases trial
      refine ⟨transaction.candidate, rfl, ?_⟩
      rw [inProgress.settled]
      exact inProgress.wifi
    · intro trial
      rw [inProgress.trial] at trial
      cases trial
    · exact fun present => absurd inProgress.staging present

/-- A camera on network `[1]` that is offered network `[2]`. -/
def offered (operations : List Operation) : Camera :=
  operations.foldl perform (.settledOn (some [1]) none false false)

/-- A staging cut off at its candidate makes a later `apply` fail, and a commit after a
reboot, before `recover` runs, ends with the candidate. -/
theorem staging_refused_and_commit_after_reboot :
    (∃ after, Completes (apply [2] (some .A) 40)
        (offered [.apply [2] (some .A) 20 (List.replicate 7 .ok ++ [.cut 1]), .boot]) false after) ∧
      (offered [.apply [2] (some .A) 5000 [], .boot, .commit 30 []]).wifi = some [2] ∧
      (offered [.apply [2] (some .A) 5000 [], .boot, .commit 30 []]).history =
        [.committed [2], .healthy 30, .booted, .began [2] 5090] := by
  refine ⟨⟨_, rfl⟩, ?_, ?_⟩ <;> decide

end JooanW3U.Runtime.Wifi
