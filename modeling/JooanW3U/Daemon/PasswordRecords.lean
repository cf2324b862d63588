import Mathlib.Logic.Function.Basic
import JooanW3U.Library.Runs

/-!
Owns the three files a password change writes: the reads of the old copies, the
three atomic writes in their order, and the rollback after a failed one, for any
number of calls interleaved file operation by file operation.  All three files
come from one call whenever no call reads its old copies while another is still
between its reads and its last write.

Does not own what the records hold or how they are built from a password.
-/

namespace JooanW3U.Daemon.PasswordRecords

open JooanW3U.Library

/-- `auth.db`, `ssh/passwd` and `rtsp.password`. -/
inductive File
  | auth
  | ssh
  | rtsp
  deriving Repr, DecidableEq

abbrev Disk (Content : Type) := File → Option Content

/-- What one `build_records` call makes: one content for each file. -/
abbrev Records (Content : Type) := File → Content

/-- The files of a call's records, all in place. -/
def Records.onDisk {Content : Type} (records : Records Content) : Disk Content :=
  fun file => some (records file)

/-- A `save_record` that has read its old copies. -/
structure Job (Content : Type) where
  new : Records Content
  old : Disk Content

/-- Where a call of `joan_auth_change_password` stands.  `opened` says that the
temporary file of the write at hand exists. -/
inductive Phase (Content : Type)
  | idle
  | readAuth (new : Records Content)
  | readSsh (new : Records Content) (oldAuth : Option Content)
  | readRtsp (new : Records Content) (oldAuth oldSsh : Option Content)
  | writing (job : Job Content) (file : File) (opened : Bool)
  /-- After a failed write: the files still to be put back, then label `fail`. -/
  | restoring (job : Job Content) (files : List File) (opened : Bool)
  /-- Returned success with these records, or failure. -/
  | returned (saved : Option (Records Content))

/-- The files, the temporary files that exist, and the failed writes so far. -/
structure Store (Content : Type) where
  disk : Disk Content
  tmp : File → Bool
  failed : Nat

structure State (Content : Type) where
  store : Store Content
  calls : List (Phase Content)

/-- One file operation of a call. -/
inductive Action (Content : Type)
  /-- Bad argument, wrong old password or no records built. -/
  | refuse
  | begin_ (new : Records Content)
  | read
  | open_
  | finish (ok : Bool)
  | unlink
  | leave

section Machine

variable {Content : Type}

namespace Store

def opened (store : Store Content) (file : File) : Store Content :=
  { store with tmp := Function.update store.tmp file true }

/-- The write fails: its temporary file, if it was this call's, is unlinked. -/
def writeFailed (store : Store Content) (tmp : File → Bool) : Store Content :=
  { store with tmp, failed := store.failed + 1 }

/-- The rename puts the content in place. -/
def renamed (store : Store Content) (file : File) (content : Content) : Store Content :=
  { store with
    disk := Function.update store.disk file (some content)
    tmp := Function.update store.tmp file false }

def unlinked (store : Store Content) (file : File) : Store Content :=
  { store with disk := Function.update store.disk file none }

end Store

/-- The step of `save_record` after the file has been written. -/
def nextWrite (job : Job Content) : File → Phase Content
  | .ssh => .writing job .rtsp false
  | .rtsp => .writing job .auth false
  | .auth => .returned (some job.new)

/-- What a failed write of the file puts back before label `fail`. -/
def toRestore : File → List File
  | .ssh => []
  | .rtsp => [.ssh]
  | .auth => [.ssh, .rtsp]

/-- One operation: the store and the phase after it. -/
def act (store : Store Content) :
    Phase Content → Action Content → Option (Store Content × Phase Content)
  | .idle, .refuse => some (store, .returned none)
  | .idle, .begin_ new => some (store, .readAuth new)
  | .readAuth new, .read => some (store, .readSsh new (store.disk .auth))
  | .readSsh new oldAuth, .read => some (store, .readRtsp new oldAuth (store.disk .ssh))
  | .readRtsp new oldAuth oldSsh, .read =>
      let old : Disk Content
        | .auth => oldAuth
        | .ssh => oldSsh
        | .rtsp => store.disk .rtsp
      some (store, .writing { new, old } .ssh false)
  | .writing job file false, .open_ =>
      -- O_EXCL refuses a temporary file that another call has open
      if store.tmp file then
        some (store.writeFailed store.tmp, .restoring job (toRestore file) false)
      else some (store.opened file, .writing job file true)
  | .writing job file true, .finish ok =>
      if ok then some (store.renamed file (job.new file), nextWrite job file)
      else
        some (store.writeFailed (Function.update store.tmp file false),
          .restoring job (toRestore file) false)
  | .restoring job (file :: files) false, .open_ =>
      match job.old file with
      | none => none
      | some _ =>
          if store.tmp file then
            some (store.writeFailed store.tmp, .restoring job files false)
          else some (store.opened file, .restoring job (file :: files) true)
  | .restoring job (file :: files) true, .finish ok =>
      match job.old file with
      | none => none
      | some content =>
          if ok then some (store.renamed file content, .restoring job files false)
          else
            some (store.writeFailed (Function.update store.tmp file false),
              .restoring job files false)
  | .restoring job (file :: files) false, .unlink =>
      match job.old file with
      | none => some (store.unlinked file, .restoring job files false)
      | some _ => none
  | .restoring job [] false, .leave =>
      match job.old .auth with
      | none => some (store.unlinked .auth, .returned none)
      | some _ => some (store, .returned none)
  | _, _ => none

/-- One call performs one operation. -/
def step (state : State Content) (event : Nat × Action Content) : Option (State Content) :=
  match state.calls[event.1]? with
  | none => none
  | some phase =>
      match act state.store phase event.2 with
      | none => none
      | some (store, after) => some { store, calls := state.calls.set event.1 after }

/-- The call is between its first read and its last write or restoration. -/
def inside : Phase Content → Bool
  | .readSsh .. | .readRtsp .. | .writing .. | .restoring .. => true
  | _ => false

/-- Before a call reads its first old copy, no other call is inside. -/
def Exclusive (state : State Content) (event : Nat × Action Content) : Prop :=
  ∀ new, state.calls[event.1]? = some (.readAuth new) → ∀ phase ∈ state.calls, inside phase = false

def GuardedStep (state : State Content) (event : Nat × Action Content) (next : State Content) :
    Prop :=
  Exclusive state event ∧ step state event = some next

/-- Every call is still to come, no temporary file is left and no write failed. -/
structure Fresh (state : State Content) : Prop where
  tmp : state.store.tmp = fun _ => false
  failed : state.store.failed = 0
  calls : ∀ phase ∈ state.calls, phase = .idle

theorem step_acts {state next : State Content} {index : Nat} {action : Action Content}
    (stepped : step state (index, action) = some next) :
    ∃ phase store after, state.calls[index]? = some phase ∧
      act state.store phase action = some (store, after) ∧
        next = { store, calls := state.calls.set index after } := by
  simp only [step] at stepped
  cases atIndex : state.calls[index]? with
  | none =>
      rw [atIndex] at stepped
      exact absurd stepped nofun
  | some phase =>
      simp only [atIndex] at stepped
      cases acted : act state.store phase action with
      | none =>
          rw [acted] at stepped
          exact absurd stepped nofun
      | some result =>
          simp only [acted, Option.some.injEq] at stepped
          exact ⟨phase, result.1, result.2, rfl, acted, stepped.symm⟩

/-! ## One call on its own -/

/-- No temporary file, or the one of the write at hand. -/
def tmpOf (file : File) (opened : Bool) : File → Bool :=
  Function.update (fun _ => false) file opened

/-- What a call that is inside has made of the settled files so far. -/
def Midway (settled : Disk Content) (store : Store Content) : Phase Content → Prop
  | .readSsh _ oldAuth =>
      store.disk = settled ∧ store.tmp = (fun _ => false) ∧ oldAuth = settled .auth
  | .readRtsp _ oldAuth oldSsh =>
      store.disk = settled ∧ store.tmp = (fun _ => false) ∧ oldAuth = settled .auth ∧
        oldSsh = settled .ssh
  | .writing job file opened =>
      job.old = settled ∧ store.tmp = tmpOf file opened ∧
        ∀ other, store.disk other =
          if other ∈ toRestore file then some (job.new other) else settled other
  | .restoring job files opened =>
      job.old = settled ∧ 1 ≤ store.failed ∧ .auth ∉ files ∧
        (∀ other, other ∉ files → store.disk other = settled other) ∧
        store.tmp = (match files with
          | [] => fun _ => false
          | file :: _ => tmpOf file opened)
  | _ => False

theorem tmpOf_false (file : File) : tmpOf file false = fun _ => false := by
  unfold tmpOf
  exact Function.update_eq_self_iff.mpr rfl

theorem update_tmpOf (file : File) (before after : Bool) :
    Function.update (tmpOf file before) file after = tmpOf file after :=
  Function.update_idem ..

theorem tmpOf_self (file : File) (opened : Bool) : tmpOf file opened file = opened :=
  Function.update_self ..

/-- How one operation of a call that is inside can end: still inside, or with
its own records in place, or with everything as it was. -/
def Progress (settled : Disk Content) (store : Store Content) (after : Phase Content) : Prop :=
  (inside after = true ∧ Midway settled store after) ∨
    (∃ new, after = .returned (some new) ∧ store.disk = new.onDisk ∧
      store.tmp = fun _ => false) ∨
    (after = .returned none ∧ store.disk = settled ∧ store.tmp = fun _ => false)

section Call

variable {settled : Disk Content} {store : Store Content}

/-- A failed write leaves the files it must put back, and only those, changed. -/
theorem writeFailed_midway {job : Job Content} {file : File} {opened : Bool}
    (midway : Midway settled store (.writing job file opened)) {tmp : File → Bool}
    (closed : tmp = fun _ => false) :
    Midway settled (store.writeFailed tmp) (.restoring job (toRestore file) false) := by
  obtain ⟨isOld, _, contents⟩ := midway
  refine ⟨isOld, Nat.le_add_left _ _, ?_, ?_, ?_⟩
  · cases file <;> decide
  · intro other restored
    show store.disk other = settled other
    rw [contents other, if_neg restored]
  · show tmp = _
    rw [closed]
    cases file with
    | ssh => rfl
    | rtsp | auth => exact (tmpOf_false _).symm

/-- Putting a file back, however it is done, leaves one file less to restore. -/
theorem restored_midway {job : Job Content} {file : File} {files : List File} {opened : Bool}
    (midway : Midway settled store (.restoring job (file :: files) opened))
    (disk : Disk Content) (isOld : disk file = settled file)
    (others : ∀ other, other ≠ file → disk other = store.disk other) :
    Midway settled { store with disk, tmp := fun _ => false } (.restoring job files false) := by
  obtain ⟨jobOld, failed, notAuth, untouched, _⟩ := midway
  refine ⟨jobOld, failed, fun inFiles => notAuth (List.mem_cons_of_mem _ inFiles), ?_, ?_⟩
  · intro other outside
    show disk other = settled other
    by_cases isFile : other = file
    · rw [isFile, isOld]
    · rw [others other isFile]
      apply untouched
      intro inFiles
      cases List.mem_cons.mp inFiles with
      | inl same => exact isFile same
      | inr inRest => exact outside inRest
  · cases files with
    | nil => rfl
    | cons next rest => exact (tmpOf_false next).symm

/-- The write at hand succeeds. -/
theorem renamed_progress {job : Job Content} {file : File}
    (midway : Midway settled store (.writing job file true)) :
    Progress settled (store.renamed file (job.new file)) (nextWrite job file) := by
  obtain ⟨isOld, isTmp, contents⟩ := midway
  have closed : (store.renamed file (job.new file)).tmp = fun _ => false := by
    show Function.update store.tmp file false = _
    rw [isTmp, update_tmpOf, tmpOf_false]
  have written : ∀ other, (store.renamed file (job.new file)).disk other =
      if other = file ∨ other ∈ toRestore file then some (job.new other) else settled other := by
    intro other
    show Function.update store.disk file (some (job.new file)) other = _
    by_cases isFile : other = file
    · rw [isFile, Function.update_self, if_pos (.inl rfl)]
    · rw [Function.update_of_ne isFile, contents other]
      simp only [isFile, false_or]
  cases file with
  | ssh =>
      refine .inl ⟨rfl, isOld, closed.trans (tmpOf_false _).symm, ?_⟩
      intro other
      rw [written other]
      simp [toRestore]
  | rtsp =>
      refine .inl ⟨rfl, isOld, closed.trans (tmpOf_false _).symm, ?_⟩
      intro other
      rw [written other]
      simp [toRestore, or_comm]
  | auth =>
      refine .inr (.inl ⟨job.new, rfl, ?_, closed⟩)
      funext other
      rw [written other]
      cases other with
      | auth | ssh | rtsp => rfl

/-- One operation of the write at hand. -/
theorem writing_progress {job : Job Content} {file : File} {opened : Bool} {after : Phase Content}
    {action : Action Content} {next : Store Content}
    (midway : Midway settled store (.writing job file opened))
    (acted : act store (.writing job file opened) action = some (next, after)) :
    Progress settled next after := by
  have isTmp := midway.2.1
  cases opened with
  | false =>
      cases action with
      | open_ =>
          have notOpen : store.tmp file = false := by rw [isTmp, tmpOf_self]
          simp only [act, notOpen, Bool.false_eq_true, if_false, Option.some.injEq,
            Prod.mk.injEq] at acted
          obtain ⟨isNext, isAfter⟩ := acted
          subst isNext isAfter
          refine .inl ⟨rfl, midway.1, ?_, midway.2.2⟩
          show Function.update store.tmp file true = _
          rw [isTmp, update_tmpOf]
      | _ => exact absurd acted nofun
  | true =>
      cases action with
      | finish ok =>
          cases ok with
          | true =>
              cases acted
              exact renamed_progress midway
          | false =>
              cases acted
              refine .inl ⟨rfl, writeFailed_midway midway ?_⟩
              rw [isTmp, update_tmpOf, tmpOf_false]
      | _ => exact absurd acted nofun

/-- One operation of putting a file back; it does not fail, as a write failed
before. -/
theorem restoring_progress {job : Job Content} {file : File} {files : List File} {opened : Bool}
    {after : Phase Content} {action : Action Content} {next : Store Content}
    (midway : Midway settled store (.restoring job (file :: files) opened))
    (acted : act store (.restoring job (file :: files) opened) action = some (next, after))
    (fewFailed : next.failed ≤ 1) : Progress settled next after := by
  obtain ⟨isOld, failed, notAuth, untouched, isTmp⟩ := id midway
  have others : ∀ content other, other ≠ file →
      Function.update store.disk file content other = store.disk other :=
    fun content other different => Function.update_of_ne different _ _
  cases opened with
  | false =>
      have closed : store.tmp = fun _ => false := isTmp.trans (tmpOf_false file)
      cases action with
      | open_ =>
          simp only [act] at acted
          cases hadFile : job.old file with
          | none =>
              rw [hadFile] at acted
              exact absurd acted nofun
          | some content =>
              simp only [hadFile, closed, Bool.false_eq_true, if_false, Option.some.injEq,
                Prod.mk.injEq] at acted
              obtain ⟨isNext, isAfter⟩ := acted
              subst isNext isAfter
              refine .inl ⟨rfl, isOld, failed, notAuth, untouched, ?_⟩
              show Function.update store.tmp file true = tmpOf file true
              rw [isTmp]
              exact update_tmpOf file false true
      | unlink =>
          simp only [act] at acted
          cases hadFile : job.old file with
          | some content =>
              rw [hadFile] at acted
              exact absurd acted nofun
          | none =>
              simp only [hadFile, Option.some.injEq, Prod.mk.injEq] at acted
              obtain ⟨isNext, isAfter⟩ := acted
              subst isNext isAfter
              have restored := restored_midway midway (Function.update store.disk file none)
                (by rw [Function.update_self, ← isOld, hadFile]) (others none)
              rw [← closed] at restored
              exact .inl ⟨rfl, restored⟩
      | _ => exact absurd acted nofun
  | true =>
      cases action with
      | finish ok =>
          simp only [act] at acted
          cases hadFile : job.old file with
          | none =>
              rw [hadFile] at acted
              exact absurd acted nofun
          | some content =>
              cases ok with
              | false =>
                  simp only [hadFile, Bool.false_eq_true, if_false, Option.some.injEq,
                    Prod.mk.injEq] at acted
                  have twice : store.failed + 1 ≤ 1 := by
                    rw [← acted.1] at fewFailed
                    exact fewFailed
                  omega
              | true =>
                  simp only [hadFile, if_true, Option.some.injEq, Prod.mk.injEq] at acted
                  obtain ⟨isNext, isAfter⟩ := acted
                  subst isNext isAfter
                  have closed : Function.update store.tmp file false = fun _ => false := by
                    rw [isTmp]
                    exact (update_tmpOf file true false).trans (tmpOf_false file)
                  have restored := restored_midway midway
                    (Function.update store.disk file (some content))
                    (by rw [Function.update_self, ← isOld, hadFile]) (others (some content))
                  rw [← closed] at restored
                  exact .inl ⟨rfl, restored⟩
      | _ => exact absurd acted nofun

/-- Label `fail` with everything put back. -/
theorem leave_progress {job : Job Content} {opened : Bool} {after : Phase Content}
    {action : Action Content} {next : Store Content}
    (midway : Midway settled store (.restoring job [] opened))
    (acted : act store (.restoring job [] opened) action = some (next, after)) :
    Progress settled next after := by
  obtain ⟨isOld, _, _, untouched, isTmp⟩ := midway
  have allSettled : store.disk = settled := funext fun other => untouched other nofun
  cases opened with
  | true => cases action <;> exact absurd acted nofun
  | false =>
      cases action with
      | leave =>
          simp only [act] at acted
          cases hadAuth : job.old .auth with
          | some content =>
              simp only [hadAuth, Option.some.injEq, Prod.mk.injEq] at acted
              obtain ⟨isNext, isAfter⟩ := acted
              subst isNext isAfter
              exact .inr (.inr ⟨rfl, allSettled, isTmp⟩)
          | none =>
              simp only [hadAuth, Option.some.injEq, Prod.mk.injEq] at acted
              obtain ⟨isNext, isAfter⟩ := acted
              subst isNext isAfter
              refine .inr (.inr ⟨rfl, ?_, isTmp⟩)
              show Function.update store.disk .auth none = settled
              rw [allSettled, Function.update_eq_self_iff, ← isOld, hadAuth]
      | _ => exact absurd acted nofun

/-- One operation of a call that is inside, with at most one failed write so far. -/
theorem act_progress {phase after : Phase Content} {action : Action Content}
    {next : Store Content} (midway : Midway settled store phase)
    (acted : act store phase action = some (next, after)) (fewFailed : next.failed ≤ 1) :
    Progress settled next after := by
  cases phase with
  | idle | readAuth | returned => exact midway.elim
  | readSsh new oldAuth =>
      cases action with
      | read =>
          cases acted
          obtain ⟨isDisk, closed, isAuth⟩ := midway
          exact .inl ⟨rfl, isDisk, closed, isAuth, congrFun isDisk .ssh⟩
      | _ => exact absurd acted nofun
  | readRtsp new oldAuth oldSsh =>
      cases action with
      | read =>
          cases acted
          obtain ⟨isDisk, closed, isAuth, isSsh⟩ := midway
          refine .inl ⟨rfl, ?_, closed.trans (tmpOf_false _).symm, ?_⟩
          · funext file
            cases file with
            | auth => exact isAuth
            | ssh => exact isSsh
            | rtsp => exact congrFun isDisk .rtsp
          · intro other
            exact congrFun isDisk other
      | _ => exact absurd acted nofun
  | writing job file opened => exact writing_progress midway acted
  | restoring job files opened =>
      cases files with
      | nil => exact leave_progress midway acted
      | cons file rest => exact restoring_progress midway acted fewFailed

end Call

/-! ## All calls together -/

/-- The files as they were at first, or a successful call's records. -/
def Settled (initial : Disk Content) (calls : List (Phase Content)) (settled : Disk Content) :
    Prop :=
  settled = initial ∨ ∃ new, .returned (some new) ∈ calls ∧ settled = new.onDisk

/-- Between calls the files are settled, and one call at a time is midway. -/
def Invariant (initial : Disk Content) (state : State Content) : Prop :=
  ∃ settled, Settled initial state.calls settled ∧
    (((∀ phase ∈ state.calls, inside phase = false) ∧ state.store.disk = settled ∧
        state.store.tmp = fun _ => false) ∨
      ∃ (index : Nat) (phase : Phase Content), state.calls[index]? = some phase ∧
        (∀ (other : Nat) (twin : Phase Content),
          state.calls[other]? = some twin → inside twin = true → other = index) ∧
        Midway settled state.store phase)

theorem initial_invariant {state : State Content} (fresh : Fresh state) :
    Invariant state.store.disk state := by
  refine ⟨state.store.disk, .inl rfl, .inl ⟨?_, rfl, fresh.tmp⟩⟩
  intro phase member
  rw [fresh.calls phase member]
  rfl

theorem act_failed {store next : Store Content} {phase after : Phase Content}
    {action : Action Content} (acted : act store phase action = some (next, after)) :
    store.failed ≤ next.failed := by
  unfold act at acted
  split at acted
  all_goals grind [Store.opened, Store.writeFailed, Store.renamed, Store.unlinked]

theorem step_failed {state next : State Content} {event : Nat × Action Content}
    (stepped : step state event = some next) : state.store.failed ≤ next.store.failed := by
  obtain ⟨index, action⟩ := event
  obtain ⟨phase, store, after, _, acted, isNext⟩ := step_acts stepped
  rw [isNext]
  exact act_failed acted

/-- Success is not forgotten: the step replaces no returned call. -/
theorem Settled.step {initial settled : Disk Content} {state : State Content}
    (isSettled : Settled initial state.calls settled) {index : Nat} {phase after : Phase Content}
    {action : Action Content} {next : Store Content}
    (atIndex : state.calls[index]? = some phase)
    (acted : act state.store phase action = some (next, after)) :
    Settled initial (state.calls.set index after) settled := by
  cases isSettled with
  | inl atFirst => exact .inl atFirst
  | inr saved =>
      obtain ⟨new, member, isNew⟩ := saved
      obtain ⟨place, atPlace⟩ := List.mem_iff_getElem?.mp member
      have elsewhere : index ≠ place := by
        intro same
        rw [← same, atIndex] at atPlace
        rw [Option.some.inj atPlace] at acted
        exact absurd acted nofun
      have stillThere : (state.calls.set index after)[place]? = some (.returned (some new)) := by
        rw [List.getElem?_set_ne elsewhere]
        exact atPlace
      exact .inr ⟨new, List.mem_of_getElem? stillThere, isNew⟩

theorem Midway.isInside {settled : Disk Content} {store : Store Content} {phase : Phase Content}
    (midway : Midway settled store phase) : inside phase = true := by
  cases phase with
  | idle | readAuth | returned => exact midway.elim
  | _ => rfl

/-- A call outside leaves the store alone, and enters by its first read only. -/
theorem act_outside {store next : Store Content} {phase after : Phase Content}
    {action : Action Content} (outside : inside phase = false)
    (acted : act store phase action = some (next, after)) :
    next = store ∧ (inside after = false ∨
      ∃ new, phase = .readAuth new ∧ after = .readSsh new (store.disk .auth)) := by
  cases phase with
  | idle =>
      cases action with
      | refuse | begin_ =>
          cases acted
          exact ⟨rfl, .inl rfl⟩
      | _ => exact absurd acted nofun
  | readAuth new =>
      cases action with
      | read =>
          cases acted
          exact ⟨rfl, .inr ⟨new, rfl, rfl⟩⟩
      | _ => exact absurd acted nofun
  | returned saved => exact absurd acted nofun
  | _ => exact absurd outside nofun

theorem step_invariant {initial : Disk Content} {state next : State Content}
    {event : Nat × Action Content} (invariant : Invariant initial state)
    (stepped : GuardedStep state event next) (fewFailed : next.store.failed ≤ 1) :
    Invariant initial next := by
  obtain ⟨index, action⟩ := event
  obtain ⟨exclusive, stepped⟩ := stepped
  obtain ⟨phase, store, after, atIndex, acted, isNext⟩ := step_acts stepped
  subst isNext
  obtain ⟨settled, isSettled, standing⟩ := invariant
  have stillSettled := isSettled.step atIndex acted
  have inRange : index < state.calls.length := (List.getElem?_eq_some_iff.mp atIndex).1
  have atAfter : (state.calls.set index after)[index]? = some after :=
    List.getElem?_set_self inRange
  -- a call other than the acting one is where it was
  have elsewhere : ∀ {other : Nat} {twin : Phase Content}, other ≠ index →
      (state.calls.set index after)[other]? = some twin → state.calls[other]? = some twin := by
    intro other twin different atOther
    rwa [List.getElem?_set_ne (Ne.symm different)] at atOther
  have noneInside : (∀ (other : Nat) (twin : Phase Content), state.calls[other]? = some twin →
      inside twin = true → other = index) → inside after = false →
      ∀ twin ∈ state.calls.set index after, inside twin = false := by
    intro others outside twin member
    obtain ⟨other, atOther⟩ := List.mem_iff_getElem?.mp member
    by_cases isIndex : other = index
    · rw [isIndex, atAfter] at atOther
      exact Option.some.inj atOther ▸ outside
    · have before := elsewhere isIndex atOther
      exact Bool.eq_false_iff.mpr fun inTwin => isIndex (others other twin before inTwin)
  cases isInside : inside phase with
  | true =>
      -- the acting call is the one that is midway
      cases standing with
      | inl noCall => exact absurd (noCall.1 phase (List.mem_of_getElem? atIndex)) (by simp [isInside])
      | inr oneCall =>
          obtain ⟨place, current, atPlace, unique, midway⟩ := oneCall
          have same := unique index phase atIndex isInside
          subst same
          have isPhase : current = phase := Option.some.inj (atPlace.symm.trans atIndex)
          subst isPhase
          rcases act_progress midway acted fewFailed with stays | saved | rolledBack
          · refine ⟨settled, stillSettled, .inr ⟨index, after, atAfter, ?_, stays.2⟩⟩
            intro other twin atOther inTwin
            by_contra different
            exact different (unique other twin (elsewhere different atOther) inTwin)
          · obtain ⟨new, isReturned, onDisk, closed⟩ := saved
            have outside : inside after = false := by rw [isReturned]; rfl
            have isMember : .returned (some new) ∈ state.calls.set index after :=
              isReturned ▸ List.mem_of_getElem? atAfter
            exact ⟨new.onDisk, .inr ⟨new, isMember, rfl⟩,
              .inl ⟨noneInside unique outside, onDisk, closed⟩⟩
          · obtain ⟨isReturned, onDisk, closed⟩ := rolledBack
            have outside : inside after = false := by rw [isReturned]; rfl
            exact ⟨settled, stillSettled, .inl ⟨noneInside unique outside, onDisk, closed⟩⟩
  | false =>
      obtain ⟨sameStore, enters⟩ := act_outside isInside acted
      subst sameStore
      cases standing with
      | inl noCall =>
          obtain ⟨allOutside, onDisk, closed⟩ := noCall
          have others : ∀ (other : Nat) (twin : Phase Content), state.calls[other]? = some twin →
              inside twin = true → other = index := fun other twin atOther inTwin =>
            absurd (allOutside twin (List.mem_of_getElem? atOther)) (by simp [inTwin])
          cases enters with
          | inl outside =>
              exact ⟨settled, stillSettled, .inl ⟨noneInside others outside, onDisk, closed⟩⟩
          | inr reads =>
              obtain ⟨new, _, isAfter⟩ := reads
              refine ⟨settled, stillSettled, .inr ⟨index, after, atAfter, ?_, ?_⟩⟩
              · intro other twin atOther inTwin
                by_contra different
                exact different (others other twin (elsewhere different atOther) inTwin)
              · rw [isAfter]
                exact ⟨onDisk, closed, congrFun onDisk .auth⟩
      | inr oneCall =>
          obtain ⟨place, current, atPlace, unique, midway⟩ := oneCall
          have different : place ≠ index := by
            intro same
            rw [same, atIndex] at atPlace
            rw [Option.some.inj atPlace, midway.isInside] at isInside
            exact absurd isInside nofun
          cases enters with
          | inr reads =>
              obtain ⟨new, isReading, _⟩ := reads
              have nobody := exclusive new (isReading ▸ atIndex) current
                (List.mem_of_getElem? atPlace)
              rw [midway.isInside] at nobody
              exact absurd nobody nofun
          | inl outside =>
              refine ⟨settled, stillSettled, .inr ⟨place, current, ?_, ?_, midway⟩⟩
              · rw [List.getElem?_set_ne (Ne.symm different)]
                exact atPlace
              · intro other twin atOther inTwin
                by_cases isIndex : other = index
                · rw [isIndex, atAfter] at atOther
                  rw [← Option.some.inj atOther, outside] at inTwin
                  exact absurd inTwin nofun
                · exact unique other twin (elsewhere isIndex atOther) inTwin

theorem run_failed {start final : State Content} {events : List (Nat × Action Content)}
    (run : Run GuardedStep start events final) : start.store.failed ≤ final.store.failed := by
  have kept : ∀ (state : State Content) (event : Nat × Action Content) (next : State Content),
      start.store.failed ≤ state.store.failed → GuardedStep state event next →
        start.store.failed ≤ next.store.failed :=
    fun _ _ _ sofar stepped => Nat.le_trans sofar (step_failed stepped.2)
  exact run.preserves kept (Nat.le_refl _)

theorem run_invariant {initial : Disk Content} {start final : State Content}
    {events : List (Nat × Action Content)} (run : Run GuardedStep start events final)
    (fewFailed : final.store.failed ≤ 1) (invariant : Invariant initial start) :
    Invariant initial final := by
  induction run with
  | nil => exact invariant
  | cons first rest inductionHypothesis =>
      apply inductionHypothesis fewFailed
      exact step_invariant invariant first (Nat.le_trans (run_failed rest) fewFailed)

/-- Once every call has returned, and with at most one failed write, the three
files are those the first call found or those of one call that returned success,
in every run in which no call reads its old copies while another is inside.  So
a content that a failed call built is found only where it was there at first or
a successful call built the same. -/
theorem one_password_everywhere {start final : State Content}
    {events : List (Nat × Action Content)} (fresh : Fresh start)
    (run : Run GuardedStep start events final) (fewFailed : final.store.failed ≤ 1)
    (returned : ∀ phase ∈ final.calls, ∃ saved, phase = .returned saved) :
    (final.store.disk = start.store.disk ∨
      ∃ new, .returned (some new) ∈ final.calls ∧ final.store.disk = new.onDisk) ∧
    ∀ (records : Records Content) (file : File), final.store.disk file = some (records file) →
      start.store.disk file = some (records file) ∨
        ∃ new, .returned (some new) ∈ final.calls ∧ new file = records file := by
  obtain ⟨settled, isSettled, standing⟩ :=
    run_invariant run fewFailed (initial_invariant fresh)
  have onDisk : final.store.disk = settled := by
    cases standing with
    | inl noCall => exact noCall.2.1
    | inr oneCall =>
        obtain ⟨place, current, atPlace, _, midway⟩ := oneCall
        obtain ⟨saved, isReturned⟩ := returned current (List.mem_of_getElem? atPlace)
        rw [isReturned] at midway
        exact midway.elim
  rw [onDisk]
  refine ⟨isSettled, ?_⟩
  intro records file found
  cases isSettled with
  | inl atFirst => exact .inl (atFirst ▸ found)
  | inr saved =>
      obtain ⟨new, member, isNew⟩ := saved
      rw [isNew] at found
      exact .inr ⟨new, member, Option.some.inj found⟩

/-- A call that is the only one is always alone. -/
theorem guarded_of_single {start final : State Content} {events : List (Nat × Action Content)}
    (run : Run (fun state event next => step state event = some next) start events final)
    (single : start.calls.length = 1) : Run GuardedStep start events final := by
  induction run with
  | nil => exact .nil _
  | @cons start middle _ event _ first _ inductionHypothesis =>
      obtain ⟨index, action⟩ := event
      obtain ⟨phase, store, after, atIndex, acted, isNext⟩ := step_acts first
      have stillSingle : middle.calls.length = 1 := by
        rw [isNext]
        exact List.length_set.trans single
      refine .cons ⟨?_, first⟩ (inductionHypothesis stillSingle)
      intro new isReading other member
      obtain ⟨only, isOnly⟩ := List.length_eq_one_iff.mp single
      rw [isOnly] at isReading member
      rw [List.mem_singleton.mp member]
      have isNew : only = .readAuth new :=
        (List.mem_singleton.mp (List.mem_of_getElem? isReading)).symm
      rw [isNew]
      rfl

end Machine

/-! ## One call and two calls -/

/-- The records of a call, told apart by a number. -/
def numbered (number : Nat) : Records Nat := fun _ => number

/-- This many calls are to come, with the records 0 on disk. -/
def waiting (count : Nat) : State Nat where
  store := { disk := (numbered 0).onDisk, tmp := fun _ => false, failed := 0 }
  calls := List.replicate count .idle

theorem waiting_fresh (count : Nat) : Fresh (waiting count) where
  tmp := rfl
  failed := rfl
  calls := fun _ member => List.eq_of_mem_replicate member

def reads (call number : Nat) : List (Nat × Action Nat) :=
  [(call, .begin_ (numbered number)), (call, .read), (call, .read), (call, .read)]

def write (call : Nat) (ok : Bool) : List (Nat × Action Nat) :=
  [(call, .open_), (call, .finish ok)]

/-- What a call returned, file by file. -/
def result : Phase Nat → Option (Option (List Nat))
  | .returned saved => some (saved.map fun records => [records .auth, records .ssh, records .rtsp])
  | _ => none

/-- The files, the failed writes and the results after a run. -/
def outcome (count : Nat) (events : List (Nat × Action Nat)) :
    Option (List (Option Nat) × Nat × List (Option (Option (List Nat)))) :=
  (runs step (waiting count) events).map fun final =>
    ([final.store.disk .auth, final.store.disk .ssh, final.store.disk .rtsp], final.store.failed,
      final.calls.map result)

theorem returned_of_results {final : State Nat} (results : List (Option (List Nat)))
    (same : final.calls.map result = results.map some) :
    ∀ phase ∈ final.calls, ∃ saved, phase = .returned saved := by
  intro phase member
  have inResults : result phase ∈ results.map some := same ▸ List.mem_map_of_mem member
  obtain ⟨_, _, isResult⟩ := List.mem_map.mp inResults
  cases phase with
  | returned saved => exact ⟨saved, rfl⟩
  | _ => exact absurd isResult nofun

/-- A call whose RTSP write fails puts the SSH record back. -/
theorem one_password_everywhere_rolled_back :
    ∃ final : State Nat,
      Run GuardedStep (waiting 1)
          (reads 0 1 ++ write 0 true ++ write 0 false ++ write 0 true ++ [(0, .leave)]) final ∧
        final.calls.map result = [some none] ∧ final.store.disk = (numbered 0).onDisk := by
  have ran : outcome 1
      (reads 0 1 ++ write 0 true ++ write 0 false ++ write 0 true ++ [(0, .leave)]) =
        some ([some 0, some 0, some 0], 1, [some none]) := by
    decide +kernel
  obtain ⟨final, isFinal, outcomes⟩ := Option.map_eq_some_iff.mp ran
  simp only [Prod.mk.injEq] at outcomes
  have run := guarded_of_single (run_of_runs isFinal) rfl
  have fewFailed : final.store.failed ≤ 1 := Nat.le_of_eq outcomes.2.1
  have settled := one_password_everywhere (waiting_fresh 1) run fewFailed
    (returned_of_results [none] outcomes.2.2)
  refine ⟨final, run, outcomes.2.2, ?_⟩
  cases settled.1 with
  | inl atFirst => exact atFirst
  | inr saved =>
      obtain ⟨new, member, _⟩ := saved
      have isResult : result (.returned (some new)) ∈ [some none] :=
        outcomes.2.2 ▸ List.mem_map_of_mem member
      exact absurd (List.mem_singleton.mp isResult) nofun

/-- The second call runs between the first one's SSH write and its two others:
both return success and no write fails, but SSH keeps the second password. -/
theorem overlapping_changes_mix :
    ∃ (events : List (Nat × Action Nat)) (final : State Nat),
      Run (fun state event next => step state event = some next) (waiting 2) events final ∧
        final.store.failed = 0 ∧
        (∀ phase ∈ final.calls, ∃ saved, phase = .returned saved) ∧
        ¬(final.store.disk = (waiting 2).store.disk ∨
          ∃ new, .returned (some new) ∈ final.calls ∧ final.store.disk = new.onDisk) := by
  have ran : outcome 2 (reads 0 1 ++ write 0 true ++ reads 1 2 ++ write 1 true ++ write 1 true ++
      write 1 true ++ write 0 true ++ write 0 true) =
        some ([some 1, some 2, some 1], 0, [some (some [1, 1, 1]), some (some [2, 2, 2])]) := by
    decide +kernel
  obtain ⟨final, isFinal, outcomes⟩ := Option.map_eq_some_iff.mp ran
  simp only [Prod.mk.injEq, List.cons.injEq] at outcomes
  obtain ⟨⟨isAuth, isSsh, _⟩, noFailure, results⟩ := outcomes
  refine ⟨_, final, run_of_runs isFinal, noFailure,
    returned_of_results [some [1, 1, 1], some [2, 2, 2]] results, ?_⟩
  rintro (atFirst | ⟨new, member, isNew⟩)
  · rw [atFirst] at isAuth
    exact absurd isAuth (by decide)
  · rw [isNew] at isAuth isSsh
    have isResult : result (.returned (some new)) ∈ [some (some [1, 1, 1]), some (some [2, 2, 2])] :=
      results ▸ List.mem_map_of_mem member
    have auth : new .auth = 1 := Option.some.inj isAuth
    have ssh : new .ssh = 2 := Option.some.inj isSsh
    simp [result, auth, ssh] at isResult

end JooanW3U.Daemon.PasswordRecords
