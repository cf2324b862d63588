import Mathlib.Data.List.Basic
import JooanW3U.Library.Directory
import JooanW3U.Library.Runs

/-!
Owns the system service's replacement of a file through a temporary one: every
call of `joan_write_atomic` on one path, operation by operation, for any number of
threads and processes at once and any crashes between.  The path always holds one
whole content; a call on a working disk succeeds when the temporary name of its
process is free.

Does not own what the callers write or how they answer a failure.
-/

namespace JooanW3U.Daemon.WriteAtomic

open JooanW3U.Library

abbrev Bytes := List UInt8
abbrev Name := List Char

/-- `char tmp[600]`. -/
def TMP_SIZE : Nat := 600

/-- `"%s.tmp.%ld"`. -/
def tmp (path : Name) (pid : Nat) : Name :=
  path ++ ".tmp.".toList ++ Nat.toDigits 10 pid

/-- The next operation of a call. -/
inductive Phase
  | opening
  | writing
  | syncing
  | closing
  | replacing
  | unlinking
  | returned (ok : Bool)
  /-- The process ended first. -/
  | killed
  deriving Repr, DecidableEq

/-- One call of `joan_write_atomic`; `written` bytes are in its temporary file. -/
structure Call where
  pid : Nat
  data : Bytes
  written : Nat
  phase : Phase
  deriving Repr, DecidableEq

/-- A file: one that was there before the first call, or the one a call made. -/
inductive File
  | found (content : Bytes)
  | made (call : Nat)
  deriving Repr, DecidableEq

/-- The directory, the calls in the order in which they began, and the processes
that left their temporary file behind. -/
structure State where
  files : Directory Name File
  calls : List Call
  stranded : List Nat

/-- How an operation of a call ends.  Only `write` reads the count and can be
interrupted. -/
inductive Outcome
  | works (count : Nat)
  | interrupted
  | fails
  deriving Repr, DecidableEq

inductive Event
  | begin_ (pid : Nat) (data : Bytes)
  | operate (call : Nat) (outcome : Outcome)
  /-- Every thread of the process ends. -/
  | crash (pid : Nat)
  deriving Repr, DecidableEq

namespace Call

/-- Where the loop `while (left)` goes on. -/
def loop (call : Call) : Call :=
  { call with phase := if call.written < call.data.length then .writing else .syncing }

/-- The temporary file exists and is this call's to rename or unlink. -/
def holds (call : Call) : Bool :=
  match call.phase with
  | .writing | .syncing | .closing | .replacing | .unlinking => true
  | .opening | .returned _ | .killed => false

def becomes (call : Call) (phase : Phase) : Call := { call with phase }

@[simp] theorem becomes_pid (call : Call) (phase : Phase) : (call.becomes phase).pid = call.pid :=
  rfl

@[simp] theorem becomes_data (call : Call) (phase : Phase) :
    (call.becomes phase).data = call.data := rfl

@[simp] theorem becomes_written (call : Call) (phase : Phase) :
    (call.becomes phase).written = call.written := rfl

@[simp] theorem becomes_phase (call : Call) (phase : Phase) :
    (call.becomes phase).phase = phase := rfl

@[simp] theorem loop_pid (call : Call) : call.loop.pid = call.pid := rfl

@[simp] theorem loop_data (call : Call) : call.loop.data = call.data := rfl

@[simp] theorem loop_written (call : Call) : call.loop.written = call.written := rfl

theorem loop_holds (call : Call) : call.loop.holds = true := by
  unfold loop holds
  by_cases more : call.written < call.data.length
  · simp only [if_pos more]
  · simp only [if_neg more]

end Call

section Machine

variable (path : Name)

/-- One operation of the call with this number: the directory and the call after it. -/
def operate (files : Directory Name File) (index : Nat) (call : Call) :
    Outcome → Option (Directory Name File × Call)
  | .works count =>
      match call.phase with
      | .opening =>
          if TMP_SIZE ≤ (tmp path call.pid).length then some (files, call.becomes (.returned false))
          else
            match files.createExclusive (tmp path call.pid) (.made index) with
            | none => some (files, call.becomes (.returned false))
            | some files => some (files, call.loop)
      | .writing =>
          if 0 < count ∧ call.written + count ≤ call.data.length then
            some (files, { call with written := call.written + count }.loop)
          else none
      | .syncing => some (files, call.becomes .closing)
      | .closing => some (files, call.becomes .replacing)
      | .replacing =>
          match files.rename (tmp path call.pid) path with
          | none => some (files, call.becomes .unlinking)
          | some files => some (files, call.becomes (.returned true))
      | .unlinking => some (files.unlink (tmp path call.pid), call.becomes (.returned false))
      | .returned _ | .killed => none
  | .interrupted => if call.phase = .writing then some (files, call) else none
  | .fails =>
      match call.phase with
      | .opening | .unlinking => some (files, call.becomes (.returned false))
      | .writing | .syncing | .closing | .replacing => some (files, call.becomes .unlinking)
      | .returned _ | .killed => none

/-- The process ends under the call. -/
def kill (pid : Nat) (call : Call) : Call :=
  match call.phase with
  | .returned _ => call
  | _ => if call.pid = pid then call.becomes .killed else call

def step (state : State) : Event → Option State
  | .begin_ pid data =>
      some { state with calls := state.calls ++ [{ pid, data, written := 0, phase := .opening }] }
  | .operate index outcome =>
      match state.calls[index]? with
      | none => none
      | some call =>
          (operate path state.files index call outcome).map fun done =>
            { files := done.1
              calls := state.calls.set index done.2
              stranded :=
                if call.phase = .unlinking ∧ outcome = .fails then call.pid :: state.stranded
                else state.stranded }
  | .crash pid =>
      some { state with
        calls := state.calls.map (kill pid)
        stranded :=
          if state.calls.any fun call => call.pid = pid ∧ call.holds then pid :: state.stranded
          else state.stranded }

/-- No call yet; the temporary names in use are those of `stranded`. -/
structure Start (state : State) : Prop where
  calls : state.calls = []
  found : ∀ name file, state.files name = some file → ∃ content, file = .found content
  tmp : ∀ pid, pid ∈ state.stranded ↔ state.files (tmp path pid) ≠ none

/-- The content of a file. -/
def State.content (state : State) : File → Bytes
  | .found content => content
  | .made index =>
      match state.calls[index]? with
      | none => []
      | some call => call.data.take call.written

/-- What a reader of the path sees. -/
def State.read (state : State) : Option Bytes :=
  (state.files path).map state.content

/-! ## Who owns a temporary name -/

theorem tmp_ne_path (pid : Nat) : tmp path pid ≠ path := by
  intro same
  have lengths := congrArg List.length same
  have mark : ".tmp.".toList.length = 5 := by decide
  simp only [tmp, List.length_append, mark] at lengths
  omega

variable {path}

theorem tmp_injective {left right : Nat} (same : tmp path left = tmp path right) : left = right := by
  have digits := List.append_cancel_left same
  rw [← @Nat.ofDigitChars_ten_toDigits left, digits, Nat.ofDigitChars_ten_toDigits]

/-- What one operation can do: nothing to the directory, or create, rename or
unlink the call's temporary file, or fail to unlink it. -/
inductive Effect (path : Name) (files : Directory Name File) (index : Nat) (call : Call)
    (outcome : Outcome) : Directory Name File → Call → Prop
  | stays (after : Call) : after.holds = call.holds →
      ¬ (call.phase = .unlinking ∧ outcome = .fails) →
        Effect path files index call outcome files after
  | creates : call.phase = .opening → files (tmp path call.pid) = none →
      Effect path files index call outcome (files.put (tmp path call.pid) (.made index)) call.loop
  | renames : call.phase = .replacing → files (tmp path call.pid) = some (.made index) →
      Effect path files index call outcome
        ((files.unlink (tmp path call.pid)).put path (.made index)) (call.becomes (.returned true))
  | unlinks : call.phase = .unlinking → outcome ≠ .fails →
      Effect path files index call outcome (files.unlink (tmp path call.pid))
        (call.becomes (.returned false))
  | strands : call.phase = .unlinking → outcome = .fails →
      Effect path files index call outcome files (call.becomes (.returned false))

namespace Call

/-- What is written so far is part of the data, and all of it after the loop. -/
structure Sound (call : Call) : Prop where
  part : call.written ≤ call.data.length
  whole : call.phase = .syncing ∨ call.phase = .closing ∨ call.phase = .replacing ∨
    call.phase = .returned true → call.written = call.data.length

theorem loop_sound {call : Call} (part : call.written ≤ call.data.length) : call.loop.Sound := by
  refine ⟨part, ?_⟩
  intro late
  unfold loop at late ⊢
  by_cases more : call.written < call.data.length
  · simp [more] at late
  · exact Nat.le_antisymm part (Nat.le_of_not_lt more)

theorem becomes_sound {call : Call} (sound : call.Sound) {phase : Phase}
    (whole : phase ≠ .opening → phase ≠ .unlinking → phase ≠ .returned false → phase ≠ .killed →
      call.written = call.data.length) : (call.becomes phase).Sound := by
  refine ⟨sound.part, ?_⟩
  intro late
  apply whole
  all_goals
    intro same
    simp [becomes, same] at late

end Call

section Operation

variable {files after : Directory Name File} {index : Nat} {call next : Call} {outcome : Outcome}

/-- One operation leaves the process and the data, and keeps the count in step. -/
theorem operate_call (done : operate path files index call outcome = some (after, next)) :
    next.pid = call.pid ∧ next.data = call.data ∧ (call.Sound → next.Sound) := by
  cases outcome with
  | interrupted =>
      simp only [operate] at done
      by_cases writing : call.phase = .writing
      · simp only [if_pos writing, Option.some.injEq, Prod.mk.injEq] at done
        exact done.2 ▸ ⟨rfl, rfl, id⟩
      · simp [writing] at done
  | fails =>
      cases phase : call.phase with
      | opening | unlinking | writing | syncing | closing | replacing =>
          simp only [operate, phase, Option.some.injEq, Prod.mk.injEq] at done
          rw [← done.2]
          exact ⟨rfl, rfl, fun sound => Call.becomes_sound sound (by simp)⟩
      | returned | killed => simp [operate, phase] at done
  | works count =>
      cases phase : call.phase with
      | opening =>
          simp only [operate, phase] at done
          by_cases long : TMP_SIZE ≤ (tmp path call.pid).length
          · simp only [if_pos long, Option.some.injEq, Prod.mk.injEq] at done
            rw [← done.2]
            exact ⟨rfl, rfl, fun sound => Call.becomes_sound sound (by simp)⟩
          · simp only [if_neg long] at done
            cases created : files.createExclusive (tmp path call.pid) (.made index) with
            | none =>
                simp only [created, Option.some.injEq, Prod.mk.injEq] at done
                rw [← done.2]
                exact ⟨rfl, rfl, fun sound => Call.becomes_sound sound (by simp)⟩
            | some created' =>
                simp only [created, Option.some.injEq, Prod.mk.injEq] at done
                rw [← done.2]
                exact ⟨rfl, rfl, fun sound => Call.loop_sound sound.part⟩
      | writing =>
          simp only [operate, phase] at done
          by_cases fits : 0 < count ∧ call.written + count ≤ call.data.length
          · simp only [if_pos fits, Option.some.injEq, Prod.mk.injEq] at done
            rw [← done.2]
            exact ⟨rfl, rfl, fun _ => Call.loop_sound fits.2⟩
          · simp [fits] at done
      | syncing =>
          simp only [operate, phase, Option.some.injEq, Prod.mk.injEq] at done
          rw [← done.2]
          exact ⟨rfl, rfl, fun sound => Call.becomes_sound sound
            fun _ _ _ _ => sound.whole (.inl phase)⟩
      | closing =>
          simp only [operate, phase, Option.some.injEq, Prod.mk.injEq] at done
          rw [← done.2]
          exact ⟨rfl, rfl, fun sound => Call.becomes_sound sound
            fun _ _ _ _ => sound.whole (.inr (.inl phase))⟩
      | replacing =>
          simp only [operate, phase] at done
          cases renamed : files.rename (tmp path call.pid) path with
          | none =>
              simp only [renamed, Option.some.injEq, Prod.mk.injEq] at done
              rw [← done.2]
              exact ⟨rfl, rfl, fun sound => Call.becomes_sound sound (by simp)⟩
          | some renamed' =>
              simp only [renamed, Option.some.injEq, Prod.mk.injEq] at done
              rw [← done.2]
              exact ⟨rfl, rfl, fun sound => Call.becomes_sound sound
                fun _ _ _ _ => sound.whole (.inr (.inr (.inl phase)))⟩
      | unlinking =>
          simp only [operate, phase, Option.some.injEq, Prod.mk.injEq] at done
          rw [← done.2]
          exact ⟨rfl, rfl, fun sound => Call.becomes_sound sound (by simp)⟩
      | returned | killed => simp [operate, phase] at done

theorem operate_effect (owned : call.holds = true → files (tmp path call.pid) = some (.made index))
    (done : operate path files index call outcome = some (after, next)) :
    Effect path files index call outcome after next := by
  cases outcome with
  | interrupted =>
      simp only [operate] at done
      by_cases writing : call.phase = .writing
      · simp only [if_pos writing, Option.some.injEq, Prod.mk.injEq] at done
        rw [← done.1, ← done.2]
        exact .stays call rfl (by simp)
      · simp [writing] at done
  | fails =>
      cases phase : call.phase with
      | opening | writing | syncing | closing | replacing =>
          simp only [operate, phase, Option.some.injEq, Prod.mk.injEq] at done
          rw [← done.1, ← done.2]
          exact .stays _ (by simp [Call.holds, phase]) (by simp [phase])
      | unlinking =>
          simp only [operate, phase, Option.some.injEq, Prod.mk.injEq] at done
          rw [← done.1, ← done.2]
          exact .strands phase rfl
      | returned | killed => simp [operate, phase] at done
  | works count =>
      cases phase : call.phase with
      | opening =>
          simp only [operate, phase] at done
          by_cases long : TMP_SIZE ≤ (tmp path call.pid).length
          · simp only [if_pos long, Option.some.injEq, Prod.mk.injEq] at done
            rw [← done.1, ← done.2]
            exact .stays _ (by simp [Call.holds, phase]) (by simp)
          · simp only [if_neg long] at done
            cases inUse : files (tmp path call.pid) with
            | some file =>
                simp only [Directory.createExclusive_taken inUse, Option.some.injEq,
                  Prod.mk.injEq] at done
                rw [← done.1, ← done.2]
                exact .stays _ (by simp [Call.holds, phase]) (by simp)
            | none =>
                simp only [Directory.createExclusive_free inUse, Option.some.injEq,
                  Prod.mk.injEq] at done
                rw [← done.1, ← done.2]
                exact .creates phase inUse
      | writing =>
          simp only [operate, phase] at done
          by_cases fits : 0 < count ∧ call.written + count ≤ call.data.length
          · simp only [if_pos fits, Option.some.injEq, Prod.mk.injEq] at done
            rw [← done.1, ← done.2]
            exact .stays _ (by rw [Call.loop_holds]; simp [Call.holds, phase]) (by simp)
          · simp [fits] at done
      | syncing | closing =>
          simp only [operate, phase, Option.some.injEq, Prod.mk.injEq] at done
          rw [← done.1, ← done.2]
          exact .stays _ (by simp [Call.holds, phase]) (by simp)
      | replacing =>
          have mine := owned (by simp [Call.holds, phase])
          simp only [operate, phase, Directory.rename_some mine, Option.some.injEq,
            Prod.mk.injEq] at done
          rw [← done.1, ← done.2]
          exact .renames phase mine
      | unlinking =>
          simp only [operate, phase, Option.some.injEq, Prod.mk.injEq] at done
          rw [← done.1, ← done.2]
          exact .unlinks phase (by simp)
      | returned | killed => simp [operate, phase] at done

end Operation

/-- A process has its temporary file, or left it behind. -/
def Occupied (state : State) (pid : Nat) : Prop :=
  pid ∈ state.stranded ∨ ∃ call ∈ state.calls, call.pid = pid ∧ call.holds = true

instance (state : State) (pid : Nat) : Decidable (Occupied state pid) :=
  inferInstanceAs (Decidable (_ ∨ _))

/-- Every temporary name in use belongs to one call in progress or was left behind,
and the path holds what it held at the start or what a finished call wrote. -/
structure Owned (path : Name) (start state : State) : Prop where
  own : ∀ (index : Nat) (call : Call), state.calls[index]? = some call → call.holds = true →
    state.files (tmp path call.pid) = some (.made index)
  used : ∀ pid, state.files (tmp path pid) ≠ none → Occupied state pid
  left : ∀ pid ∈ state.stranded, state.files (tmp path pid) ≠ none ∧
    ∀ call ∈ state.calls, call.pid = pid → call.holds = false
  sound : ∀ call ∈ state.calls, call.Sound
  path : state.files path = start.files path ∨ ∃ (index : Nat) (call : Call),
    state.files path = some (.made index) ∧ state.calls[index]? = some call ∧
      call.phase = .returned true

theorem Start.owned {start : State} (fresh : Start path start) : Owned path start start where
  own := by simp [fresh.calls]
  used := fun pid used => .inl ((fresh.tmp pid).mpr used)
  left := fun pid left => ⟨(fresh.tmp pid).mp left, by simp [fresh.calls]⟩
  sound := by simp [fresh.calls]
  path := .inl rfl

namespace Owned

variable {start state : State}

theorem tmp_eq_none_iff (owned : Owned path start state) (pid : Nat) :
    state.files (tmp path pid) = none ↔ ¬ Occupied state pid := by
  constructor
  · intro free occupied
    cases occupied with
    | inl stranded => exact (owned.left pid stranded).1 free
    | inr held =>
        obtain ⟨call, member, same, holds⟩ := held
        obtain ⟨index, atIndex⟩ := List.mem_iff_getElem?.mp member
        rw [← same, owned.own index call atIndex holds] at free
        exact absurd free nofun
  · intro free
    by_contra inUse
    exact free (owned.used pid inUse)

/-- Two calls of one process do not both have the temporary file. -/
theorem index_eq (owned : Owned path start state) {left right : Nat} {call other : Call}
    (atLeft : state.calls[left]? = some call) (atRight : state.calls[right]? = some other)
    (holds : call.holds = true) (alsoHolds : other.holds = true) (same : call.pid = other.pid) :
    left = right := by
  have first := owned.own left call atLeft holds
  have second := owned.own right other atRight alsoHolds
  rw [same, second, Option.some.injEq] at first
  exact (File.made.inj first).symm

theorem begin_ (owned : Owned path start state) (pid : Nat) (data : Bytes) :
    Owned path start { state with
      calls := state.calls ++ [{ pid, data, written := 0, phase := .opening }] } := by
  have member : ∀ {call : Call},
      call ∈ state.calls ++ [{ pid, data, written := 0, phase := .opening }] →
        call ∈ state.calls ∨ call = { pid, data, written := 0, phase := .opening } := by
    intro call inCalls
    simpa using inCalls
  refine ⟨?_, ?_, ?_, ?_, ?_⟩
  · intro index call atIndex holds
    by_cases old : index < state.calls.length
    · rw [List.getElem?_append_left old] at atIndex
      exact owned.own index call atIndex holds
    · cases member (List.mem_of_getElem? atIndex) with
      | inl before =>
          rw [List.getElem?_append_right (Nat.le_of_not_lt old)] at atIndex
          have isNew := List.mem_singleton.mp (List.mem_of_getElem? atIndex)
          rw [isNew] at holds
          exact absurd holds Bool.false_ne_true
      | inr isNew =>
          rw [isNew] at holds
          exact absurd holds Bool.false_ne_true
  · intro name inUse
    cases owned.used name inUse with
    | inl stranded => exact .inl stranded
    | inr held =>
        obtain ⟨call, isCall, same, holds⟩ := held
        exact .inr ⟨call, List.mem_append_left _ isCall, same, holds⟩
  · intro name stranded
    refine ⟨(owned.left name stranded).1, ?_⟩
    intro call isCall same
    cases member isCall with
    | inl before => exact (owned.left name stranded).2 call before same
    | inr isNew => exact isNew ▸ rfl
  · intro call isCall
    cases member isCall with
    | inl before => exact owned.sound call before
    | inr isNew =>
        rw [isNew]
        exact ⟨Nat.zero_le _, by simp⟩
  · cases owned.path with
    | inl unchanged => exact .inl unchanged
    | inr replaced =>
        obtain ⟨index, call, isFile, atIndex, returned⟩ := replaced
        have old := (List.getElem?_eq_some_iff.mp atIndex).1
        exact .inr ⟨index, call, isFile, by rw [List.getElem?_append_left old, atIndex], returned⟩

end Owned

theorem kill_of_returned {pid : Nat} {call : Call} {ok : Bool}
    (returned : call.phase = .returned ok) : kill pid call = call := by
  simp [kill, returned]

theorem kill_other {pid : Nat} {call : Call} (other : call.pid ≠ pid) : kill pid call = call := by
  unfold kill
  cases call.phase with
  | returned => rfl
  | opening | writing | syncing | closing | replacing | unlinking | killed => exact if_neg other

theorem kill_pid (pid : Nat) (call : Call) : (kill pid call).pid = call.pid := by
  unfold kill
  cases call.phase with
  | returned => rfl
  | opening | writing | syncing | closing | replacing | unlinking | killed =>
      by_cases same : call.pid = pid
      · simp only [if_pos same, Call.becomes_pid]
      · simp only [if_neg same]

theorem kill_holds {pid : Nat} {call : Call} (same : call.pid = pid) :
    (kill pid call).holds = false := by
  unfold kill
  cases phase : call.phase with
  | returned => simp [Call.holds, phase]
  | opening | writing | syncing | closing | replacing | unlinking | killed =>
      simp [if_pos same, Call.holds, Call.becomes]

theorem kill_sound {pid : Nat} {call : Call} (sound : call.Sound) : (kill pid call).Sound := by
  by_cases same : call.pid = pid
  · unfold kill
    cases phase : call.phase with
    | returned => exact sound
    | opening | writing | syncing | closing | replacing | unlinking | killed =>
        simp only [if_pos same]
        exact Call.becomes_sound sound (by simp)
  · rw [kill_other same]
    exact sound

theorem Owned.crash {start state : State} (owned : Owned path start state) (pid : Nat) :
    Owned path start { state with
      calls := state.calls.map (kill pid)
      stranded :=
        if state.calls.any fun call => call.pid = pid ∧ call.holds then pid :: state.stranded
        else state.stranded } := by
  have survivor : ∀ {call : Call}, (kill pid call).holds = true → kill pid call = call := by
    intro call holds
    by_cases same : call.pid = pid
    · rw [kill_holds same] at holds
      exact absurd holds nofun
    · exact kill_other same
  have strandedMono : ∀ name ∈ state.stranded, name ∈
      (if state.calls.any fun call => call.pid = pid ∧ call.holds then pid :: state.stranded
        else state.stranded) := by
    intro name stranded
    by_cases held : (state.calls.any fun call => call.pid = pid ∧ call.holds) = true
    · rw [if_pos held]
      exact List.mem_cons_of_mem _ stranded
    · rw [if_neg held]
      exact stranded
  refine ⟨?_, ?_, ?_, ?_, ?_⟩
  · intro index call atIndex holds
    rw [List.getElem?_map, Option.map_eq_some_iff] at atIndex
    obtain ⟨before, atBefore, isCall⟩ := atIndex
    subst isCall
    have unchanged := survivor holds
    rw [unchanged] at holds ⊢
    exact owned.own index before atBefore holds
  · intro name inUse
    cases owned.used name inUse with
    | inl stranded => exact .inl (strandedMono name stranded)
    | inr held =>
        obtain ⟨call, isCall, same, holds⟩ := held
        by_cases ended : call.pid = pid
        · refine .inl ?_
          have any : (state.calls.any fun call => call.pid = pid ∧ call.holds) = true := by
            rw [List.any_eq_true]
            exact ⟨call, isCall, by simp [ended, holds]⟩
          rw [if_pos any, ← same, ended]
          exact List.mem_cons_self
        · exact .inr ⟨call, List.mem_map.mpr ⟨call, isCall, kill_other ended⟩, same, holds⟩
  · intro name stranded
    have inUse : state.files (tmp path name) ≠ none := by
      by_cases held : (state.calls.any fun call => call.pid = pid ∧ call.holds) = true
      · simp only [if_pos held] at stranded
        cases List.mem_cons.mp stranded with
        | inr before => exact (owned.left name before).1
        | inl same =>
            obtain ⟨call, isCall, both⟩ := List.any_eq_true.mp held
            simp only [decide_eq_true_eq] at both
            obtain ⟨index, atIndex⟩ := List.mem_iff_getElem?.mp isCall
            rw [same, ← both.1, owned.own index call atIndex both.2]
            exact nofun
      · simp only [if_neg held] at stranded
        exact (owned.left name stranded).1
    refine ⟨inUse, ?_⟩
    intro call isCall same
    obtain ⟨before, wasCall, isKilled⟩ := List.mem_map.mp isCall
    by_contra holds
    rw [Bool.not_eq_false, ← isKilled] at holds
    have unchanged := survivor holds
    rw [unchanged] at holds isKilled
    have notEnded : before.pid ≠ pid := by
      intro ended
      rw [← unchanged, kill_holds ended] at holds
      exact absurd holds nofun
    have wasStranded : name ∈ state.stranded := by
      by_cases held : (state.calls.any fun call => call.pid = pid ∧ call.holds) = true
      · simp only [if_pos held] at stranded
        cases List.mem_cons.mp stranded with
        | inr before => exact before
        | inl isPid => exact absurd (isKilled ▸ same.trans isPid) notEnded
      · simpa only [if_neg held] using stranded
    rw [(owned.left name wasStranded).2 before wasCall (isKilled ▸ same)] at holds
    exact absurd holds nofun
  · intro call isCall
    obtain ⟨before, wasCall, isKilled⟩ := List.mem_map.mp isCall
    exact isKilled ▸ kill_sound (owned.sound before wasCall)
  · cases owned.path with
    | inl unchanged => exact .inl unchanged
    | inr replaced =>
        obtain ⟨index, call, isFile, atIndex, returned⟩ := replaced
        exact .inr ⟨index, call, isFile,
          by rw [List.getElem?_map, atIndex, Option.map_some, kill_of_returned returned], returned⟩

/-- What an operation may do to the directory when `call` becomes `next`. -/
structure Exchange (path : Name) (files after : Directory Name File) (index : Nat)
    (call next : Call) (stranded strandedAfter : List Nat) : Prop where
  other : ∀ pid, pid ≠ call.pid → after (tmp path pid) = files (tmp path pid)
  mine : next.holds = true → after (tmp path call.pid) = some (.made index)
  same : next.holds = call.holds → after (tmp path call.pid) = files (tmp path call.pid)
  fresh : next.holds = true → call.holds = false → files (tmp path call.pid) = none
  freed : next.holds = false → call.holds = true → after (tmp path call.pid) ≠ none →
    call.pid ∈ strandedAfter
  kept : ∀ pid ∈ stranded, pid ∈ strandedAfter
  new : ∀ pid ∈ strandedAfter, pid ∈ stranded ∨
    (pid = call.pid ∧ call.holds = true ∧ next.holds = false ∧ after (tmp path pid) ≠ none)
  path : after path = files path ∨ (after path = some (.made index) ∧ next.phase = .returned true)

theorem at_set {calls : List Call} {index other : Nat} {next call : Call}
    (found : (calls.set index next)[other]? = some call) :
    (other = index ∧ call = next) ∨ (other ≠ index ∧ calls[other]? = some call) := by
  rw [List.getElem?_set] at found
  by_cases same : index = other
  · rw [if_pos same] at found
    by_cases inRange : index < calls.length
    · rw [if_pos inRange] at found
      exact .inl ⟨same.symm, (Option.some.inj found).symm⟩
    · rw [if_neg inRange] at found
      exact absurd found nofun
  · rw [if_neg same] at found
    exact .inr ⟨Ne.symm same, found⟩

theorem at_set_other {calls : List Call} {index other : Nat} {next call : Call}
    (different : other ≠ index) (found : calls[other]? = some call) :
    (calls.set index next)[other]? = some call := by
  rw [List.getElem?_set_ne (Ne.symm different), found]

theorem at_set_same {calls : List Call} {index : Nat} {next call : Call}
    (found : calls[index]? = some call) : (calls.set index next)[index]? = some next := by
  rw [List.getElem?_set_self (List.getElem?_eq_some_iff.mp found).1]

theorem Owned.exchange {start state : State} (owned : Owned path start state) {index : Nat}
    {call next : Call} {after : Directory Name File} {stranded : List Nat}
    (found : state.calls[index]? = some call) (pid : next.pid = call.pid) (sound : next.Sound)
    (running : call.phase ≠ .returned true)
    (exchanged : Exchange path state.files after index call next state.stranded stranded) :
    Owned path start { files := after, calls := state.calls.set index next, stranded } := by
  have atIndex := @at_set_same state.calls index next call found
  -- another call with the temporary file keeps it
  have others : ∀ (other : Nat) (holder : Call), other ≠ index →
      state.calls[other]? = some holder → holder.holds = true →
        after (tmp path holder.pid) = state.files (tmp path holder.pid) := by
    intro other holder different atOther holds
    by_cases samePid : holder.pid = call.pid
    · have notMine : call.holds = false := by
        by_contra mine
        exact different (owned.index_eq atOther found holds (by simpa using mine) samePid)
      have inUse := owned.own other holder atOther holds
      rw [samePid] at inUse ⊢
      have stillNot : next.holds = false := by
        by_contra mine
        rw [exchanged.fresh (by simpa using mine) notMine] at inUse
        exact absurd inUse nofun
      exact exchanged.same (stillNot.trans notMine.symm)
    · exact exchanged.other holder.pid samePid
  refine ⟨?_, ?_, ?_, ?_, ?_⟩
  · intro other holder atOther holds
    cases at_set atOther with
    | inl this =>
        rw [this.2] at holds ⊢
        rw [this.1, pid]
        exact exchanged.mine holds
    | inr this =>
        show after (tmp path holder.pid) = _
        rw [others other holder this.1 this.2 holds]
        exact owned.own other holder this.2 holds
  · intro name inUse
    have carry : Occupied state name → name ≠ call.pid ∨ call.holds = false →
        Occupied { files := after, calls := state.calls.set index next, stranded } name := by
      intro occupied elsewhere
      cases occupied with
      | inl stranded => exact .inl (exchanged.kept name stranded)
      | inr held =>
          obtain ⟨holder, isCall, same, holds⟩ := held
          obtain ⟨other, atOther⟩ := List.mem_iff_getElem?.mp isCall
          have different : other ≠ index := by
            intro isIndex
            rw [isIndex, found, Option.some.injEq] at atOther
            cases elsewhere with
            | inl notPid => exact notPid (atOther ▸ same.symm)
            | inr notHolds => exact absurd (atOther ▸ holds) (by simp [notHolds])
          exact .inr ⟨holder, List.mem_of_getElem? (at_set_other different atOther), same, holds⟩
    by_cases samePid : name = call.pid
    · cases nextHolds : next.holds with
      | true => exact .inr ⟨next, List.mem_of_getElem? atIndex, pid.trans samePid.symm, nextHolds⟩
      | false =>
          rw [samePid] at inUse ⊢
          cases callHolds : call.holds with
          | true => exact .inl (exchanged.freed nextHolds callHolds inUse)
          | false =>
              have same : after (tmp path call.pid) = state.files (tmp path call.pid) :=
                exchanged.same (nextHolds.trans callHolds.symm)
              exact samePid ▸ carry (owned.used name (samePid ▸ same ▸ inUse)) (.inr callHolds)
    · have same : after (tmp path name) = state.files (tmp path name) := exchanged.other name samePid
      exact carry (owned.used name (same ▸ inUse)) (.inl samePid)
  · intro name isStranded
    cases exchanged.new name isStranded with
    | inl before =>
        obtain ⟨inUse, idle⟩ := owned.left name before
        by_cases samePid : name = call.pid
        · have notMine := idle call (List.mem_of_getElem? found) samePid.symm
          have stillNot : next.holds = false := by
            by_contra mine
            exact inUse (samePid ▸ exchanged.fresh (by simpa using mine) notMine)
          constructor
          · show after (tmp path name) ≠ none
            rw [samePid, exchanged.same (stillNot.trans notMine.symm), ← samePid]
            exact inUse
          · intro other isCall samePid'
            cases List.mem_or_eq_of_mem_set isCall with
            | inl before => exact idle other before samePid'
            | inr isNext => exact isNext ▸ stillNot
        · constructor
          · show after (tmp path name) ≠ none
            rw [exchanged.other name samePid]
            exact inUse
          · intro other isCall samePid'
            cases List.mem_or_eq_of_mem_set isCall with
            | inl before => exact idle other before samePid'
            | inr isNext =>
                rw [isNext, pid] at samePid'
                exact absurd samePid'.symm samePid
    | inr isNew =>
        obtain ⟨samePid, held, released, inUse⟩ := isNew
        refine ⟨inUse, ?_⟩
        intro other isCall samePid'
        obtain ⟨place, atPlace⟩ := List.mem_iff_getElem?.mp isCall
        cases at_set atPlace with
        | inl this => exact this.2 ▸ released
        | inr this =>
            by_contra holds
            exact this.1 (owned.index_eq this.2 found (by simpa using holds) held
              (samePid'.trans samePid))
  · intro other isCall
    cases List.mem_or_eq_of_mem_set isCall with
    | inl before => exact owned.sound other before
    | inr isNext => exact isNext ▸ sound
  · cases exchanged.path with
    | inr replaced => exact .inr ⟨index, next, replaced.1, atIndex, replaced.2⟩
    | inl unchanged =>
        cases owned.path with
        | inl before => exact .inl (unchanged.trans before)
        | inr before =>
            obtain ⟨other, writer, isFile, atOther, returned⟩ := before
            have different : other ≠ index := by
              intro isIndex
              rw [isIndex, found, Option.some.injEq] at atOther
              exact running (atOther ▸ returned)
            exact .inr ⟨other, writer, unchanged.trans isFile, at_set_other different atOther,
              returned⟩

theorem operate_running {files after : Directory Name File} {index : Nat} {call next : Call}
    {outcome : Outcome} (done : operate path files index call outcome = some (after, next))
    (ok : Bool) : call.phase ≠ .returned ok := by
  intro returned
  cases outcome <;> simp [operate, returned] at done

theorem Owned.operate {start state : State} (owned : Owned path start state) {index : Nat}
    {call next : Call} {after : Directory Name File} {outcome : Outcome}
    (found : state.calls[index]? = some call)
    (done : operate path state.files index call outcome = some (after, next)) :
    Owned path start
      { files := after
        calls := state.calls.set index next
        stranded :=
          if call.phase = .unlinking ∧ outcome = .fails then call.pid :: state.stranded
          else state.stranded } := by
  obtain ⟨samePid, -, soundly⟩ := operate_call done
  apply owned.exchange found samePid (soundly (owned.sound call (List.mem_of_getElem? found)))
    (operate_running done true)
  have tmpOther : ∀ pid, pid ≠ call.pid → tmp path pid ≠ tmp path call.pid :=
    fun pid different same => different (tmp_injective same)
  have mine := owned.own index call found
  cases operate_effect mine done with
  | stays _ sameHolds notStranded =>
      rw [if_neg notStranded]
      exact ⟨fun _ _ => rfl, fun holds => mine (sameHolds ▸ holds), fun _ => rfl,
        fun holds not => absurd (sameHolds ▸ holds) (by simp [not]),
        fun not holds => absurd (sameHolds ▸ not) (by simp [holds]), fun _ => id, fun _ => .inl,
        .inl rfl⟩
  | creates opening free =>
      have idle : call.holds = false := by simp [Call.holds, opening]
      rw [if_neg (by simp [opening])]
      refine ⟨fun pid different => Directory.put_other (tmpOther pid different),
        fun _ => Directory.put_same, fun same => ?_, fun _ _ => free, fun not => ?_, fun _ => id,
        fun _ => .inl, .inl (Directory.put_other (tmp_ne_path path call.pid).symm)⟩
      · rw [Call.loop_holds, idle] at same
        exact absurd same nofun
      · rw [Call.loop_holds] at not
        exact absurd not nofun
  | renames replacing inUse =>
      have holds : call.holds = true := by simp [Call.holds, replacing]
      have gone : ((state.files.unlink (tmp path call.pid)).put path (.made index))
          (tmp path call.pid) = none := by
        rw [Directory.put_other (tmp_ne_path path call.pid), Directory.unlink_same]
      rw [if_neg (by simp [replacing])]
      refine ⟨fun pid different => ?_, nofun, fun same => absurd (same ▸ holds) nofun, nofun,
        fun _ _ inUse => absurd gone inUse, fun _ => id, fun _ => .inl,
        .inr ⟨Directory.put_same, rfl⟩⟩
      rw [Directory.put_other (tmp_ne_path path pid), Directory.unlink_other (tmpOther pid different)]
  | unlinks unlinking worked =>
      have holds : call.holds = true := by simp [Call.holds, unlinking]
      rw [if_neg (fun both => worked both.2)]
      exact ⟨fun pid different => Directory.unlink_other (tmpOther pid different), nofun,
        fun same => absurd (same ▸ holds) nofun, nofun,
        fun _ _ inUse => absurd Directory.unlink_same inUse, fun _ => id, fun _ => .inl,
        .inl (Directory.unlink_other (tmp_ne_path path call.pid).symm)⟩
  | strands unlinking failed =>
      have holds : call.holds = true := by simp [Call.holds, unlinking]
      rw [if_pos ⟨unlinking, failed⟩]
      refine ⟨fun _ _ => rfl, nofun, fun same => absurd (same ▸ holds) nofun, nofun,
        fun _ _ _ => List.mem_cons_self, fun _ => List.mem_cons_of_mem _, ?_, .inl rfl⟩
      intro pid isStranded
      cases List.mem_cons.mp isStranded with
      | inr before => exact .inl before
      | inl same =>
          refine .inr ⟨same, holds, rfl, ?_⟩
          rw [same, mine holds]
          exact nofun

theorem step_operate {state next : State} {index : Nat} {outcome : Outcome}
    (stepped : step path state (.operate index outcome) = some next) :
    ∃ call after changed, state.calls[index]? = some call ∧
      operate path state.files index call outcome = some (after, changed) ∧
      next = { files := after
               calls := state.calls.set index changed
               stranded :=
                 if call.phase = .unlinking ∧ outcome = .fails then call.pid :: state.stranded
                 else state.stranded } := by
  simp only [step] at stepped
  cases found : state.calls[index]? with
  | none => simp [found] at stepped
  | some call =>
      simp only [found, Option.map_eq_some_iff] at stepped
      obtain ⟨⟨after, changed⟩, done, isNext⟩ := stepped
      exact ⟨call, after, changed, rfl, done, isNext.symm⟩

/-- Every step keeps who owns which temporary name. -/
theorem step_owned {start state next : State} {event : Event} (owned : Owned path start state)
    (stepped : step path state event = some next) : Owned path start next := by
  cases event with
  | begin_ pid data => exact Option.some.inj stepped ▸ owned.begin_ pid data
  | crash pid => exact Option.some.inj stepped ▸ owned.crash pid
  | operate index outcome =>
      obtain ⟨call, after, changed, found, done, isNext⟩ := step_operate stepped
      exact isNext ▸ owned.operate found done

theorem run_owned {start state : State} {events : List Event} (fresh : Start path start)
    (ran : runs (step path) start events = some state) : Owned path start state :=
  (run_of_runs ran).preserves (fun _ _ _ owned stepped => step_owned owned stepped) fresh.owned

/-! ## What a reader sees -/

/-- The path holds its first content or the whole data of some call. -/
theorem Owned.read {start state : State} (owned : Owned path start state)
    (fresh : Start path start) :
    state.read path = start.read path ∨ ∃ call ∈ state.calls, state.read path = some call.data := by
  cases owned.path with
  | inl unchanged =>
      refine .inl ?_
      simp only [State.read, unchanged]
      cases content : start.files path with
      | none => rfl
      | some file =>
          obtain ⟨bytes, isFound⟩ := fresh.found path file content
          rw [isFound]
          rfl
  | inr replaced =>
      obtain ⟨index, call, isFile, atIndex, returned⟩ := replaced
      have member := List.mem_of_getElem? atIndex
      have whole := (owned.sound call member).whole (.inr (.inr (.inr returned)))
      refine .inr ⟨call, member, ?_⟩
      simp only [State.read, isFile, Option.map_some, State.content, atIndex, whole,
        List.take_length]

/-! ## A call on a working disk -/

/-- No operation of the call fails and its process goes on. -/
def Undisturbed (index pid : Nat) (events : List Event) : Prop :=
  ∀ event ∈ events, event ≠ .operate index .fails ∧ event ≠ .crash pid

instance (index pid : Nat) (events : List Event) : Decidable (Undisturbed index pid events) :=
  inferInstanceAs (Decidable (∀ event ∈ events, _))

/-- How often an operation of the call worked. -/
def operations (index : Nat) (events : List Event) : Nat :=
  events.countP fun
    | .operate call (.works _) => decide (call = index)
    | _ => false

/-- The operations still to come at most, `write` moving one byte at a time. -/
def Call.remaining (call : Call) : Nat :=
  match call.phase with
  | .opening => call.data.length + 4
  | .writing => call.data.length - call.written + 3
  | .syncing => 3
  | .closing => 2
  | .replacing | .unlinking => 1
  | .returned _ | .killed => 0

/-- The call has its temporary file and nothing failed, or it returned 0. -/
def Call.OnTrack (call : Call) : Prop :=
  match call.phase with
  | .writing => call.written < call.data.length
  | .syncing | .closing | .replacing | .returned true => True
  | _ => False

theorem Call.loop_onTrack (call : Call) : call.loop.OnTrack := by
  unfold Call.loop Call.OnTrack
  by_cases more : call.written < call.data.length
  · simp [more]
  · simp [more]

theorem Call.loop_remaining {call : Call} :
    call.loop.remaining ≤ call.data.length - call.written + 3 := by
  unfold Call.loop Call.remaining
  by_cases more : call.written < call.data.length
  · simp only [if_pos more, Nat.le_refl]
  · simp only [if_neg more]
    omega

/-- A working operation of a call on track keeps it there and brings it nearer the end. -/
theorem operate_onTrack {files after : Directory Name File} {index count : Nat}
    {call next : Call} (onTrack : call.OnTrack)
    (owned : call.holds = true → files (tmp path call.pid) = some (.made index))
    (done : operate path files index call (.works count) = some (after, next)) :
    next.OnTrack ∧ next.remaining < call.remaining := by
  cases phase : call.phase with
  | opening | unlinking | killed => simp [Call.OnTrack, phase] at onTrack
  | returned => simp [operate, phase] at done
  | writing =>
      simp only [operate, phase] at done
      by_cases fits : 0 < count ∧ call.written + count ≤ call.data.length
      · simp only [if_pos fits, Option.some.injEq, Prod.mk.injEq] at done
        rw [← done.2]
        refine ⟨Call.loop_onTrack _, Nat.lt_of_le_of_lt Call.loop_remaining ?_⟩
        simp only [Call.remaining, phase]
        omega
      · simp [fits] at done
  | syncing | closing =>
      simp only [operate, phase, Option.some.injEq, Prod.mk.injEq] at done
      rw [← done.2]
      simp [Call.OnTrack, Call.remaining, phase]
  | replacing =>
      have mine := owned (by simp [Call.holds, phase])
      simp only [operate, phase, Directory.rename_some mine, Option.some.injEq,
        Prod.mk.injEq] at done
      rw [← done.2]
      simp [Call.OnTrack, Call.remaining, phase]

/-- A call on track has returned 0 or can take its next operation. -/
theorem onTrack_continues (path : Name) {state : State} {index : Nat} {call : Call}
    (found : state.calls[index]? = some call) (onTrack : call.OnTrack) :
    call.phase = .returned true ∨
      ∃ final, step path state (.operate index (.works 1)) = some final := by
  have continues : (operate path state.files index call (.works 1)).isSome = true →
      ∃ final, step path state (.operate index (.works 1)) = some final := by
    intro defined
    obtain ⟨done, isDone⟩ := Option.isSome_iff_exists.mp defined
    exact ⟨_, by simp only [step, found, isDone, Option.map_some]; rfl⟩
  cases phase : call.phase with
  | opening | unlinking | killed => simp [Call.OnTrack, phase] at onTrack
  | returned ok =>
      cases ok with
      | true => exact .inl rfl
      | false => simp [Call.OnTrack, phase] at onTrack
  | writing =>
      refine .inr (continues ?_)
      simp only [Call.OnTrack, phase] at onTrack
      have fits : call.written + 1 ≤ call.data.length := onTrack
      simp [operate, phase, fits]
  | syncing | closing => exact .inr (continues (by simp [operate, phase]))
  | replacing =>
      refine .inr (continues ?_)
      simp only [operate, phase]
      cases state.files.rename (tmp path call.pid) path with
      | none | some => rfl

/-- What others do leaves a call as it is. -/
theorem step_other {state next : State} {event : Event} {index : Nat} {call : Call}
    (stepped : step path state event = some next) (found : state.calls[index]? = some call)
    (goesOn : event ≠ .crash call.pid) (notOwn : ∀ outcome, event ≠ .operate index outcome) :
    next.calls[index]? = some call := by
  cases event with
  | begin_ pid data =>
      rw [← Option.some.inj stepped]
      have inRange := (List.getElem?_eq_some_iff.mp found).1
      show (state.calls ++ _)[index]? = _
      rw [List.getElem?_append_left inRange, found]
  | crash pid =>
      rw [← Option.some.inj stepped]
      show (state.calls.map (kill pid))[index]? = _
      rw [List.getElem?_map, found, Option.map_some,
        kill_other (fun same => goesOn (congrArg Event.crash same.symm))]
  | operate other outcome =>
      obtain ⟨_, _, _, _, _, isNext⟩ := step_operate stepped
      rw [isNext]
      exact at_set_other (fun same => notOwn outcome (by rw [same])) found

/-- The call is on track after this many of its operations. -/
def Going (index : Nat) (call : Call) (used : Nat) (state : State) : Prop :=
  ∃ now, state.calls[index]? = some now ∧ now.pid = call.pid ∧ now.data = call.data ∧
    now.OnTrack ∧ now.remaining + used ≤ call.data.length + 3

theorem step_going {start state next : State} {event : Event} {index used : Nat} {call : Call}
    (owned : Owned path start state) (going : Going index call used state)
    (stepped : step path state event = some next)
    (undisturbed : event ≠ .operate index .fails ∧ event ≠ .crash call.pid) :
    Going index call (used + operations index [event]) next := by
  obtain ⟨now, found, samePid, sameData, onTrack, bound⟩ := going
  by_cases own : ∃ outcome, event = .operate index outcome
  · obtain ⟨outcome, isOwn⟩ := own
    subst isOwn
    obtain ⟨before, after, changed, foundBefore, done, isNext⟩ := step_operate stepped
    rw [found, Option.some.injEq] at foundBefore
    subst foundBefore
    obtain ⟨keepsPid, keepsData, -⟩ := operate_call done
    have atIndex : next.calls[index]? = some changed := isNext ▸ at_set_same found
    refine ⟨changed, atIndex, keepsPid.trans samePid, keepsData.trans sameData, ?_⟩
    cases outcome with
    | fails => exact absurd rfl undisturbed.1
    | interrupted =>
        simp only [operate] at done
        by_cases writing : now.phase = .writing
        · simp only [if_pos writing, Option.some.injEq, Prod.mk.injEq] at done
          exact done.2 ▸ ⟨onTrack, by simpa [operations] using bound⟩
        · simp [writing] at done
    | works count =>
        obtain ⟨stays, nearer⟩ := operate_onTrack onTrack (owned.own index now found) done
        have one : operations index [.operate index (.works count)] = 1 := by simp [operations]
        exact ⟨stays, by omega⟩
  · have notOwn : ∀ outcome, event ≠ .operate index outcome :=
      fun outcome isOwn => own ⟨outcome, isOwn⟩
    have none : operations index [event] = 0 := by
      cases event with
      | begin_ | crash => rfl
      | operate other outcome =>
          have different : other ≠ index := fun same => notOwn outcome (by rw [same])
          cases outcome with
          | works => simp [operations, different]
          | interrupted | fails => rfl
    rw [none]
    exact ⟨now, step_other stepped found (samePid ▸ undisturbed.2) notOwn, samePid, sameData,
      onTrack, bound⟩

theorem run_going {start final : State} {index : Nat} {call : Call} :
    ∀ {events : List Event} {used : Nat} {state : State}, Owned path start state →
      Going index call used state → runs (step path) state events = some final →
        Undisturbed index call.pid events →
          Going index call (used + operations index events) final
  | [], used, state, _, going, ran, _ => by
      rw [← Option.some.inj ran]
      exact going
  | event :: events, used, state, owned, going, ran, undisturbed => by
      obtain ⟨next, stepped, rest⟩ := Option.bind_eq_some_iff.mp ran
      have going := step_going owned going stepped (undisturbed event List.mem_cons_self)
      have split : operations index (event :: events) =
          operations index [event] + operations index events := by
        simp only [operations, List.countP_cons, List.countP_nil]
        omega
      rw [split, ← Nat.add_assoc]
      exact run_going (step_owned owned stepped) going rest
        fun later member => undisturbed later (List.mem_cons_of_mem _ member)

/-- A call that returned is never changed again. -/
theorem run_returned {index : Nat} {call : Call} {ok : Bool} (returned : call.phase = .returned ok)
    {state final : State} {events : List Event} (ran : runs (step path) state events = some final)
    (found : state.calls[index]? = some call) : final.calls[index]? = some call := by
  have kept : ∀ (state : State) (event : Event) (next : State), state.calls[index]? = some call →
      step path state event = some next → next.calls[index]? = some call := by
    intro state event next found stepped
    cases event with
    | begin_ pid data => exact step_other stepped found nofun nofun
    | crash pid =>
        rw [← Option.some.inj stepped]
        show (state.calls.map (kill pid))[index]? = _
        rw [List.getElem?_map, found, Option.map_some, kill_of_returned returned]
    | operate other outcome =>
        apply step_other stepped found nofun
        intro same isOwn
        obtain ⟨rfl, -⟩ := Event.operate.inj isOwn
        obtain ⟨before, _, _, foundBefore, done, -⟩ := step_operate stepped
        rw [found, Option.some.injEq] at foundBefore
        exact operate_running done ok (foundBefore ▸ returned)
  exact (run_of_runs ran).preserves kept found

theorem operations_returned {index : Nat} {call : Call} {ok : Bool}
    (returned : call.phase = .returned ok) {final : State} :
    ∀ {events : List Event} {state : State}, state.calls[index]? = some call →
      runs (step path) state events = some final → operations index events = 0
  | [], _, _, _ => rfl
  | event :: events, state, found, ran => by
      obtain ⟨next, stepped, rest⟩ := Option.bind_eq_some_iff.mp ran
      have once : runs (step path) state [event] = some next := by
        rw [runs, stepped]
        rfl
      have idle := operations_returned returned (run_returned returned once found) rest
      have notOwn : operations index [event] = 0 := by
        cases event with
        | begin_ | crash => rfl
        | operate other outcome =>
            have different : other ≠ index := by
              intro same
              obtain ⟨before, _, _, foundBefore, done, -⟩ := step_operate stepped
              rw [same, found, Option.some.injEq] at foundBefore
              exact operate_running done ok (foundBefore ▸ returned)
            cases outcome with
            | works => simp [operations, different]
            | interrupted | fails => rfl
      simp only [operations, List.countP_cons, List.countP_nil] at idle notOwn ⊢
      omega

/-- The operation that opens: on track with the whole data to come, or failed. -/
theorem opens {start state next : State} {index count : Nat} {call : Call}
    (owned : Owned path start state) (found : state.calls[index]? = some call)
    (opening : call.phase = .opening)
    (stepped : step path state (.operate index (.works count)) = some next) :
    if ¬ Occupied state call.pid ∧ (tmp path call.pid).length < TMP_SIZE then
      Going index call 0 next
    else next.calls[index]? = some (call.becomes (.returned false)) := by
  obtain ⟨before, after, changed, foundBefore, done, isNext⟩ := step_operate stepped
  rw [found, Option.some.injEq] at foundBefore
  subst foundBefore
  have atIndex : next.calls[index]? = some changed := isNext ▸ at_set_same found
  simp only [operate, opening] at done
  by_cases long : TMP_SIZE ≤ (tmp path call.pid).length
  · simp only [if_pos long, Option.some.injEq, Prod.mk.injEq] at done
    rw [if_neg (fun free => Nat.not_lt_of_le long free.2), done.2]
    exact atIndex
  · simp only [if_neg long] at done
    by_cases occupied : Occupied state call.pid
    · rw [if_neg (fun free => free.1 occupied)]
      have inUse : state.files (tmp path call.pid) ≠ none :=
        fun free => (owned.tmp_eq_none_iff call.pid).mp free occupied
      obtain ⟨file, isFile⟩ := Option.ne_none_iff_exists'.mp inUse
      simp only [Directory.createExclusive_taken isFile, Option.some.injEq, Prod.mk.injEq] at done
      rw [done.2]
      exact atIndex
    · rw [if_pos ⟨occupied, Nat.lt_of_not_le long⟩]
      have free := (owned.tmp_eq_none_iff call.pid).mpr occupied
      simp only [Directory.createExclusive_free free, Option.some.injEq, Prod.mk.injEq] at done
      rw [← done.2] at atIndex
      have bound := call.loop_remaining
      exact ⟨call.loop, atIndex, rfl, rfl, call.loop_onTrack, by omega⟩

/-- In every run the path holds its first content or the whole data of one call;
and a call on a working disk, whatever the others do, comes to an end and returns 0
exactly when the temporary name of its process was neither in use nor left behind
as it began, and fits the buffer. -/
theorem write_succeeds_iff {start state : State} {early : List Event} (fresh : Start path start)
    (ran : runs (step path) start early = some state) :
    (state.read path = start.read path ∨ ∃ call ∈ state.calls, state.read path = some call.data) ∧
      ∀ (index count : Nat) (call : Call) (next final : State) (later : List Event),
        state.calls[index]? = some call → call.phase = .opening →
        step path state (.operate index (.works count)) = some next →
        runs (step path) next later = some final → Undisturbed index call.pid later →
        ∃ now, final.calls[index]? = some now ∧ now.data = call.data ∧
          operations index later ≤ call.data.length + 3 ∧
          ((∃ ok, now.phase = .returned ok) ∨
            ∃ after, step path final (.operate index (.works 1)) = some after) ∧
          ((∃ ok, now.phase = .returned ok) → (now.phase = .returned true ↔
            ¬ Occupied state call.pid ∧ (tmp path call.pid).length < TMP_SIZE)) := by
  have owned := run_owned fresh ran
  refine ⟨owned.read fresh, ?_⟩
  intro index count call next final later found opening stepped rest undisturbed
  have opened := opens owned found opening stepped
  by_cases free : ¬ Occupied state call.pid ∧ (tmp path call.pid).length < TMP_SIZE
  · rw [if_pos free] at opened
    obtain ⟨now, atIndex, -, sameData, onTrack, bound⟩ :=
      run_going (step_owned owned stepped) opened rest undisturbed
    have ends := onTrack_continues path atIndex onTrack
    refine ⟨now, atIndex, sameData, by omega, ends.imp_left (fun returned => ⟨true, returned⟩), ?_⟩
    rintro ⟨ok, returned⟩
    cases ok with
    | true => exact ⟨fun _ => free, fun _ => returned⟩
    | false => simp [Call.OnTrack, returned] at onTrack
  · rw [if_neg free] at opened
    have returned : (call.becomes (.returned false)).phase = .returned false := rfl
    have idle : operations index later = 0 := operations_returned returned opened rest
    refine ⟨_, run_returned returned rest opened, rfl, by omega, .inl ⟨false, rfl⟩, ?_⟩
    intro _
    exact ⟨fun succeeded => absurd succeeded (by simp), fun isFree => absurd isFree free⟩

end Machine

/-! ## A crash and a later process of the same number -/

section Example

private def path : Name := "sessions.db".toList

private def empty : State := { files := fun _ => none, calls := [], stranded := [] }

private theorem empty_start : Start path empty :=
  ⟨rfl, nofun, fun _ => ⟨nofun, fun used => absurd rfl used⟩⟩

private def begun : State :=
  { empty with calls := [{ pid := 100, data := [7], written := 0, phase := .opening }] }

/-- One undisturbed write returns 0, its name being free. -/
theorem write_succeeds_iff_first :
    ∃ (next final : State) (now : Call),
      step path begun (.operate 0 (.works 0)) = some next ∧
      runs (step path) next [.operate 0 (.works 1), .operate 0 (.works 0), .operate 0 (.works 0),
        .operate 0 (.works 0)] = some final ∧
      final.calls[0]? = some now ∧
      (now.phase = .returned true ↔ ¬ Occupied begun 100 ∧ (tmp path 100).length < TMP_SIZE) := by
  have whole := @write_succeeds_iff path empty begun [.begin_ 100 [7]] empty_start rfl
  obtain ⟨now, atIndex, -, -, -, exact_⟩ := whole.2 0 0
    { pid := 100, data := [7], written := 0, phase := .opening } _ _
    [.operate 0 (.works 1), .operate 0 (.works 0), .operate 0 (.works 0), .operate 0 (.works 0)]
    rfl rfl rfl rfl (by decide)
  refine ⟨_, _, now, rfl, rfl, atIndex, exact_ ⟨true, ?_⟩⟩
  rw [show now = { pid := 100, data := [7], written := 1, phase := .returned true } from
    (Option.some.inj atIndex).symm]

/-- Process 100 ends between `open` and `rename`; the next process 100 cannot write
the file, though no operation of the disk fails. -/
theorem write_fails_after_crash :
    ∃ (early : List Event) (state next : State), Start path empty ∧
      runs (step path) empty early = some state ∧
      state.calls[1]?.map Call.phase = some .opening ∧
      step path state (.operate 1 (.works 0)) = some next ∧
      next.calls[1]?.map Call.phase = some (.returned false) := by
  refine ⟨[.begin_ 100 [7], .operate 0 (.works 0), .crash 100, .begin_ 100 [8]], _, _,
    empty_start, rfl, ?_, rfl, ?_⟩
  all_goals decide +kernel

end Example

end JooanW3U.Daemon.WriteAtomic
