import Mathlib.Data.List.Infix
import Mathlib.Logic.Function.Basic
import JooanW3U.Library.Runs

/-!
Owns the staging of a media update: the part files in RAM, the receive, apply,
discard, tick and status calls with the sections their lock divides them into,
and the update script once it has been started.  A receive writes and verifies
without the lock and an apply verifies with it held; the script is only ever
started on the very files that were staged and have just been verified.

Does not own the platform's verifier, which is a parameter, the bytes of the
upload or what the scripts do.
-/

namespace JooanW3U.Media.Update

open JooanW3U.Library

def HEADER : Nat := 96
def IMAGE_BYTES : Nat := 3211264
def MANIFEST_MAX : Nat := 8192
def SIGNATURE_MAX : Nat := 256
def SCRIPT_MAX : Nat := 32768
def STAGED_US : UInt64 := 15 * 60 * 1000000

/-- The files of a package, in the order they arrive. -/
inductive Part
  | manifest
  | signature
  | upgrade
  | apply
  | image
  deriving Repr, DecidableEq

namespace Part

def name : Part → String
  | manifest => "release.manifest"
  | signature => "release.manifest.sig"
  | upgrade => "upgrade-appfs.sh"
  | apply => "apply-media-update.sh"
  | image => "appfs.img"

def next : Part → Option Part
  | manifest => some signature
  | signature => some upgrade
  | upgrade => some apply
  | apply => some image
  | image => none

end Part

/-- Bytes of a file or of a C string, as characters. -/
abbrev Text := List Char

/-- The part files that exist. -/
abbrev Files := Part → Option Text

/-- The header's size line passes the checks of `receive_package`. -/
def LegalSizes (sizes : Part → Nat) (total : Nat) : Prop :=
  0 < sizes .manifest ∧ sizes .manifest ≤ MANIFEST_MAX ∧
    0 < sizes .signature ∧ sizes .signature ≤ SIGNATURE_MAX ∧
    0 < sizes .upgrade ∧ sizes .upgrade ≤ SCRIPT_MAX ∧
    0 < sizes .apply ∧ sizes .apply ≤ SCRIPT_MAX ∧
    sizes .image = IMAGE_BYTES ∧
    total = HEADER + sizes .manifest + sizes .signature + sizes .upgrade + sizes .apply +
      sizes .image

instance (sizes : Part → Nat) (total : Nat) : Decidable (LegalSizes sizes total) :=
  inferInstanceAs (Decidable (_ ∧ _))

/-! ## The manifest -/

/-- What a C string read from a file holds: `read_text` with this capacity. -/
def read_text (file : Text) (capacity : Nat) : Text :=
  (file.take (capacity - 1)).takeWhile (· ≠ Char.ofNat 0)

/-- `field` on the manifest's lines; the last one has no newline behind it. -/
def fieldIn (key : Text) (capacity : Nat) : List Text → Option Text
  | [] => none
  | [_] => none
  | line :: rest =>
      if "files-begin".toList.isPrefixOf line then none
      else if (key ++ ['=']).isPrefixOf line then
        let value := line.drop (key.length + 1)
        if value.length ≥ capacity then none else some value
      else fieldIn key capacity rest

def field (manifest : Text) (key : String) (capacity : Nat) : Option Text :=
  fieldIn key.toList capacity (manifest.splitOn '\n')

def plain_release (text : Text) : Prop :=
  text.length = 17 ∧ text[8]? = some '-' ∧
    ∀ index < 17, index ≠ 8 → ∃ digit ∈ "0123456789abcdef".toList, text[index]? = some digit

instance (text : Text) : Decidable (plain_release text) :=
  decidable_of_iff (text.length = 17 ∧ text[8]? = some '-' ∧
      ((List.range 17).all fun index =>
        index = 8 || "0123456789abcdef".toList.any fun digit => text[index]? = some digit) = true)
    (by simp only [plain_release, List.all_eq_true, List.mem_range, Bool.or_eq_true,
      decide_eq_true_eq, List.any_eq_true, or_iff_not_imp_left, ne_eq])

/-- The checks of `receive_package` on a verified manifest, and the release they
leave in `value`. -/
def manifestRelease (files : Files) : Option Text :=
  match files .manifest with
  | none => none
  | some file =>
      let manifest := read_text file (MANIFEST_MAX + 1)
      if field manifest "artifact_kind" 64 = some "media".toList ∧
          field manifest "target_id" 64 =
            some "jooan-ja-a12-t23n-dual-cv2005-skw6316".toList ∧
          field manifest "device_model" 64 = some "JA-A12".toList then
        match field manifest "release_version" 64 with
        | none => none
        | some value =>
            if plain_release value ∧
                [Part.upgrade, .apply, .image].all fun part =>
                  decide (("  " ++ part.name ++ "\n").toList <:+: manifest) then
              some value
            else none
      else none

/-! ## State -/

/-- The update script after it was started, until it is reaped. -/
inductive Script
  | running
  | ended (succeeded : Bool) (log : Text)
  deriving DecidableEq

/-- Where a call stands.  Those from `header` to `ending` belong to a receive and
run without the lock; `applying` and `verified` hold it. -/
inductive Phase
  | idle
  | header
  /-- The part at hand, and the bytes still to come once its file is open. -/
  | part (sizes : Part → Nat) (part : Part) (left : Option Nat)
  | verifying
  | manifest
  | checking (value : Text)
  | staging (value : Text)
  | ending (ok : Bool)
  | applying (wanted : Text)
  | verified (wanted : Text)

/-- The statics and the files.  `staged` is what the last receive that succeeded
had verified; no step reads it. -/
structure Shared where
  receiving : Bool
  applying : Option Script
  staged_at : UInt64
  release : Text
  failed : Text
  files : Files
  lock : Option Nat
  staged : Option Files

structure State where
  shared : Shared
  calls : List Phase

namespace Shared

def wipe (shared : Shared) : Shared :=
  { shared with files := fun _ => none, release := [], staged_at := 0, staged := none }

/-- The message kept of a script that failed: its last ABORT line. -/
def whyFailed (log : Text) : Text :=
  let text := read_text log 4096
  let why := ((text.tails.filter ("ABORT".toList.isPrefixOf ·)).getLast?).getD
    "the update script failed".toList
  (why.take 150).takeWhile (· ≠ '\n')

def reap (shared : Shared) : Shared :=
  match shared.applying with
  | some (.ended succeeded log) =>
      { shared with
        applying := none
        failed := if succeeded then shared.failed else whyFailed log }
  | _ => shared

end Shared

/-- One section of a call. -/
inductive Action
  | receive
  /-- The size line, if the header is one, and the announced length. -/
  | header (sizes : Option (Part → Nat)) (total : Nat)
  | openPart (ok : Bool)
  | chunk (bytes : Text)
  | closePart
  /-- The upload stopped or the file could not be written. -/
  | stop
  /-- `ran` is false when the verifier could not be run. -/
  | verify (ran : Bool)
  | readManifest
  | check (passes : Bool)
  | stage (now : UInt64)
  | finish
  | apply (wanted : Text)
  | verifyStaged (ran : Bool)
  | spawn (ok : Bool)
  | discard
  | tick (now limit : UInt64)
  | json

inductive Event
  | call (index : Nat) (action : Action)
  | scriptEnds (succeeded : Bool) (log : Text)

section Machine

variable (verifier : Files → Bool)

/-- One section of the call with this index. -/
def act (shared : Shared) (index : Nat) : Phase → Action → Option (Shared × Phase)
  | .idle, .receive =>
      if shared.lock ≠ none then none
      else if shared.receiving = true ∨ shared.applying ≠ none then some (shared, .idle)
      else some ({ shared.wipe with receiving := true, failed := [] }, .header)
  | .header, .header sizes total =>
      match sizes with
      | none => some (shared, .ending false)
      | some sizes =>
          if LegalSizes sizes total then some (shared, .part sizes .manifest none)
          else some (shared, .ending false)
  | .part sizes part none, .openPart ok =>
      if ok then
        some ({ shared with files := Function.update shared.files part (some []) },
          .part sizes part (some (sizes part)))
      else some (shared, .ending false)
  | .part sizes part (some left), .chunk bytes =>
      if bytes.length ≤ left then
        let written := (shared.files part).getD [] ++ bytes
        some ({ shared with files := Function.update shared.files part (some written) },
          .part sizes part (some (left - bytes.length)))
      else none
  | .part sizes part (some 0), .closePart =>
      match part.next with
      | some part => some (shared, .part sizes part none)
      | none => some (shared, .verifying)
  | .part _ _ (some (_ + 1)), .stop => some (shared, .ending false)
  | .verifying, .verify ran =>
      if ran = true ∧ verifier shared.files = true then some (shared, .manifest)
      else some (shared, .ending false)
  | .manifest, .readManifest =>
      match manifestRelease shared.files with
      | none => some (shared, .ending false)
      | some value => some (shared, .checking value)
  | .checking value, .check passes =>
      some (shared, if passes then .staging value else .ending false)
  | .staging value, .stage now =>
      some ({ shared with
        release := value.take 31, staged_at := now, staged := some shared.files }, .ending true)
  | .ending ok, .finish =>
      if shared.lock ≠ none then none
      else if ok then some ({ shared with receiving := false }, .idle)
      else some ({ shared.wipe with receiving := false }, .idle)
  | .idle, .apply wanted =>
      if shared.lock ≠ none then none
      else if shared.applying ≠ none ∨ shared.receiving = true ∨ shared.release = [] ∨
          wanted ≠ shared.release then
        some (shared, .idle)
      else some ({ shared with lock := some index }, .applying wanted)
  | .applying wanted, .verifyStaged ran =>
      if ran = true ∧ verifier shared.files = true then some (shared, .verified wanted)
      else some ({ shared.wipe with lock := none }, .idle)
  | .verified _, .spawn ok =>
      some ({ shared with
        failed := [], applying := if ok then some .running else none, lock := none }, .idle)
  | .idle, .discard =>
      if shared.lock ≠ none then none
      else if shared.receiving = false ∧ shared.applying = none then
        some ({ shared.wipe with failed := [] }, .idle)
      else some (shared, .idle)
  | .idle, .tick now limit =>
      if shared.lock ≠ none then none
      else
        let shared := shared.reap
        if shared.release ≠ [] ∧ shared.applying = none ∧ shared.receiving = false ∧
            now - shared.staged_at > limit then
          some (shared.wipe, .idle)
        else some (shared, .idle)
  | .idle, .json =>
      if shared.lock ≠ none then none
      else some (shared.reap, .idle)
  | _, _ => none

def step (state : State) : Event → Option State
  | .call index action =>
      match state.calls[index]? with
      | none => none
      | some phase =>
          match act verifier state.shared index phase action with
          | none => none
          | some (shared, after) => some { shared, calls := state.calls.set index after }
  | .scriptEnds succeeded log =>
      match state.shared.applying with
      | some .running =>
          some { state with
            shared := { state.shared with applying := some (.ended succeeded log) } }
      | _ => none

end Machine

/-- The server at its start; files of an earlier one may still lie there. -/
structure Fresh (state : State) : Prop where
  receiving : state.shared.receiving = false
  applying : state.shared.applying = none
  release : state.shared.release = []
  lock : state.shared.lock = none
  calls : ∀ phase ∈ state.calls, phase = .idle

/-! ## Who may be at work -/

/-- The phase belongs to a receive that has begun. -/
def Phase.receives : Phase → Bool
  | .header | .part .. | .verifying | .manifest | .checking _ | .staging _ | .ending _ => true
  | _ => false

/-- The phase belongs to an apply that has taken the lock. -/
def Phase.applies : Phase → Bool
  | .applying _ | .verified _ => true
  | _ => false

/-- All calls but this one are idle. -/
def Alone (state : State) (index : Nat) : Prop :=
  ∀ (other : Nat) (phase : Phase),
    other ≠ index → state.calls[other]? = some phase → phase = .idle

/-- A release is staged: its files are those the last receive verified, and the
manifest among them names it. -/
def Staged (shared : Shared) : Prop :=
  shared.staged = some shared.files ∧ manifestRelease shared.files = some shared.release

/-- What a phase relies on. -/
def PhaseHolds (verifier : Files → Bool) (shared : Shared) : Phase → Prop
  | .idle => True
  | .header | .part .. | .verifying | .manifest | .ending false => shared.release = []
  | .checking value | .staging value =>
      shared.release = [] ∧ manifestRelease shared.files = some value
  | .ending true => Staged shared
  | .applying wanted => Staged shared ∧ shared.release = wanted
  | .verified wanted => Staged shared ∧ shared.release = wanted ∧ verifier shared.files = true

/-- A receive has the flag to itself, an apply the lock, and neither is there
while the script is; a release is staged while no receive is. -/
structure Invariant (verifier : Files → Bool) (state : State) : Prop where
  receiver : ∀ (index : Nat) (phase : Phase), state.calls[index]? = some phase →
    phase.receives = true → state.shared.receiving = true ∧ Alone state index
  holder : ∀ (index : Nat) (phase : Phase), state.calls[index]? = some phase →
    phase.applies = true → state.shared.lock = some index ∧ Alone state index
  locked : state.shared.lock ≠ none → state.shared.receiving = false ∧ state.shared.applying = none
  script : state.shared.applying ≠ none → state.shared.receiving = false
  staged : state.shared.receiving = false → state.shared.release ≠ [] → Staged state.shared
  phases : ∀ phase ∈ state.calls, PhaseHolds verifier state.shared phase

section Proofs

variable {verifier : Files → Bool}

theorem initial_invariant {state : State} (fresh : Fresh state) : Invariant verifier state where
  receiver := by
    intro index phase atIndex receives
    rw [fresh.calls phase (List.mem_of_getElem? atIndex)] at receives
    exact absurd receives nofun
  holder := by
    intro index phase atIndex applies
    rw [fresh.calls phase (List.mem_of_getElem? atIndex)] at applies
    exact absurd applies nofun
  locked := fun locked => absurd fresh.lock locked
  script := fun running => absurd fresh.applying running
  staged := fun _ released => absurd fresh.release released
  phases := by
    intro phase member
    rw [fresh.calls phase member]
    trivial

/-- A call that is receiving or applying is the only one that is not idle. -/
theorem Invariant.alone {state : State} (invariant : Invariant verifier state) {index : Nat}
    {phase : Phase} (atIndex : state.calls[index]? = some phase) (busy : phase ≠ .idle) :
    Alone state index := by
  cases receives : phase.receives with
  | true => exact (invariant.receiver index phase atIndex receives).2
  | false =>
      cases applies : phase.applies with
      | true => exact (invariant.holder index phase atIndex applies).2
      | false => cases phase <;> first | exact absurd rfl busy | contradiction

/-- With no receive under way and the lock free, every call is idle. -/
theorem Invariant.allIdle {state : State} (invariant : Invariant verifier state)
    (notReceiving : state.shared.receiving = false) (unlocked : state.shared.lock = none) :
    ∀ phase ∈ state.calls, phase = .idle := by
  intro phase member
  obtain ⟨index, atIndex⟩ := List.mem_iff_getElem?.mp member
  cases receives : phase.receives with
  | true =>
      have flag := (invariant.receiver index phase atIndex receives).1
      rw [notReceiving] at flag
      exact absurd flag nofun
  | false =>
      cases applies : phase.applies with
      | true =>
          have held := (invariant.holder index phase atIndex applies).1
          rw [unlocked] at held
          exact absurd held nofun
      | false => cases phase <;> first | rfl | contradiction

/-- Rule for a section of a call while all others are idle: what remains to show
is about the shared state and the call's new phase. -/
theorem invariant_of_alone {calls : List Phase} {index : Nat} {shared : Shared} {after : Phase}
    (inRange : index < calls.length)
    (others : ∀ (other : Nat) (phase : Phase),
      other ≠ index → calls[other]? = some phase → phase = .idle)
    (receiver : after.receives = true → shared.receiving = true)
    (holder : after.applies = true → shared.lock = some index)
    (locked : shared.lock ≠ none → shared.receiving = false ∧ shared.applying = none)
    (script : shared.applying ≠ none → shared.receiving = false)
    (staged : shared.receiving = false → shared.release ≠ [] → Staged shared)
    (holds : PhaseHolds verifier shared after) :
    Invariant verifier { shared, calls := calls.set index after } := by
  have atAfter : (calls.set index after)[index]? = some after := List.getElem?_set_self inRange
  have elsewhere : ∀ {other : Nat} {phase : Phase}, other ≠ index →
      (calls.set index after)[other]? = some phase → phase = .idle := by
    intro other phase different atOther
    rw [List.getElem?_set_ne (Ne.symm different)] at atOther
    exact others other phase different atOther
  have alone : Alone { shared, calls := calls.set index after } index :=
    fun other phase different atOther => elsewhere different atOther
  refine ⟨?_, ?_, locked, script, staged, ?_⟩
  · intro other phase atOther receives
    by_cases isIndex : other = index
    · subst isIndex
      rw [atAfter] at atOther
      exact ⟨receiver (Option.some.inj atOther ▸ receives), alone⟩
    · rw [elsewhere isIndex atOther] at receives
      exact absurd receives nofun
  · intro other phase atOther applies
    by_cases isIndex : other = index
    · subst isIndex
      rw [atAfter] at atOther
      exact ⟨holder (Option.some.inj atOther ▸ applies), alone⟩
    · rw [elsewhere isIndex atOther] at applies
      exact absurd applies nofun
  · intro phase member
    obtain ⟨other, atOther⟩ := List.mem_iff_getElem?.mp member
    by_cases isIndex : other = index
    · rw [isIndex, atAfter] at atOther
      exact Option.some.inj atOther ▸ holds
    · rw [elsewhere isIndex atOther]
      trivial

theorem set_idle {calls : List Phase} {index : Nat} (atIndex : calls[index]? = some .idle) :
    calls.set index .idle = calls := by
  apply List.ext_getElem?
  intro other
  rw [List.getElem?_set]
  by_cases isIndex : index = other
  · rw [if_pos isIndex, if_pos (List.getElem?_eq_some_iff.mp atIndex).1, ← isIndex, atIndex]
  · rw [if_neg isIndex]

/-- A change of the script and of the kept message alone. -/
theorem Invariant.withScript {state : State} (invariant : Invariant verifier state)
    {applying : Option Script} {failed : Text}
    (script : applying ≠ none → state.shared.applying ≠ none) :
    Invariant verifier { state with shared := { state.shared with applying, failed } } where
  receiver := invariant.receiver
  holder := invariant.holder
  locked := by
    intro locked
    have before := invariant.locked locked
    refine ⟨before.1, ?_⟩
    by_contra running
    exact script running before.2
  script := fun running => invariant.script (script running)
  staged := invariant.staged
  phases := by
    intro phase member
    have holds := invariant.phases phase member
    cases phase with
    | ending ok => cases ok <;> exact holds
    | _ => exact holds

theorem Invariant.reaped {state : State} (invariant : Invariant verifier state) :
    Invariant verifier { state with shared := state.shared.reap } := by
  unfold Shared.reap
  split
  · exact invariant.withScript fun running => absurd rfl running
  · exact invariant

/-- Wiping while no receive, no apply and no script is under way. -/
theorem Invariant.wiped {state : State} (invariant : Invariant verifier state)
    (notReceiving : state.shared.receiving = false) (unlocked : state.shared.lock = none)
    (failed : Text) :
    Invariant verifier { state with shared := { state.shared.wipe with failed } } where
  receiver := invariant.receiver
  holder := invariant.holder
  locked := invariant.locked
  script := invariant.script
  staged := fun _ released => absurd rfl released
  phases := by
    intro phase member
    rw [invariant.allIdle notReceiving unlocked phase member]
    trivial

theorem manifestRelease_length {files : Files} {value : Text}
    (named : manifestRelease files = some value) : value.length = 17 := by
  unfold manifestRelease at named
  split at named
  · exact absurd named nofun
  · simp only at named
    split at named
    · split at named
      · exact absurd named nofun
      · split at named
        · rename_i plain
          exact Option.some.inj named ▸ plain.1.1
        · exact absurd named nofun
    · exact absurd named nofun

/-- A section of a call that is idle. -/
theorem act_idle_invariant {state : State} (invariant : Invariant verifier state) {index : Nat}
    (atIndex : state.calls[index]? = some .idle) {action : Action} {shared : Shared}
    {after : Phase} (acted : act verifier state.shared index .idle action = some (shared, after)) :
    Invariant verifier { shared, calls := state.calls.set index after } := by
  have inRange : index < state.calls.length := (List.getElem?_eq_some_iff.mp atIndex).1
  have others : state.shared.receiving = false → state.shared.lock = none →
      ∀ (other : Nat) (phase : Phase), other ≠ index →
        state.calls[other]? = some phase → phase = .idle :=
    fun notReceiving unlocked other phase _ atOther =>
      invariant.allIdle notReceiving unlocked phase (List.mem_of_getElem? atOther)
  cases action with
  | receive =>
      simp only [act] at acted
      split at acted
      · exact absurd acted nofun
      · rename_i unlocked
        rw [ne_eq, not_not] at unlocked
        split at acted
        · cases acted
          rw [set_idle atIndex]
          exact invariant
        · rename_i free
          rw [not_or, Bool.not_eq_true, ne_eq, not_not] at free
          cases acted
          apply invariant_of_alone inRange (others free.1 unlocked)
          · exact fun _ => rfl
          · exact nofun
          · exact fun locked => absurd unlocked locked
          · exact fun running => absurd free.2 running
          · exact fun notReceiving => absurd notReceiving nofun
          · rfl
  | apply wanted =>
      simp only [act] at acted
      split at acted
      · exact absurd acted nofun
      · rename_i unlocked
        rw [ne_eq, not_not] at unlocked
        split at acted
        · cases acted
          rw [set_idle atIndex]
          exact invariant
        · rename_i free
          simp only [ne_eq, not_or, not_not, Bool.not_eq_true] at free
          obtain ⟨noScript, notReceiving, released, isRelease⟩ := free
          cases acted
          have staged := invariant.staged notReceiving released
          apply invariant_of_alone inRange (others notReceiving unlocked)
          · exact nofun
          · exact fun _ => rfl
          · exact fun _ => ⟨notReceiving, noScript⟩
          · exact fun running => absurd noScript running
          · exact fun _ _ => staged
          · exact ⟨staged, isRelease.symm⟩
  | discard =>
      simp only [act] at acted
      split at acted
      · exact absurd acted nofun
      · rename_i unlocked
        rw [ne_eq, not_not] at unlocked
        split at acted
        · rename_i free
          cases acted
          rw [set_idle atIndex]
          exact invariant.wiped free.1 unlocked []
        · cases acted
          rw [set_idle atIndex]
          exact invariant
  | tick now limit =>
      simp only [act] at acted
      split at acted
      · exact absurd acted nofun
      · rename_i unlocked
        rw [ne_eq, not_not] at unlocked
        have reaped := invariant.reaped
        have stillUnlocked : state.shared.reap.lock = none := by
          unfold Shared.reap
          split <;> exact unlocked
        split at acted
        · rename_i expired
          cases acted
          rw [set_idle atIndex]
          exact reaped.wiped expired.2.2.1 stillUnlocked state.shared.reap.failed
        · cases acted
          rw [set_idle atIndex]
          exact reaped
  | json =>
      simp only [act] at acted
      split at acted
      · exact absurd acted nofun
      · cases acted
        rw [set_idle atIndex]
        exact invariant.reaped
  | _ => exact absurd acted nofun

/-- A section of a receive that leaves it receiving. -/
theorem receiving_invariant {calls : List Phase} {index : Nat} {shared : Shared} {after : Phase}
    (inRange : index < calls.length)
    (others : ∀ (other : Nat) (phase : Phase),
      other ≠ index → calls[other]? = some phase → phase = .idle)
    (receiving : shared.receiving = true) (unlocked : shared.lock = none)
    (noScript : shared.applying = none) (receives : after.applies = false)
    (holds : PhaseHolds verifier shared after) :
    Invariant verifier { shared, calls := calls.set index after } := by
  apply invariant_of_alone inRange others
  · exact fun _ => receiving
  · exact fun applies => absurd (receives.symm.trans applies) nofun
  · exact fun locked => absurd unlocked locked
  · exact fun running => absurd noScript running
  · exact fun notReceiving => absurd (notReceiving.symm.trans receiving) nofun
  · exact holds

/-- A section of a receive that has begun. -/
theorem act_receive_invariant {state : State} (invariant : Invariant verifier state) {index : Nat}
    {phase : Phase} (atIndex : state.calls[index]? = some phase) (receives : phase.receives = true)
    {action : Action} {shared : Shared} {after : Phase}
    (acted : act verifier state.shared index phase action = some (shared, after)) :
    Invariant verifier { shared, calls := state.calls.set index after } := by
  have inRange : index < state.calls.length := (List.getElem?_eq_some_iff.mp atIndex).1
  have holds := invariant.phases phase (List.mem_of_getElem? atIndex)
  obtain ⟨receiving, alone⟩ := invariant.receiver index phase atIndex receives
  have unlocked : state.shared.lock = none := by
    by_contra locked
    exact absurd ((invariant.locked locked).1.symm.trans receiving) nofun
  have noScript : state.shared.applying = none := by
    by_contra running
    exact absurd ((invariant.script running).symm.trans receiving) nofun
  have stays : ∀ {files : Files} {after : Phase}, after.applies = false →
      PhaseHolds verifier { state.shared with files } after →
      Invariant verifier
        { shared := { state.shared with files }, calls := state.calls.set index after } :=
    fun notApplies holds => receiving_invariant inRange alone receiving unlocked noScript notApplies
      holds
  cases phase with
  | idle | applying | verified => exact absurd receives nofun
  | header =>
      cases action with
      | header sizes total =>
          simp only [act] at acted
          split at acted
          · cases acted
            exact stays rfl holds
          · split at acted
            · cases acted
              exact stays rfl holds
            · cases acted
              exact stays rfl holds
      | _ => exact absurd acted nofun
  | part sizes part left =>
      cases left with
      | none =>
          cases action with
          | openPart ok =>
              simp only [act] at acted
              split at acted
              · cases acted
                exact stays rfl holds
              · cases acted
                exact stays rfl holds
          | _ => exact absurd acted nofun
      | some left =>
          cases action with
          | chunk bytes =>
              simp only [act] at acted
              split at acted
              · cases acted
                exact stays rfl holds
              · exact absurd acted nofun
          | closePart =>
              cases left with
              | succ left => exact absurd acted nofun
              | zero =>
                  simp only [act] at acted
                  split at acted
                  · cases acted
                    exact stays rfl holds
                  · cases acted
                    exact stays rfl holds
          | stop =>
              cases left with
              | zero => exact absurd acted nofun
              | succ left =>
                  cases acted
                  exact stays rfl holds
          | _ => cases left <;> exact absurd acted nofun
  | verifying =>
      cases action with
      | verify ran =>
          simp only [act] at acted
          split at acted
          · cases acted
            exact stays rfl holds
          · cases acted
            exact stays rfl holds
      | _ => exact absurd acted nofun
  | manifest =>
      cases action with
      | readManifest =>
          simp only [act] at acted
          split at acted
          · cases acted
            exact stays rfl holds
          · rename_i value named
            cases acted
            exact stays rfl ⟨holds, named⟩
      | _ => exact absurd acted nofun
  | checking value =>
      cases action with
      | check passes =>
          cases passes with
          | true =>
              cases acted
              exact stays rfl holds
          | false =>
              cases acted
              exact stays rfl holds.1
      | _ => exact absurd acted nofun
  | staging value =>
      cases action with
      | stage now =>
          cases acted
          refine receiving_invariant inRange alone receiving unlocked noScript rfl ⟨rfl, ?_⟩
          show manifestRelease state.shared.files = some (value.take 31)
          rw [holds.2, List.take_of_length_le]
          rw [manifestRelease_length holds.2]
          decide
      | _ => exact absurd acted nofun
  | ending ok =>
      cases action with
      | finish =>
          simp only [act, unlocked, ne_eq, not_true_eq_false, if_false] at acted
          cases ok with
          | true =>
              cases acted
              apply invariant_of_alone inRange alone
              · exact nofun
              · exact nofun
              · exact fun locked => absurd rfl locked
              · exact fun running => absurd noScript running
              · exact fun _ _ => holds
              · trivial
          | false =>
              cases acted
              apply invariant_of_alone inRange alone
              · exact nofun
              · exact nofun
              · exact fun locked => absurd unlocked locked
              · exact fun running => absurd noScript running
              · exact fun _ released => absurd rfl released
              · trivial
      | _ => exact absurd acted nofun

/-- A section of an apply that holds the lock. -/
theorem act_apply_invariant {state : State} (invariant : Invariant verifier state) {index : Nat}
    {phase : Phase} (atIndex : state.calls[index]? = some phase) (applies : phase.applies = true)
    {action : Action} {shared : Shared} {after : Phase}
    (acted : act verifier state.shared index phase action = some (shared, after)) :
    Invariant verifier { shared, calls := state.calls.set index after } := by
  have inRange : index < state.calls.length := (List.getElem?_eq_some_iff.mp atIndex).1
  have holds := invariant.phases phase (List.mem_of_getElem? atIndex)
  obtain ⟨held, alone⟩ := invariant.holder index phase atIndex applies
  have locked : state.shared.lock ≠ none := held ▸ Option.some_ne_none index
  obtain ⟨notReceiving, noScript⟩ := invariant.locked locked
  cases phase with
  | applying wanted =>
      cases action with
      | verifyStaged ran =>
          simp only [act] at acted
          split at acted
          · rename_i verified
            cases acted
            apply invariant_of_alone inRange alone
            · exact nofun
            · exact fun _ => held
            · exact invariant.locked
            · exact invariant.script
            · exact invariant.staged
            · exact ⟨holds.1, holds.2, verified.2⟩
          · cases acted
            apply invariant_of_alone inRange alone
            · exact nofun
            · exact nofun
            · exact fun locked => absurd rfl locked
            · exact fun running => absurd noScript running
            · exact fun _ released => absurd rfl released
            · trivial
      | _ => exact absurd acted nofun
  | verified wanted =>
      cases action with
      | spawn ok =>
          cases acted
          apply invariant_of_alone inRange alone
          · exact nofun
          · exact nofun
          · exact fun locked => absurd rfl locked
          · exact fun _ => notReceiving
          · exact invariant.staged
          · trivial
      | _ => exact absurd acted nofun
  | _ => exact absurd applies nofun

theorem step_call {state next : State} {index : Nat} {action : Action}
    (stepped : step verifier state (.call index action) = some next) :
    ∃ phase shared after, state.calls[index]? = some phase ∧
      act verifier state.shared index phase action = some (shared, after) ∧
        next = { shared, calls := state.calls.set index after } := by
  simp only [step] at stepped
  cases atIndex : state.calls[index]? with
  | none =>
      rw [atIndex] at stepped
      exact absurd stepped nofun
  | some phase =>
      simp only [atIndex] at stepped
      cases acted : act verifier state.shared index phase action with
      | none =>
          rw [acted] at stepped
          exact absurd stepped nofun
      | some result =>
          simp only [acted, Option.some.injEq] at stepped
          exact ⟨phase, result.1, result.2, rfl, acted, stepped.symm⟩

theorem step_invariant {state next : State} {event : Event}
    (invariant : Invariant verifier state) (stepped : step verifier state event = some next) :
    Invariant verifier next := by
  cases event with
  | scriptEnds succeeded log =>
      simp only [step] at stepped
      split at stepped
      · rename_i running
        cases stepped
        exact invariant.withScript fun _ => by rw [running]; exact Option.some_ne_none _
      · exact absurd stepped nofun
  | call index action =>
      obtain ⟨phase, shared, after, atIndex, acted, isNext⟩ := step_call stepped
      subst isNext
      cases receives : phase.receives with
      | true => exact act_receive_invariant invariant atIndex receives acted
      | false =>
          cases applies : phase.applies with
          | true => exact act_apply_invariant invariant atIndex applies acted
          | false =>
              have idle : phase = .idle := by
                cases phase <;> first | rfl | contradiction
              subst idle
              exact act_idle_invariant invariant atIndex acted

/-! ## What the staging guarantees -/

/-- The event starts the package's script with `apply`, for this release. -/
def StartsScript (state : State) (event : Event) (wanted : Text) : Prop :=
  ∃ index, event = .call index (.spawn true) ∧ state.calls[index]? = some (.verified wanted)

/-- A call that writes or deletes part files is the only one at work, and no
script runs. -/
theorem files_change {state next : State} {event : Event} (invariant : Invariant verifier state)
    (stepped : step verifier state event = some next)
    (changed : next.shared.files ≠ state.shared.files) :
    ∃ index action, event = .call index action ∧ Alone state index ∧
      state.shared.applying ≠ some .running := by
  cases event with
  | scriptEnds succeeded log =>
      simp only [step] at stepped
      split at stepped
      · cases stepped
        exact absurd rfl changed
      · exact absurd stepped nofun
  | call index action =>
      obtain ⟨phase, shared, after, atIndex, acted, isNext⟩ := step_call stepped
      subst isNext
      refine ⟨index, action, rfl, ?_⟩
      cases receives : phase.receives with
      | true =>
          obtain ⟨receiving, alone⟩ := invariant.receiver index phase atIndex receives
          refine ⟨alone, fun running => ?_⟩
          have notReceiving := invariant.script (running ▸ Option.some_ne_none _)
          exact absurd (notReceiving.symm.trans receiving) nofun
      | false =>
          cases applies : phase.applies with
          | true =>
              obtain ⟨held, alone⟩ := invariant.holder index phase atIndex applies
              have noScript := (invariant.locked (held ▸ Option.some_ne_none index)).2
              exact ⟨alone, fun running => absurd (noScript.symm.trans running) nofun⟩
          | false =>
              have idle : phase = .idle := by
                cases phase <;> first | rfl | contradiction
              subst idle
              have quiet : state.shared.receiving = false → state.shared.lock = none →
                  Alone state index :=
                fun notReceiving unlocked other twin _ atOther =>
                  invariant.allIdle notReceiving unlocked twin (List.mem_of_getElem? atOther)
              cases action with
              | receive =>
                  simp only [act] at acted
                  split at acted
                  · exact absurd acted nofun
                  · rename_i unlocked
                    rw [ne_eq, not_not] at unlocked
                    split at acted
                    · cases acted
                      exact absurd rfl changed
                    · rename_i free
                      rw [not_or, Bool.not_eq_true, ne_eq, not_not] at free
                      refine ⟨quiet free.1 unlocked, fun running => ?_⟩
                      exact absurd (free.2.symm.trans running) nofun
              | apply wanted =>
                  simp only [act] at acted
                  split at acted
                  · exact absurd acted nofun
                  · split at acted
                    · cases acted
                      exact absurd rfl changed
                    · cases acted
                      exact absurd rfl changed
              | discard =>
                  simp only [act] at acted
                  split at acted
                  · exact absurd acted nofun
                  · rename_i unlocked
                    rw [ne_eq, not_not] at unlocked
                    split at acted
                    · rename_i free
                      refine ⟨quiet free.1 unlocked, fun running => ?_⟩
                      exact absurd (free.2.symm.trans running) nofun
                    · cases acted
                      exact absurd rfl changed
              | tick now limit =>
                  have reapKeeps : state.shared.reap.files = state.shared.files ∧
                      state.shared.reap.receiving = state.shared.receiving := by
                    unfold Shared.reap
                    split <;> exact ⟨rfl, rfl⟩
                  simp only [act] at acted
                  split at acted
                  · exact absurd acted nofun
                  · rename_i unlocked
                    rw [ne_eq, not_not] at unlocked
                    split at acted
                    · rename_i expired
                      have notReceiving := reapKeeps.2.symm.trans expired.2.2.1
                      refine ⟨quiet notReceiving unlocked, fun running => ?_⟩
                      have stillRuns : state.shared.reap.applying = some .running := by
                        rw [Shared.reap, running]
                        exact running
                      exact absurd (expired.2.1.symm.trans stillRuns) nofun
                    · cases acted
                      exact absurd reapKeeps.1 changed
              | json =>
                  simp only [act] at acted
                  split at acted
                  · exact absurd acted nofun
                  · cases acted
                    refine absurd ?_ changed
                    unfold Shared.reap
                    split <;> rfl
              | _ => exact absurd acted nofun

/-- In every run, the script is started only for the staged release, on exactly
the files its receive verified and that have verified again in this apply; and
whatever writes or deletes part files does so with no other receive, no other
apply and no script under way. -/
theorem update_staging {start state next : State} {events : List Event} {event : Event}
    (fresh : Fresh start)
    (run : Run (fun state event next => step verifier state event = some next) start events state)
    (stepped : step verifier state event = some next) :
    (∀ wanted, StartsScript state event wanted →
      state.shared.release = wanted ∧ state.shared.staged = some state.shared.files ∧
        manifestRelease state.shared.files = some wanted ∧
        verifier state.shared.files = true ∧ next.shared.files = state.shared.files) ∧
    (next.shared.files ≠ state.shared.files →
      ∃ index action, event = .call index action ∧ Alone state index ∧
        state.shared.applying ≠ some .running) := by
  have invariant : Invariant verifier state :=
    run.preserves (fun _ _ _ invariant stepped => step_invariant invariant stepped)
      (initial_invariant fresh)
  refine ⟨?_, files_change invariant stepped⟩
  intro wanted starts
  obtain ⟨index, isEvent, atIndex⟩ := starts
  subst isEvent
  obtain ⟨staged, isRelease, verified⟩ := invariant.phases _ (List.mem_of_getElem? atIndex)
  have sameFiles : next.shared.files = state.shared.files := by
    obtain ⟨phase, shared, after, atPhase, acted, isNext⟩ := step_call stepped
    have isPhase : phase = .verified wanted := Option.some.inj (atPhase.symm.trans atIndex)
    subst isPhase isNext
    cases acted
    rfl
  exact ⟨isRelease, staged.1, isRelease ▸ staged.2, verified, sameFiles⟩

/-! ## A package on its way -/

/-- The server with one idle call and nothing staged. -/
def idleServer : State where
  shared := {
    receiving := false
    applying := none
    staged_at := 0
    release := []
    failed := []
    files := fun _ => none
    lock := none
    staged := none }
  calls := [.idle]

theorem idleServer_fresh : Fresh idleServer where
  receiving := rfl
  applying := rfl
  release := rfl
  lock := rfl
  calls := by simp [idleServer]

/-- The bytes of one part arrive and are written. -/
def partArrives (bytes : Text) : List Event :=
  [.call 0 (.openPart true), .call 0 (.chunk bytes), .call 0 .closePart]

/-- The whole upload, its checks, and the request to install it. -/
def packageArrives (package : Part → Text) (total : Nat) (value : Text) : List Event :=
  [.call 0 .receive, .call 0 (.header (some fun part => (package part).length) total)] ++
    (partArrives (package .manifest) ++ partArrives (package .signature) ++
      partArrives (package .upgrade) ++ partArrives (package .apply) ++
      partArrives (package .image)) ++
    [.call 0 (.verify true), .call 0 .readManifest, .call 0 (.check true), .call 0 (.stage 0),
      .call 0 .finish, .call 0 (.apply value), .call 0 (.verifyStaged true)]

/-- A receiving server with these files and its one call in this phase. -/
def receivingServer (files : Files) (phase : Phase) : State where
  shared := { idleServer.shared with receiving := true, files }
  calls := [phase]

theorem partArrives_run (package : Part → Text) (files : Files) (part : Part) :
    Run (fun state event next => step verifier state event = some next)
      (receivingServer files (.part (fun part => (package part).length) part none))
      (partArrives (package part))
      (receivingServer (Function.update files part (some (package part)))
        (match part.next with
          | some part => .part (fun part => (package part).length) part none
          | none => .verifying)) := by
  have opened : step verifier
      (receivingServer files (.part (fun part => (package part).length) part none))
      (.call 0 (.openPart true)) =
        some (receivingServer (Function.update files part (some []))
          (.part (fun part => (package part).length) part (some (package part).length))) := rfl
  have written : step verifier
      (receivingServer (Function.update files part (some []))
        (.part (fun part => (package part).length) part (some (package part).length)))
      (.call 0 (.chunk (package part))) =
        some (receivingServer (Function.update files part (some (package part)))
          (.part (fun part => (package part).length) part (some 0))) := by
    simp [step, act, receivingServer]
  refine .cons opened (.cons written (.cons ?_ (.nil _)))
  cases part with
  | manifest | signature | upgrade | apply | image => rfl

/-- A package of legal sizes that verifies and names a release comes to the
point where its script is started. -/
theorem packageArrives_run {package : Part → Text} {total : Nat} {value : Text}
    (legal : LegalSizes (fun part => (package part).length) total)
    (verified : verifier (fun part => some (package part)) = true)
    (named : manifestRelease (fun part => some (package part)) = some value) :
    ∃ state, Run (fun state event next => step verifier state event = some next) idleServer
        (packageArrives package total value) state ∧
      StartsScript state (.call 0 (.spawn true)) value := by
  have begins : Run (fun state event next => step verifier state event = some next) idleServer
      [.call 0 .receive, .call 0 (.header (some fun part => (package part).length) total)]
      (receivingServer (fun _ => none)
        (.part (fun part => (package part).length) .manifest none)) := by
    have parsed : step verifier (receivingServer (fun _ => none) .header)
        (.call 0 (.header (some fun part => (package part).length) total)) =
          some (receivingServer (fun _ => none)
            (.part (fun part => (package part).length) .manifest none)) := by
      simp only [step, act, receivingServer, List.getElem?_cons_zero, if_pos legal, List.set_cons_zero]
    exact .cons rfl (.cons parsed (.nil _))
  have arrives := ((((@partArrives_run verifier package (fun _ => none) .manifest).append
    (partArrives_run package _ .signature)).append (partArrives_run package _ .upgrade)).append
      (partArrives_run package _ .apply)).append (partArrives_run package _ .image)
  have whole : Function.update (Function.update (Function.update (Function.update (Function.update
      (fun _ => none) .manifest (some (package .manifest))) .signature (some (package .signature)))
        .upgrade (some (package .upgrade))) .apply (some (package .apply)))
          .image (some (package .image)) = fun part => some (package part) := by
    funext part
    cases part <;> rfl
  rw [whole] at arrives
  have short : value.take 31 = value := by
    apply List.take_of_length_le
    rw [manifestRelease_length named]
    decide
  have nonempty : value ≠ [] := by
    intro empty
    have length := manifestRelease_length named
    rw [empty] at length
    exact absurd length (by decide)
  let files : Files := fun part => some (package part)
  let staged : Shared :=
    { idleServer.shared with files, release := value, staged := some files }
  have checked : Run (fun state event next => step verifier state event = some next)
      (receivingServer files .verifying)
      [.call 0 (.verify true), .call 0 .readManifest, .call 0 (.check true), .call 0 (.stage 0),
        .call 0 .finish]
      { shared := staged, calls := [.idle] } := by
    have verifies : step verifier (receivingServer files .verifying) (.call 0 (.verify true)) =
        some (receivingServer files .manifest) := by
      simp [step, act, receivingServer, files, verified]
    have names : step verifier (receivingServer files .manifest) (.call 0 .readManifest) =
        some (receivingServer files (.checking value)) := by
      simp [step, act, receivingServer, files, named]
    have stages : step verifier (receivingServer files (.staging value)) (.call 0 (.stage 0)) =
        some { shared := { staged with receiving := true }, calls := [.ending true] } := by
      simp [step, act, receivingServer, staged, short, idleServer]
    exact .cons verifies (.cons names (.cons rfl (.cons stages (.cons rfl (.nil _)))))
  have applied : Run (fun state event next => step verifier state event = some next)
      { shared := staged, calls := [.idle] }
      [.call 0 (.apply value), .call 0 (.verifyStaged true)]
      { shared := { staged with lock := some 0 }, calls := [.verified value] } := by
    have applies : step verifier { shared := staged, calls := [.idle] } (.call 0 (.apply value)) =
        some { shared := { staged with lock := some 0 }, calls := [.applying value] } := by
      simp [step, act, staged, idleServer, nonempty]
    have verifies : step verifier
        { shared := { staged with lock := some 0 }, calls := [.applying value] }
        (.call 0 (.verifyStaged true)) =
          some { shared := { staged with lock := some 0 }, calls := [.verified value] } := by
      simp [step, act, staged, files, verified]
    exact .cons applies (.cons verifies (.nil _))
  refine ⟨_, (begins.append arrives).append (checked.append applied), 0, rfl, rfl⟩

end Proofs

/-! ## One package -/

def sampleManifest : Text :=
  ("artifact_kind=media\ntarget_id=jooan-ja-a12-t23n-dual-cv2005-skw6316\n" ++
    "device_model=JA-A12\nrelease_version=0123abcd-20260101\n" ++
    "  upgrade-appfs.sh\n  apply-media-update.sh\n  appfs.img\n").toList

def samplePackage : Part → Text
  | .manifest => sampleManifest
  | .image => List.replicate IMAGE_BYTES 'i'
  | _ => ['s']

def sampleRelease : Text := "0123abcd-20260101".toList

/-- A verifier with nothing to object to. -/
def acceptAll : Files → Bool := fun _ => true

theorem update_staging_sample :
    ∃ state next : State,
      step acceptAll state (.call 0 (.spawn true)) = some next ∧
        StartsScript state (.call 0 (.spawn true)) sampleRelease ∧
        state.shared.staged = some state.shared.files ∧
        manifestRelease state.shared.files = some sampleRelease := by
  let sizes : Part → Nat := fun part => (samplePackage part).length
  have imageLength : sizes .image = IMAGE_BYTES := List.length_replicate
  have manifestLength : 0 < sizes .manifest ∧ sizes .manifest ≤ MANIFEST_MAX := by decide +kernel
  have legal : LegalSizes sizes (HEADER + sizes .manifest + sizes .signature + sizes .upgrade +
      sizes .apply + sizes .image) :=
    ⟨manifestLength.1, manifestLength.2, by decide, by decide, by decide, by decide, by decide,
      by decide, imageLength, rfl⟩
  have named : manifestRelease (fun part => some (samplePackage part)) = some sampleRelease := by
    decide +kernel
  obtain ⟨state, run, starts⟩ := packageArrives_run legal (rfl : acceptAll _ = true) named
  obtain ⟨next, stepped⟩ : ∃ next,
      step acceptAll state (.call 0 (.spawn true)) = some next := by
    obtain ⟨index, isEvent, atIndex⟩ := starts
    cases isEvent
    simp only [step, atIndex]
    exact ⟨_, rfl⟩
  have guaranteed := (update_staging idleServer_fresh run stepped).1 sampleRelease starts
  exact ⟨state, next, stepped, starts, guaranteed.2.1, guaranteed.2.2.1⟩

end JooanW3U.Media.Update
