import JooanW3U.Daemon.Sessions
import JooanW3U.Daemon.Throttle
import JooanW3U.Library.Runs

/-!
Owns the interleaving of the system service's workers over the sign-in state:
a login as the separate sections the lock divides it into, a request as one
section, and one password change as its check of the old password, its new
record and its sign-out.  A login reads the clock twice before it takes the
lock and reads the record long before it opens a session.

Does not own how a record verifies a password, which is a parameter, or the two
other files a password change writes.
-/

namespace JooanW3U.Daemon.AuthMachine

open JooanW3U.Library

/-- The arguments of `joan_auth_login`, and its first clock reading. -/
structure Login where
  remote : Remote
  user : List Char
  password : List Char
  remember : Bool
  now : Nat
  deriving DecidableEq

/-- Where a worker stands in `joan_auth_login`. -/
inductive Phase (Record : Type)
  | idle
  | started (login : Login)
  /-- `joan_auth_throttled` has read its clock. -/
  | clocked (login : Login) (now : Nat)
  /-- The throttle let the login through. -/
  | passed (login : Login)
  /-- `verify` has read the record and runs PBKDF2 on it. -/
  | computing (login : Login) (record : Record)
  /-- To be noted as a failure. -/
  | failed (login : Login)
  /-- Verified against the record; the session is still to be opened. -/
  | right (login : Login) (record : Record) (must : Bool)
  deriving DecidableEq

/-- How far the password change has come, with the record it wrote. -/
inductive Change (Record : Type)
  | notCalled
  | verified
  | written (new : Record)
  | done (new : Record)
  deriving DecidableEq

structure State (Record : Type) where
  clock : Nat
  wall : Int
  buckets : List Bucket
  signIns : SignIns Record
  record : Record
  workers : List (Phase Record)
  change : Change Record
  deriving DecidableEq

/-- One section of a login; `giveUp` is a failed random read before the lock. -/
inductive Action
  | login (remote : Remote) (user password : List Char) (remember : Bool)
  | readClock
  | check
  | read (readable : Bool)
  | verify
  | note
  | giveUp
  | openSession (token : Token) (csrf : Option Token)
  deriving DecidableEq

inductive Event (Record : Type)
  | tick (seconds : Nat)
  | setWall (wall : Int)
  | worker (index : Nat) (action : Action)
  | request (now : Nat) (candidates : List Token) (require_csrf : Bool) (csrf : Token)
  | verifyOld (old : List Char)
  | writeNew (new : Record)
  | signOut
  deriving DecidableEq

section Machine

variable {Record : Type} (verify : Record → List Char → Option Bool) (token_hash : Token → Token)

/-- One section of a login: the buckets, the sign-ins and the phase after it. -/
def act (state : State Record) :
    Phase Record → Action → Option (List Bucket × SignIns Record × Phase Record)
  | .idle, .login remote user password remember =>
      some (state.buckets, state.signIns,
        .started { remote, user, password, remember, now := state.clock })
  | .started login, .readClock =>
      some (state.buckets, state.signIns, .clocked login state.clock)
  | .clocked login now, .check =>
      let (buckets, limited) := Throttle.joan_auth_throttled state.buckets login.remote.text now
      some (buckets, state.signIns, if limited then .idle else .passed login)
  | .passed login, .read readable =>
      if login.user = "admin".toList ∧ readable = true then
        some (state.buckets, state.signIns, .computing login state.record)
      else some (state.buckets, state.signIns, .failed login)
  | .computing login record, .verify =>
      match verify record login.password with
      | none => some (state.buckets, state.signIns, .failed login)
      | some must => some (state.buckets, state.signIns, .right login record must)
  | .failed login, .note =>
      some (Throttle.joan_auth_note state.buckets login.remote.text state.clock false,
        state.signIns, .idle)
  | .right _ _ _, .giveUp => some (state.buckets, state.signIns, .idle)
  | .right login record must, .openSession token csrf =>
      let signIns := state.signIns.openSession token_hash login.now state.wall login.remember
        must record token csrf
      let buckets :=
        -- a failed second random read returns before the count is cleared
        if csrf.isSome then
          Throttle.joan_auth_note state.buckets login.remote.text login.now true
        else state.buckets
      some (buckets, signIns, .idle)
  | _, _ => none

def step (state : State Record) : Event Record → Option (State Record)
  | .tick seconds => some { state with clock := state.clock + seconds }
  | .setWall wall => some { state with wall }
  | .worker index action =>
      match state.workers[index]? with
      | none => none
      | some phase =>
          match act verify token_hash state phase action with
          | none => none
          | some (buckets, signIns, phase) =>
              some { state with buckets, signIns, workers := state.workers.set index phase }
  | .request now candidates require_csrf csrf =>
      -- the clock was read before the lock was taken
      if now ≤ state.clock then
        some { state with
          signIns := (state.signIns.joan_auth_request token_hash now state.wall candidates
            require_csrf csrf).1 }
      else none
  | .verifyOld old =>
      match state.change with
      | .notCalled =>
          if (verify state.record old).isSome then some { state with change := .verified } else none
      | _ => none
  | .writeNew new =>
      match state.change with
      | .verified => some { state with record := new, change := .written new }
      | _ => none
  | .signOut =>
      match state.change with
      | .written new =>
          some { state with signIns := state.signIns.signOutEverywhere, change := .done new }
      | _ => none

/-- The steps that a condition on the state before them allows. -/
def GuardedStep (Guard : State Record → Event Record → Prop) (state : State Record)
    (event : Event Record) (next : State Record) : Prop :=
  Guard state event ∧ step verify token_hash state event = some next

variable {verify token_hash}

/-- A worker's step replaces its phase and leaves clock, record and change alone. -/
theorem step_worker {state next : State Record} {index : Nat} {action : Action}
    (stepped : step verify token_hash state (.worker index action) = some next) :
    ∃ phase buckets signIns after, state.workers[index]? = some phase ∧
      act verify token_hash state phase action = some (buckets, signIns, after) ∧
        next = { state with buckets, signIns, workers := state.workers.set index after } := by
  simp only [step] at stepped
  cases atIndex : state.workers[index]? with
  | none =>
      rw [atIndex] at stepped
      exact absurd stepped nofun
  | some phase =>
      simp only [atIndex] at stepped
      cases acted : act verify token_hash state phase action with
      | none =>
          rw [acted] at stepped
          exact absurd stepped nofun
      | some result =>
          obtain ⟨buckets, signIns, after⟩ := result
          simp only [acted, Option.some.injEq] at stepped
          exact ⟨phase, buckets, signIns, after, rfl, acted, stepped.symm⟩

/-- Any other step leaves the buckets and the workers alone. -/
theorem step_frame {state next : State Record} {event : Event Record}
    (stepped : step verify token_hash state event = some next)
    (notWorker : ∀ index action, event ≠ .worker index action) :
    next.buckets = state.buckets ∧ next.workers = state.workers ∧ state.clock ≤ next.clock := by
  cases event with
  | worker index action => exact absurd rfl (notWorker index action)
  | tick seconds =>
      cases stepped
      exact ⟨rfl, rfl, Nat.le_add_right _ _⟩
  | setWall wall =>
      cases stepped
      exact ⟨rfl, rfl, le_refl _⟩
  | request now candidates require_csrf csrf =>
      simp only [step] at stepped
      split at stepped
      · cases stepped
        exact ⟨rfl, rfl, le_refl _⟩
      · exact absurd stepped nofun
  | verifyOld old =>
      simp only [step] at stepped
      split at stepped
      · split at stepped
        · cases stepped
          exact ⟨rfl, rfl, le_refl _⟩
        · exact absurd stepped nofun
      · exact absurd stepped nofun
  | writeNew new =>
      simp only [step] at stepped
      split at stepped
      · cases stepped
        exact ⟨rfl, rfl, le_refl _⟩
      · exact absurd stepped nofun
  | signOut =>
      simp only [step] at stepped
      split at stepped
      · cases stepped
        exact ⟨rfl, rfl, le_refl _⟩
      · exact absurd stepped nofun

/-- Time does not run back. -/
theorem step_clock {state next : State Record} {event : Event Record}
    (stepped : step verify token_hash state event = some next) : state.clock ≤ next.clock := by
  by_cases isWorker : ∃ index action, event = .worker index action
  · obtain ⟨index, action, isEvent⟩ := isWorker
    rw [isEvent] at stepped
    obtain ⟨phase, buckets, signIns, after, atIndex, acted, isNext⟩ := step_worker stepped
    rw [isNext]
  · exact (step_frame stepped fun index action same => isWorker ⟨index, action, same⟩).2.2

variable (verify token_hash) in
/-- The sections of a login, one constructor for each way a section can go. -/
inductive Acts (state : State Record) :
    Phase Record → Action → List Bucket → SignIns Record → Phase Record → Prop
  | login (remote user password remember) :
      Acts state .idle (.login remote user password remember) state.buckets state.signIns
        (.started { remote, user, password, remember, now := state.clock })
  | readClock (login) :
      Acts state (.started login) .readClock state.buckets state.signIns
        (.clocked login state.clock)
  | checked (login now buckets limited)
      (throttled : Throttle.joan_auth_throttled state.buckets login.remote.text now =
        (buckets, limited)) :
      Acts state (.clocked login now) .check buckets state.signIns
        (if limited then .idle else .passed login)
  | readRecord (login) :
      Acts state (.passed login) (.read true) state.buckets state.signIns
        (.computing login state.record)
  | notRead (login readable) :
      Acts state (.passed login) (.read readable) state.buckets state.signIns (.failed login)
  | wrong (login record) (fails : verify record login.password = none) :
      Acts state (.computing login record) .verify state.buckets state.signIns (.failed login)
  | verified (login record must) (passes : verify record login.password = some must) :
      Acts state (.computing login record) .verify state.buckets state.signIns
        (.right login record must)
  | noted (login) :
      Acts state (.failed login) .note
        (Throttle.joan_auth_note state.buckets login.remote.text state.clock false) state.signIns
        .idle
  | gaveUp (login record must) :
      Acts state (.right login record must) .giveUp state.buckets state.signIns .idle
  | opened (login record must token csrf) :
      Acts state (.right login record must) (.openSession token (some csrf))
        (Throttle.joan_auth_note state.buckets login.remote.text login.now true)
        (state.signIns.openSession token_hash login.now state.wall login.remember must record token
          (some csrf))
        .idle
  | notOpened (login record must token) :
      Acts state (.right login record must) (.openSession token none) state.buckets
        (state.signIns.openSession token_hash login.now state.wall login.remember must record token
          none)
        .idle

theorem acts_of_act {state : State Record} {phase after : Phase Record} {action : Action}
    {buckets : List Bucket} {signIns : SignIns Record}
    (acted : act verify token_hash state phase action = some (buckets, signIns, after)) :
    Acts verify token_hash state phase action buckets signIns after := by
  cases phase <;> cases action <;>
    simp only [act, reduceCtorEq, Option.some.injEq, Prod.mk.injEq] at acted
  case idle.login =>
    obtain ⟨rfl, rfl, rfl⟩ := acted
    exact .login ..
  case started.readClock =>
    obtain ⟨rfl, rfl, rfl⟩ := acted
    exact .readClock _
  case clocked.check =>
    obtain ⟨rfl, rfl, rfl⟩ := acted
    exact .checked _ _ _ _ rfl
  case passed.read login readable =>
    by_cases reads : login.user = "admin".toList ∧ readable = true
    · rw [if_pos reads] at acted
      obtain ⟨rfl, rfl, rfl⟩ := Option.some.inj acted
      rw [reads.2]
      exact .readRecord _
    · rw [if_neg reads] at acted
      obtain ⟨rfl, rfl, rfl⟩ := Option.some.inj acted
      exact .notRead _ _
  case computing.verify login record =>
    cases verified : verify record login.password with
    | none =>
        rw [verified] at acted
        obtain ⟨rfl, rfl, rfl⟩ := Option.some.inj acted
        exact .wrong _ _ verified
    | some must =>
        rw [verified] at acted
        obtain ⟨rfl, rfl, rfl⟩ := Option.some.inj acted
        exact .verified _ _ _ verified
  case failed.note =>
    obtain ⟨rfl, rfl, rfl⟩ := acted
    exact .noted _
  case right.giveUp =>
    obtain ⟨rfl, rfl, rfl⟩ := acted
    exact .gaveUp ..
  case right.openSession login record must token csrf =>
    obtain ⟨rfl, rfl, rfl⟩ := acted
    cases csrf with
    | none => exact .notOpened ..
    | some csrf => exact .opened ..

end Machine

end JooanW3U.Daemon.AuthMachine
