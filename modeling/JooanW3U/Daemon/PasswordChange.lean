import JooanW3U.Daemon.LoginThrottle

/-!
Owns what a completed password change means for sign-ins: afterwards every
session and remembered sign-in that can be accepted was verified against the new
record, in the runs where no login holding another record is still to open its
session when everyone is signed out.

Does not own the machine itself or the other files a change writes.
-/

namespace JooanW3U.Daemon.PasswordChange

open JooanW3U.Library JooanW3U.Daemon.AuthMachine

variable {Record : Type} (verify : Record → List Char → Option Bool) (token_hash : Token → Token)

/-- A login past its read of the record, whose password the record accepts: it
will open a session that comes from this record. -/
def WillOpenFrom (phase : Phase Record) (origin : Record) : Prop :=
  match phase with
  | .computing login record => record = origin ∧ verify record login.password ≠ none
  | .right _ record _ => record = origin
  | _ => False

/-- Before a step: when the change signs everyone out, every login that will
still open a session has verified the new record. -/
def Guard (state : State Record) : Event Record → Prop
  | .signOut => ∀ phase ∈ state.workers, ∀ origin, WillOpenFrom verify phase origin →
      origin = state.record
  | _ => True

/-- Once the change has returned, all that is or will be signed in comes from
the record it wrote. -/
structure Renewed (new : Record) (state : State Record) : Prop where
  record : state.record = new
  signIns : state.signIns.Origins (· = new)
  pending : ∀ phase ∈ state.workers, ∀ origin, WillOpenFrom verify phase origin → origin = new

/-- What every run keeps, by how far the change has come. -/
structure Invariant (state : State Record) : Prop where
  written : ∀ new, state.change = .written new → state.record = new
  renewed : ∀ new, state.change = .done new → Renewed verify new state

variable {verify token_hash}

/-- A section after the change opens sessions from the new record only. -/
theorem acts_renewed {new : Record} {state : State Record} {phase after : Phase Record}
    {action : Action} {buckets : List Bucket} {signIns : SignIns Record}
    (renewed : Renewed verify new state) (member : phase ∈ state.workers)
    (acts : Acts verify token_hash state phase action buckets signIns after) :
    signIns.Origins (· = new) ∧ ∀ origin, WillOpenFrom verify after origin → origin = new := by
  have fromBefore := renewed.pending phase member
  cases acts with
  | login | readClock | noted | gaveUp => exact ⟨renewed.signIns, fun _ => False.elim⟩
  | notRead | wrong => exact ⟨renewed.signIns, fun _ => False.elim⟩
  | checked login now _ limited throttled =>
      refine ⟨renewed.signIns, ?_⟩
      intro origin willOpen
      split at willOpen
      · exact willOpen.elim
      · exact willOpen.elim
  | readRecord login =>
      refine ⟨renewed.signIns, ?_⟩
      intro origin willOpen
      exact willOpen.1.symm.trans renewed.record
  | verified login record must passes =>
      refine ⟨renewed.signIns, ?_⟩
      intro origin isRecord
      apply fromBefore origin
      exact ⟨isRecord, passes ▸ Option.some_ne_none must⟩
  | opened login record must token csrf =>
      have isNew := fromBefore record rfl
      exact ⟨renewed.signIns.openSession isNew _ _ _ _ _ _, fun _ => False.elim⟩
  | notOpened login record must token =>
      have isNew := fromBefore record rfl
      exact ⟨renewed.signIns.openSession isNew _ _ _ _ _ _, fun _ => False.elim⟩

theorem step_invariant {state next : State Record} {event : Event Record}
    (invariant : Invariant verify state)
    (stepped : GuardedStep verify token_hash (Guard verify) state event next) :
    Invariant verify next := by
  obtain ⟨guarded, stepped⟩ := stepped
  cases event with
  | tick seconds =>
      cases stepped
      exact ⟨invariant.written, fun new done => { invariant.renewed new done with }⟩
  | setWall wall =>
      cases stepped
      exact ⟨invariant.written, fun new done => { invariant.renewed new done with }⟩
  | worker index action =>
      obtain ⟨phase, buckets, signIns, after, atIndex, acted, isNext⟩ := step_worker stepped
      rw [isNext]
      refine ⟨invariant.written, ?_⟩
      intro new done
      have renewed := invariant.renewed new done
      obtain ⟨origins, pending⟩ :=
        acts_renewed renewed (List.mem_of_getElem? atIndex) (acts_of_act acted)
      refine ⟨renewed.record, origins, ?_⟩
      intro other member
      cases List.mem_or_eq_of_mem_set member with
      | inl before => exact renewed.pending other before
      | inr isAfter => exact isAfter ▸ pending
  | request now candidates require_csrf csrf =>
      simp only [step] at stepped
      split at stepped
      · cases stepped
        refine ⟨invariant.written, ?_⟩
        intro new done
        have renewed := invariant.renewed new done
        exact ⟨renewed.record,
          (renewed.signIns.request now state.wall candidates require_csrf csrf).1, renewed.pending⟩
      · cases stepped
  | verifyOld old =>
      simp only [step] at stepped
      split at stepped
      · split at stepped
        · cases stepped
          exact ⟨fun _ unwritten => (by cases unwritten), fun _ undone => (by cases undone)⟩
        · cases stepped
      · cases stepped
  | writeNew new =>
      simp only [step] at stepped
      split at stepped
      · cases stepped
        refine ⟨?_, fun _ undone => (by cases undone)⟩
        intro written isWritten
        cases isWritten
        rfl
      · cases stepped
  | signOut =>
      simp only [step] at stepped
      split at stepped
      · rename_i new isWritten
        cases stepped
        refine ⟨fun _ unwritten => (by cases unwritten), ?_⟩
        intro done isDone
        cases isDone
        have onDisk := invariant.written new isWritten
        refine ⟨onDisk, SignIns.signOutEverywhere_origins _, ?_⟩
        intro phase member origin willOpen
        exact (guarded phase member origin willOpen).trans onDisk
      · cases stepped

/-- After a completed password change every request that is accepted rests on a
sign-in from the new record, in every run whose sign-out leaves no login behind
that is to open a session from another record. -/
theorem accepted_from_new_record {start final : State Record} {events : List (Event Record)}
    {new : Record} (uncalled : start.change = .notCalled)
    (run : Run (GuardedStep verify token_hash (Guard verify)) start events final)
    (returned : final.change = .done new) (now : Nat) (candidates : List Token)
    (require_csrf : Bool) (csrf : Token) (session : Session Record) (remember : Bool)
    (accepted : (final.signIns.joan_auth_request token_hash now final.wall candidates require_csrf
      csrf).2 = .accepted session remember) : session.origin = new := by
  have initially : Invariant verify start := by
    constructor
    · intro written isWritten
      exact absurd (uncalled.symm.trans isWritten) nofun
    · intro done isDone
      exact absurd (uncalled.symm.trans isDone) nofun
  have finally_ := run.preserves (fun _ _ _ => step_invariant) initially
  have origins := (finally_.renewed new returned).signIns
  exact (origins.request now final.wall candidates require_csrf csrf).2 session remember accepted

/-- A run without a sign-out meets the guard. -/
theorem guarded_of_run {start final : State Record} {events : List (Event Record)}
    (run : Run (fun state event next => step verify token_hash state event = some next) start events
      final) (noSignOut : (.signOut : Event Record) ∉ events) :
    Run (GuardedStep verify token_hash (Guard verify)) start events final := by
  induction run with
  | nil => exact .nil _
  | @cons _ _ _ event _ first _ inductionHypothesis =>
      simp only [List.mem_cons, not_or] at noSignOut
      apply Run.cons ⟨_, first⟩ (inductionHypothesis noSignOut.2)
      cases event with
      | signOut => exact absurd rfl noSignOut.1
      | _ => trivial

/-! ## Two orders of one login and the change -/

open LoginThrottle (plainVerify idleDaemon lanRemote)

def oldPassword : List Char := "correct".toList
def newPassword : List Char := "changed".toList
def lanToken : Token := List.replicate 64 'a'
def lanCsrf : Token := List.replicate 64 'b'

/-- A login of worker 0 up to its verified password. -/
def loginVerifies (password : List Char) : List (Event (List Char)) :=
  [.worker 0 (.login lanRemote "admin".toList password false), .worker 0 .readClock,
    .worker 0 .check, .worker 0 (.read true), .worker 0 .verify]

def loginOpens : Event (List Char) :=
  .worker 0 (.openSession lanToken (some lanCsrf))

def passwordChanges : List (Event (List Char)) :=
  [.verifyOld oldPassword, .writeNew newPassword, .signOut]

/-- The answer to a request with the login's cookie after a run. -/
def answerAfter (start : State (List Char)) (events : List (Event (List Char))) :
    Option (Change (List Char) × Answer (List Char)) :=
  (runs (step plainVerify id) start events).map fun final =>
    (final.change, (final.signIns.joan_auth_request id final.clock final.wall [lanToken] true
      lanCsrf).2)

def lanSession (origin : List Char) : Session (List Char) where
  token := lanToken
  csrf := lanCsrf
  expires := 100 + SESSION_SECONDS
  must_change := false
  origin := origin

/-- A login that follows the change rests on the new record. -/
theorem accepted_from_new_record_later :
    ∃ final : State (List Char),
      Run (GuardedStep plainVerify id (Guard plainVerify)) idleDaemon
          (passwordChanges ++ loginVerifies newPassword ++ [loginOpens]) final ∧
        final.change = .done newPassword ∧
        (final.signIns.joan_auth_request id final.clock final.wall [lanToken] true lanCsrf).2 =
          .accepted (lanSession newPassword) false ∧
        (lanSession newPassword).origin = newPassword := by
  let changed : State (List Char) :=
    { idleDaemon with
      record := newPassword
      signIns := idleDaemon.signIns.signOutEverywhere
      change := .done newPassword }
  have noneUnderWay : Guard plainVerify
      { idleDaemon with record := newPassword, change := .written newPassword } .signOut := by
    intro phase member origin willOpen
    rw [List.eq_of_mem_replicate member] at willOpen
    exact willOpen.elim
  have changes : Run (GuardedStep plainVerify id (Guard plainVerify)) idleDaemon passwordChanges
      changed :=
    .cons ⟨trivial, rfl⟩ (.cons ⟨trivial, rfl⟩ (.cons ⟨noneUnderWay, rfl⟩ (.nil _)))
  have answered : answerAfter changed (loginVerifies newPassword ++ [loginOpens]) =
      some (.done newPassword, .accepted (lanSession newPassword) false) := by
    decide +kernel
  obtain ⟨final, ran, answer⟩ := Option.map_eq_some_iff.mp answered
  simp only [Prod.mk.injEq] at answer
  have logsIn := guarded_of_run (run_of_runs ran) (by decide)
  have run := changes.append logsIn
  rw [← List.append_assoc] at run
  exact ⟨final, run, answer.1, answer.2,
    accepted_from_new_record rfl run answer.1 _ _ _ _ _ _ answer.2⟩

/-- A login verified before the change opens its session after it, and the
session is accepted. -/
theorem late_login_survives_change :
    ∃ final : State (List Char),
      Run (fun state event next => step plainVerify id state event = some next) idleDaemon
          (loginVerifies oldPassword ++ passwordChanges ++ [loginOpens]) final ∧
        final.change = .done newPassword ∧
        (final.signIns.joan_auth_request id final.clock final.wall [lanToken] true lanCsrf).2 =
          .accepted (lanSession oldPassword) false ∧
        (lanSession oldPassword).origin ≠ newPassword := by
  have answered : answerAfter idleDaemon
      (loginVerifies oldPassword ++ passwordChanges ++ [loginOpens]) =
      some (.done newPassword, .accepted (lanSession oldPassword) false) := by
    decide +kernel
  obtain ⟨final, ran, answer⟩ := Option.map_eq_some_iff.mp answered
  simp only [Prod.mk.injEq] at answer
  exact ⟨final, run_of_runs ran, answer.1, answer.2, by decide⟩

end JooanW3U.Daemon.PasswordChange
