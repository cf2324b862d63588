import JooanW3U.Daemon.AuthMachine

/-!
Owns the bound on failed password verifications of one remote in one throttle
window.  The check and the note are separate sections around a slow
verification, so the bound holds for the runs in which a check counts the
logins already under way, and no success clears a count inside its window.

Does not own the machine itself.
-/

namespace JooanW3U.Daemon.LoginThrottle

open JooanW3U.Library JooanW3U.Daemon.AuthMachine

variable {Record : Type} (verify : Record → List Char → Option Bool) (token_hash : Token → Token)

/-- A login of the remote is between its check and its return. -/
def underWay (remote : Remote) : Phase Record → Bool
  | .passed login | .computing login _ | .failed login | .right login _ _ =>
      decide (login.remote = remote)
  | _ => false

/-- A failed verification of the remote waits to be noted. -/
def unnoted (remote : Remote) : Phase Record → Bool
  | .failed login => decide (login.remote = remote)
  | _ => false

/-- The section is a password verification of the remote that fails. -/
def failsSection (remote : Remote) : Phase Record → Action → Bool
  | .computing login record, .verify =>
      decide (login.remote = remote) && (verify record login.password).isNone
  | _, _ => false

def failsVerification (remote : Remote) (state : State Record) : Event Record → Bool
  | .worker index action =>
      match state.workers[index]? with
      | some phase => failsSection verify remote phase action
      | none => false
  | _ => false

/-- The failed verifications of the remote along a run. -/
def failedVerifications (remote : Remote) (state : State Record) : List (Event Record) → Nat
  | [] => 0
  | event :: events =>
      (if failsVerification verify remote state event then 1 else 0) +
        match step verify token_hash state event with
        | none => 0
        | some next => failedVerifications remote next events

/-- The check by this worker gives the remote a window that begins at `now`. -/
def Opens (state : State Record) (index : Nat) (remote : Remote) (now : Nat) : Prop :=
  (∃ login, state.workers[index]? = some (.clocked login now) ∧ login.remote = remote) ∧
    ∀ bucket, Throttle.bucketOf state.buckets remote = some bucket → bucket.since + 60 < now

/-- Before a step: a check lets a login through only while the noted failures
and the logins under way stay below five, and a success finds nothing to clear
in a window still running. -/
def Guard (state : State Record) : Event Record → Prop
  | .worker index .check =>
      ∀ login now, state.workers[index]? = some (.clocked login now) →
        let bucket := Throttle.reopened now (Throttle.foundBucket state.buckets login.remote now)
        5 ≤ bucket.failures ∨
          bucket.failures + state.workers.countP (underWay login.remote) < 5
  | .worker index (.openSession _ (some _)) =>
      ∀ login record must, state.workers[index]? = some (.right login record must) →
        ∀ bucket, Throttle.bucketOf state.buckets login.remote = some bucket →
          bucket.failures = 0 ∨ bucket.since + 60 < state.clock
  | _ => True

/-- The daemon at its start: no bucket in use and every worker idle. -/
structure Fresh (state : State Record) : Prop where
  buckets : state.buckets = List.replicate BUCKETS {}
  workers : ∀ phase ∈ state.workers, phase = .idle

/-- Every login of the run comes from one of the remotes. -/
def ComeFrom (remotes : Finset Remote) (events : List (Event Record)) : Prop :=
  ∀ index remote user password remember,
    Event.worker index (.login remote user password remember) ∈ events → remote ∈ remotes

/-! ## What holds in every run -/

/-- The login a phase belongs to. -/
def loginOf : Phase Record → Option Login
  | .idle => none
  | .started login | .clocked login _ | .passed login | .computing login _ | .failed login
  | .right login _ _ => some login

/-- A phase's remote is known, and its clock readings are not in the future. -/
def PhaseSane (remotes : Finset Remote) (clock : Nat) (phase : Phase Record) : Prop :=
  (∀ login, loginOf phase = some login → login.remote ∈ remotes ∧ login.now ≤ clock) ∧
    ∀ login now, phase = .clocked login now → now ≤ clock

structure Sane (remotes : Finset Remote) (state : State Record) : Prop where
  kept : Throttle.Kept remotes state.buckets
  phases : ∀ phase ∈ state.workers, PhaseSane remotes state.clock phase

variable {verify token_hash}

theorem countP_replace {Kind : Type} {items : List Kind} {index : Nat} {old : Kind}
    (atIndex : items[index]? = some old) (holds : Kind → Bool) (new : Kind) :
    (items.set index new).countP holds + (if holds old then 1 else 0) =
      items.countP holds + (if holds new then 1 else 0) := by
  obtain ⟨inRange, isOld⟩ := List.getElem?_eq_some_iff.mp atIndex
  rw [List.countP_set inRange, isOld]
  by_cases oldHolds : holds old = true
  · have positive : 0 < items.countP holds :=
      List.countP_pos_iff.mpr ⟨old, List.mem_of_getElem? atIndex, oldHolds⟩
    simp only [oldHolds, if_true]
    omega
  · simp only [if_neg oldHolds]
    omega

theorem sane_initially {remotes : Finset Remote} {state : State Record} (fresh : Fresh state) :
    Sane remotes state where
  kept := fresh.buckets ▸ Throttle.initially_kept remotes
  phases := by
    intro phase member
    rw [fresh.workers phase member]
    exact ⟨nofun, nofun⟩

theorem PhaseSane.later {remotes : Finset Remote} {clock later : Nat} {phase : Phase Record}
    (sane : PhaseSane remotes clock phase) (notBefore : clock ≤ later) :
    PhaseSane remotes later phase :=
  ⟨fun login isLogin => ⟨(sane.1 login isLogin).1, (sane.1 login isLogin).2.trans notBefore⟩,
    fun login now isClocked => (sane.2 login now isClocked).trans notBefore⟩

/-- A section that carries the login on, without a new clock reading. -/
theorem PhaseSane.carried {remotes : Finset Remote} {clock : Nat} {before after : Phase Record}
    (sane : PhaseSane remotes clock before)
    (sameLogin : loginOf after = none ∨ loginOf after = loginOf before)
    (notClocked : ∀ login now, after ≠ .clocked login now) : PhaseSane remotes clock after := by
  refine ⟨?_, fun login now isClocked => absurd isClocked (notClocked login now)⟩
  intro login isLogin
  cases sameLogin with
  | inl gone => exact absurd (gone.symm.trans isLogin) nofun
  | inr same => exact sane.1 login (same ▸ isLogin)

section Worker

variable {remotes : Finset Remote} {state : State Record} {phase after : Phase Record}
  {action : Action} {buckets : List Bucket} {signIns : SignIns Record}

/-- A section keeps the buckets in order and leaves a sane phase. -/
theorem acts_sane (few : remotes.card ≤ BUCKETS) (sane : Sane remotes state)
    (phaseSane : PhaseSane remotes state.clock phase)
    (known : ∀ remote user password remember,
      action = .login remote user password remember → remote ∈ remotes)
    (acts : Acts verify token_hash state phase action buckets signIns after) :
    Throttle.Kept remotes buckets ∧ PhaseSane remotes state.clock after := by
  cases acts with
  | login remote user password remember =>
      refine ⟨sane.kept, ?_, nofun⟩
      intro login isLogin
      rw [← Option.some.inj isLogin]
      exact ⟨known _ _ _ _ rfl, le_refl _⟩
  | readClock login =>
      refine ⟨sane.kept, fun _ isLogin => phaseSane.1 _ isLogin, ?_⟩
      intro clocked now isClocked
      cases isClocked
      exact le_refl _
  | checked login now _ limited throttled =>
      obtain ⟨_, answered, kept, _⟩ :=
        sane.kept.throttled few (phaseSane.1 login rfl).1 now
      rw [throttled] at answered
      cases answered
      refine ⟨kept, phaseSane.carried ?_ ?_⟩
      · split
        · exact .inl rfl
        · exact .inr rfl
      · split <;> nofun
  | readRecord login => exact ⟨sane.kept, phaseSane.carried (.inr rfl) nofun⟩
  | notRead login => exact ⟨sane.kept, phaseSane.carried (.inr rfl) nofun⟩
  | wrong login record => exact ⟨sane.kept, phaseSane.carried (.inr rfl) nofun⟩
  | verified login record must => exact ⟨sane.kept, phaseSane.carried (.inr rfl) nofun⟩
  | noted login =>
      exact ⟨(sane.kept.noted few (phaseSane.1 login rfl).1 _ false).1,
        phaseSane.carried (.inl rfl) nofun⟩
  | gaveUp login record must => exact ⟨sane.kept, phaseSane.carried (.inl rfl) nofun⟩
  | opened login record must token csrf =>
      exact ⟨(sane.kept.noted few (phaseSane.1 login rfl).1 _ true).1,
        phaseSane.carried (.inl rfl) nofun⟩
  | notOpened login record must token => exact ⟨sane.kept, phaseSane.carried (.inl rfl) nofun⟩

end Worker

/-- Every step keeps the machine sane. -/
theorem step_sane {remotes : Finset Remote} (few : remotes.card ≤ BUCKETS)
    {state next : State Record} {event : Event Record} (sane : Sane remotes state)
    (known : ∀ index remote user password remember,
      event = .worker index (.login remote user password remember) → remote ∈ remotes)
    (stepped : step verify token_hash state event = some next) : Sane remotes next := by
  by_cases isWorker : ∃ index action, event = .worker index action
  · obtain ⟨index, action, isEvent⟩ := isWorker
    rw [isEvent] at stepped
    obtain ⟨phase, buckets, signIns, after, atIndex, acted, isNext⟩ := step_worker stepped
    have kept := acts_sane few sane (sane.phases phase (List.mem_of_getElem? atIndex))
      (fun remote user password remember same =>
        known index remote user password remember (isEvent.trans (same ▸ rfl))) (acts_of_act acted)
    rw [isNext]
    refine ⟨kept.1, ?_⟩
    intro other member
    cases List.mem_or_eq_of_mem_set member with
    | inl before => exact sane.phases other before
    | inr isAfter => exact isAfter ▸ kept.2
  · have notWorker : ∀ index action, event ≠ .worker index action :=
      fun index action same => isWorker ⟨index, action, same⟩
    obtain ⟨sameBuckets, sameWorkers, notBack⟩ := step_frame stepped notWorker
    refine ⟨sameBuckets ▸ sane.kept, ?_⟩
    intro phase member
    rw [sameWorkers] at member
    exact (sane.phases phase member).later notBack

theorem run_sane {remotes : Finset Remote} (few : remotes.card ≤ BUCKETS)
    {start final : State Record} {events : List (Event Record)}
    (run : Run (GuardedStep verify token_hash Guard) start events final)
    (comeFrom : ComeFrom remotes events) (sane : Sane remotes start) : Sane remotes final := by
  induction run with
  | nil => exact sane
  | cons first _ inductionHypothesis =>
      apply inductionHypothesis
      · intro index remote user password remember member
        exact comeFrom _ _ _ _ _ (List.mem_cons_of_mem _ member)
      · apply step_sane few sane _ first.2
        intro index remote user password remember isEvent
        exact comeFrom index remote user password remember (isEvent ▸ List.mem_cons_self)

theorem run_clock {start final : State Record} {events : List (Event Record)}
    (run : Run (GuardedStep verify token_hash Guard) start events final) :
    start.clock ≤ final.clock := by
  have kept : ∀ state event next, start.clock ≤ state.clock →
      GuardedStep verify token_hash Guard state event next → start.clock ≤ next.clock :=
    fun _ _ _ sofar stepped => le_trans sofar (step_clock stepped.2)
  exact run.preserves kept (le_refl _)

/-! ## One window -/

/-- The remote's window that began at `since` still runs; `count` verifications
have failed in it, each noted or still to be noted, and with the logins under
way the noted failures stay within five. -/
def Within (remote : Remote) (since count : Nat) (state : State Record) : Prop :=
  ∃ bucket, Throttle.bucketOf state.buckets remote = some bucket ∧ bucket.since = since ∧
    count ≤ bucket.failures + state.workers.countP (unnoted remote) ∧
      bucket.failures + state.workers.countP (underWay remote) ≤ 5

theorem Within.bounded {remote : Remote} {since count : Nat} {state : State Record}
    (within_ : Within remote since count state) : count ≤ 5 := by
  obtain ⟨bucket, _, _, counted, atMost⟩ := within_
  have fewer : state.workers.countP (unnoted remote) ≤ state.workers.countP (underWay remote) := by
    apply List.countP_mono_left
    intro phase _ isUnnoted
    cases phase with
    | failed login => exact isUnnoted
    | _ => exact absurd isUnnoted nofun
  omega

section Window

variable {remotes : Finset Remote} {state : State Record} {phase after : Phase Record}
  {action : Action} {buckets : List Bucket} {signIns : SignIns Record}
  {remote : Remote} {bucket : Bucket}

/-- A phase of another remote counts for nothing here. -/
theorem underWay_other {login : Login} (isLogin : loginOf phase = some login)
    (different : login.remote ≠ remote) :
    underWay remote phase = false ∧ unnoted remote phase = false := by
  cases phase with
  | idle => exact absurd isLogin nofun
  | started | clocked => exact ⟨rfl, rfl⟩
  | passed | computing | right =>
      cases isLogin
      exact ⟨decide_eq_false different, rfl⟩
  | failed =>
      cases isLogin
      exact ⟨decide_eq_false different, decide_eq_false different⟩

/-- What one section does to the remote's running window: the bucket keeps its
beginning, a failure is counted until it is noted, and failures and logins under
way stay within five. -/
theorem acts_window (few : remotes.card ≤ BUCKETS) (sane : Sane remotes state)
    (phaseSane : PhaseSane remotes state.clock phase)
    (isBucket : Throttle.bucketOf state.buckets remote = some bucket)
    (running : state.clock ≤ bucket.since + 60)
    (atMost : bucket.failures + state.workers.countP (underWay remote) ≤ 5)
    (passes : ∀ login now, phase = .clocked login now → action = .check → login.remote = remote →
      5 ≤ bucket.failures ∨ bucket.failures + state.workers.countP (underWay remote) < 5)
    (clears : ∀ login record must token csrf, phase = .right login record must →
      action = .openSession token (some csrf) → login.remote = remote → bucket.failures = 0)
    (acts : Acts verify token_hash state phase action buckets signIns after) :
    ∃ changed, Throttle.bucketOf buckets remote = some changed ∧ changed.since = bucket.since ∧
      bucket.failures + (if unnoted remote phase then 1 else 0) +
          (if failsSection verify remote phase action then 1 else 0) ≤
        changed.failures + (if unnoted remote after then 1 else 0) ∧
      changed.failures + state.workers.countP (underWay remote) +
          (if underWay remote after then 1 else 0) ≤
        5 + (if underWay remote phase then 1 else 0) := by
  have found : ∀ now, Throttle.foundBucket state.buckets remote now = bucket := by
    intro now
    rw [Throttle.foundBucket, isBucket, Option.getD_some]
  cases acts with
  | login other user password remember =>
      exact ⟨bucket, isBucket, rfl, by simp [unnoted, failsSection], by simpa [underWay] using atMost⟩
  | readClock login =>
      exact ⟨bucket, isBucket, rfl, by simp [unnoted, failsSection], by simpa [underWay] using atMost⟩
  | checked login now _ limited throttled =>
      obtain ⟨known, _⟩ := phaseSane.1 login rfl
      have notFuture := phaseSane.2 login now rfl
      obtain ⟨_, answered, _, ownBucket, others⟩ := sane.kept.throttled few known now
      rw [throttled] at answered
      simp only [Prod.mk.injEq] at answered
      obtain ⟨isAfter, isLimited⟩ := answered
      subst isAfter
      by_cases own : login.remote = remote
      · subst own
        have notOver : ¬bucket.since + 60 < now := by omega
        have unchanged : Throttle.reopened now
            (Throttle.foundBucket state.buckets login.remote now) = bucket := by
          rw [found, Throttle.reopened, if_neg notOver]
        rw [unchanged] at ownBucket isLimited
        refine ⟨bucket, ownBucket, rfl, ?_, ?_⟩
        · by_cases refused : limited = true
          · simp [refused, unnoted, failsSection]
          · simp [refused, unnoted, failsSection]
        · have allowed := passes login now rfl rfl rfl
          by_cases refused : limited = true
          · simpa [refused, underWay] using atMost
          · have below : ¬5 ≤ bucket.failures := by
              rw [isLimited] at refused
              simpa using refused
            have counted := allowed.resolve_left below
            simp only [refused, underWay, Bool.false_eq_true, if_false, decide_true, if_true]
            omega
      · have untouched := others remote bucket (Ne.symm own) isBucket (by omega)
        refine ⟨bucket, untouched, rfl, ?_, ?_⟩
        · by_cases refused : limited = true
          · simp [refused, unnoted, failsSection]
          · simp [refused, unnoted, failsSection]
        · by_cases refused : limited = true
          · simpa [refused, underWay] using atMost
          · simpa [refused, underWay, own] using atMost
  | readRecord login =>
      refine ⟨bucket, isBucket, rfl, by simp [unnoted, failsSection], ?_⟩
      exact Nat.add_le_add_right atMost _
  | notRead login readable =>
      refine ⟨bucket, isBucket, rfl, by simp [unnoted, failsSection], ?_⟩
      exact Nat.add_le_add_right atMost _
  | wrong login record fails =>
      refine ⟨bucket, isBucket, rfl, by simp [unnoted, failsSection, fails], ?_⟩
      exact Nat.add_le_add_right atMost _
  | verified login record must passed =>
      refine ⟨bucket, isBucket, rfl, by simp [unnoted, failsSection, passed], ?_⟩
      exact Nat.add_le_add_right atMost _
  | noted login =>
      obtain ⟨known, _⟩ := phaseSane.1 login rfl
      obtain ⟨_, ownBucket, others⟩ := sane.kept.noted few known state.clock false
      by_cases own : login.remote = remote
      · subst own
        rw [found] at ownBucket
        refine ⟨_, ownBucket, rfl, ?_, ?_⟩
        · simp [unnoted, failsSection, Throttle.counted]
        · simp only [Throttle.counted, underWay, Bool.false_eq_true, if_false, decide_true, if_true]
          omega
      · have untouched := others remote bucket (Ne.symm own) isBucket (by omega)
        refine ⟨bucket, untouched, rfl, ?_, ?_⟩
        · simp [unnoted, failsSection, own]
        · simpa [underWay, own] using atMost
  | gaveUp login record must =>
      refine ⟨bucket, isBucket, rfl, by simp [unnoted, failsSection], ?_⟩
      simp only [underWay, Bool.false_eq_true, if_false]
      omega
  | opened login record must token csrf =>
      obtain ⟨known, notFuture⟩ := phaseSane.1 login rfl
      obtain ⟨_, ownBucket, others⟩ := sane.kept.noted few known login.now true
      by_cases own : login.remote = remote
      · subst own
        have nothing := clears login record must token csrf rfl rfl rfl
        rw [found] at ownBucket
        refine ⟨_, ownBucket, rfl, ?_, ?_⟩
        · simp [unnoted, failsSection, nothing]
        · simp only [Throttle.counted, underWay, if_true, Bool.false_eq_true, if_false]
          omega
      · have untouched := others remote bucket (Ne.symm own) isBucket (by omega)
        refine ⟨bucket, untouched, rfl, ?_, ?_⟩
        · simp [unnoted, failsSection]
        · simpa [underWay, own] using atMost
  | notOpened login record must token =>
      refine ⟨bucket, isBucket, rfl, by simp [unnoted, failsSection], ?_⟩
      simp only [underWay, Bool.false_eq_true, if_false]
      omega

/-- A step inside the window keeps its account. -/
theorem step_window (few : remotes.card ≤ BUCKETS) (sane : Sane remotes state)
    {since count : Nat} (within_ : Within remote since count state)
    (running : state.clock ≤ since + 60) {event : Event Record} {next : State Record}
    (stepped : GuardedStep verify token_hash Guard state event next) :
    Within remote since
      (count + if failsVerification verify remote state event then 1 else 0) next := by
  obtain ⟨bucket, isBucket, sinceEq, counted, atMost⟩ := within_
  obtain ⟨guarded, stepped⟩ := stepped
  by_cases isWorker : ∃ index action, event = .worker index action
  · obtain ⟨index, action, isEvent⟩ := isWorker
    subst isEvent
    obtain ⟨phase, buckets, signIns, after, atIndex, acted, isNext⟩ := step_worker stepped
    have phaseSane := sane.phases phase (List.mem_of_getElem? atIndex)
    have passes : ∀ login now, phase = .clocked login now → action = .check →
        login.remote = remote →
        5 ≤ bucket.failures ∨ bucket.failures + state.workers.countP (underWay remote) < 5 := by
      intro login now isClocked isCheck own
      subst isClocked isCheck own
      have notFuture := phaseSane.2 login now rfl
      have notOver : ¬bucket.since + 60 < now := by omega
      have allowed := guarded login now atIndex
      rw [Throttle.foundBucket, isBucket, Option.getD_some, Throttle.reopened,
        if_neg notOver] at allowed
      exact allowed
    have clears : ∀ login record must token csrf, phase = .right login record must →
        action = .openSession token (some csrf) → login.remote = remote →
        bucket.failures = 0 := by
      intro login record must token csrf isRight isOpen own
      subst isRight isOpen own
      have nothing := guarded login record must atIndex bucket isBucket
      omega
    obtain ⟨changed, isChanged, sameSince, noted, stays⟩ :=
      acts_window few sane phaseSane isBucket (by omega) atMost passes clears (acts_of_act acted)
    have fails : failsVerification verify remote state (.worker index action) =
        failsSection verify remote phase action := by
      simp only [failsVerification, atIndex]
    have unnotedCount := countP_replace atIndex (unnoted remote) after
    have underWayCount := countP_replace atIndex (underWay remote) after
    rw [isNext, fails]
    refine ⟨changed, isChanged, sameSince.trans sinceEq, ?_, ?_⟩
    · show _ ≤ changed.failures + (state.workers.set index after).countP (unnoted remote)
      omega
    · show changed.failures + (state.workers.set index after).countP (underWay remote) ≤ 5
      omega
  · have notWorker : ∀ index action, event ≠ .worker index action :=
      fun index action same => isWorker ⟨index, action, same⟩
    obtain ⟨sameBuckets, sameWorkers, _⟩ := step_frame stepped notWorker
    have noFailure : failsVerification verify remote state event = false := by
      cases event with
      | worker index action => exact absurd rfl (notWorker index action)
      | _ => rfl
    rw [noFailure]
    exact ⟨bucket, sameBuckets ▸ isBucket, sinceEq, sameWorkers ▸ counted, sameWorkers ▸ atMost⟩

/-- The check that opens a window starts its account at zero. -/
theorem opened_window (few : remotes.card ≤ BUCKETS) (sane : Sane remotes state) {index : Nat}
    {since : Nat} (opens : Opens state index remote since) {opened : State Record}
    (checked : GuardedStep verify token_hash Guard state (.worker index .check) opened) :
    Within remote since 0 opened := by
  obtain ⟨⟨login, atIndex, own⟩, within⟩ := opens
  subst own
  obtain ⟨guarded, stepped⟩ := checked
  obtain ⟨phase, buckets, signIns, after, atPhase, acted, isNext⟩ := step_worker stepped
  have isClocked : phase = .clocked login since :=
    Option.some.inj (atPhase.symm.trans atIndex)
  subst isClocked
  have phaseSane := sane.phases _ (List.mem_of_getElem? atIndex)
  obtain ⟨_, answered, _, ownBucket, _⟩ :=
    sane.kept.throttled few (phaseSane.1 login rfl).1 since
  have fresh : (Throttle.reopened since
        (Throttle.foundBucket state.buckets login.remote since)).since = since ∧
      (Throttle.reopened since
        (Throttle.foundBucket state.buckets login.remote since)).failures = 0 := by
    unfold Throttle.reopened Throttle.foundBucket
    cases found : Throttle.bucketOf state.buckets login.remote with
    | none => simp
    | some bucket => simp [within bucket found]
  simp only [act, answered, Option.some.injEq, Prod.mk.injEq] at acted
  obtain ⟨isBuckets, _, isAfter⟩ := acted
  have room : state.workers.countP (underWay login.remote) < 5 := by
    have allowed := guarded login since atIndex
    simp only [fresh.2, Nat.zero_add] at allowed
    exact allowed.resolve_left (by decide)
  have counts := countP_replace atIndex (underWay login.remote) after
  have atMostOne : (if underWay login.remote after then 1 else 0) ≤ 1 := by
    split
    · exact le_refl _
    · exact Nat.zero_le _
  rw [isNext]
  refine ⟨_, isBuckets ▸ ownBucket, fresh.1, Nat.zero_le _, ?_⟩
  rw [fresh.2]
  show 0 + (state.workers.set index after).countP (underWay login.remote) ≤ 5
  omega

end Window

/-- Along a run inside the window no more than five verifications fail, the ones
counted at its start included. -/
theorem run_window {remotes : Finset Remote} (few : remotes.card ≤ BUCKETS) {remote : Remote}
    {since : Nat} {start final : State Record} {events : List (Event Record)}
    (run : Run (GuardedStep verify token_hash Guard) start events final)
    (comeFrom : ComeFrom remotes events) (sane : Sane remotes start)
    (inWindow : final.clock ≤ since + 60) :
    ∀ count, Within remote since count start →
      count + failedVerifications verify token_hash remote start events ≤ 5 := by
  induction run with
  | nil => exact fun count within_ => within_.bounded
  | @cons start middle final event events first rest inductionHypothesis =>
      intro count within_
      have running : start.clock ≤ since + 60 :=
        (step_clock first.2).trans ((run_clock rest).trans inWindow)
      have later : ComeFrom remotes events := fun index remote user password remember member =>
        comeFrom index remote user password remember (List.mem_cons_of_mem _ member)
      have middleSane : Sane remotes middle := by
        apply step_sane few sane _ first.2
        intro index remote user password remember isEvent
        exact comeFrom index remote user password remember (isEvent ▸ List.mem_cons_self)
      have atMost := inductionHypothesis later middleSane inWindow _
        (step_window few sane within_ running first)
      rw [failedVerifications, first.2]
      show count + (_ + failedVerifications verify token_hash remote middle events) ≤ 5
      omega

/-- From the check that opens a remote's window to sixty seconds later, at most
five password verifications of that remote fail, in every run whose checks count
the logins under way and whose successes clear nothing in a running window. -/
theorem failed_verifications_bounded {remotes : Finset Remote} (few : remotes.card ≤ BUCKETS)
    {start state opened final : State Record} {early late : List (Event Record)} {index : Nat}
    {remote : Remote} {since : Nat} (fresh : Fresh start)
    (before : Run (GuardedStep verify token_hash Guard) start early state)
    (opens : Opens state index remote since)
    (check : GuardedStep verify token_hash Guard state (.worker index .check) opened)
    (after : Run (GuardedStep verify token_hash Guard) opened late final)
    (comeFrom : ComeFrom remotes (early ++ late)) (inWindow : final.clock ≤ since + 60) :
    failedVerifications verify token_hash remote opened late ≤ 5 := by
  have early_ : ComeFrom remotes early := fun index remote user password remember member =>
    comeFrom index remote user password remember (List.mem_append_left _ member)
  have late_ : ComeFrom remotes late := fun index remote user password remember member =>
    comeFrom index remote user password remember (List.mem_append_right _ member)
  have sane := run_sane few before early_ (sane_initially fresh)
  have openedSane : Sane remotes opened := by
    apply step_sane few sane _ check.2
    intro _ _ _ _ _ isLogin
    cases isLogin
  have bound := run_window few after late_ openedSane inWindow 0
    (opened_window few sane opens check)
  omega

/-! ## Runs of eight workers -/

/-- A record that stores the password itself. -/
def plainVerify (record password : List Char) : Option Bool :=
  if record = password then some false else none

def lanRemote : Remote := ⟨"192.168.1.20".toList, by decide, by decide⟩

/-- The daemon with its eight workers idle. -/
def idleDaemon : State (List Char) where
  clock := 100
  wall := 0
  buckets := List.replicate BUCKETS {}
  signIns := {
    sessions := List.replicate SESSIONS none
    remembered := List.replicate REMEMBERED none
    remembered_loaded := false
    stored := [] }
  record := "correct".toList
  workers := List.replicate 8 .idle
  change := .notCalled

theorem idleDaemon_fresh : Fresh idleDaemon where
  buckets := rfl
  workers := fun _ member => List.eq_of_mem_replicate member

/-- A wrong guess from the remote reaches its throttle check. -/
def guessArrives (index : Nat) : List (Event (List Char)) :=
  [.worker index (.login lanRemote "admin".toList "guess".toList false),
    .worker index .readClock]

/-- One guess, alone: checked, verified, noted. -/
def guessFails (index : Nat) : List (Event (List Char)) :=
  [.worker index (.read true), .worker index .verify, .worker index .note]

theorem failed_verifications_bounded_alone :
    ∃ state opened final : State (List Char),
      runs (step plainVerify id) idleDaemon (guessArrives 0) = some state ∧
        step plainVerify id state (.worker 0 .check) = some opened ∧
        runs (step plainVerify id) opened (guessFails 0) = some final ∧
        failedVerifications plainVerify id lanRemote opened (guessFails 0) ≤ 5 := by
  let login : Login := ⟨lanRemote, "admin".toList, "guess".toList, false, 100⟩
  let checked : State (List Char) :=
    { idleDaemon with
      workers := idleDaemon.workers.set 0 (.clocked login 100) }
  let opened : State (List Char) :=
    { checked with
      buckets := idleDaemon.buckets.set 15 { remote := lanRemote.text, since := 100 }
      workers := idleDaemon.workers.set 0 (.passed login) }
  let reading : State (List Char) :=
    { opened with
      workers := idleDaemon.workers.set 0 (.computing login "correct".toList) }
  let failed : State (List Char) :=
    { opened with
      workers := idleDaemon.workers.set 0 (.failed login) }
  let final : State (List Char) :=
    { opened with
      buckets := idleDaemon.buckets.set 15
        { remote := lanRemote.text, since := 100, failures := 1 }
      workers := idleDaemon.workers }
  have arrives : Run (GuardedStep plainVerify id Guard) idleDaemon (guessArrives 0) checked :=
    .cons ⟨trivial, rfl⟩ (.cons ⟨trivial, rfl⟩ (.nil _))
  have opens : Opens checked 0 lanRemote 100 := by
    refine ⟨⟨login, rfl, rfl⟩, ?_⟩
    intro bucket found
    have unknown : Throttle.bucketOf idleDaemon.buckets lanRemote = none := by rfl
    exact absurd (unknown.symm.trans found) nofun
  have check : GuardedStep plainVerify id Guard checked (.worker 0 .check) opened := by
    refine ⟨?_, by rfl⟩
    intro other now atIndex
    cases atIndex
    right
    decide
  have after : Run (GuardedStep plainVerify id Guard) opened (guessFails 0) final :=
    .cons ⟨trivial, rfl⟩ (.cons ⟨trivial, rfl⟩ (.cons ⟨trivial, rfl⟩ (.nil _)))
  have few : ({lanRemote} : Finset Remote).card ≤ BUCKETS := by decide
  refine ⟨checked, opened, final, by rfl, by rfl, by rfl, ?_⟩
  apply failed_verifications_bounded few idleDaemon_fresh arrives opens check after
  · intro index remote user password remember member
    simp [guessArrives, guessFails] at member
    simp [member]
  · decide

/-- Six guesses reach the check. -/
def burstArrives : List (Event (List Char)) :=
  [0, 1, 2, 3, 4, 5].flatMap guessArrives

/-- After the first check the five others are made, and then the guesses are
verified one after the other. -/
def burstFails : List (Event (List Char)) :=
  [1, 2, 3, 4, 5].map (fun index => .worker index .check) ++
    [0, 1, 2, 3, 4, 5].flatMap fun index => [.worker index (.read true), .worker index .verify]

/-- Six of the eight workers take a guess each past the check before the first
of them has been noted: six verifications fail in one window. -/
theorem six_failures_in_one_window :
    ∃ state opened final : State (List Char),
      Fresh idleDaemon ∧
        Run (fun state event next => step plainVerify id state event = some next) idleDaemon
          burstArrives state ∧
        Opens state 0 lanRemote 100 ∧
        step plainVerify id state (.worker 0 .check) = some opened ∧
        Run (fun state event next => step plainVerify id state event = some next) opened
          burstFails final ∧
        ComeFrom {lanRemote} (burstArrives ++ burstFails) ∧ final.clock ≤ 100 + 60 ∧
        failedVerifications plainVerify id lanRemote opened burstFails = 6 := by
  let login : Login := ⟨lanRemote, "admin".toList, "guess".toList, false, 100⟩
  let state : State (List Char) :=
    { idleDaemon with workers := List.replicate 6 (.clocked login 100) ++ [.idle, .idle] }
  let opened : State (List Char) :=
    { state with
      buckets := idleDaemon.buckets.set 15 { remote := lanRemote.text, since := 100 }
      workers := .passed login :: List.replicate 5 (.clocked login 100) ++ [.idle, .idle] }
  let final : State (List Char) :=
    { opened with workers := List.replicate 6 (.failed login) ++ [.idle, .idle] }
  refine ⟨state, opened, final, idleDaemon_fresh, run_of_runs (by decide +kernel), ?_,
    by decide +kernel, run_of_runs (by decide +kernel), ?_, by decide, by decide +kernel⟩
  · refine ⟨⟨login, rfl, rfl⟩, ?_⟩
    intro bucket found
    have unknown : Throttle.bucketOf state.buckets lanRemote = none := by rfl
    exact absurd (unknown.symm.trans found) nofun
  · intro index remote user password remember member
    simp [burstArrives, burstFails, guessArrives] at member
    grind

end JooanW3U.Daemon.LoginThrottle
