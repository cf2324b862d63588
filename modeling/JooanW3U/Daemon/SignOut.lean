import JooanW3U.Daemon.Sessions
import JooanW3U.Library.Runs

/-!
Owns the sign-ins of the system service together with their file: which entries
each `remembered_save` leaves in `sessions.db` when its write works or fails, what
a restart reads back, and when a sign-out is final.

Does not own the text of the file or how it is written.
-/

namespace JooanW3U.Daemon.SignOut

open JooanW3U.Library

/-- The tables in memory and the entries of `sessions.db`; no file is no entry. -/
structure Service (Record : Type) where
  signIns : SignIns Record
  file : List (Remembered Record)

/-- One locked operation of the service, or its restart.  `written` says whether
the write or removal of the file worked, `readable` whether the file can be read. -/
inductive Event (Record : Type)
  | login (now : Nat) (wall : Int) (remember must : Bool) (origin : Record) (token : Token)
      (csrf : Option Token) (written : Bool)
  | request (now : Nat) (wall : Int) (candidates : List Token) (require_csrf : Bool) (csrf : Token)
  | logout (wall : Int) (token : Token) (written : Bool)
  /-- The end of a password change, and `joan_auth_forget_all`. -/
  | forgetAll (written : Bool)
  | restart (readable : Bool)

namespace Service

variable {Record : Type}

/-- The static tables of a new process, and what its first load will read. -/
def boot (file : List (Remembered Record)) (readable : Bool) : Service Record where
  signIns :=
    { sessions := List.replicate SESSIONS none
      remembered := List.replicate REMEMBERED none
      remembered_loaded := false
      stored := if readable then file else [] }
  file := file

/-- `remembered_save` once the outdated entries are gone from the table: the file
is written, or removed when there is nothing to write. -/
def saved (service : Service Record) (signIns : SignIns Record) (written : Bool) :
    Service Record where
  signIns := signIns
  file := if written then signIns.remembered.filterMap id else service.file

variable (token_hash : Token → Token)

def joan_auth_login (service : Service Record) (now : Nat) (wall : Int) (remember must : Bool)
    (origin : Record) (token : Token) (csrf : Option Token) (written : Bool) : Service Record :=
  let signIns := service.signIns.openSession token_hash now wall remember must origin token csrf
  if csrf.isSome ∧ remember then service.saved signIns written else { service with signIns }

def clearSession (token : Token) : Option (Session Record) → Option (Session Record)
  | none => none
  | some session => if token = session.token then none else some session

def clearRemembered (hash : Token) : Option (Remembered Record) → Option (Remembered Record)
  | none => none
  | some entry => if hash = entry.hash then none else some entry

/-- Whether `joan_auth_logout` finds a remembered sign-in to clear. -/
def changed (hash : Token) (signIns : SignIns Record) : Bool :=
  signIns.remembered.any fun
    | none => false
    | some entry => decide (hash = entry.hash)

/-- The first half of `joan_auth_logout`: the session is gone, the file loaded. -/
def endSession (signIns : SignIns Record) (token : Token) : SignIns Record :=
  { signIns with sessions := signIns.sessions.map (clearSession token) }.remembered_load

def forget (signIns : SignIns Record) (hash : Token) : SignIns Record :=
  { signIns with remembered := signIns.remembered.map (clearRemembered hash) }

def joan_auth_logout (service : Service Record) (wall : Int) (token : Token) (written : Bool) :
    Service Record :=
  let signIns := endSession service.signIns token
  let hash := token_hash token
  if changed hash signIns then service.saved ((forget signIns hash).remembered_save wall) written
  else { service with signIns := forget signIns hash }

def forgetAll (service : Service Record) (written : Bool) : Service Record :=
  service.saved service.signIns.signOutEverywhere written

/-- The service after an event. -/
def step (service : Service Record) : Event Record → Service Record
  | .login now wall remember must origin token csrf written =>
      service.joan_auth_login token_hash now wall remember must origin token csrf written
  | .request now wall candidates require_csrf csrf =>
      { service with
        signIns :=
          (service.signIns.joan_auth_request token_hash now wall candidates require_csrf csrf).1 }
  | .logout wall token written => service.joan_auth_logout token_hash wall token written
  | .forgetAll written => service.forgetAll written
  | .restart readable => boot service.file readable

def run (service : Service Record) (events : List (Event Record)) : Service Record :=
  events.foldl (step token_hash) service

/-- A request with these cookies is answered as the session of this one. -/
def Accepts (service : Service Record) (token : Token) : Prop :=
  ∃ (now : Nat) (wall : Int) (candidates : List Token) (require_csrf : Bool) (csrf : Token)
    (session : Session Record) (remember : Bool),
    (service.signIns.joan_auth_request token_hash now wall candidates require_csrf csrf).2 =
        .accepted session remember ∧ session.token = token

/-! ## Where a cookie can still be found -/

/-- No table and no file entry to be loaded has the cookie. -/
structure Without (token : Token) (signIns : SignIns Record) : Prop where
  sessions : ∀ session, some session ∈ signIns.sessions → session.token ≠ token
  remembered : ∀ entry, some entry ∈ signIns.remembered → entry.hash ≠ token_hash token
  stored : signIns.remembered_loaded = false →
    ∀ entry ∈ signIns.stored, entry.hash ≠ token_hash token

/-- Nor does the file. -/
structure Gone (token : Token) (service : Service Record) : Prop where
  signIns : Without token_hash token service.signIns
  file : ∀ entry ∈ service.file, entry.hash ≠ token_hash token

/-- A login draws another token. -/
def DrawsOther (token : Token) : Event Record → Prop
  | .login _ _ _ _ _ drawn _ _ => token_hash drawn ≠ token_hash token
  | _ => True

variable {token_hash} {token : Token} {signIns : SignIns Record} {service : Service Record}

namespace Without

theorem load (without : Without token_hash token signIns) :
    Without token_hash token signIns.remembered_load := by
  unfold SignIns.remembered_load
  by_cases loaded : signIns.remembered_loaded = true
  · rw [if_pos loaded]
    exact without
  · rw [if_neg loaded]
    refine ⟨without.sessions, ?_, nofun⟩
    intro entry member
    cases List.mem_append.mp member with
    | inl fromFile =>
        obtain ⟨read, isRead, same⟩ := List.mem_map.mp fromFile
        rw [← Option.some.inj same]
        exact without.stored (by simpa using loaded) read (List.mem_of_mem_take isRead)
    | inr kept => exact without.remembered entry (List.mem_of_mem_drop kept)

theorem save (without : Without token_hash token signIns) (wall : Int) :
    Without token_hash token (signIns.remembered_save wall) := by
  refine ⟨without.sessions, ?_, without.stored⟩
  intro entry member
  obtain ⟨old, isOld, same⟩ := List.mem_map.mp member
  cases old with
  | none => exact absurd same nofun
  | some old =>
      by_cases outdated : old.until_ < wall
      · simp [outdated] at same
      · simp only [if_neg outdated, Option.some.injEq] at same
        exact same ▸ without.remembered old isOld

theorem setSession (without : Without token_hash token signIns) (slot : Nat)
    {new : Option (Session Record)} (other : ∀ session, new = some session →
      session.token ≠ token) :
    Without token_hash token { signIns with sessions := signIns.sessions.set slot new } := by
  refine ⟨?_, without.remembered, without.stored⟩
  intro session member
  cases List.mem_or_eq_of_mem_set member with
  | inl before => exact without.sessions session before
  | inr isNew => exact other session isNew.symm

theorem setRemembered (without : Without token_hash token signIns) (slot : Nat)
    {new : Remembered Record} (other : new.hash ≠ token_hash token) :
    Without token_hash token
      { signIns with remembered := signIns.remembered.set slot (some new) } := by
  refine ⟨without.sessions, ?_, without.stored⟩
  intro entry member
  cases List.mem_or_eq_of_mem_set member with
  | inl before => exact without.remembered entry before
  | inr isNew => exact Option.some.inj isNew ▸ other

theorem openSession (without : Without token_hash token signIns) {drawn : Token}
    (other : token_hash drawn ≠ token_hash token) (now : Nat) (wall : Int) (remember must : Bool)
    (origin : Record) (csrf : Option Token) :
    Without token_hash token
      (signIns.openSession token_hash now wall remember must origin drawn csrf) := by
  cases csrf with
  | none => exact without.setSession _ nofun
  | some csrf =>
      have newToken : ∀ opened : Session Record,
          some { token := drawn, csrf, expires := now + SESSION_SECONDS, must_change := must,
                 origin } = some opened → opened.token ≠ token := by
        intro opened same isToken
        rw [← Option.some.inj same] at isToken
        exact other (congrArg token_hash isToken)
      have opened := without.setSession (SignIns.freeSession signIns.sessions now) newToken
      cases remember with
      | false => exact opened
      | true => exact (opened.load.setRemembered _ other).save wall

end Without

theorem findRemembered_hash {wall : Int} {hash : Token} :
    ∀ {remembered : List (Option (Remembered Record))} {entry : Remembered Record},
      SignIns.findRemembered wall hash remembered = some entry → entry.hash = hash
  | none :: rest, entry, found => by
      rw [SignIns.findRemembered] at found
      exact findRemembered_hash found
  | some first :: rest, entry, found => by
      rw [SignIns.findRemembered] at found
      by_cases other : first.until_ < wall ∨ hash ≠ first.hash
      · rw [if_pos other] at found
        exact findRemembered_hash found
      · rw [if_neg other, Option.some.injEq] at found
        simp only [not_or, not_not] at other
        exact found ▸ other.2.symm

/-- A remembered sign-in that answers has the hash of the cookie it answers. -/
theorem tryRemembered_hash {wall : Int} {require_csrf : Bool} {csrf : Token}
    {remembered : List (Option (Remembered Record))} :
    ∀ {candidates : List Token} {before after : Bool} {cookie : Token} {entry : Remembered Record},
      SignIns.tryRemembered token_hash wall require_csrf csrf remembered candidates before =
          (some (cookie, entry), after) → entry.hash = token_hash cookie
  | candidate :: candidates, before, after, cookie, entry, found => by
      rw [SignIns.tryRemembered] at found
      cases live : SignIns.findRemembered wall (token_hash candidate) remembered with
      | none =>
          rw [live] at found
          exact tryRemembered_hash found
      | some hit =>
          simp only [live] at found
          by_cases fails : SignIns.csrfFails require_csrf csrf hit.csrf
          · rw [if_pos fails] at found
            exact tryRemembered_hash found
          · rw [if_neg fails] at found
            simp only [Prod.mk.injEq, Option.some.injEq] at found
            rw [← found.1.1, ← found.1.2]
            exact findRemembered_hash live

/-- A request brings the cookie back nowhere and is not answered as its session. -/
theorem Without.request (without : Without token_hash token signIns) (now : Nat) (wall : Int)
    (candidates : List Token) (require_csrf : Bool) (csrf : Token) :
    Without token_hash token
        (signIns.joan_auth_request token_hash now wall candidates require_csrf csrf).1 ∧
      ∀ session remember,
        (signIns.joan_auth_request token_hash now wall candidates require_csrf csrf).2 =
            .accepted session remember → session.token ≠ token := by
  unfold SignIns.joan_auth_request
  generalize tried : SignIns.trySessions now require_csrf csrf signIns.sessions candidates false =
    first
  obtain ⟨hit, live_without_csrf⟩ := first
  cases hit with
  | some hit =>
      obtain ⟨index, session⟩ := hit
      have other := without.sessions session (SignIns.trySessions_mem tried)
      constructor
      · apply without.setSession
        intro renewed same
        exact Option.some.inj same ▸ other
      · intro accepted remember answered
        simp only [Answer.accepted.injEq] at answered
        exact answered.1 ▸ other
  | none =>
      cases live_without_csrf with
      | true => exact ⟨without, fun _ _ answered => absurd answered nofun⟩
      | false =>
          have loaded := without.load
          generalize recalled : SignIns.tryRemembered token_hash wall require_csrf csrf
            signIns.remembered_load.remembered candidates false = second
          obtain ⟨hit, live_without_csrf⟩ := second
          cases hit with
          | none =>
              simp only [recalled]
              refine ⟨loaded, fun session remember answered => ?_⟩
              cases live_without_csrf with
              | false => exact absurd answered nofun
              | true => exact absurd answered nofun
          | some hit =>
              obtain ⟨cookie, entry⟩ := hit
              have notHash := loaded.remembered entry (SignIns.tryRemembered_mem recalled)
              have other : cookie ≠ token := by
                intro same
                rw [tryRemembered_hash recalled, same] at notHash
                exact notHash rfl
              simp only [recalled]
              constructor
              · apply loaded.setSession
                intro reopened same
                exact Option.some.inj same ▸ other
              · intro accepted remember answered
                simp only [Answer.accepted.injEq] at answered
                exact answered.1 ▸ other

theorem Without.accepts (without : Without token_hash token service.signIns) :
    ¬ service.Accepts token_hash token := by
  rintro ⟨now, wall, candidates, require_csrf, csrf, session, remember, answered, same⟩
  exact (without.request now wall candidates require_csrf csrf).2 session remember answered same

/-! ## Operations and restarts -/

/-- What a save writes comes from the table. -/
theorem Gone.saved (gone : Gone token_hash token service)
    (without : Without token_hash token signIns) (written : Bool) :
    Gone token_hash token (service.saved signIns written) := by
  refine ⟨without, ?_⟩
  intro entry member
  cases written with
  | false => exact gone.file entry member
  | true =>
      obtain ⟨slot, isSlot, same⟩ := List.mem_filterMap.mp member
      exact without.remembered entry (same ▸ isSlot)

theorem mem_map_clear {Kind : Type} {items : List (Option Kind)} {clear : Option Kind → Option Kind}
    (clears : ∀ item kept, clear item = some kept → item = some kept) {kept : Kind}
    (member : some kept ∈ items.map clear) : some kept ∈ items := by
  obtain ⟨item, isItem, same⟩ := List.mem_map.mp member
  exact clears item kept same ▸ isItem

theorem clearSession_eq_some {other : Token} {item : Option (Session Record)}
    {kept : Session Record} (isKept : clearSession other item = some kept) :
    item = some kept ∧ kept.token ≠ other := by
  cases item with
  | none => exact absurd isKept nofun
  | some session =>
      simp only [clearSession] at isKept
      by_cases same : other = session.token
      · simp [same] at isKept
      · rw [if_neg same, Option.some.injEq] at isKept
        exact ⟨congrArg some isKept, isKept ▸ Ne.symm same⟩

theorem clearRemembered_eq_some {hash : Token} {item : Option (Remembered Record)}
    {kept : Remembered Record} (isKept : clearRemembered hash item = some kept) :
    item = some kept ∧ kept.hash ≠ hash := by
  cases item with
  | none => exact absurd isKept nofun
  | some entry =>
      simp only [clearRemembered] at isKept
      by_cases same : hash = entry.hash
      · simp [same] at isKept
      · rw [if_neg same, Option.some.injEq] at isKept
        exact ⟨congrArg some isKept, isKept ▸ Ne.symm same⟩

theorem remembered_load_sessions (signIns : SignIns Record) :
    signIns.remembered_load.sessions = signIns.sessions := by
  unfold SignIns.remembered_load
  by_cases loaded : signIns.remembered_loaded = true
  · rw [if_pos loaded]
  · rw [if_neg loaded]

theorem remembered_load_loaded (signIns : SignIns Record) :
    signIns.remembered_load.remembered_loaded = true := by
  unfold SignIns.remembered_load
  by_cases loaded : signIns.remembered_loaded = true
  · rw [if_pos loaded, loaded]
  · rw [if_neg loaded]

theorem Without.endSession (without : Without token_hash token signIns) (other : Token) :
    Without token_hash token (endSession signIns other) := by
  apply load
  refine ⟨fun session member => without.sessions session ?_, without.remembered, without.stored⟩
  exact mem_map_clear (fun _ _ isKept => (clearSession_eq_some isKept).1) member

theorem Without.forget (without : Without token_hash token signIns) (hash : Token) :
    Without token_hash token (forget signIns hash) := by
  refine ⟨without.sessions, fun entry member => without.remembered entry ?_, without.stored⟩
  exact mem_map_clear (fun _ _ isKept => (clearRemembered_eq_some isKept).1) member

/-- A cookie that is nowhere stays nowhere when another one signs out. -/
theorem Gone.logout (gone : Gone token_hash token service) (wall : Int) (other : Token)
    (written : Bool) :
    Gone token_hash token (service.joan_auth_logout token_hash wall other written) := by
  have forgotten := (gone.signIns.endSession other).forget (token_hash other)
  unfold joan_auth_logout
  by_cases found : changed (token_hash other) (Service.endSession service.signIns other) = true
  · simp only [if_pos found]
    exact gone.saved (forgotten.save wall) written
  · simp only [if_neg found]
    exact ⟨forgotten, gone.file⟩

theorem signOutEverywhere_without (signIns : SignIns Record) :
    Without token_hash token signIns.signOutEverywhere := by
  have noneLeft : ∀ {Kind : Type} {items : List (Option Kind)} {item : Kind},
      some item ∉ items.map fun _ => (none : Option Kind) := by
    intro Kind items item member
    obtain ⟨_, _, same⟩ := List.mem_map.mp member
    exact absurd same nofun
  refine ⟨?_, fun entry member => absurd member noneLeft, ?_⟩
  · intro session member
    unfold SignIns.signOutEverywhere at member
    simp only [remembered_load_sessions] at member
    exact absurd member noneLeft
  · intro unloaded
    have loaded : signIns.signOutEverywhere.remembered_loaded = true := remembered_load_loaded _
    rw [loaded] at unloaded
    exact absurd unloaded nofun

theorem Gone.boot {file : List (Remembered Record)}
    (absent : ∀ entry ∈ file, entry.hash ≠ token_hash token) (readable : Bool) :
    Gone token_hash token (Service.boot file readable) := by
  refine ⟨⟨?_, ?_, ?_⟩, absent⟩
  · intro session member
    exact absurd (List.eq_of_mem_replicate member) nofun
  · intro entry member
    exact absurd (List.eq_of_mem_replicate member) nofun
  · intro _ entry member
    cases readable with
    | true => exact absent entry member
    | false => exact absurd member List.not_mem_nil

/-- No event but a login that draws it brings the cookie back. -/
theorem step_gone (gone : Gone token_hash token service) {event : Event Record}
    (drawsOther : DrawsOther token_hash token event) :
    Gone token_hash token (service.step token_hash event) := by
  cases event with
  | login now wall remember must origin drawn csrf written =>
      have opened := gone.signIns.openSession drawsOther now wall remember must origin csrf
      unfold step joan_auth_login
      by_cases saves : csrf.isSome = true ∧ remember = true
      · simp only [if_pos saves]
        exact gone.saved opened written
      · simp only [if_neg saves]
        exact ⟨opened, gone.file⟩
  | request now wall candidates require_csrf csrf =>
      exact ⟨(gone.signIns.request now wall candidates require_csrf csrf).1, gone.file⟩
  | logout wall other written => exact gone.logout wall other written
  | forgetAll written => exact gone.saved (signOutEverywhere_without service.signIns) written
  | restart readable => exact Gone.boot gone.file readable

theorem run_gone (gone : Gone token_hash token service) {events : List (Event Record)}
    (drawOther : ∀ event ∈ events, DrawsOther token_hash token event) :
    Gone token_hash token (service.run token_hash events) := by
  induction events generalizing service with
  | nil => exact gone
  | cons event events inductionHypothesis =>
      exact inductionHypothesis (step_gone gone (drawOther event List.mem_cons_self))
        fun later member => drawOther later (List.mem_cons_of_mem _ member)

/-! ## When a sign-out is final -/

/-- The table has its eight slots, and the file no more entries. -/
structure Sized (service : Service Record) : Prop where
  remembered : service.signIns.remembered.length = REMEMBERED
  file : service.file.length ≤ REMEMBERED

theorem remembered_load_length (sized : signIns.remembered.length = REMEMBERED) :
    signIns.remembered_load.remembered.length = REMEMBERED := by
  unfold SignIns.remembered_load
  by_cases loaded : signIns.remembered_loaded = true
  · rw [if_pos loaded, sized]
  · rw [if_neg loaded]
    simp only [List.length_append, List.length_drop, List.length_map, List.length_take, sized]
    omega

theorem Sized.saved (sized : Sized service) (length : signIns.remembered.length = REMEMBERED)
    (written : Bool) : Sized (service.saved signIns written) := by
  refine ⟨length, ?_⟩
  cases written with
  | false => exact sized.file
  | true => exact Nat.le_trans (List.length_filterMap_le id signIns.remembered) (Nat.le_of_eq length)

theorem Sized.openSession (sized : Sized service) (now : Nat) (wall : Int) (remember must : Bool)
    (origin : Record) (drawn : Token) (csrf : Option Token) :
    (service.signIns.openSession token_hash now wall remember must origin drawn
      csrf).remembered.length = REMEMBERED := by
  unfold SignIns.openSession
  cases csrf with
  | none => exact sized.remembered
  | some csrf =>
      cases remember with
      | false => exact sized.remembered
      | true =>
          simp only [if_true, SignIns.remembered_save, List.length_map, List.length_set]
          apply remembered_load_length
          exact sized.remembered

theorem Sized.request (sized : Sized service) (now : Nat) (wall : Int) (candidates : List Token)
    (require_csrf : Bool) (csrf : Token) :
    (service.signIns.joan_auth_request token_hash now wall candidates require_csrf
      csrf).1.remembered.length = REMEMBERED := by
  have loaded := remembered_load_length sized.remembered
  unfold SignIns.joan_auth_request
  generalize SignIns.trySessions now require_csrf csrf service.signIns.sessions candidates false =
    first
  obtain ⟨hit, live_without_csrf⟩ := first
  cases hit with
  | some hit => exact sized.remembered
  | none =>
      cases live_without_csrf with
      | true => exact sized.remembered
      | false =>
          dsimp only
          generalize SignIns.tryRemembered token_hash wall require_csrf csrf
            service.signIns.remembered_load.remembered candidates false = second
          obtain ⟨hit, live_without_csrf⟩ := second
          cases hit with
          | none | some => exact loaded

theorem forget_endSession_length (sized : signIns.remembered.length = REMEMBERED)
    (other hash : Token) :
    (forget (endSession signIns other) hash).remembered.length = REMEMBERED := by
  simp only [forget, List.length_map]
  exact remembered_load_length sized

theorem step_sized (sized : Sized service) (event : Event Record) :
    Sized (service.step token_hash event) := by
  cases event with
  | login now wall remember must origin drawn csrf written =>
      have length := @Sized.openSession _ token_hash _ sized now wall remember must origin drawn csrf
      unfold step joan_auth_login
      by_cases saves : csrf.isSome = true ∧ remember = true
      · simp only [if_pos saves]
        exact sized.saved length written
      · simp only [if_neg saves]
        exact ⟨length, sized.file⟩
  | request now wall candidates require_csrf csrf =>
      exact ⟨sized.request now wall candidates require_csrf csrf, sized.file⟩
  | logout wall other written =>
      have length := forget_endSession_length sized.remembered other (token_hash other)
      unfold step joan_auth_logout
      by_cases found : changed (token_hash other) (endSession service.signIns other) = true
      · simp only [if_pos found]
        apply sized.saved
        simpa only [SignIns.remembered_save, List.length_map] using length
      · simp only [if_neg found]
        exact ⟨length, sized.file⟩
  | forgetAll written =>
      apply sized.saved
      simp only [SignIns.signOutEverywhere, List.length_map]
      exact remembered_load_length sized.remembered
  | restart readable => exact ⟨List.length_replicate, sized.file⟩

theorem run_sized (events : List (Event Record)) :
    Sized ((boot [] true : Service Record).run token_hash events) := by
  have booted : Sized (boot [] true : Service Record) :=
    ⟨List.length_replicate, Nat.zero_le _⟩
  have kept : ∀ (service : Service Record) (event : Event Record), Sized service →
      Sized (service.step token_hash event) := fun _ event sized => step_sized sized event
  exact foldl_preserves kept events booted

/-- The tables of the process no longer know the cookie that signed out. -/
theorem logout_without (service : Service Record) (wall : Int) (token : Token) (written : Bool) :
    Without token_hash token (service.joan_auth_logout token_hash wall token written).signIns := by
  have forgotten : Without token_hash token
      (forget (endSession service.signIns token) (token_hash token)) := by
    refine ⟨?_, ?_, ?_⟩
    · intro session member
      have inMap : some session ∈ service.signIns.sessions.map (clearSession token) := by
        simpa only [forget, endSession, remembered_load_sessions] using member
      obtain ⟨item, -, isKept⟩ := List.mem_map.mp inMap
      exact (clearSession_eq_some isKept).2
    · intro entry member
      obtain ⟨item, -, isKept⟩ := List.mem_map.mp member
      exact (clearRemembered_eq_some isKept).2
    · intro unloaded
      have loaded : (forget (endSession service.signIns token)
          (token_hash token)).remembered_loaded = true := remembered_load_loaded _
      rw [loaded] at unloaded
      exact absurd unloaded nofun
  unfold joan_auth_logout
  by_cases found : changed (token_hash token) (endSession service.signIns token) = true
  · simp only [if_pos found]
    exact forgotten.save wall
  · simp only [if_neg found]
    exact forgotten

theorem changed_endSession (signIns : SignIns Record) (hash token : Token) :
    changed hash (endSession signIns token) = changed hash signIns.remembered_load := by
  unfold endSession SignIns.remembered_load
  by_cases loaded : signIns.remembered_loaded = true
  · simp only [if_pos loaded, changed]
  · simp only [if_neg loaded, changed]

/-- The file after a sign-out: the table's entries if there was one to clear and the
save worked, or what it was. -/
theorem logout_file (service : Service Record) (wall : Int) (token : Token) (written : Bool) :
    (service.joan_auth_logout token_hash wall token written).file =
      if written = true ∧ changed (token_hash token) service.signIns.remembered_load = true then
        (service.joan_auth_logout token_hash wall token written).signIns.remembered.filterMap id
      else service.file := by
  rw [← changed_endSession service.signIns (token_hash token) token]
  unfold joan_auth_logout
  by_cases found : changed (token_hash token) (endSession service.signIns token) = true
  · cases written with
    | false => simp [found, saved]
    | true => simp [found, saved]
  · simp [found]

theorem findRemembered_of_mem {wall : Int} {hash : Token} {entry : Remembered Record}
    (live : ¬ entry.until_ < wall) (isHash : entry.hash = hash) :
    ∀ {remembered : List (Option (Remembered Record))}, some entry ∈ remembered →
      ∃ hit, SignIns.findRemembered wall hash remembered = some hit
  | none :: rest, member => by
      rw [SignIns.findRemembered]
      exact findRemembered_of_mem live isHash (by simpa using member)
  | some first :: rest, member => by
      rw [SignIns.findRemembered]
      by_cases other : first.until_ < wall ∨ hash ≠ first.hash
      · rw [if_pos other]
        cases List.mem_cons.mp member with
        | inr inRest => exact findRemembered_of_mem live isHash inRest
        | inl isFirst =>
            rw [← Option.some.inj isFirst] at other
            exact absurd other (by simp [live, isHash])
      · rw [if_neg other]
        exact ⟨first, rfl⟩

/-- A cookie the file still knows is accepted after a restart. -/
theorem restart_accepts (sized : Sized service) {entry : Remembered Record}
    (member : entry ∈ service.file) (isHash : entry.hash = token_hash token) :
    (service.step token_hash (.restart true)).Accepts token_hash token := by
  let restarted : SignIns Record := (boot service.file true).signIns
  have noSession : ∀ count start, SignIns.findSession 0 token
      (List.replicate count (none : Option (Session Record))) start = none := by
    intro count
    induction count with
    | zero => exact fun _ => rfl
    | succ count inductionHypothesis => exact fun start => inductionHypothesis (start + 1)
  have tried : SignIns.trySessions 0 false [] restarted.sessions [token] false = (none, false) := by
    simp [SignIns.trySessions, restarted, boot, noSession]
  have loaded : some entry ∈ restarted.remembered_load.remembered := by
    have all : service.file.take REMEMBERED = service.file := List.take_of_length_le sized.file
    simp [restarted, boot, SignIns.remembered_load, all, member]
  obtain ⟨hit, found⟩ := findRemembered_of_mem (Int.lt_irrefl entry.until_) isHash loaded
  have recalled : SignIns.tryRemembered token_hash entry.until_ false []
      restarted.remembered_load.remembered [token] false = (some (token, hit), false) := by
    simp [SignIns.tryRemembered, found, SignIns.csrfFails]
  refine ⟨0, entry.until_, [token], false, [],
    { token, csrf := hit.csrf, expires := 0 + SESSION_SECONDS, must_change := hit.must_change,
      origin := hit.origin }, true, ?_, rfl⟩
  show (restarted.joan_auth_request token_hash 0 entry.until_ [token] false []).2 = _
  simp only [SignIns.joan_auth_request, tried, recalled]

/-- A sign-out is final exactly when the file had no entry for the cookie, or the
table had one and the save that follows works: then no request is answered as its
session in any run without a login that draws it again. -/
theorem logout_final_iff (events : List (Event Record)) (wall : Int) (token : Token)
    (written : Bool) :
    let service : Service Record := (boot [] true).run token_hash events
    (∀ later : List (Event Record), (∀ event ∈ later, DrawsOther token_hash token event) →
        ¬ ((service.joan_auth_logout token_hash wall token written).run token_hash later).Accepts
          token_hash token) ↔
      (∀ entry ∈ service.file, entry.hash ≠ token_hash token) ∨
        (written = true ∧ changed (token_hash token) service.signIns.remembered_load = true) := by
  intro service
  have sized : Sized service := run_sized events
  have without := @logout_without _ token_hash service wall token written
  have file := @logout_file _ token_hash service wall token written
  constructor
  · intro final
    by_contra fails
    obtain ⟨inFile, notSaved⟩ := not_or.mp fails
    simp only [not_forall, not_not] at inFile
    obtain ⟨entry, member, isHash⟩ := inFile
    rw [if_neg notSaved] at file
    have stays : Sized (service.joan_auth_logout token_hash wall token written) :=
      step_sized sized (.logout wall token written)
    exact final [.restart true] (by simp [DrawsOther])
      (restart_accepts stays (file ▸ member) isHash)
  · intro holds later drawOther
    have gone : Gone token_hash token (service.joan_auth_logout token_hash wall token written) := by
      refine ⟨without, ?_⟩
      intro entry member
      rw [file] at member
      by_cases saves : written = true ∧
          changed (token_hash token) service.signIns.remembered_load = true
      · rw [if_pos saves] at member
        obtain ⟨slot, isSlot, same⟩ := List.mem_filterMap.mp member
        exact without.remembered entry (same ▸ isSlot)
      · rw [if_neg saves] at member
        exact (holds.resolve_right saves) entry member
    exact (run_gone gone drawOther).signIns.accepts

/-- The file cannot be written as the cookie signs out: after a restart it is back. -/
theorem logout_not_final :
    ∃ (events : List (Event Unit)) (token : Token),
      ((((boot [] true : Service Unit).run id events).joan_auth_logout id 0 token false).run id
        [.restart true]).Accepts id token := by
  refine ⟨[.login 0 0 true false () ['c'] (some ['s']) true], ['c'], ?_⟩
  have sized := @run_sized Unit id [.login 0 0 true false () ['c'] (some ['s']) true]
  refine @restart_accepts _ id ['c'] _ (@step_sized _ id _ sized (.logout 0 ['c'] false))
    { hash := ['c'], csrf := ['s'], until_ := REMEMBER_SECONDS, must_change := false, origin := () }
    ?_ rfl
  decide +kernel

end Service

end JooanW3U.Daemon.SignOut
