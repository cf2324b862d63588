import Mathlib.Data.List.Basic

/-!
Owns the in-memory sessions of the system service and its remembered sign-ins:
opening a session for a verified login, answering a request from a cookie, and
forgetting every sign-in at once.  Each sign-in carries the credential record
its password was verified against, which no operation reads.

Does not own the text of cookies and of the remembered file, or the credential
record itself.
-/

namespace JooanW3U.Daemon

def SESSION_SECONDS : Nat := 30 * 60
def SESSIONS : Nat := 16
def REMEMBERED : Nat := 8
def REMEMBER_SECONDS : Int := 30 * 24 * 3600

/-- A session token, a CSRF token or a token's hash: 64 characters. -/
abbrev Token := List Char

/-- A used session slot. -/
structure Session (Record : Type) where
  token : Token
  csrf : Token
  expires : Nat
  must_change : Bool
  origin : Record
  deriving Repr, DecidableEq

/-- A used remembered slot, dated by the wall clock. -/
structure Remembered (Record : Type) where
  hash : Token
  csrf : Token
  until_ : Int
  must_change : Bool
  origin : Record
  deriving Repr, DecidableEq

/-- The two static tables, and the remembered file as the first load finds it. -/
structure SignIns (Record : Type) where
  sessions : List (Option (Session Record))
  remembered : List (Option (Remembered Record))
  remembered_loaded : Bool
  stored : List (Remembered Record)
  deriving DecidableEq

/-- What `joan_auth_request` tells its caller. -/
inductive Answer (Record : Type)
  | accepted (session : Session Record) (remember : Bool)
  | csrfMismatch
  | rejected
  deriving Repr, DecidableEq

namespace SignIns

variable {Record : Type} (token_hash : Token → Token)

/-- The first session slot that is unused or expired, or else slot 0. -/
def freeSession (sessions : List (Option (Session Record))) (now : Nat) : Nat :=
  (sessions.findIdx? fun
    | none => true
    | some session => decide (session.expires < now)).getD 0

def remembered_load (signIns : SignIns Record) : SignIns Record :=
  if signIns.remembered_loaded then signIns
  else
    let read := (signIns.stored.take REMEMBERED).map some
    { signIns with
      remembered_loaded := true
      remembered := read ++ signIns.remembered.drop read.length }

/-- `remembered_save`, as far as it changes the table: outdated entries go. -/
def remembered_save (signIns : SignIns Record) (wall : Int) : SignIns Record :=
  { signIns with
    remembered := signIns.remembered.map fun
      | none => none
      | some entry => if entry.until_ < wall then none else some entry }

/-- The slot for a new remembered sign-in: the first unused one, or else the one
that ends first.  `oldest` starts at the source's sentinel -1. -/
def rememberedSlot : List (Option (Remembered Record)) → Nat → Int → Nat → Nat
  | [], _, _, slot => slot
  | none :: _, index, _, _ => index
  | some entry :: rest, index, oldest, slot =>
      if oldest = -1 ∨ entry.until_ < oldest then
        rememberedSlot rest (index + 1) entry.until_ index
      else rememberedSlot rest (index + 1) oldest slot

/-- The session part of `joan_auth_login`, under the lock.  `csrf` is `none`
when the second random read fails. -/
def openSession (signIns : SignIns Record) (now : Nat) (wall : Int) (remember : Bool)
    (must : Bool) (origin : Record) (token : Token) (csrf : Option Token) : SignIns Record :=
  let slot := freeSession signIns.sessions now
  match csrf with
  | none => { signIns with sessions := signIns.sessions.set slot none }
  | some csrf =>
      let session : Session Record :=
        { token, csrf, expires := now + SESSION_SECONDS, must_change := must, origin }
      let signIns := { signIns with sessions := signIns.sessions.set slot (some session) }
      if remember then
        let signIns := signIns.remembered_load
        let entry : Remembered Record :=
          { hash := token_hash token, csrf, until_ := wall + REMEMBER_SECONDS,
            must_change := must, origin }
        let slot := rememberedSlot signIns.remembered 0 (-1) 0
        { signIns with remembered := signIns.remembered.set slot (some entry) }.remembered_save wall
      else signIns

/-! ## Answering a request -/

/-- The first live session with the token, and its slot. -/
def findSession (now : Nat) (token : Token) :
    List (Option (Session Record)) → Nat → Option (Nat × Session Record)
  | [], _ => none
  | none :: rest, index => findSession now token rest (index + 1)
  | some session :: rest, index =>
      if now ≤ session.expires ∧ token = session.token then some (index, session)
      else findSession now token rest (index + 1)

/-- The first remembered sign-in that is not outdated and has the token's hash. -/
def findRemembered (wall : Int) (hash : Token) :
    List (Option (Remembered Record)) → Option (Remembered Record)
  | [] => none
  | none :: rest => findRemembered wall hash rest
  | some entry :: rest =>
      if entry.until_ < wall ∨ hash ≠ entry.hash then findRemembered wall hash rest
      else some entry

/-- The token the request carries is missing or not the session's. -/
def csrfFails (require_csrf : Bool) (csrf expected : Token) : Prop :=
  require_csrf = true ∧ (csrf = [] ∨ csrf ≠ expected)

instance (require_csrf : Bool) (csrf expected : Token) :
    Decidable (csrfFails require_csrf csrf expected) :=
  inferInstanceAs (Decidable (_ ∧ _))

/-- The loop over the cookie's candidates against the sessions: the session that
answers, and whether a live one lacked its CSRF token. -/
def trySessions (now : Nat) (require_csrf : Bool) (csrf : Token)
    (sessions : List (Option (Session Record))) :
    List Token → Bool → Option (Nat × Session Record) × Bool
  | [], live_without_csrf => (none, live_without_csrf)
  | token :: candidates, live_without_csrf =>
      match findSession now token sessions 0 with
      | none => trySessions now require_csrf csrf sessions candidates live_without_csrf
      | some (index, session) =>
          if csrfFails require_csrf csrf session.csrf then
            trySessions now require_csrf csrf sessions candidates true
          else (some (index, session), live_without_csrf)

/-- The same loop against the remembered sign-ins. -/
def tryRemembered (wall : Int) (require_csrf : Bool) (csrf : Token)
    (remembered : List (Option (Remembered Record))) :
    List Token → Bool → Option (Token × Remembered Record) × Bool
  | [], live_without_csrf => (none, live_without_csrf)
  | token :: candidates, live_without_csrf =>
      match findRemembered wall (token_hash token) remembered with
      | none => tryRemembered wall require_csrf csrf remembered candidates live_without_csrf
      | some entry =>
          if csrfFails require_csrf csrf entry.csrf then
            tryRemembered wall require_csrf csrf remembered candidates true
          else (some (token, entry), live_without_csrf)

def refused (live_without_csrf : Bool) : Answer Record :=
  if live_without_csrf then .csrfMismatch else .rejected

/-- `joan_auth_request`, on the cookie's candidate tokens in order. -/
def joan_auth_request (signIns : SignIns Record) (now : Nat) (wall : Int)
    (candidates : List Token) (require_csrf : Bool) (csrf : Token) :
    SignIns Record × Answer Record :=
  match trySessions now require_csrf csrf signIns.sessions candidates false with
  | (some (index, session), _) =>
      let renewed := { session with expires := now + SESSION_SECONDS }
      ({ signIns with sessions := signIns.sessions.set index (some renewed) },
        .accepted renewed false)
  | (none, true) => (signIns, refused true)
  | (none, false) =>
      let signIns := signIns.remembered_load
      match tryRemembered token_hash wall require_csrf csrf signIns.remembered candidates false with
      | (none, live_without_csrf) => (signIns, refused live_without_csrf)
      | (some (token, entry), _) =>
          let session : Session Record :=
            { token, csrf := entry.csrf, expires := now + SESSION_SECONDS,
              must_change := entry.must_change, origin := entry.origin }
          let slot := freeSession signIns.sessions now
          ({ signIns with sessions := signIns.sessions.set slot (some session) },
            .accepted session true)

/-- The locked end of `joan_auth_change_password`: everyone is signed out. -/
def signOutEverywhere (signIns : SignIns Record) : SignIns Record :=
  let signIns := { signIns with sessions := signIns.sessions.map fun _ => none }
  let signIns := signIns.remembered_load
  { signIns with remembered := signIns.remembered.map fun _ => none }

/-! ## Where sign-ins come from -/

/-- Every sign-in that can still be accepted was verified against a record with
the property; the file counts until it has been loaded. -/
structure Origins (Property : Record → Prop) (signIns : SignIns Record) : Prop where
  sessions : ∀ session, some session ∈ signIns.sessions → Property session.origin
  remembered : ∀ entry, some entry ∈ signIns.remembered → Property entry.origin
  stored : signIns.remembered_loaded = false → ∀ entry ∈ signIns.stored, Property entry.origin

variable {token_hash : Token → Token} {Property : Record → Prop} {signIns : SignIns Record}

theorem Origins.load (from_ : Origins Property signIns) :
    Origins Property signIns.remembered_load := by
  unfold remembered_load
  by_cases loaded : signIns.remembered_loaded = true
  · rw [if_pos loaded]
    exact from_
  · rw [if_neg loaded]
    have unloaded : signIns.remembered_loaded = false := by simpa using loaded
    refine ⟨from_.sessions, ?_, nofun⟩
    intro entry member
    cases List.mem_append.mp member with
    | inl fromFile =>
        obtain ⟨read, isRead, same⟩ := List.mem_map.mp fromFile
        rw [← Option.some.inj same]
        exact from_.stored unloaded read (List.mem_of_mem_take isRead)
    | inr kept => exact from_.remembered entry (List.mem_of_mem_drop kept)

theorem Origins.save (from_ : Origins Property signIns) (wall : Int) :
    Origins Property (signIns.remembered_save wall) := by
  refine ⟨from_.sessions, ?_, from_.stored⟩
  intro entry member
  obtain ⟨old, isOld, same⟩ := List.mem_map.mp member
  cases old with
  | none => exact absurd same nofun
  | some old =>
      by_cases outdated : old.until_ < wall
      · simp only [if_pos outdated, reduceCtorEq] at same
      · simp only [if_neg outdated, Option.some.injEq] at same
        exact same ▸ from_.remembered old isOld

/-- Writing a session slot with nothing, or with a session of the property. -/
theorem Origins.setSession (from_ : Origins Property signIns) (slot : Nat)
    {new : Option (Session Record)} (newOrigin : ∀ session, new = some session →
      Property session.origin) :
    Origins Property { signIns with sessions := signIns.sessions.set slot new } := by
  refine ⟨?_, from_.remembered, from_.stored⟩
  intro session member
  cases List.mem_or_eq_of_mem_set member with
  | inl before => exact from_.sessions session before
  | inr isNew => exact newOrigin session isNew.symm

theorem Origins.setRemembered (from_ : Origins Property signIns) (slot : Nat)
    {new : Remembered Record} (newOrigin : Property new.origin) :
    Origins Property { signIns with remembered := signIns.remembered.set slot (some new) } := by
  refine ⟨from_.sessions, ?_, from_.stored⟩
  intro entry member
  cases List.mem_or_eq_of_mem_set member with
  | inl before => exact from_.remembered entry before
  | inr isNew => exact Option.some.inj isNew ▸ newOrigin

theorem Origins.openSession (from_ : Origins Property signIns) {origin : Record}
    (verified : Property origin) (now : Nat) (wall : Int) (remember must : Bool) (token : Token)
    (csrf : Option Token) :
    Origins Property
      (signIns.openSession token_hash now wall remember must origin token csrf) := by
  cases csrf with
  | none => exact from_.setSession _ nofun
  | some csrf =>
      let session : Session Record :=
        { token, csrf, expires := now + SESSION_SECONDS, must_change := must, origin }
      have newOrigin : ∀ opened, some session = some opened → Property opened.origin := by
        intro opened same
        exact Option.some.inj same ▸ verified
      have opened := from_.setSession (freeSession signIns.sessions now) newOrigin
      cases remember with
      | false => exact opened
      | true =>
          apply Origins.save
          apply Origins.setRemembered opened.load
          exact verified

theorem findSession_mem {now : Nat} {token : Token} :
    ∀ {sessions : List (Option (Session Record))} {start index : Nat} {session : Session Record},
      findSession now token sessions start = some (index, session) → some session ∈ sessions
  | none :: rest, start, index, session, found => by
      rw [findSession] at found
      exact List.mem_cons_of_mem _ (findSession_mem found)
  | some first :: rest, start, index, session, found => by
      rw [findSession] at found
      by_cases live : now ≤ first.expires ∧ token = first.token
      · rw [if_pos live] at found
        simp only [Option.some.injEq, Prod.mk.injEq] at found
        exact found.2 ▸ List.mem_cons_self
      · rw [if_neg live] at found
        exact List.mem_cons_of_mem _ (findSession_mem found)

theorem findRemembered_mem {wall : Int} {hash : Token} :
    ∀ {remembered : List (Option (Remembered Record))} {entry : Remembered Record},
      findRemembered wall hash remembered = some entry → some entry ∈ remembered
  | none :: rest, entry, found => by
      rw [findRemembered] at found
      exact List.mem_cons_of_mem _ (findRemembered_mem found)
  | some first :: rest, entry, found => by
      rw [findRemembered] at found
      by_cases other : first.until_ < wall ∨ hash ≠ first.hash
      · rw [if_pos other] at found
        exact List.mem_cons_of_mem _ (findRemembered_mem found)
      · rw [if_neg other] at found
        exact Option.some.inj found ▸ List.mem_cons_self

theorem trySessions_mem {now : Nat} {require_csrf : Bool} {csrf : Token}
    {sessions : List (Option (Session Record))} :
    ∀ {candidates : List Token} {before after : Bool} {index : Nat} {session : Session Record},
      trySessions now require_csrf csrf sessions candidates before =
          (some (index, session), after) → some session ∈ sessions
  | token :: candidates, before, after, index, session, found => by
      rw [trySessions] at found
      cases live : findSession now token sessions 0 with
      | none =>
          rw [live] at found
          exact trySessions_mem found
      | some hit =>
          obtain ⟨place, hitSession⟩ := hit
          simp only [live] at found
          by_cases fails : csrfFails require_csrf csrf hitSession.csrf
          · rw [if_pos fails] at found
            exact trySessions_mem found
          · rw [if_neg fails] at found
            simp only [Prod.mk.injEq, Option.some.injEq] at found
            exact found.1.2 ▸ findSession_mem live

theorem tryRemembered_mem {wall : Int} {require_csrf : Bool} {csrf : Token}
    {remembered : List (Option (Remembered Record))} :
    ∀ {candidates : List Token} {before after : Bool} {token : Token} {entry : Remembered Record},
      tryRemembered token_hash wall require_csrf csrf remembered candidates before =
          (some (token, entry), after) → some entry ∈ remembered
  | candidate :: candidates, before, after, token, entry, found => by
      rw [tryRemembered] at found
      cases live : findRemembered wall (token_hash candidate) remembered with
      | none =>
          rw [live] at found
          exact tryRemembered_mem found
      | some hit =>
          simp only [live] at found
          by_cases fails : csrfFails require_csrf csrf hit.csrf
          · rw [if_pos fails] at found
            exact tryRemembered_mem found
          · rw [if_neg fails] at found
            simp only [Prod.mk.injEq, Option.some.injEq] at found
            exact found.1.2 ▸ findRemembered_mem live

/-- A request keeps the origins, and the session it accepts is one of them. -/
theorem Origins.request (from_ : Origins Property signIns) (now : Nat) (wall : Int)
    (candidates : List Token) (require_csrf : Bool) (csrf : Token) :
    Origins Property
        (signIns.joan_auth_request token_hash now wall candidates require_csrf csrf).1 ∧
      ∀ session remember,
        (signIns.joan_auth_request token_hash now wall candidates require_csrf csrf).2 =
            .accepted session remember → Property session.origin := by
  unfold joan_auth_request
  generalize tried : trySessions now require_csrf csrf signIns.sessions candidates false = first
  obtain ⟨hit, live_without_csrf⟩ := first
  cases hit with
  | some hit =>
      obtain ⟨index, session⟩ := hit
      have origin := from_.sessions session (trySessions_mem tried)
      constructor
      · apply from_.setSession
        intro renewed same
        exact Option.some.inj same ▸ origin
      · intro accepted remember answered
        simp only [Answer.accepted.injEq] at answered
        exact answered.1 ▸ origin
  | none =>
      cases live_without_csrf with
      | true => exact ⟨from_, fun _ _ answered => absurd answered nofun⟩
      | false =>
          have loaded := from_.load
          generalize recalled : tryRemembered token_hash wall require_csrf csrf
            signIns.remembered_load.remembered candidates false = second
          obtain ⟨hit, live_without_csrf⟩ := second
          cases hit with
          | none =>
              simp only [recalled]
              refine ⟨loaded, fun session remember answered => ?_⟩
              cases live_without_csrf with
              | false => exact absurd answered nofun
              | true => exact absurd answered nofun
          | some hit =>
              obtain ⟨token, entry⟩ := hit
              have origin := loaded.remembered entry (tryRemembered_mem recalled)
              simp only [recalled]
              constructor
              · apply loaded.setSession
                intro reopened same
                exact Option.some.inj same ▸ origin
              · intro accepted remember answered
                simp only [Answer.accepted.injEq] at answered
                exact answered.1 ▸ origin

/-- Nothing that can be accepted survives a sign-out everywhere. -/
theorem signOutEverywhere_origins (signIns : SignIns Record) :
    Origins Property signIns.signOutEverywhere := by
  have noneLeft : ∀ {Kind : Type} {items : List (Option Kind)} {item : Kind},
      some item ∉ items.map fun _ => (none : Option Kind) := by
    intro Kind items item member
    obtain ⟨_, _, same⟩ := List.mem_map.mp member
    exact absurd same nofun
  constructor
  case sessions =>
    intro session member
    have kept : signIns.signOutEverywhere.sessions =
        signIns.sessions.map fun _ => none := by
      unfold signOutEverywhere remembered_load
      by_cases loaded : signIns.remembered_loaded = true
      · simp [loaded]
      · simp [loaded]
    exact absurd (kept ▸ member) noneLeft
  case remembered =>
    intro entry member
    exact absurd member noneLeft
  case stored =>
    intro unloaded
    have loaded : signIns.signOutEverywhere.remembered_loaded = true := by
      unfold signOutEverywhere remembered_load
      by_cases loaded : signIns.remembered_loaded = true
      · simp [loaded]
      · simp [loaded]
    rw [loaded] at unloaded
    exact absurd unloaded nofun

end SignIns

end JooanW3U.Daemon
