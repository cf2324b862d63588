import JooanW3U.Media.OnvifAuth

/-!
Owns the platform sessions that the media server accepts: which cookies cross to
the platform, and the cache of the sessions the platform confirmed.  A session is
accepted only where the platform confirmed it at that request or within the cache's
life before it.

Does not own the loopback request itself, whose reply is an input.
-/

namespace JooanW3U.Media.JoanSession

open JooanW3U.Media
open JooanW3U.Media.OnvifAuth

def SESSION_CACHE : Nat := 8
def SESSION_CACHE_US : UInt64 := 3000000

/-- `jipc_joan_cookies`, over the `;`-separated pieces of the header. -/
def joanCookies (capacity : Nat) : List (List Char) → List Char → List Char
  | [], used => used
  | piece :: rest, used =>
      let cookie := piece.dropWhile (· = ' ')
      if 13 < cookie.length ∧ "joan_session=".toList.isPrefixOf cookie then
        if used.length + cookie.length + 3 > capacity then used
        else joanCookies capacity rest (used ++ (if used = [] then [] else "; ".toList) ++ cookie)
      else joanCookies capacity rest used

/-- The session cookies of a request, in a buffer of this size. -/
def jipc_joan_cookies (header : List Char) (capacity : Nat) : List Char :=
  joanCookies capacity (header.splitOn ';') []

structure SessionEntry where
  key : List Char
  csrf : List Char
  validUntil : UInt64
  deriving Repr, DecidableEq

def SessionEntry.blank : SessionEntry := ⟨[], [], 0⟩

/-- That the platform confirmed the session of a key at this time. -/
structure Confirmation where
  time : UInt64
  key : List Char
  csrf : List Char
  deriving Repr, DecidableEq

/-- The cache, and every confirmation so far for the trace. -/
structure Sessions where
  cache : List SessionEntry
  confirmed : List Confirmation
  deriving Repr, DecidableEq

def Sessions.initial : Sessions := ⟨List.replicate SESSION_CACHE .blank, []⟩

/-- The reply to `GET /api/v1/session`; `csrf` is what `jipc_json_string` reads. -/
structure PlatformReply where
  status : Nat
  csrf : Option (List Char)
  deriving Repr, DecidableEq

def hexDigit (value : Nat) : Char :=
  "0123456789abcdef".toList.getD value '0'

/-- The SHA-1 of the cookies, in hexadecimal. -/
def sessionKey (crypto : Crypto) (cookies : List Char) : List Char :=
  (crypto.sha1 (bytesOf cookies)).flatMap fun byte =>
    [hexDigit (byte.toNat / 16), hexDigit (byte.toNat % 16)]

/-- The entry that expires first. -/
def oldest : List SessionEntry → Nat → Nat × SessionEntry → Nat
  | [], _, (slot, _) => slot
  | entry :: rest, index, (slot, least) =>
      if entry.validUntil < least.validUntil then oldest rest (index + 1) (index, entry)
      else oldest rest (index + 1) (slot, least)

/-- A confirmed session takes the place of the oldest. -/
def Sessions.store (now : UInt64) (key csrf : List Char) (s : Sessions) : Sessions where
  cache :=
    match s.cache with
    | [] => []
    | first :: rest =>
        s.cache.set (oldest rest 1 (0, first)) ⟨key, csrf, now + SESSION_CACHE_US⟩
  confirmed := ⟨now, key, csrf⟩ :: s.confirmed

inductive SessionAnswer
  | unavailable
  | invalid
  | valid (csrf : List Char)
  deriving Repr, DecidableEq

def jipc_joan_session (crypto : Crypto) (cookie_header : List Char) (now : UInt64)
    (reply : Option PlatformReply) (s : Sessions) : SessionAnswer × Sessions :=
  let cookies := jipc_joan_cookies cookie_header 1100
  if cookies = [] then (.invalid, s)
  else
    let key := sessionKey crypto cookies
    match s.cache.find? fun entry => now < entry.validUntil && entry.key = key with
    | some entry => (.valid entry.csrf, s)
    | none =>
        match reply with
        | none => (.unavailable, s)
        | some reply =>
            match reply.csrf with
            | some csrf =>
                if reply.status = 200 ∧ csrf ≠ [] then (.valid csrf, s.store now key csrf)
                else if 500 ≤ reply.status then (.unavailable, s)
                else (.invalid, s)
            | none => if 500 ≤ reply.status then (.unavailable, s) else (.invalid, s)

def jipc_joan_forget (crypto : Crypto) (cookie_header : List Char) (s : Sessions) : Sessions :=
  let cookies := jipc_joan_cookies cookie_header 1100
  if cookies = [] then s
  else
    { s with cache := s.cache.map fun entry =>
        if entry.key = sessionKey crypto cookies then .blank else entry }

/-! ## What the cache holds -/

/-- Every entry that has not been blanked stems from a confirmation. -/
def Sessions.Backed (s : Sessions) : Prop :=
  ∀ entry ∈ s.cache, entry = .blank ∨ ∃ c ∈ s.confirmed,
    entry = ⟨c.key, c.csrf, c.time + SESSION_CACHE_US⟩ ∧ c.csrf ≠ []

theorem initial_backed : Sessions.initial.Backed := by
  intro entry member
  exact .inl (List.eq_of_mem_replicate member)

theorem Sessions.Backed.store {s : Sessions} (backed : s.Backed) (now : UInt64) (key : List Char)
    {csrf : List Char} (filled : csrf ≠ []) : (s.store now key csrf).Backed := by
  intro entry member
  have kept : ∀ entry ∈ s.cache, entry = .blank ∨ ∃ c ∈ (s.store now key csrf).confirmed,
      entry = ⟨c.key, c.csrf, c.time + SESSION_CACHE_US⟩ ∧ c.csrf ≠ [] := by
    intro entry member
    refine (backed entry member).imp id ?_
    rintro ⟨c, earlier, same⟩
    exact ⟨c, List.mem_cons_of_mem _ earlier, same⟩
  cases cache : s.cache with
  | nil => simp [Sessions.store, cache] at member
  | cons first rest =>
      simp only [Sessions.store, cache] at member
      rcases List.mem_or_eq_of_mem_set member with old | rfl
      · exact kept entry (cache ▸ old)
      · exact .inr ⟨⟨now, key, csrf⟩, List.mem_cons_self, rfl, filled⟩

theorem Sessions.Backed.forget {s : Sessions} (backed : s.Backed) (crypto : Crypto)
    (cookie_header : List Char) : (jipc_joan_forget crypto cookie_header s).Backed := by
  unfold jipc_joan_forget
  simp only
  split
  · exact backed
  · intro entry member
    obtain ⟨old, earlier, rfl⟩ := List.mem_map.mp member
    split
    · exact .inl rfl
    · exact backed old earlier

/-- The cookies name a session that the platform confirmed with this token, at this
time or, cached, not longer before it than the cache's life. -/
def Confirmed (crypto : Crypto) (cookie_header : List Char) (now : UInt64) (csrf : List Char)
    (s : Sessions) : Prop :=
  let cookies := jipc_joan_cookies cookie_header 1100
  cookies ≠ [] ∧ csrf ≠ [] ∧ ∃ c ∈ s.confirmed, c.key = sessionKey crypto cookies ∧ c.csrf = csrf ∧
    (c.time = now ∨ now < c.time + SESSION_CACHE_US)

theorem jipc_joan_session_backed (crypto : Crypto) (cookie_header : List Char) (now : UInt64)
    (reply : Option PlatformReply) {s : Sessions} (backed : s.Backed) :
    (jipc_joan_session crypto cookie_header now reply s).2.Backed := by
  unfold jipc_joan_session
  simp only
  split
  · exact backed
  split
  · exact backed
  split
  · exact backed
  split
  · split
    · next confirmed => exact backed.store now _ confirmed.2
    · split <;> exact backed
  · split <;> exact backed

theorem jipc_joan_session_valid {crypto : Crypto} {cookie_header : List Char} {now : UInt64}
    {reply : Option PlatformReply} {s s' : Sessions} {csrf : List Char} (backed : s.Backed)
    (valid : jipc_joan_session crypto cookie_header now reply s = (.valid csrf, s')) :
    Confirmed crypto cookie_header now csrf s' := by
  unfold jipc_joan_session at valid
  simp only at valid
  split at valid
  · exact absurd (congrArg Prod.fst valid) nofun
  next cookies =>
    split at valid
    · next entry found =>
        obtain ⟨same, rfl⟩ := Prod.mk.inj valid
        injection same with same
        subst same
        have met := List.find?_some found
        simp only [Bool.and_eq_true, decide_eq_true_eq] at met
        rcases backed entry (List.mem_of_find?_eq_some found) with rfl | ⟨c, earlier, rfl, filled⟩
        · exact absurd met.1 (by simp [SessionEntry.blank])
        · exact ⟨cookies, filled, c, earlier, met.2, rfl, .inr met.1⟩
    · split at valid
      · exact absurd (congrArg Prod.fst valid) nofun
      · split at valid
        · split at valid
          · next confirmed =>
              obtain ⟨same, rfl⟩ := Prod.mk.inj valid
              injection same with same
              subst same
              exact ⟨cookies, confirmed.2, _, List.mem_cons_self, rfl, rfl, .inl rfl⟩
          · split at valid <;> exact absurd (congrArg Prod.fst valid) nofun
        · split at valid <;> exact absurd (congrArg Prod.fst valid) nofun

end JooanW3U.Media.JoanSession
