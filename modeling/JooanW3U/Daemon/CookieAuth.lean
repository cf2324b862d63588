import JooanW3U.Daemon.Sessions

/-!
Owns how a block of request headers becomes an answer about its sign-in: the session
cookies that are kept of it, the tokens read back from them, and `joan_auth_request` on
these. Main result: which of the first eight well-formed cookies decide, and how.

Does not own the tables, which are the sessions', or the other headers.
-/

namespace JooanW3U.Daemon.CookieAuth

abbrev Text := List Char

/-! ### The headers -/

def COOKIE_SIZE : Nat := 1024
def CSRF_SIZE : Nat := 128

/-- The lines of the block, `line` being what was read of the first one. -/
def headerLines (line : Text) : Text → List Text
  | [] => [line]
  | '\r' :: '\n' :: rest => line :: headerLines [] rest
  | c :: rest => headerLines (line ++ [c]) rest

def isBlank (c : Char) : Bool := c = ' ' || c = '\t'

def isHex (c : Char) : Bool :=
  c.isDigit || ('a' ≤ c && c ≤ 'f') || ('A' ≤ c && c ≤ 'F')

/-- The line begins with the name, in any case, and a colon. -/
def named (name line : Text) : Bool :=
  ((line.take name.length).map Char.toLower = name.map Char.toLower : Bool) &&
    (line.drop name.length).head? = some ':'

/-- `header_copy`, into a buffer that was empty. -/
def header_copy (headers name : Text) (cap : Nat) : Text :=
  match (headerLines [] headers).find? (named name) with
  | none => []
  | some line => ((line.drop (name.length + 1)).dropWhile isBlank).take (cap - 1)

def cookieName : Text := ['j', 'o', 'a', 'n', '_', 's', 'e', 's', 's', 'i', 'o', 'n', '=']

/-- What stands between the semicolons of a line, without blanks before it. -/
def cookiePieces (line : Text) : List Text := (line.splitOn ';').map fun piece => piece.dropWhile isBlank

/-- The token of a well-formed `joan_session` cookie. -/
def tokenOf (piece : Text) : Option Token :=
  if piece.length = 13 + 64 ∧ cookieName <+: piece ∧ (piece.drop 13).all isHex = true
    then some (piece.drop 13) else none

/-- The tokens of the well-formed cookies of all `Cookie` headers, in order. -/
def sessionTokens (headers : Text) : List Token :=
  ((headerLines [] headers).filter (named "Cookie".toList)).flatMap fun line =>
    (cookiePieces (line.drop 7)).filterMap tokenOf

/-- What `session_cookies` appends for each token. -/
def kept (cap : Nat) : Nat → Text → List Token → Text
  | _, used, [] => used
  | count, used, token :: rest =>
      if count < 8 ∧ used.length + 80 < cap then
        kept cap (count + 1) (used ++ ((if used = [] then [] else "; ".toList) ++
          (cookieName ++ token))) rest
      else kept cap count used rest

def session_cookies (headers : Text) (cap : Nat) : Text := kept cap 0 [] (sessionTokens headers)

/-! ### The tokens read back -/

/-- The calls of `cookie_token` from a place on, with the character before it; `skip` characters
are passed over first. -/
def cookie_tokens : Nat → Option Char → Text → List Token
  | _, _, [] => []
  | skip + 1, _, c :: rest => cookie_tokens skip (some c) rest
  | 0, before, c :: rest =>
      if cookieName <+: c :: rest then
        let token := ((c :: rest).drop 13).takeWhile fun d =>
          d ≠ ';' && d ≠ ' ' && d ≠ '\r' && d ≠ '\n'
        if (before = none ∨ before = some ' ' ∨ before = some ';') ∧ token.length = 64
          then token :: cookie_tokens (12 + 64) (some c) rest
          else cookie_tokens 12 (some c) rest
      else cookie_tokens 0 (some c) rest

/-- `joan_auth_request` on a block of headers; the token is compared in its first 64 characters. -/
def request {Record : Type} (token_hash : Token → Token) (signIns : SignIns Record) (now : Nat)
    (wall : Int) (require_csrf : Bool) (headers : Text) : SignIns Record × Answer Record :=
  signIns.joan_auth_request token_hash now wall
    (cookie_tokens 0 none (session_cookies headers COOKIE_SIZE)) require_csrf
    ((header_copy headers "X-CSRF-Token".toList CSRF_SIZE).take 64)

/-! ### What is kept is read back -/

/-- The text of some cookies, as it is kept. -/
def cookieText : List Token → Text
  | [] => []
  | [token] => cookieName ++ token
  | token :: next :: rest => cookieName ++ (token ++ ';' :: ' ' :: cookieText (next :: rest))

/-- A token of 64 hexadecimal digits. -/
def Formed (token : Token) : Prop := token.length = 64 ∧ token.all isHex = true

theorem sessionTokens_formed (headers : Text) :
    ∀ token ∈ sessionTokens headers, Formed token := by
  intro token listed
  obtain ⟨line, -, inLine⟩ := List.mem_flatMap.mp listed
  obtain ⟨piece, -, read⟩ := List.mem_filterMap.mp inLine
  unfold tokenOf at read
  split at read
  · rename_i formed
    cases read
    refine ⟨?_, formed.2.2⟩
    rw [List.length_drop, formed.1]
  · cases read

theorem cookieText_append (tokens : List Token) (token : Token) :
    cookieText (tokens ++ [token]) =
      cookieText tokens ++ ((if tokens = [] then [] else "; ".toList) ++ (cookieName ++ token)) := by
  induction tokens with
  | nil => rfl
  | cons first rest inductionHypothesis =>
      cases rest with
      | nil => simp [cookieText]
      | cons second rest =>
          rw [List.cons_append, List.cons_append, cookieText, cookieText]
          rw [List.cons_append] at inductionHypothesis
          rw [inductionHypothesis]
          simp

theorem cookieText_length {tokens : List Token} (formed : ∀ token ∈ tokens, Formed token) :
    (cookieText tokens).length ≤ 79 * tokens.length := by
  induction tokens with
  | nil => exact Nat.le_refl _
  | cons first rest inductionHypothesis =>
      have here := (formed first List.mem_cons_self).1
      have later := inductionHypothesis fun token listed => formed token (List.mem_cons_of_mem _ listed)
      have name : cookieName.length = 13 := rfl
      cases rest with
      | nil =>
          rw [cookieText, List.length_append, name, here, List.length_singleton]
          decide
      | cons second rest =>
          rw [cookieText, List.length_append, List.length_append, List.length_cons, List.length_cons,
            name, here, @List.length_cons _ first]
          omega

theorem cookieText_eq_nil {tokens : List Token} : cookieText tokens = [] ↔ tokens = [] := by
  cases tokens with
  | nil => exact ⟨fun _ => rfl, fun _ => rfl⟩
  | cons first rest => cases rest <;> exact ⟨nofun, nofun⟩

/-- The first eight cookies are kept: they fit. -/
theorem kept_eq {early late : List Token} (earlyFormed : ∀ token ∈ early, Formed token)
    (lateFormed : ∀ token ∈ late, Formed token) (few : early.length ≤ 8) :
    kept COOKIE_SIZE early.length (cookieText early) late =
      cookieText (early ++ late.take (8 - early.length)) := by
  induction late generalizing early with
  | nil => rw [kept, List.take_nil, List.append_nil]
  | cons token rest inductionHypothesis =>
      have restFormed := fun other listed => lateFormed other (List.mem_cons_of_mem _ listed)
      have size := cookieText_length earlyFormed
      rw [kept]
      by_cases room : early.length < 8
      · have fits : (cookieText early).length + 80 < COOKIE_SIZE := by
          unfold COOKIE_SIZE
          omega
        have nextFormed : ∀ other ∈ early ++ [token], Formed other := by
          intro other listed
          rcases List.mem_append.mp listed with before | last
          · exact earlyFormed other before
          · rw [List.mem_singleton.mp last]
            exact lateFormed token List.mem_cons_self
        have later := inductionHypothesis nextFormed restFormed
          (by rw [List.length_append, List.length_singleton]; omega)
        rw [cookieText_append, List.length_append, List.length_singleton] at later
        simp only [if_pos (And.intro room fits), cookieText_eq_nil]
        rw [later, show 8 - early.length = 8 - (early.length + 1) + 1 by omega, List.take_succ_cons,
          List.append_assoc, List.singleton_append]
      · rw [if_neg fun both => room both.1, inductionHypothesis earlyFormed restFormed few,
          show 8 - early.length = 0 by omega, List.take_zero, List.take_zero]

theorem cookie_tokens_skip (passed : Text) (before : Option Char) (rest : Text) :
    cookie_tokens passed.length before (passed ++ rest) =
      cookie_tokens 0 (passed.getLast?.or before) rest := by
  induction passed generalizing before with
  | nil => rfl
  | cons c passed inductionHypothesis =>
      rw [List.cons_append, List.length_cons, cookie_tokens, inductionHypothesis]
      cases passed <;> rfl

/-- What may stand behind a token: nothing, or a semicolon. -/
def Ends (tail : Text) : Prop := tail = [] ∨ ∃ rest, tail = ';' :: rest

/-- A kept cookie is read, and the reading goes on behind it. -/
theorem cookie_tokens_cookie {token : Token} (formed : Formed token) {before : Option Char}
    (boundary : before = none ∨ before = some ' ') {tail : Text} (ends : Ends tail) :
    ∃ last, cookie_tokens 0 before (cookieName ++ (token ++ tail)) =
      token :: cookie_tokens 0 last tail := by
  have passes : ∀ d ∈ token, (d ≠ ';' && d ≠ ' ' && d ≠ '\r' && d ≠ '\n') = true := by
    intro d listed
    have hex := List.all_eq_true.mp formed.2 d listed
    by_contra special
    simp only [Bool.and_eq_true, decide_eq_true_eq, not_and_or, Decidable.not_not] at special
    rcases special with ((rfl | rfl) | rfl) | rfl <;> exact absurd hex (by decide)
  have read : (token ++ tail).takeWhile
      (fun d => d ≠ ';' && d ≠ ' ' && d ≠ '\r' && d ≠ '\n') = token := by
    rw [List.takeWhile_append_of_pos passes]
    rcases ends with rfl | ⟨rest, rfl⟩ <;> simp
  have begins : cookieName <+: 'j' :: (cookieName.tail ++ (token ++ tail)) :=
    List.prefix_append cookieName _
  have behind : ('j' :: (cookieName.tail ++ (token ++ tail))).drop 13 = token ++ tail := rfl
  have skips := cookie_tokens_skip (cookieName.tail ++ token) (some 'j') tail
  rw [List.length_append, formed.1, List.append_assoc] at skips
  refine ⟨(cookieName.tail ++ token).getLast?.or (some 'j'), ?_⟩
  rw [show cookieName ++ (token ++ tail) = 'j' :: (cookieName.tail ++ (token ++ tail)) by rfl,
    cookie_tokens, if_pos begins]
  dsimp only
  rw [behind, read, if_pos ⟨boundary.imp_right Or.inl, formed.1⟩]
  exact congrArg (token :: ·) skips

theorem cookie_tokens_text {tokens : List Token} (formed : ∀ token ∈ tokens, Formed token)
    {before : Option Char} (boundary : before = none ∨ before = some ' ') :
    cookie_tokens 0 before (cookieText tokens) = tokens := by
  induction tokens generalizing before with
  | nil => rfl
  | cons token rest inductionHypothesis =>
      have here := formed token List.mem_cons_self
      cases rest with
      | nil =>
          obtain ⟨last, read⟩ := cookie_tokens_cookie here boundary (.inl rfl)
          rw [List.append_nil] at read
          exact read
      | cons next rest =>
          have later := inductionHypothesis
            (fun other listed => formed other (List.mem_cons_of_mem _ listed)) (.inr rfl)
          obtain ⟨last, read⟩ := cookie_tokens_cookie here boundary
            (.inr ⟨' ' :: cookieText (next :: rest), rfl⟩)
          have semicolon : ∀ text, ¬ cookieName <+: ';' :: text :=
            fun text begins => absurd (List.cons_prefix_cons.mp begins).1 (by decide)
          have blank : ∀ text, ¬ cookieName <+: ' ' :: text :=
            fun text begins => absurd (List.cons_prefix_cons.mp begins).1 (by decide)
          rw [cookieText, read, cookie_tokens, if_neg (semicolon _), cookie_tokens,
            if_neg (blank _), later]

/-- The request is answered from the first eight well-formed cookies. -/
theorem cookie_tokens_headers (headers : Text) :
    cookie_tokens 0 none (session_cookies headers COOKIE_SIZE) = (sessionTokens headers).take 8 := by
  have formed := sessionTokens_formed headers
  have all := @kept_eq [] (sessionTokens headers) nofun formed (by decide)
  rw [session_cookies]
  rw [cookieText, List.length_nil, List.nil_append] at all
  rw [all]
  exact cookie_tokens_text (fun token listed => formed token (List.mem_of_mem_take listed)) (.inl rfl)

/-! ### Which cookies decide -/

section Tables

variable {Record : Type} {token_hash : Token → Token} {now : Nat} {wall : Int}
  {require_csrf : Bool} {csrf : Token}

/-- The session a cookie names: the first live one with its token. -/
def Live (sessions : List (Option (Session Record))) (now : Nat) (token : Token)
    (session : Session Record) : Prop :=
  ∃ index, SignIns.findSession now token sessions 0 = some (index, session)

/-- The remembered sign-in a cookie names: the first one with its token's hash that has not
ended. -/
def Kept (token_hash : Token → Token) (remembered : List (Option (Remembered Record)))
    (wall : Int) (token : Token) (entry : Remembered Record) : Prop :=
  SignIns.findRemembered wall (token_hash token) remembered = some entry

theorem trySessions_spec (sessions : List (Option (Session Record))) (candidates : List Token)
    (before : Bool) :
    (∃ index session after, SignIns.trySessions now require_csrf csrf sessions candidates before =
        (some (index, session), after) ∧
      ∃ token ∈ candidates, Live sessions now token session ∧
        ¬ SignIns.csrfFails require_csrf csrf session.csrf) ∨
    (∃ after, SignIns.trySessions now require_csrf csrf sessions candidates before = (none, after) ∧
      (∀ token ∈ candidates, ∀ session, Live sessions now token session →
        SignIns.csrfFails require_csrf csrf session.csrf) ∧
      (after = true ↔ before = true ∨ ∃ token ∈ candidates, ∃ session,
        Live sessions now token session)) := by
  induction candidates generalizing before with
  | nil => exact .inr ⟨before, rfl, nofun, by simp⟩
  | cons candidate rest inductionHypothesis =>
      rw [SignIns.trySessions]
      cases found : SignIns.findSession now candidate sessions 0 with
      | none =>
          have absent : ∀ session, ¬ Live sessions now candidate session := by
            rintro session ⟨index, live⟩
            rw [found] at live
            cases live
          dsimp only
          rcases inductionHypothesis before with
            ⟨index, session, after, hit, token, listed, facts⟩ | ⟨after, missed, fails, flag⟩
          · exact .inl ⟨index, session, after, hit, token, List.mem_cons_of_mem _ listed, facts⟩
          · refine .inr ⟨after, missed, List.forall_mem_cons.mpr
              ⟨fun session live => absurd live (absent session), fails⟩, ?_⟩
            rw [flag, List.exists_mem_cons_iff]
            simp only [absent, exists_false, false_or]
      | some hit =>
          obtain ⟨place, live⟩ := hit
          have isLive : Live sessions now candidate live := ⟨place, found⟩
          dsimp only
          by_cases mismatch : SignIns.csrfFails require_csrf csrf live.csrf
          · rw [if_pos mismatch]
            have only : ∀ session, Live sessions now candidate session → session = live := by
              rintro session ⟨index, other⟩
              rw [found] at other
              cases other
              rfl
            rcases inductionHypothesis true with
              ⟨index, session, after, hit, token, listed, facts⟩ | ⟨after, missed, fails, flag⟩
            · exact .inl ⟨index, session, after, hit, token, List.mem_cons_of_mem _ listed, facts⟩
            · refine .inr ⟨after, missed, List.forall_mem_cons.mpr
                ⟨fun session other => only session other ▸ mismatch, fails⟩, ?_⟩
              rw [flag]
              exact ⟨fun _ => .inr ⟨candidate, List.mem_cons_self, live, isLive⟩, fun _ => .inl rfl⟩
          · rw [if_neg mismatch]
            exact .inl ⟨place, live, before, rfl, candidate, List.mem_cons_self, isLive, mismatch⟩

theorem tryRemembered_spec (remembered : List (Option (Remembered Record)))
    (candidates : List Token) (before : Bool) :
    (∃ hit after, SignIns.tryRemembered token_hash wall require_csrf csrf remembered candidates
        before = (some hit, after) ∧
      ∃ token ∈ candidates, ∃ entry, Kept token_hash remembered wall token entry ∧
        ¬ SignIns.csrfFails require_csrf csrf entry.csrf) ∨
    (∃ after, SignIns.tryRemembered token_hash wall require_csrf csrf remembered candidates before =
        (none, after) ∧
      (∀ token ∈ candidates, ∀ entry, Kept token_hash remembered wall token entry →
        SignIns.csrfFails require_csrf csrf entry.csrf) ∧
      (after = true ↔ before = true ∨ ∃ token ∈ candidates, ∃ entry,
        Kept token_hash remembered wall token entry)) := by
  induction candidates generalizing before with
  | nil => exact .inr ⟨before, rfl, nofun, by simp⟩
  | cons candidate rest inductionHypothesis =>
      rw [SignIns.tryRemembered]
      cases found : SignIns.findRemembered wall (token_hash candidate) remembered with
      | none =>
          have absent : ∀ entry, ¬ Kept token_hash remembered wall candidate entry := by
            intro entry kept
            rw [Kept, found] at kept
            cases kept
          dsimp only
          rcases inductionHypothesis before with
            ⟨hit, after, shape, token, listed, facts⟩ | ⟨after, missed, fails, flag⟩
          · exact .inl ⟨hit, after, shape, token, List.mem_cons_of_mem _ listed, facts⟩
          · refine .inr ⟨after, missed, List.forall_mem_cons.mpr
              ⟨fun entry kept => absurd kept (absent entry), fails⟩, ?_⟩
            rw [flag, List.exists_mem_cons_iff]
            simp only [absent, exists_false, false_or]
      | some entry =>
          dsimp only
          by_cases mismatch : SignIns.csrfFails require_csrf csrf entry.csrf
          · rw [if_pos mismatch]
            have only : ∀ other, Kept token_hash remembered wall candidate other → other = entry := by
              intro other kept
              rw [Kept, found] at kept
              cases kept
              rfl
            rcases inductionHypothesis true with
              ⟨hit, after, shape, token, listed, facts⟩ | ⟨after, missed, fails, flag⟩
            · exact .inl ⟨hit, after, shape, token, List.mem_cons_of_mem _ listed, facts⟩
            · refine .inr ⟨after, missed, List.forall_mem_cons.mpr
                ⟨fun other kept => only other kept ▸ mismatch, fails⟩, ?_⟩
              rw [flag]
              exact ⟨fun _ => .inr ⟨candidate, List.mem_cons_self, entry, found⟩, fun _ => .inl rfl⟩
          · rw [if_neg mismatch]
            exact .inl ⟨_, before, rfl, candidate, List.mem_cons_self, entry, found, mismatch⟩

/-- A cookie names a live session with the token; or none names a live session without it, and
one names a remembered sign-in with the token. -/
def Authorised (token_hash : Token → Token) (signIns : SignIns Record) (now : Nat) (wall : Int)
    (require_csrf : Bool) (csrf : Token) (cookies : List Token) : Prop :=
  (∃ token ∈ cookies, ∃ session, Live signIns.sessions now token session ∧
    ¬ SignIns.csrfFails require_csrf csrf session.csrf) ∨
  ((∀ token ∈ cookies, ∀ session, Live signIns.sessions now token session →
      ¬ SignIns.csrfFails require_csrf csrf session.csrf) ∧
    ∃ token ∈ cookies, ∃ entry,
      Kept token_hash signIns.remembered_load.remembered wall token entry ∧
        ¬ SignIns.csrfFails require_csrf csrf entry.csrf)

/-- A cookie names a live session or a remembered sign-in. -/
def Known (token_hash : Token → Token) (signIns : SignIns Record) (now : Nat) (wall : Int)
    (cookies : List Token) : Prop :=
  ∃ token ∈ cookies, (∃ session, Live signIns.sessions now token session) ∨
    ∃ entry, Kept token_hash signIns.remembered_load.remembered wall token entry

theorem answer_iff (signIns : SignIns Record) (cookies : List Token) :
    ((∃ session remember,
      (signIns.joan_auth_request token_hash now wall cookies require_csrf csrf).2 =
        .accepted session remember) ↔
      Authorised token_hash signIns now wall require_csrf csrf cookies) ∧
    ((signIns.joan_auth_request token_hash now wall cookies require_csrf csrf).2 = .csrfMismatch ↔
      ¬ Authorised token_hash signIns now wall require_csrf csrf cookies ∧
        Known token_hash signIns now wall cookies) := by
  unfold SignIns.joan_auth_request
  rcases @trySessions_spec _ now require_csrf csrf signIns.sessions cookies false with
    ⟨index, session, after, tried, token, listed, live, fits⟩ | ⟨after, tried, fails, flag⟩
  · rw [tried]
    have authorised : Authorised token_hash signIns now wall require_csrf csrf cookies :=
      .inl ⟨token, listed, session, live, fits⟩
    exact ⟨⟨fun _ => authorised, fun _ => ⟨_, _, rfl⟩⟩, nofun, fun both => absurd authorised both.1⟩
  · rw [tried]
    have noLive : ¬ ∃ token ∈ cookies, ∃ session, Live signIns.sessions now token session ∧
        ¬ SignIns.csrfFails require_csrf csrf session.csrf := by
      rintro ⟨token, listed, session, live, fits⟩
      exact fits (fails token listed session live)
    cases after with
    | true =>
        -- A live session without the token: its refusal stands, whatever is remembered.
        obtain ⟨token, listed, session, live⟩ := (flag.mp rfl).resolve_left nofun
        have refused : ¬ Authorised token_hash signIns now wall require_csrf csrf cookies := by
          rintro (one | ⟨allFit, -⟩)
          · exact noLive one
          · exact allFit token listed session live (fails token listed session live)
        refine ⟨⟨?_, fun authorised => absurd authorised refused⟩, fun _ => ⟨refused, ?_⟩,
          fun _ => rfl⟩
        · rintro ⟨_, _, answered⟩
          cases answered
        · exact ⟨token, listed, .inl ⟨session, live⟩⟩
    | false =>
        have noneLive : ∀ token ∈ cookies, ∀ session, ¬ Live signIns.sessions now token session := by
          intro token listed session live
          have never := flag.mpr (.inr ⟨token, listed, session, live⟩)
          cases never
        dsimp only
        rcases @tryRemembered_spec _ token_hash wall require_csrf csrf
            signIns.remembered_load.remembered cookies false with
          ⟨hit, after, recalled, token, listed, entry, kept, fits⟩ |
            ⟨after, recalled, keptFails, keptFlag⟩
        · rw [recalled]
          have authorised : Authorised token_hash signIns now wall require_csrf csrf cookies :=
            .inr ⟨fun token listed session live => absurd live (noneLive token listed session),
              token, listed, entry, kept, fits⟩
          exact ⟨⟨fun _ => authorised, fun _ => ⟨_, _, rfl⟩⟩, nofun,
            fun both => absurd authorised both.1⟩
        · rw [recalled]
          have refused : ¬ Authorised token_hash signIns now wall require_csrf csrf cookies := by
            rintro (one | ⟨-, token, listed, entry, kept, fits⟩)
            · exact noLive one
            · exact fits (keptFails token listed entry kept)
          cases after with
          | true =>
              obtain ⟨token, listed, entry, kept⟩ := (keptFlag.mp rfl).resolve_left nofun
              refine ⟨⟨?_, fun authorised => absurd authorised refused⟩, fun _ => ⟨refused, ?_⟩,
                fun _ => rfl⟩
              · rintro ⟨_, _, answered⟩
                cases answered
              · exact ⟨token, listed, .inr ⟨entry, kept⟩⟩
          | false =>
              refine ⟨⟨?_, fun authorised => absurd authorised refused⟩, nofun, ?_⟩
              · rintro ⟨_, _, answered⟩
                cases answered
              · rintro ⟨-, token, listed, ⟨session, live⟩ | ⟨entry, kept⟩⟩
                · exact absurd live (noneLive token listed session)
                · have never := keptFlag.mpr (.inr ⟨token, listed, entry, kept⟩)
                  cases never

end Tables

/-- What the request carries as its token. -/
def csrfOf (headers : Text) : Token :=
  (header_copy headers "X-CSRF-Token".toList CSRF_SIZE).take 64

/-- The first eight well-formed cookies of all `Cookie` headers decide: the request is accepted
when they authorise it, and refused for its token when they do not but one of them is known. -/
theorem request_decided {Record : Type} (token_hash : Token → Token) (signIns : SignIns Record)
    (now : Nat) (wall : Int) (require_csrf : Bool) (headers : Text) :
    ((∃ session remember, (request token_hash signIns now wall require_csrf headers).2 =
        .accepted session remember) ↔
      Authorised token_hash signIns now wall require_csrf (csrfOf headers)
        ((sessionTokens headers).take 8)) ∧
    ((request token_hash signIns now wall require_csrf headers).2 = .csrfMismatch ↔
      ¬ Authorised token_hash signIns now wall require_csrf (csrfOf headers)
          ((sessionTokens headers).take 8) ∧
        Known token_hash signIns now wall ((sessionTokens headers).take 8)) := by
  rw [request, cookie_tokens_headers]
  exact answer_iff signIns _

def sampleToken (c : Char) : Token := List.replicate 64 c

/-- Two cookies, and the token of the second one's sign-in. -/
def sampleHeaders : Text :=
  "Cookie: joan_session=".toList ++ (sampleToken 'a' ++ ("; joan_session=".toList ++
    (sampleToken 'b' ++ ('\r' :: '\n' :: ("X-CSRF-Token: ".toList ++ sampleToken 'd')))))

/-- The first cookie's session is live with another token; the second one is remembered. -/
def sampleSignIns : SignIns Unit where
  sessions := [some ⟨sampleToken 'a', sampleToken 'c', 100, false, ()⟩]
  remembered := [some ⟨sampleToken 'b', sampleToken 'd', 100, false, ()⟩]
  remembered_loaded := true
  stored := []

/-- The token is a remembered cookie's, and the request is refused for its token. -/
theorem remembered_match_refused :
    (request id sampleSignIns 50 50 true sampleHeaders).2 = .csrfMismatch ∧
      ∃ token ∈ (sessionTokens sampleHeaders).take 8, ∃ entry,
        Kept id sampleSignIns.remembered_load.remembered 50 token entry ∧
          ¬ SignIns.csrfFails true (csrfOf sampleHeaders) entry.csrf := by
  refine ⟨by decide +kernel, sampleToken 'b', by decide +kernel,
    ⟨sampleToken 'b', sampleToken 'd', 100, false, ()⟩, by unfold Kept; decide +kernel,
    by decide +kernel⟩

end JooanW3U.Daemon.CookieAuth
