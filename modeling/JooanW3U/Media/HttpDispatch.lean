import JooanW3U.Media.AuthLimit
import JooanW3U.Media.CText
import JooanW3U.Library.Runs
import JooanW3U.Media.JoanSession

/-!
Owns `dispatch` of the media server's HTTP side: which block of it a request gets
to, through the three kinds of credentials, the failed-login table and the Origin
and token checks.  Main result: what every block has been checked for by then.

Does not own the parsing of requests, what a block does with the body, or the
platform's own checks of what is relayed to it.
-/

namespace JooanW3U.Media.HttpDispatch

open JooanW3U.Media
open JooanW3U.Media.OnvifAuth
open JooanW3U.Media.JoanSession

/-- `request`, an absent header being the empty text; `upload` is the size of a body
that stays on the connection. -/
structure Request where
  method : List Char
  target : List Char
  host : List Char
  authorization : List Char
  type : List Char
  origin : List Char
  cookie : List Char
  csrf : List Char
  requested_with : List Char
  fetch_site : List Char
  body : List Char
  length : Nat
  upload : Nat
  deriving Repr, DecidableEq

/-- What the server is configured with. -/
structure Server where
  secure : Bool
  account : Account
  crypto : Crypto

/-- How a relayed request ends: the platform's status, or the error of
`jipc_joan_stream`. -/
inductive Relayed
  | status (status : Nat)
  | uploadStopped
  | tooLarge
  | silent
  deriving Repr, DecidableEq

/-- What the camera, the clocks and the platform answer during one request.  `peer` is
the address of the connection, where it is known. -/
structure Answers where
  peer : Option (List Char)
  now : UInt64
  clock : Int
  ready : Bool
  relaysBusy : Bool
  relayed : Relayed
  session : Option PlatformReply
  memory : Bool

/-- The failed-login table, the used nonces and the sessions. -/
structure State where
  slots : List AuthLimit.Slot
  nonces : NonceTable
  sessions : Sessions

/-- The blocks of `dispatch`. -/
inductive Handler
  | health
  | ui (name : List Char)
  | relay (login : Bool)
  /-- `jipc_onvif` with its action; `none` is a fault. -/
  | soap (action : Option String)
  | status
  | password
  | updateStatus
  | updateReceive
  | updateApply
  | updateDiscard
  | controlsGet
  | controlsPatch
  | aimGet
  | aimPost
  | configGet
  | configPatch
  | control
  | recordingSet
  | recordings
  | download (name : List Char)
  | snapshot
  | talk
  deriving Repr, DecidableEq

/-- A block runs, or `error_response` answers. -/
abbrev Answer := Except (Nat × String) Handler

def refuse (status : Nat) (message : String) : Answer := .error (status, message)

/-! ## Text -/

def is (text : List Char) (expected : String) : Bool := text = expected.toList

def begins (text : List Char) (start : String) : Bool := start.toList.isPrefixOf text

/-- `!strncasecmp(text, start, n)` for a start of `n` characters. -/
def beginsIgnoringCase (text : List Char) (start : String) : Bool :=
  sameIgnoringCase (text.take start.length) start.toList

def json_type (type : List Char) : Bool :=
  beginsIgnoringCase type "application/json" &&
    (type.length = 16 || type[16]? = some ';')

/-- `strstr(text, needle)` finds the needle. -/
def holds (text : List Char) (needle : String) : Bool :=
  (OnvifXml.afterFirst needle.toList text).isSome

/-! ## Checks -/

def Request.soap (r : Request) : Bool :=
  is r.target "/onvif/device_service" || is r.target "/onvif/media_service" ||
    is r.target "/onvif/ptz_service" || is r.target "/onvif/imaging_service"

/-- The Origin of the server's own pages. -/
def allowedOrigin (server : Server) (r : Request) : List Char :=
  (if server.secure then "https" else "http").toList ++ "://".toList ++ r.host

def same_origin (server : Server) (r : Request) (required : Bool) : Bool :=
  if r.fetch_site ≠ [] ∧ is r.fetch_site "same-origin" = false ∧ is r.fetch_site "none" = false then
    false
  else if r.origin = [] then !required
  else r.origin = allowedOrigin server r

def basic_authorized (server : Server) (auth : List Char) : Bool :=
  if beginsIgnoringCase auth "Basic " = false then false
  else
    match server.crypto.base64Decode (auth.drop 6) 255 with
    | none => false
    | some decoded =>
        if decoded = [] ∨ 255 < decoded.length ∨ 0 ∈ decoded then false
        else
          match decoded.span (· ≠ 58) with
          | (_, []) => false
          | (user, _ :: password) =>
              user = bytesOf server.account.username && password = bytesOf server.account.password

def State.blocked (a : Answers) (s : State) : Bool :=
  a.peer.any fun peer => (AuthLimit.jipc_auth_blocked_at s.slots peer a.now).2

def jipc_auth_blocked (a : Answers) (s : State) : Bool × State :=
  match a.peer with
  | none => (false, s)
  | some peer =>
      let (slots, blocked) := AuthLimit.jipc_auth_blocked_at s.slots peer a.now
      (blocked, { s with slots })

def jipc_auth_result (ok : Bool) (a : Answers) (s : State) : State :=
  match a.peer with
  | none => s
  | some peer => { s with slots := AuthLimit.jipc_auth_result_at s.slots peer a.now ok }

/-! ## The relay -/

/-- The relay throttles sign-ins alone. -/
def sign_in_blocked (login : Bool) (a : Answers) (s : State) : Bool × State :=
  if login then jipc_auth_blocked a s else (false, s)

def joan_relay (server : Server) (r : Request) (a : Answers) (s : State) : Answer × State :=
  let rest := r.target.drop 10
  let get := is r.method "GET"
  if !get && !is r.method "POST" && !is r.method "PUT" && !is r.method "DELETE" then
    (refuse 405 "Use GET, POST, PUT or DELETE", s)
  else if rest = [] || holds rest ".." || holds rest "//" then (refuse 404 "Endpoint not found", s)
  else if same_origin server r (!get) = false then
    (refuse 403 "Cross-origin requests are not accepted", s)
  else if r.upload ≠ 0 ∧ sameIgnoringCase r.type "application/octet-stream".toList = false then
    (refuse 415 "Upload the package as application/octet-stream", s)
  else if r.upload = 0 ∧ r.length ≠ 0 ∧ json_type r.type = false ∧
      beginsIgnoringCase r.type "text/plain" = false then
    (refuse 415 "Use application/json or text/plain", s)
  else
    let login := is r.method "POST" && (is rest "v1/session" || is rest "login")
    let logout := (is r.method "DELETE" && is rest "v1/session") || is rest "logout"
    let (blocked, s) := sign_in_blocked login a s
    if blocked then
      (refuse 429 "Too many failed sign-ins from this address; retry in a minute", s)
    else if a.relaysBusy then (refuse 503 "The camera is busy; retry in a moment", s)
    else
      match a.relayed with
      | .status status =>
          let s := if login && (status = 200 || status = 401) then
              jipc_auth_result (status = 200) a s
            else s
          let s := if logout then
              { s with sessions := jipc_joan_forget server.crypto r.cookie s.sessions }
            else s
          (.ok (.relay login), s)
      -- The platform got the request, whatever became of it.
      | _ => (.ok (.relay login), s)

/-! ## Credentials -/

/-- The values of `authorized`: 0, -1, 1 and 2. -/
inductive Credential
  | none
  | publicTime
  | account
  | session
  deriving Repr, DecidableEq

/-- The first two kinds of credentials, with the count of failures. -/
def accountCheck (server : Server) (r : Request) (a : Answers) (s : State) : Credential × State :=
  let basic := basic_authorized server r.authorization
  let offered := r.authorization ≠ []
  if !basic && r.soap && is r.method "POST" then
    if OnvifXml.publicTime r.body then (.publicTime, s)
    else
      let offered := offered || holds r.body "UsernameToken"
      let (ok, nonces) := authorize server.crypto server.account a.clock r.body s.nonces
      let s := { s with nonces }
      (if ok then .account else .none, if offered then jipc_auth_result ok a s else s)
  else
    (if basic then .account else .none, if offered then jipc_auth_result basic a s else s)

/-- The platform's session, for what the account does not answer. -/
def sessionCheck (server : Server) (r : Request) (a : Answers) (s : State) :
    Except (Nat × String) Credential × State :=
  if r.soap = false ∧ r.cookie ≠ [] then
    match jipc_joan_session server.crypto r.cookie a.now a.session s.sessions with
    | (.unavailable, sessions) =>
        (.error (503, "The camera's system service is not answering"), { s with sessions })
    | (.invalid, sessions) => (.ok .none, { s with sessions })
    | (.valid csrf, sessions) =>
        if is r.method "GET" = false ∧
            (same_origin server r true = false ∨ r.csrf = [] ∨ r.csrf ≠ csrf) then
          (.error (403, "Request token missing or invalid"), { s with sessions })
        else (.ok .session, { s with sessions })
  else (.ok .none, s)

/-! ## SOAP actions -/

/-- The actions of every service, those of imaging, and those of the others. -/
def commonActions : List String :=
  ["GetSystemDateAndTime", "GetDeviceInformation", "GetCapabilities", "GetServices"]

def imagingActions : List String :=
  ["GetServiceCapabilities", "GetImagingSettings", "GetOptions", "GetMoveOptions",
    "SetImagingSettings"]

def serviceActions : List String :=
  ["GetServiceCapabilities", "GetConfigurations", "GetConfiguration",
    "GetCompatibleConfigurations", "GetConfigurationOptions", "GetProfiles", "GetProfile",
    "GetStreamUri", "GetSnapshotUri", "GetVideoSources", "GetNodes", "GetNode", "GetStatus",
    "GetPresets", "ContinuousMove", "AbsoluteMove", "RelativeMove", "GotoHomePosition",
    "SetHomePosition", "Stop", "SetPreset", "GotoPreset", "RemovePreset"]

/-- The branch of `jipc_onvif` that the action element selects. -/
def onvif_action (path body : List Char) : Option String :=
  match OnvifXml.parseXml body with
  | none => none
  | some d =>
      let chosen (actions : List String) :=
        actions.find? fun name => OnvifXml.named (OnvifXml.actionName d) name
      match chosen commonActions with
      | some name => some name
      | none =>
          if is path "/onvif/imaging_service" then chosen imagingActions
          else chosen serviceActions

/-! ## Blocks -/

/-- The admin UI's own fetch in its signed-in session. -/
def fromUi (server : Server) (r : Request) (credential : Credential) : Bool :=
  credential = .session && is r.requested_with "jipc-ui" && same_origin server r false

def updateBlock (server : Server) (r : Request) (credential : Credential) : Answer :=
  let rest := r.target.drop 20
  if fromUi server r credential = false then
    refuse 403 "Sign in to the admin UI to update the firmware"
  else if rest = [] ∧ is r.method "GET" then .ok .updateStatus
  else if rest = [] ∧ r.upload ≠ 0 then
    if sameIgnoringCase r.type "application/octet-stream".toList = false then
      refuse 415 "Upload the package as application/octet-stream"
    else .ok .updateReceive
  else if is rest "/apply" && is r.method "POST" then .ok .updateApply
  else if is rest "/discard" && is r.method "POST" then .ok .updateDiscard
  else refuse 404 "Endpoint not found"

/-- `dispatch` behind the SOAP services. -/
def apiBlock (server : Server) (r : Request) (credential : Credential) : Answer :=
  let get := is r.method "GET"
  let post := is r.method "POST"
  if post && !json_type r.type && !is r.target "/api/v1/talk" && r.upload = 0 then
    refuse 415 "Content-Type application/json is required"
  else if is r.target "/api/v1/status" && get then .ok .status
  else if is r.target "/api/v1/config/password" && get then
    if fromUi server r credential = false then
      refuse 403 "Sign in to the admin UI to see the stream password"
    else .ok .password
  else if begins r.target "/api/v1/update/media" then updateBlock server r credential
  else if is r.target "/api/v1/controls" then .ok (if get then .controlsGet else .controlsPatch)
  else if is r.target "/api/v1/aim" then .ok (if get then .aimGet else .aimPost)
  else if is r.target "/api/v1/config" then .ok (if get then .configGet else .configPatch)
  else if is r.target "/api/v1/control" && post then .ok .control
  else if is r.target "/api/v1/recording" && post then .ok .recordingSet
  else if is r.target "/api/v1/recordings" && get then .ok .recordings
  else if begins r.target "/api/v1/recordings/" && get then .ok (.download (r.target.drop 19))
  else if (is r.target "/api/v1/snapshot" || begins r.target "/api/v1/snapshot?channel=") && get then
    .ok .snapshot
  else if is r.target "/api/v1/talk" && post then .ok .talk
  else refuse 404 "Endpoint not found"

/-- `dispatch` once a credential is there. -/
def admitted (server : Server) (r : Request) (credential : Credential) (a : Answers) : Answer :=
  if r.origin ≠ [] ∧ r.origin ≠ allowedOrigin server r then
    refuse 403 "Cross-origin requests are not accepted"
  else if is r.method "GET" = false ∧ is r.method "POST" = false then refuse 405 "Use GET or POST"
  else if r.soap then
    if is r.method "POST" = false then refuse 405 "SOAP requires POST"
    else if a.memory = false then refuse 503 "Out of memory"
    else .ok (.soap (onvif_action r.target r.body))
  else apiBlock server r credential

def dispatch (server : Server) (r : Request) (a : Answers) (s : State) : Answer × State :=
  let get := is r.method "GET"
  if (is r.target "/health" || is r.target "/healthz") && get then
    (if a.ready then .ok .health else refuse 503 "Not ready", s)
  else if get && (is r.target "/" || begins r.target "/ui/") then
    (.ok (.ui (if is r.target "/" then "index.html".toList else r.target.drop 4)), s)
  else if begins r.target "/api/joan/" then joan_relay server r a s
  else
    match jipc_auth_blocked a s with
    | (true, s) => (refuse 429 "Too many failed logins from this address; retry in a minute", s)
    | (false, s) =>
        let (credential, s) := accountCheck server r a s
        if credential = .none then
          match sessionCheck server r a s with
          | (.error refusal, s) => (.error refusal, s)
          | (.ok credential, s) =>
              if credential = .none then (refuse 401 "Authentication required", s)
              else (admitted server r credential a, s)
        else (admitted server r credential a, s)

/-! ## What a block has been checked for -/

/-- Valid Basic or WS-Security credentials of the stream account. -/
def byAccount (server : Server) (r : Request) (a : Answers) (s : State) : Prop :=
  basic_authorized server r.authorization = true ∨
    (r.soap = true ∧ is r.method "POST" = true ∧
      (authorize server.crypto server.account a.clock r.body s.nonces).1 = true)

/-- The request's cookies name a confirmed session; anything but a GET carries its
token and the Origin of the server's own pages. -/
def bySession (server : Server) (r : Request) (a : Answers) (s : State) : Prop :=
  ∃ csrf, Confirmed server.crypto r.cookie a.now csrf s.sessions ∧
    (is r.method "GET" = false →
      r.csrf = csrf ∧ r.origin = allowedOrigin server r ∧ same_origin server r true = true)

/-- An Origin header is absent or that of the server's own pages. -/
def ownOrigin (server : Server) (r : Request) : Prop :=
  r.origin = [] ∨ r.origin = allowedOrigin server r

/-- The blocks for the signed-in admin UI alone. -/
def Handler.uiOnly : Handler → Bool
  | password | updateStatus | updateReceive | updateApply | updateDiscard => true
  | _ => false

/-- The blocks of the API that change something. -/
def Handler.changes : Handler → Bool
  | updateReceive | updateApply | updateDiscard | controlsPatch | aimPost | configPatch | control
  | recordingSet | talk => true
  | _ => false

/-- What a credential of the account check stands for. -/
def StandsFor (server : Server) (r : Request) (a : Answers) (s : State) : Credential → Prop
  | .account => byAccount server r a s
  | .publicTime => r.soap = true ∧ OnvifXml.publicTime r.body = true
  | .session => False
  | .none => True

theorem accountCheck_spec {server : Server} {r : Request} {a : Answers} {s s' : State}
    {credential : Credential} (checked : accountCheck server r a s = (credential, s')) :
    s'.sessions = s.sessions ∧ StandsFor server r a s credential := by
  have counted : ∀ ok (s : State), (jipc_auth_result ok a s).sessions = s.sessions := by
    intro ok s
    unfold jipc_auth_result
    split <;> rfl
  unfold accountCheck at checked
  simp only at checked
  split at checked
  · next soap =>
      simp only [Bool.and_eq_true, Bool.not_eq_true'] at soap
      split at checked
      · next time =>
          obtain ⟨rfl, rfl⟩ := Prod.mk.inj checked
          exact ⟨rfl, soap.1.2, time⟩
      · obtain ⟨rfl, rfl⟩ := Prod.mk.inj checked
        refine ⟨?_, ?_⟩
        · split
          · exact counted _ _
          · rfl
        · cases valid : (authorize server.crypto server.account a.clock r.body s.nonces).1 with
          | true => exact .inr ⟨soap.1.2, soap.2, valid⟩
          | false => trivial
  · obtain ⟨rfl, rfl⟩ := Prod.mk.inj checked
    refine ⟨?_, ?_⟩
    · split
      · exact counted _ _
      · rfl
    · cases basic : basic_authorized server r.authorization with
      | true => exact .inl basic
      | false => trivial

theorem origin_of_same {server : Server} {r : Request} (same : same_origin server r true = true) :
    r.origin = allowedOrigin server r := by
  unfold same_origin at same
  split at same
  · exact absurd same nofun
  split at same
  · exact absurd same nofun
  · simpa using same

theorem sessionCheck_spec {server : Server} {r : Request} {a : Answers} {s s' : State}
    {credential : Credential} (backed : s.sessions.Backed)
    (checked : sessionCheck server r a s = (.ok credential, s')) :
    credential = .none ∨
      (credential = .session ∧ r.soap = false ∧ bySession server r a s') := by
  unfold sessionCheck at checked
  split at checked
  · next asked =>
      split at checked
      · exact absurd (congrArg Prod.fst checked) nofun
      · obtain ⟨same, -⟩ := Prod.mk.inj checked
        injection same with same
        exact .inl same.symm
      · next csrf sessions found =>
          have confirmed := jipc_joan_session_valid backed found
          split at checked
          · exact absurd (congrArg Prod.fst checked) nofun
          · next passes =>
              obtain ⟨same, rfl⟩ := Prod.mk.inj checked
              injection same with same
              refine .inr ⟨same.symm, asked.1, csrf, confirmed, ?_⟩
              intro writes
              have checks : same_origin server r true = true ∧ r.csrf = csrf := by
                simp only [writes, true_and, not_or] at passes
                exact ⟨by simpa using passes.1, not_not.mp passes.2.2⟩
              exact ⟨checks.2, origin_of_same checks.1, checks.1⟩
  · obtain ⟨same, -⟩ := Prod.mk.inj checked
    injection same with same
    exact .inl same.symm

/-- The two ways through a condition. -/
theorem of_ite {α : Type} {c : Prop} [Decidable c] {x y z : α} (same : (if c then x else y) = z) :
    (c ∧ x = z) ∨ (¬c ∧ y = z) := by
  by_cases holds : c
  · rw [if_pos holds] at same
    exact .inl ⟨holds, same⟩
  · rw [if_neg holds] at same
    exact .inr ⟨holds, same⟩

theorem updateBlock_spec {server : Server} {r : Request} {credential : Credential} {h : Handler}
    (found : updateBlock server r credential = .ok h) :
    h.uiOnly = true ∧ fromUi server r credential = true ∧
      (h.changes = true → is r.method "GET" = false) := by
  have posted : is r.method "POST" = true → is r.method "GET" = false := by
    intro post
    simp only [is, decide_eq_true_eq] at post
    simp [is, post]
  unfold updateBlock at found
  simp only at found
  split at found
  · exact absurd found nofun
  next signedIn =>
    have ui : fromUi server r credential = true := by simpa using signedIn
    split at found
    · injection found with same
      subst same
      exact ⟨rfl, ui, nofun⟩
    next unread =>
      split at found
      · next whole =>
          split at found
          · exact absurd found nofun
          · injection found with same
            subst same
            refine ⟨rfl, ui, fun _ => ?_⟩
            by_contra get
            exact unread ⟨whole.1, by simpa using get⟩
      split at found
      · next apply_ =>
          injection found with same
          subst same
          simp only [Bool.and_eq_true] at apply_
          exact ⟨rfl, ui, fun _ => posted apply_.2⟩
      split at found
      · next discard =>
          injection found with same
          subst same
          simp only [Bool.and_eq_true] at discard
          exact ⟨rfl, ui, fun _ => posted discard.2⟩
      · exact absurd found nofun

/-- The blocks behind `apiBlock`. -/
def Handler.api : Handler → Bool
  | health | ui _ | relay _ | soap _ => false
  | _ => true

theorem apiBlock_spec {server : Server} {r : Request} {credential : Credential} {h : Handler}
    (found : apiBlock server r credential = .ok h) :
    h.api = true ∧ (h.uiOnly = true → fromUi server r credential = true) ∧
      (h.changes = true → is r.method "GET" = false) := by
  have posted : is r.method "POST" = true → is r.method "GET" = false := by
    intro post
    simp only [is, decide_eq_true_eq] at post
    simp [is, post]
  have plain : ∀ {k : Handler}, Except.ok (ε := Nat × String) k = .ok h → k.api = true →
      k.uiOnly = false → (k.changes = true → is r.method "GET" = false) →
        h.api = true ∧ (h.uiOnly = true → fromUi server r credential = true) ∧
          (h.changes = true → is r.method "GET" = false) := by
    intro k same api open_ writes
    injection same with same
    subst same
    exact ⟨api, fun closed => absurd (open_.symm.trans closed) nofun, writes⟩
  have either : ∀ {read write : Handler},
      Except.ok (ε := Nat × String) (if is r.method "GET" then read else write) = .ok h →
      read.api = true → read.uiOnly = false → read.changes = false →
      write.api = true → write.uiOnly = false →
        h.api = true ∧ (h.uiOnly = true → fromUi server r credential = true) ∧
          (h.changes = true → is r.method "GET" = false) := by
    intro read write same api open_ reads api' open'
    by_cases get : is r.method "GET" = true
    · rw [if_pos get] at same
      exact plain same api open_ fun changes => absurd (reads.symm.trans changes) nofun
    · rw [if_neg get] at same
      exact plain same api' open' fun _ => by simpa using get
  have refused : ∀ {status : Nat} {message : String}, refuse status message ≠ .ok h := nofun
  unfold apiBlock at found
  rcases of_ite found with ⟨-, found⟩ | ⟨-, found⟩
  · exact absurd found refused
  rcases of_ite found with ⟨-, found⟩ | ⟨-, found⟩
  · exact plain found rfl rfl nofun
  rcases of_ite found with ⟨-, found⟩ | ⟨-, found⟩
  · rcases of_ite found with ⟨-, found⟩ | ⟨signedIn, found⟩
    · exact absurd found refused
    · injection found with same
      subst same
      exact ⟨rfl, fun _ => by simpa using signedIn, nofun⟩
  rcases of_ite found with ⟨-, found⟩ | ⟨-, found⟩
  · obtain ⟨only, ui, writes⟩ := updateBlock_spec found
    refine ⟨?_, fun _ => ui, writes⟩
    cases h <;> first | rfl | exact absurd only nofun
  rcases of_ite found with ⟨-, found⟩ | ⟨-, found⟩
  · exact either found rfl rfl rfl rfl rfl
  rcases of_ite found with ⟨-, found⟩ | ⟨-, found⟩
  · exact either found rfl rfl rfl rfl rfl
  rcases of_ite found with ⟨-, found⟩ | ⟨-, found⟩
  · exact either found rfl rfl rfl rfl rfl
  rcases of_ite found with ⟨control, found⟩ | ⟨-, found⟩
  · exact plain found rfl rfl fun _ => posted (Bool.and_eq_true_iff.mp control).2
  rcases of_ite found with ⟨recording, found⟩ | ⟨-, found⟩
  · exact plain found rfl rfl fun _ => posted (Bool.and_eq_true_iff.mp recording).2
  rcases of_ite found with ⟨-, found⟩ | ⟨-, found⟩
  · exact plain found rfl rfl nofun
  rcases of_ite found with ⟨-, found⟩ | ⟨-, found⟩
  · exact plain found rfl rfl nofun
  rcases of_ite found with ⟨-, found⟩ | ⟨-, found⟩
  · exact plain found rfl rfl nofun
  rcases of_ite found with ⟨talk, found⟩ | ⟨-, found⟩
  · exact plain found rfl rfl fun _ => posted (Bool.and_eq_true_iff.mp talk).2
  · exact absurd found refused

/-! ## The gate -/

/-- What holds of a request whose block runs, from the state before it and the state
it leaves. -/
def Permitted (server : Server) (r : Request) (a : Answers) (s s' : State) : Handler → Prop
  | .health => is r.method "GET" = true ∧ (is r.target "/health" || is r.target "/healthz") = true
  | .ui _ => is r.method "GET" = true ∧ (is r.target "/" || begins r.target "/ui/") = true
  | .relay login =>
      begins r.target "/api/joan/" = true ∧
        same_origin server r (!is r.method "GET") = true ∧ (login = true → s.blocked a = false)
  | .soap action =>
      s.blocked a = false ∧ ownOrigin server r ∧ r.soap = true ∧ is r.method "POST" = true ∧
        (byAccount server r a s ∨ action = some "GetSystemDateAndTime")
  | h =>
      s.blocked a = false ∧ ownOrigin server r ∧ (byAccount server r a s ∨ bySession server r a s') ∧
        (h.uiOnly = true → bySession server r a s' ∧ is r.requested_with "jipc-ui" = true ∧
          same_origin server r false = true) ∧
        (h.changes = true → is r.method "GET" = false)

/-- What an unauthenticated request for the time selects. -/
theorem onvif_action_publicTime {path body : List Char}
    (time : OnvifXml.publicTime body = true) :
    onvif_action path body = some "GetSystemDateAndTime" := by
  unfold OnvifXml.publicTime at time
  unfold onvif_action
  split at time
  · next d parsed =>
      rw [parsed]
      simp only [commonActions, List.find?_cons, time]
  · exact absurd time nofun

/-- A credential, and the two ways to have got it. -/
def Holds (server : Server) (r : Request) (a : Answers) (s s' : State) : Credential → Prop
  | .session => r.soap = false ∧ bySession server r a s'
  | credential => credential ≠ .none ∧ StandsFor server r a s credential

theorem admitted_permitted {server : Server} {r : Request} {a : Answers} {s s' : State}
    {credential : Credential} {h : Handler} (open_ : s.blocked a = false)
    (credentials : Holds server r a s s' credential)
    (found : admitted server r credential a = .ok h) : Permitted server r a s s' h := by
  have refused : ∀ {status : Nat} {message : String}, refuse status message ≠ .ok h := nofun
  unfold admitted at found
  rcases of_ite found with ⟨-, found⟩ | ⟨foreign, found⟩
  · exact absurd found refused
  have own : ownOrigin server r := by
    by_cases absent : r.origin = []
    · exact .inl absent
    · exact .inr (by_contra fun other => foreign ⟨absent, other⟩)
  rcases of_ite found with ⟨-, found⟩ | ⟨-, found⟩
  · exact absurd found refused
  rcases of_ite found with ⟨soap, found⟩ | ⟨other, found⟩
  · rcases of_ite found with ⟨-, found⟩ | ⟨post, found⟩
    · exact absurd found refused
    rcases of_ite found with ⟨-, found⟩ | ⟨-, found⟩
    · exact absurd found refused
    injection found with same
    subst same
    refine ⟨open_, own, soap, by simpa using post, ?_⟩
    cases credential with
    | none => exact absurd rfl credentials.1
    | publicTime => exact .inr (onvif_action_publicTime credentials.2.2)
    | account => exact .inl credentials.2
    | session => exact absurd (soap.symm.trans credentials.1) nofun
  · obtain ⟨api, ui, writes⟩ := apiBlock_spec found
    have either : byAccount server r a s ∨ bySession server r a s' := by
      cases credential with
      | none => exact absurd rfl credentials.1
      | publicTime => exact absurd credentials.2.1 (by simpa using other)
      | account => exact .inl credentials.2
      | session => exact .inr credentials.2
    have signedIn : h.uiOnly = true → bySession server r a s' ∧
        is r.requested_with "jipc-ui" = true ∧ same_origin server r false = true := by
      intro closed
      have fetched := ui closed
      simp only [fromUi, Bool.and_eq_true, decide_eq_true_eq] at fetched
      obtain ⟨⟨rfl, with_⟩, same⟩ := fetched
      exact ⟨credentials.2, with_, same⟩
    have all := And.intro open_ (And.intro own (And.intro either (And.intro signedIn writes)))
    cases h <;> first | exact all | exact absurd api nofun

theorem jipc_auth_blocked_spec (a : Answers) (s : State) :
    (jipc_auth_blocked a s).1 = s.blocked a ∧
      (jipc_auth_blocked a s).2.sessions = s.sessions ∧
      (jipc_auth_blocked a s).2.nonces = s.nonces := by
  unfold jipc_auth_blocked State.blocked
  cases a.peer <;> exact ⟨rfl, rfl, rfl⟩

theorem joan_relay_permitted {server : Server} {r : Request} {a : Answers} {s s' : State}
    {h : Handler} (target : begins r.target "/api/joan/" = true)
    (found : joan_relay server r a s = (.ok h, s')) : Permitted server r a s s' h := by
  have refused : ∀ {status : Nat} {message : String} {state : State},
      (refuse status message, state) ≠ (.ok h, s') := nofun
  unfold joan_relay at found
  rcases of_ite found with ⟨-, found⟩ | ⟨-, found⟩
  · exact absurd found refused
  rcases of_ite found with ⟨-, found⟩ | ⟨-, found⟩
  · exact absurd found refused
  rcases of_ite found with ⟨-, found⟩ | ⟨same, found⟩
  · exact absurd found refused
  rcases of_ite found with ⟨-, found⟩ | ⟨-, found⟩
  · exact absurd found refused
  rcases of_ite found with ⟨-, found⟩ | ⟨-, found⟩
  · exact absurd found refused
  simp only at found
  rcases of_ite found with ⟨-, found⟩ | ⟨free, found⟩
  · exact absurd found refused
  rcases of_ite found with ⟨-, found⟩ | ⟨-, found⟩
  · exact absurd found refused
  have unblocked : (is r.method "POST" && (is (r.target.drop 10) "v1/session" ||
      is (r.target.drop 10) "login")) = true → s.blocked a = false := by
    intro login
    rw [login, sign_in_blocked, if_pos rfl] at free
    rw [← (jipc_auth_blocked_spec a s).1]
    simpa using free
  have relayed : h = .relay (is r.method "POST" && (is (r.target.drop 10) "v1/session" ||
      is (r.target.drop 10) "login")) := by
    split at found
    · exact (Except.ok.inj (congrArg Prod.fst found)).symm
    · exact (Except.ok.inj (congrArg Prod.fst found)).symm
  subst relayed
  exact ⟨target, by simpa using same, unblocked⟩

theorem dispatch_permitted {server : Server} {r : Request} {a : Answers} {s s' : State}
    {h : Handler} (backed : s.sessions.Backed) (found : dispatch server r a s = (.ok h, s')) :
    Permitted server r a s s' h := by
  have refused : ∀ {status : Nat} {message : String} {state : State},
      (refuse status message, state) ≠ (.ok h, s') := nofun
  unfold dispatch at found
  rcases of_ite found with ⟨health, found⟩ | ⟨-, found⟩
  · rcases of_ite (congrArg Prod.fst found) with ⟨-, found⟩ | ⟨-, found⟩
    · injection found with same
      subst same
      obtain ⟨target, get⟩ := Bool.and_eq_true_iff.mp health
      exact ⟨get, target⟩
    · exact absurd found nofun
  rcases of_ite found with ⟨asset, found⟩ | ⟨-, found⟩
  · have same := Except.ok.inj (congrArg Prod.fst found)
    subst same
    exact Bool.and_eq_true_iff.mp asset
  rcases of_ite found with ⟨relay, found⟩ | ⟨-, found⟩
  · exact joan_relay_permitted relay found
  split at found
  · exact absurd found refused
  next s₁ checked =>
    obtain ⟨open_, sessions, nonces⟩ := jipc_auth_blocked_spec a s
    rw [checked] at open_ sessions nonces
    cases account : accountCheck server r a s₁ with
    | mk credential s₂ =>
        obtain ⟨kept, stands⟩ := accountCheck_spec account
        have same : byAccount server r a s₁ → byAccount server r a s := by
          unfold byAccount
          rw [nonces]
          exact id
        have credentials : credential ≠ .none → Holds server r a s s' credential := by
          intro given
          cases credential with
          | none => exact absurd rfl given
          | publicTime => exact ⟨given, stands⟩
          | account => exact ⟨given, same stands⟩
          | session => exact stands.elim
        simp only [account] at found
        rcases of_ite found with ⟨-, found⟩ | ⟨given, found⟩
        · have backed₂ : s₂.sessions.Backed := by
            rw [kept, sessions]
            exact backed
          split at found
          · exact absurd (congrArg Prod.fst found) nofun
          · next credential' s₃ session =>
              rcases of_ite found with ⟨-, found⟩ | ⟨given, found⟩
              · exact absurd found refused
              obtain ⟨admits, rfl⟩ := Prod.mk.inj found
              rcases sessionCheck_spec backed₂ session with none | ⟨rfl, other, granted⟩
              · exact absurd none given
              · have holds : Holds server r a s s₃ .session := ⟨other, granted⟩
                exact admitted_permitted open_.symm holds admits
        · obtain ⟨admits, -⟩ := Prod.mk.inj found
          exact admitted_permitted open_.symm (credentials given) admits

/-! ## Runs -/

theorem jipc_auth_result_sessions (ok : Bool) (a : Answers) (s : State) :
    (jipc_auth_result ok a s).sessions = s.sessions := by
  unfold jipc_auth_result
  split <;> rfl

theorem backed_ite {c : Prop} [Decidable c] {x y : Answer × State} (left : x.2.sessions.Backed)
    (right : y.2.sessions.Backed) : (if c then x else y).2.sessions.Backed := by
  by_cases holds : c
  · rwa [if_pos holds]
  · rwa [if_neg holds]

theorem sign_in_blocked_sessions (login : Bool) (a : Answers) (s : State) :
    (sign_in_blocked login a s).2.sessions = s.sessions := by
  cases login with
  | true => exact (jipc_auth_blocked_spec a s).2.1
  | false => rfl

theorem joan_relay_backed {server : Server} {r : Request} {a : Answers} {s : State}
    (backed : s.sessions.Backed) : (joan_relay server r a s).2.sessions.Backed := by
  have checked : ∀ login, (sign_in_blocked login a s).2.sessions.Backed := by
    intro login
    rw [sign_in_blocked_sessions]
    exact backed
  unfold joan_relay
  refine backed_ite backed (backed_ite backed (backed_ite backed (backed_ite backed
    (backed_ite backed ?_))))
  simp only
  refine backed_ite (checked _) (backed_ite (checked _) ?_)
  have counted : ∀ (login : Bool) (status : Nat),
      (if (login && (status = 200 || status = 401)) = true then
        jipc_auth_result (status = 200) a (sign_in_blocked login a s).2
      else (sign_in_blocked login a s).2).sessions.Backed := by
    intro login status
    split
    · rw [jipc_auth_result_sessions]
      exact checked login
    · exact checked login
  split
  · split
    · exact (counted _ _).forget server.crypto r.cookie
    · exact counted _ _
  · exact checked _

theorem sessionCheck_backed {server : Server} {r : Request} {a : Answers} {s : State}
    (backed : s.sessions.Backed) : (sessionCheck server r a s).2.sessions.Backed := by
  have answered := jipc_joan_session_backed server.crypto r.cookie a.now a.session backed
  unfold sessionCheck
  by_cases asked : r.soap = false ∧ r.cookie ≠ []
  · rw [if_pos asked]
    cases found : jipc_joan_session server.crypto r.cookie a.now a.session s.sessions with
    | mk answer sessions =>
        rw [found] at answered
        cases answer with
        | unavailable => exact answered
        | invalid => exact answered
        | valid csrf =>
            simp only
            split
            · exact answered
            · exact answered
  · rw [if_neg asked]
    exact backed

theorem dispatch_backed {server : Server} {r : Request} {a : Answers} {s : State}
    (backed : s.sessions.Backed) : (dispatch server r a s).2.sessions.Backed := by
  have blocked : (jipc_auth_blocked a s).2.sessions.Backed := by
    rw [(jipc_auth_blocked_spec a s).2.1]
    exact backed
  unfold dispatch
  refine backed_ite backed (backed_ite backed (backed_ite (joan_relay_backed backed) ?_))
  cases checked : jipc_auth_blocked a s with
  | mk refused s₁ =>
      rw [checked] at blocked
      cases refused with
      | true => exact blocked
      | false =>
          simp only
          cases account : accountCheck server r a s₁ with
          | mk credential s₂ =>
              have backed₂ : s₂.sessions.Backed := by
                rw [(accountCheck_spec account).1]
                exact blocked
              have session : (sessionCheck server r a s₂).2.sessions.Backed :=
                sessionCheck_backed backed₂
              simp only
              refine backed_ite ?_ backed₂
              cases found : sessionCheck server r a s₂ with
              | mk answer s₃ =>
                  rw [found] at session
                  cases answer with
                  | error refusal => exact session
                  | ok credential => exact backed_ite session session

/-- The state after these requests. -/
def stateAfter (server : Server) (start : State) (history : List (Request × Answers)) : State :=
  history.foldl (fun s entry => (dispatch server entry.1 entry.2 s).2) start

theorem stateAfter_backed {server : Server} {start : State} (fresh : start.sessions = .initial)
    (history : List (Request × Answers)) : (stateAfter server start history).sessions.Backed := by
  have kept : ∀ (s : State) (entry : Request × Answers), s.sessions.Backed →
      (dispatch server entry.1 entry.2 s).2.sessions.Backed :=
    fun s entry backed => dispatch_backed backed
  have initially : start.sessions.Backed := by
    rw [fresh]
    exact initial_backed
  exact Library.foldl_preserves kept history initially

/-- For every server, every run of requests from a start without sessions, whatever its
failed-login table and used nonces, and every further request: the block that runs has
been checked for what it needs. -/
theorem blocks_run_only_when_permitted (server : Server) (start : State)
    (history : List (Request × Answers)) (r : Request) (a : Answers) (h : Handler) (s' : State)
    (fresh : start.sessions = .initial)
    (found : dispatch server r a (stateAfter server start history) = (.ok h, s')) :
    Permitted server r a (stateAfter server start history) s' h :=
  dispatch_permitted (stateAfter_backed fresh history) found

/-! ## Sample requests -/

def camera : Server := ⟨true, ⟨"camera".toList, "secret".toList⟩, .standard⟩

def emptyState : State := ⟨[], .initial, .initial⟩

/-- A request from a page of the server itself. -/
def pageRequest (method target cookie csrf : String) : Request where
  method := method.toList
  target := target.toList
  host := "10.0.0.2".toList
  authorization := []
  type := "application/json".toList
  origin := "https://10.0.0.2".toList
  cookie := cookie.toList
  csrf := csrf.toList
  requested_with := "jipc-ui".toList
  fetch_site := "same-origin".toList
  body := "{}".toList
  length := 2
  upload := 0

/-- The platform knows the session, and takes what is relayed to it. -/
def signedIn : Answers where
  peer := some "10.0.0.9".toList
  now := 1000000
  clock := 1700000000
  ready := true
  relaysBusy := false
  relayed := .status 401
  session := some ⟨200, some "token".toList⟩
  memory := true

/-- A change with the session's token. -/
theorem blocks_run_only_when_permitted_change :
    ∃ s', Permitted camera (pageRequest "POST" "/api/v1/controls" "joan_session=0123" "token")
      signedIn emptyState s' .controlsPatch := by
  have evaluated : (dispatch camera
      (pageRequest "POST" "/api/v1/controls" "joan_session=0123" "token") signedIn
      emptyState).1.toOption = some .controlsPatch := by decide +kernel
  cases found : dispatch camera
      (pageRequest "POST" "/api/v1/controls" "joan_session=0123" "token") signedIn emptyState with
  | mk answer s' =>
      rw [found] at evaluated
      cases answer with
      | error refusal => exact absurd evaluated nofun
      | ok h =>
          have same : h = .controlsPatch := Option.some.inj evaluated
          subst same
          exact ⟨s', blocks_run_only_when_permitted camera emptyState [] _ _ _ s' rfl found⟩

/-- The blocks that change something, or return media, settings or recordings. -/
def Handler.sensitive : Handler → Bool
  | health | ui _ | soap none => false
  | soap (some action) => action ≠ "GetSystemDateAndTime"
  | _ => true

/-- That these blocks run only for an unblocked peer, with the account's credentials
or with a session's token in every request. -/
def OnlyWithToken (blocks : Handler → Bool) : Prop :=
  ∀ (server : Server) (s s' : State) (r : Request) (a : Answers) (h : Handler),
    s.sessions = .initial → dispatch server r a s = (.ok h, s') → blocks h = true →
      s.blocked a = false ∧ (byAccount server r a s ∨
        ∃ csrf, Confirmed server.crypto r.cookie a.now csrf s'.sessions ∧ r.csrf = csrf ∧
          (is r.method "GET" = false → r.origin = allowedOrigin server r))

theorem not_onlyWithToken {blocks : Handler → Bool} (r : Request) (h : Handler)
    (runs : (dispatch camera r signedIn emptyState).1.toOption = some h) (block : blocks h = true)
    (basic : basic_authorized camera r.authorization = false) (soap : r.soap = false)
    (bare : r.csrf = []) : ¬OnlyWithToken blocks := by
  intro claimed
  cases found : dispatch camera r signedIn emptyState with
  | mk answer s' =>
      rw [found] at runs
      cases answer with
      | error refusal => exact absurd runs nofun
      | ok found' =>
          have same : found' = h := Option.some.inj runs
          subst same
          rcases (claimed camera emptyState s' r signedIn found' rfl found block).2 with
            account | ⟨csrf, confirmed, same, -⟩
          · rcases account with valid | ⟨service, -⟩
            · exact absurd (basic.symm.trans valid) nofun
            · exact absurd (soap.symm.trans service) nofun
          · exact confirmed.2.1 (same.symm.trans bare)

/-- A session reads the configuration without its token, and what is relayed to the
platform carries no credentials that this server checks. -/
theorem reads_and_relays_need_no_token :
    ¬OnlyWithToken Handler.sensitive ∧ ¬OnlyWithToken (fun h => h = .relay false) := by
  constructor
  · exact not_onlyWithToken (pageRequest "GET" "/api/v1/config" "joan_session=0123" "") .configGet
      (by decide +kernel) rfl (by decide +kernel) (by decide +kernel) rfl
  · exact not_onlyWithToken (pageRequest "PUT" "/api/joan/v1/network/ip" "" "") (.relay false)
      (by decide +kernel) rfl (by decide +kernel) (by decide +kernel) rfl

end JooanW3U.Media.HttpDispatch
