import JooanW3U.Library.Holdings
import JooanW3U.Media.RtspInput
import Mathlib.Data.List.FinRange

/-!
Owns the session of one RTSP connection: `handle` with what SETUP makes of the transport a
client offers, and the tracks it sets up. Main results: the interleaved channels of a
connection are pairwise distinct after any requests, and a refused SETUP changes no track.

Does not own the check of the credentials, the description of a stream, or the packets.
-/

namespace JooanW3U.Media.RtspSetup

open JooanW3U.Library JooanW3U.Media.RtspInput

abbrev Text := List Char

/-! ### The client -/

abbrev RTSP_TRACKS : Nat := 3

/-- The track a client talks on. -/
instance : @NeZero Nat Zero.ofOfNat0 RTSP_TRACKS := ⟨by decide⟩

def BACKCHANNEL_TRACK : Fin RTSP_TRACKS := 2

def BACKCHANNEL_TAG : String := "www.onvif.org/ver20/backchannel"

def RTSP_ADVERTISED_TIMEOUT : Nat := 60

/-- The stream of the sound, for all sensors. -/
def JIPC_AUDIO_STREAM : Nat := 4

/-- `rtsp_track` without its counters; a closed descriptor is `none`. -/
structure Track where
  setup : Bool
  tcp : Bool
  rtp_fd : Option Nat
  rtcp_fd : Option Nat
  rtp_channel : Nat
  rtcp_channel : Nat
  client_rtp : Nat
  client_rtcp : Nat
  server_rtp : Nat
  server_rtcp : Nat
  sequence : UInt16
  ssrc : UInt32
  timestamp_base : UInt32
  deriving Repr, DecidableEq

def Track.unused : Track := ⟨false, false, none, none, 0, 0, 0, 0, 0, 0, 0, 0, 0⟩

def Track.close_track (track : Track) : Track :=
  { track with rtp_fd := none, rtcp_fd := none, setup := false }

/-- The interleaved channels of a track that is set up over TCP. -/
def Track.interleaved (track : Track) : List Nat :=
  if track.setup && track.tcp then [track.rtp_channel, track.rtcp_channel] else []

/-- The session fields of `rtsp_client`; `connected` until its thread ends. -/
structure Client where
  connected : Bool
  channel : Option Nat
  playing : Bool
  backchannel : Bool
  tracks : Fin RTSP_TRACKS → Track
  session : Text
  base_uri : Text

/-- A client as `server_main` creates it. -/
def Client.created (session : Text) : Client :=
  ⟨true, none, false, false, fun _ => .unused, session, []⟩

/-- The channels of all tracks. -/
def Client.interleaved (client : Client) : List Nat :=
  (List.finRange RTSP_TRACKS).flatMap fun track => (client.tracks track).interleaved

/-! ### What a request meets -/

/-- An answer, without the fields that every answer has and without its body. -/
structure Answer where
  status : Nat
  reason : String
  extra : Text
  deriving Repr, DecidableEq

/-- What `handle` sends, if anything, and whether the connection goes on. -/
structure Reply where
  answer : Option Answer
  goesOn : Bool
  deriving Repr, DecidableEq

/-- One attempt to bind two sockets: it fails for good, or the first has a port and the second
may be bound next to it, and both may be connected. -/
inductive Attempt
  | failed
  | bound (rtp rtcp port : Nat) (next connected : Bool)
  deriving Repr, DecidableEq

/-- What a request meets outside the session: the configuration, the speaker, the outcome of the
credentials' check, of the description and of the system calls. `described` is the answer that
`describe` gives and `challenged` the header of `challenge`, if they succeed. -/
structure World where
  audio : Bool
  sensors : Nat
  speaker : Bool
  username : Bool
  blocked : Bool
  authenticated : Bool
  challenged : Option Text
  described : Option Answer
  sockets : List Attempt
  random : Option (UInt32 × UInt32 × UInt32)
  timeline_ssrc : Nat → UInt32
  timeline_base : Nat → UInt32
  sent : Bool

/-- `response`: the connection ends when it cannot be sent. -/
def World.response (world : World) (status : Nat) (reason : String) (extra : Text) : Reply :=
  ⟨some ⟨status, reason, extra⟩, world.sent⟩

/-! ### Texts -/

/-- Where the text first stands: what is before it, and what begins with it. -/
def strstr (needle : Text) : Text → Option (Text × Text)
  | [] => none
  | c :: rest =>
      if needle <+: c :: rest then some ([], c :: rest)
      else (strstr needle rest).map fun (before, found) => (c :: before, found)

/-- The items `strtok_r` finds. -/
def items (separator : Char) (text : Text) : List Text := (text.splitOn separator).filter (· ≠ [])

/-- `!strncasecmp(text, word, strlen(word))`. -/
def begins (word : String) (text : Text) : Bool :=
  sameIgnoringCase (text.take word.toList.length) word.toList

def same (word : String) (text : Text) : Bool := sameIgnoringCase text word.toList

def port_pair (text : Text) (limit : Nat) : Option (Nat × Nat) :=
  match text.span (· ≠ '-') with
  | (_, []) => none
  | (left, _ :: right) =>
      if left = [] ∨ 24 ≤ left.length then none
      else
        match parse_unsigned left limit, parse_unsigned right limit with
        | some a, some b => if a = b then none else some (a, b)
        | _, _ => none

local instance textLawful : LawfulBEq Text := List.instLawfulBEq

/-- The stream a path without its slashes at the end names. -/
def streamOf (stem : Text) : Option Nat :=
  match stem.getLast? with
  | none => none
  | some c =>
      if stem.dropLast ∈ ["/stream".toList, "/live/".toList, "/live/ch".toList] ∧
          '0' ≤ c ∧ c ≤ '3' then
        some (c.toNat - '0'.toNat)
      else none

/-- The track behind a path; none when none is named. -/
def trackOf (suffix : Option Text) : Option (Option (Fin RTSP_TRACKS)) :=
  match suffix with
  | none => some none
  | some suffix =>
      if suffix = "/trackID=0".toList then some (some 0)
      else if suffix = "/trackID=1".toList then some (some 1)
      else if suffix = "/trackID=2".toList then some (some BACKCHANNEL_TRACK)
      else none

/-- The stream, the track and the base of a URI. -/
def uri_channel (uri : Text) : Option (Nat × Option (Fin RTSP_TRACKS) × Text) := do
  let path := if begins "rtsp://" uri then (uri.drop 7).dropWhile (· ≠ '/') else uri
  if path.head? ≠ some '/' ∨ path.any (fun c => c = '?' || c = '#') then none
  else
    let found := strstr "/trackID=".toList path
    let track ← trackOf (found.map Prod.snd)
    let stem := (((found.map Prod.fst).getD path).reverse.dropWhile (· = '/')).reverse
    let channel ← streamOf stem
    let base := uri.take (uri.length - path.length) ++ stem ++ ['/']
    if 2048 < base.length + 1 then none else some (channel, track, base)

def session_matches (client : Client) (session : Text) : Bool :=
  session.takeWhile (fun c => c ≠ ';' && c ≠ ' ' && c ≠ '\t') = client.session

/-- Whether the backchannel is asked for, or the tags that are not supported. -/
def require_tags (require : Text) (can_backchannel : Bool) : Except Text Bool :=
  let tags := ((items ',' require).map trim).filter (· ≠ [])
  let supported (tag : Text) : Bool := can_backchannel && same BACKCHANNEL_TAG tag
  match tags.filter fun tag => !supported tag with
  | [] => .ok (tags.any supported)
  | unsupported => .error ((List.intercalate ", ".toList unsupported).take 255)

def decimal (number : Nat) : Text := Nat.toDigits 10 number

/-- `%08X`. -/
def hex8 (number : UInt32) : Text :=
  let digits := (Nat.toDigits 16 number.toNat).map Char.toUpper
  List.replicate (8 - digits.length) '0' ++ digits

/-! ### The transport -/

/-- What the loop of `setup` has made of the options. -/
structure Offer where
  proposed : Track
  have_pair : Bool
  invalid : Bool
  deriving Repr, DecidableEq

/-- One option. -/
def Offer.option (offer : Offer) (token : Text) : Offer :=
  let token := trim token
  if same "unicast" token then offer
  else if same "mode=\"PLAY\"" token || same "mode=PLAY" token then offer
  else if offer.proposed.tcp && begins "interleaved=" token then
    match offer.have_pair, port_pair (token.drop 12) 255 with
    | false, some (first, second) =>
        { offer with
          have_pair := true
          proposed := { offer.proposed with rtp_channel := first, rtcp_channel := second } }
    | _, _ => { offer with have_pair := true, invalid := true }
  else if !offer.proposed.tcp && begins "client_port=" token then
    match offer.have_pair, port_pair (token.drop 12) 65535 with
    | false, some (first, second) =>
        { offer with
          have_pair := true
          invalid := offer.invalid || first = 0 || second = 0
          proposed := { offer.proposed with client_rtp := first, client_rtcp := second } }
    | _, _ => { offer with have_pair := true, invalid := true }
  else { offer with invalid := true }

/-- The transport a client offers, unless it names another protocol. -/
def offered (transport : Text) : Option Offer :=
  match items ';' transport with
  | [] => none
  | first :: rest =>
      if same "RTP/AVP/TCP" (trim first) then
        some (rest.foldl Offer.option ⟨{ Track.unused with tcp := true }, false, false⟩)
      else if same "RTP/AVP" (trim first) || same "RTP/AVP/UDP" (trim first) then
        some (rest.foldl Offer.option ⟨Track.unused, false, false⟩)
      else none

/-- The channels a TCP track gets when none are named. -/
def Offer.defaults (offer : Offer) (track : Fin RTSP_TRACKS) : Offer :=
  if offer.proposed.tcp && !offer.have_pair then
    { offer with
      have_pair := true
      proposed := { offer.proposed with
        rtp_channel := track.val * 2, rtcp_channel := track.val * 2 + 1 } }
  else offer

/-- Another track has one of the proposed channels. -/
def clashes (proposed : Track) (tracks : Fin RTSP_TRACKS → Track) (track : Fin RTSP_TRACKS) : Bool :=
  (List.finRange RTSP_TRACKS).any fun i =>
    let other := tracks i
    i ≠ track && proposed.tcp && other.setup && other.tcp &&
      (proposed.rtp_channel = other.rtp_channel || proposed.rtp_channel = other.rtcp_channel ||
        proposed.rtcp_channel = other.rtp_channel || proposed.rtcp_channel = other.rtcp_channel)

/-- The loop of `udp_pair`, `attempts` of which may still come: the descriptors and the first
port, which is even. -/
def udp_pair : Nat → List Attempt → Option (Nat × Nat × Nat)
  | 0, _ => none
  | _, [] => none
  | _, .failed :: _ => none
  | attempts + 1, .bound rtp rtcp port next connected :: rest =>
      if port % 2 = 1 ∨ port = 65535 ∨ next = false then udp_pair attempts rest
      else if connected then some (rtp, rtcp, port) else none

/-- The sockets of a UDP track; a TCP track needs none. -/
def Track.sockets (proposed : Track) (world : World) : Option Track :=
  if proposed.tcp then some proposed
  else (udp_pair 64 world.sockets).map fun (rtp, rtcp, port) =>
    { proposed with
      rtp_fd := some rtp, rtcp_fd := some rtcp, server_rtp := port, server_rtcp := port + 1 }

/-- The track as SETUP leaves it. -/
def Track.seeded (proposed : Track) (world : World) (channel : Nat) (track : Fin RTSP_TRACKS)
    (seed : UInt32 × UInt32 × UInt32) : Track :=
  let stream := if track = 1 then JIPC_AUDIO_STREAM else channel
  { proposed with
    sequence := seed.1.toUInt16
    ssrc := if track = BACKCHANNEL_TRACK then if seed.2.1 = 0 then 1 else seed.2.1
      else world.timeline_ssrc stream
    timestamp_base := if track = BACKCHANNEL_TRACK then seed.2.2 else world.timeline_base stream
    setup := true }

/-- The fields of the answer to a SETUP. -/
def Track.transport (proposed : Track) (session : Text) (track : Fin RTSP_TRACKS) : Text :=
  let pair (a b : Nat) : Text := decimal a ++ '-' :: decimal b
  "Session: ".toList ++ session ++ ";timeout=".toList ++ decimal RTSP_ADVERTISED_TIMEOUT ++
    (if track = BACKCHANNEL_TRACK then
      "\r\nTransport: RTP/AVP/TCP;unicast;interleaved=".toList ++
        pair proposed.rtp_channel proposed.rtcp_channel ++ "\r\n".toList
    else if proposed.tcp then
      "\r\nTransport: RTP/AVP/TCP;unicast;interleaved=".toList ++
        pair proposed.rtp_channel proposed.rtcp_channel ++ ";ssrc=".toList ++ hex8 proposed.ssrc ++
        "\r\n".toList
    else
      "\r\nTransport: RTP/AVP;unicast;client_port=".toList ++
        pair proposed.client_rtp proposed.client_rtcp ++ ";server_port=".toList ++
        pair proposed.server_rtp proposed.server_rtcp ++ ";ssrc=".toList ++ hex8 proposed.ssrc ++
        "\r\n".toList)

/-! ### Requests -/

def setup (client : Client) (world : World) (request : Request) (channel : Nat)
    (named : Option (Fin RTSP_TRACKS)) (base : Text) : Client × Reply :=
  let track := named.getD 0
  let unsupported := (client, world.response 461 "Unsupported Transport" [])
  if track = 1 ∧ world.audio = false then (client, world.response 404 "Not Found" [])
  else if track = BACKCHANNEL_TRACK ∧
      (world.audio = false ∨ client.backchannel = false ∨ world.speaker = false) then
    (client, world.response 404 "Not Found" [])
  else if client.playing then
    (client, world.response 455 "Method Not Valid in This State" [])
  else if (request.session ≠ [] ∧ session_matches client request.session = false) ∨
      (client.channel ≠ none ∧ client.channel ≠ some channel) then
    (client, world.response 454 "Session Not Found" [])
  else if request.transport = [] ∨ ',' ∈ request.transport then unsupported
  else
    match offered request.transport with
    | none => unsupported
    | some offer =>
        if track = BACKCHANNEL_TRACK ∧ offer.proposed.tcp = false then unsupported
        else
          let offer := offer.defaults track
          if offer.invalid || clashes offer.proposed client.tracks track || !offer.have_pair then
            unsupported
          else
            match offer.proposed.sockets world with
            | none => (client, world.response 500 "Internal Server Error" [])
            | some proposed =>
                match world.random with
                | none => (client, ⟨none, false⟩)
                | some seed =>
                    let placed := proposed.seeded world channel track seed
                    ({ client with
                        tracks := Function.update client.tracks track placed
                        channel := some channel
                        base_uri := base },
                      world.response 200 "OK" (placed.transport client.session track))

/-- The `RTP-Info` of the tracks that are sent. -/
def rtpInfo (client : Client) : Text :=
  let one (track : Fin RTSP_TRACKS) : Text :=
    "url=".toList ++ client.base_uri ++ "trackID=".toList ++ decimal track.val ++ ";seq=".toList ++
      decimal (client.tracks track).sequence.toNat
  match ([0, 1] : List (Fin RTSP_TRACKS)).filter fun track => (client.tracks track).setup with
  | [] => []
  | sent => "RTP-Info: ".toList ++ List.intercalate [','] (sent.map one) ++ "\r\n".toList

def play (client : Client) (world : World) (request : Request) (extra : Text) : Client × Reply :=
  if request.range ≠ [] ∧ request.range ∉
      ["npt=now-".toList, "npt=0-".toList, "npt=0.000-".toList] then
    (client, world.response 457 "Invalid Range" [])
  else if (client.tracks 0).setup = false ∧ (client.tracks 1).setup = false ∧
      (client.tracks BACKCHANNEL_TRACK).setup = false then
    (client, world.response 455 "Method Not Valid in This State" [])
  else
    let extra := extra ++ "Range: npt=now-\r\n".toList ++ rtpInfo client
    if 4600 < extra.length + 1 then (client, ⟨none, false⟩)
    else ({ client with playing := true }, world.response 200 "OK" extra)

def public_methods : Text :=
  "Public: OPTIONS, DESCRIBE, SETUP, PLAY, PAUSE, TEARDOWN, GET_PARAMETER\r\n".toList

/-- The requests within a session. -/
def inSession (client : Client) (world : World) (request : Request) : Client × Reply :=
  let extra := "Session: ".toList ++ client.session ++ "\r\n".toList
  if request.method = "PLAY".toList then play client world request extra
  else if request.method = "PAUSE".toList then
    ({ client with playing := false }, world.response 200 "OK" extra)
  else if request.method = "GET_PARAMETER".toList then (client, world.response 200 "OK" extra)
  else if request.method = "TEARDOWN".toList then
    ({ client with playing := false }, { world.response 200 "OK" extra with goesOn := false })
  else (client, world.response 405 "Method Not Allowed" public_methods)

/-- `handle` behind the check of the credentials. -/
def authorised (client : Client) (world : World) (request : Request) : Client × Reply :=
  match uri_channel request.uri with
  | none => (client, world.response 404 "Not Found" [])
  | some (channel, track, base) =>
      if world.sensors * 2 ≤ channel then (client, world.response 404 "Not Found" [])
      else if request.method = "DESCRIBE".toList then
        (client, ⟨world.described, world.described.isSome && world.sent⟩)
      else if request.method = "SETUP".toList then setup client world request channel track base
      else if request.method = "GET_PARAMETER".toList ∧ client.channel = none then
        (client, world.response 200 "OK" [])
      else if client.channel ≠ some channel ∨ session_matches client request.session = false then
        (client, world.response 454 "Session Not Found" [])
      else inSession client world request

def handle (client : Client) (world : World) (request : Request) : Client × Reply :=
  match require_tags request.require (world.audio && world.speaker) with
  | .error unsupported =>
      (client, world.response 551 "Option not supported"
        ("Unsupported: ".toList ++ unsupported ++ "\r\n".toList))
  | .ok backchannel =>
      if request.method = "OPTIONS".toList then
        (client, world.response 200 "OK" public_methods)
      else if world.username && world.blocked then
        (client, world.response 503 "Service Unavailable" "Retry-After: 60\r\n".toList)
      else if world.username && !world.authenticated then
        match world.challenged with
        | none => (client, ⟨none, false⟩)
        | some header => (client, world.response 401 "Unauthorized" header)
      else
        authorised { client with backchannel := client.backchannel || backchannel } world request

/-! ### The connection -/

/-- The end of `client_main`. -/
def Client.ended (client : Client) : Client :=
  { client with connected := false, tracks := fun track => (client.tracks track).close_track }

/-- What the client's thread does next: it handles a request, sends a packet of a track, or finds
a reason to end. -/
inductive Event
  | request (world : World) (request : Request)
  | packet (track : Fin RTSP_TRACKS)
  | hangup

def Client.next (client : Client) (event : Event) : Client :=
  if client.connected then
    match event with
    | .request world request =>
        let (after, reply) := handle client world request
        if reply.goesOn then after else after.ended
    | .packet track =>
        let sent := client.tracks track
        { client with
          tracks := Function.update client.tracks track { sent with sequence := sent.sequence + 1 } }
    | .hangup => client.ended
  else client

def Client.run (client : Client) (events : List Event) : Client := events.foldl Client.next client

/-! ### What SETUP places -/

/-- An offer that is not refused has two channels. -/
def Offer.Sound (offer : Offer) : Prop :=
  offer.proposed.tcp = true → offer.have_pair = true → offer.invalid = false →
    offer.proposed.rtp_channel ≠ offer.proposed.rtcp_channel

theorem Offer.Sound.of_invalid {offer : Offer} (invalid : offer.invalid = true) : offer.Sound :=
  fun _ _ valid => absurd (valid.symm.trans invalid) (by decide)

theorem port_pair_ne {text : Text} {limit first second : Nat}
    (read : port_pair text limit = some (first, second)) : first ≠ second := by
  unfold port_pair at read
  split at read
  · cases read
  · split at read
    · cases read
    · split at read
      · split at read
        · cases read
        · rename_i differ
          cases read
          exact differ
      · cases read

theorem Offer.option_sound {offer : Offer} (sound : offer.Sound) (token : Text) :
    (offer.option token).Sound := by
  unfold Offer.option
  dsimp only
  split
  · exact sound
  split
  · exact sound
  split
  · split
    · rename_i read
      exact fun _ _ _ => port_pair_ne read
    · exact .of_invalid rfl
  split
  · rename_i overUdp
    have udp : offer.proposed.tcp = false := by
      rw [Bool.and_eq_true, Bool.not_eq_true'] at overUdp
      exact overUdp.1
    split
    · exact fun tcp => absurd (udp.symm.trans tcp) (by decide)
    · exact .of_invalid rfl
  · exact .of_invalid rfl

theorem Offer.options_sound {offer : Offer} (sound : offer.Sound) (tokens : List Text) :
    (tokens.foldl Offer.option offer).Sound := by
  induction tokens generalizing offer with
  | nil => exact sound
  | cons token rest inductionHypothesis => exact inductionHypothesis (offer.option_sound sound token)

theorem offered_sound {transport : Text} {offer : Offer} (read : offered transport = some offer) :
    offer.Sound := by
  unfold offered at read
  split at read
  · cases read
  · split at read
    · cases read
      exact Offer.options_sound (fun _ have_pair => absurd have_pair (by decide)) _
    · split at read
      · cases read
        exact Offer.options_sound (fun _ have_pair => absurd have_pair (by decide)) _
      · cases read

theorem Offer.defaults_sound {offer : Offer} (sound : offer.Sound) (track : Fin RTSP_TRACKS) :
    (offer.defaults track).Sound := by
  unfold Offer.defaults
  split
  · exact fun _ _ _ => Nat.ne_of_lt (Nat.lt_succ_self _)
  · exact sound

theorem Track.mem_interleaved {track : Track} {channel : Nat} :
    channel ∈ track.interleaved ↔ (track.setup = true ∧ track.tcp = true) ∧
      (channel = track.rtp_channel ∨ channel = track.rtcp_channel) := by
  unfold Track.interleaved
  by_cases open_ : (track.setup && track.tcp) = true
  · rw [if_pos open_, List.mem_cons, List.mem_singleton, ← Bool.and_eq_true]
    exact ⟨fun either => ⟨open_, either⟩, And.right⟩
  · rw [if_neg open_, ← Bool.and_eq_true]
    exact ⟨nofun, fun both => absurd both.1 open_⟩

/-- Whatever sockets and seeds a track gets, its channels are those proposed. -/
theorem Track.interleaved_placed {proposed socketed : Track} {world : World} {channel : Nat}
    {track : Fin RTSP_TRACKS} {seed : UInt32 × UInt32 × UInt32}
    (opened : proposed.sockets world = some socketed) :
    (socketed.seeded world channel track seed).interleaved =
      if proposed.tcp then [proposed.rtp_channel, proposed.rtcp_channel] else [] := by
  unfold Track.sockets at opened
  split at opened
  · cases opened
    rfl
  · obtain ⟨pair, -, rfl⟩ := Option.map_eq_some_iff.mp opened
    rfl

theorem clashes_false {proposed : Track} {tracks : Fin RTSP_TRACKS → Track}
    {track other : Fin RTSP_TRACKS} (free : clashes proposed tracks track = false)
    (tcp : proposed.tcp = true) (differ : other ≠ track) :
    [proposed.rtp_channel, proposed.rtcp_channel].Disjoint (tracks other).interleaved := by
  have here := List.any_eq_false.mp free other (List.mem_finRange other)
  intro channel proposedIt held
  obtain ⟨⟨setUp, overTcp⟩, which⟩ := Track.mem_interleaved.mp held
  apply here
  simp only [differ, tcp, setUp, overTcp, decide_true, Bool.and_true, Bool.true_and, ne_eq,
    not_false_eq_true, Bool.or_eq_true, decide_eq_true_eq]
  rcases List.mem_cons.mp proposedIt with rfl | last
  · rcases which with one | two
    · exact .inl (.inl (.inl one))
    · exact .inl (.inl (.inr two))
  · rw [List.mem_singleton] at last
    subst last
    rcases which with one | two
    · exact .inl (.inr one)
    · exact .inr two

/-- One track was replaced by one with channels of its own. -/
def Replaced (before after : Client) : Prop :=
  ∃ track placed, after.tracks = Function.update before.tracks track placed ∧
    placed.interleaved.Nodup ∧
    ∀ other, other ≠ track → placed.interleaved.Disjoint (before.tracks other).interleaved

/-- What a request may do to the tracks: nothing, or it replaces one and says so. -/
def Effect (before : Client) (out : Client × Reply) : Prop :=
  out.1.session = before.session ∧
    (out.1.tracks = before.tracks ∨
      Replaced before out.1 ∧ ∃ answer, out.2.answer = some answer ∧ answer.status = 200)

theorem Effect.kept {before : Client} {out : Client × Reply}
    (session : out.1.session = before.session) (tracks : out.1.tracks = before.tracks) :
    Effect before out :=
  ⟨session, .inl tracks⟩

theorem setup_effect (client : Client) (world : World) (request : Request) (channel : Nat)
    (named : Option (Fin RTSP_TRACKS)) (base : Text) :
    Effect client (setup client world request channel named base) := by
  unfold setup
  dsimp only
  split
  · exact .kept rfl rfl
  split
  · exact .kept rfl rfl
  split
  · exact .kept rfl rfl
  split
  · exact .kept rfl rfl
  split
  · exact .kept rfl rfl
  split
  · exact .kept rfl rfl
  rename_i offer read
  split
  · exact .kept rfl rfl
  split
  · exact .kept rfl rfl
  rename_i accepted
  split
  · exact .kept rfl rfl
  rename_i socketed opened
  split
  · exact .kept rfl rfl
  -- Nothing refused the offer: its pair is there, valid, and free on the other tracks.
  simp only [Bool.or_eq_true, Bool.not_eq_true', not_or, Bool.not_eq_true, Bool.not_eq_false]
    at accepted
  obtain ⟨⟨valid, free⟩, have_pair⟩ := accepted
  have sound := Offer.defaults_sound (offered_sound read) (named.getD 0)
  refine ⟨rfl, .inr ⟨⟨named.getD 0, _, rfl, ?_, ?_⟩, _, rfl, rfl⟩⟩
  · rw [Track.interleaved_placed opened]
    split
    · rename_i tcp
      rw [List.nodup_cons, List.mem_singleton]
      exact ⟨sound tcp have_pair valid, List.nodup_singleton _⟩
    · exact List.nodup_nil
  · intro other differ
    rw [Track.interleaved_placed opened]
    split
    · rename_i tcp
      exact clashes_false free tcp differ
    · exact List.disjoint_nil_left _

theorem inSession_effect (client : Client) (world : World) (request : Request) :
    Effect client (inSession client world request) := by
  unfold inSession play
  dsimp only
  split
  · split
    · exact .kept rfl rfl
    · split
      · exact .kept rfl rfl
      · split <;> exact .kept rfl rfl
  split
  · exact .kept rfl rfl
  split
  · exact .kept rfl rfl
  split <;> exact .kept rfl rfl

theorem handle_effect (client : Client) (world : World) (request : Request) :
    Effect client (handle client world request) := by
  unfold handle
  split
  · exact .kept rfl rfl
  split
  · exact .kept rfl rfl
  split
  · exact .kept rfl rfl
  split
  · split <;> exact .kept rfl rfl
  unfold authorised
  split
  · exact .kept rfl rfl
  split
  · exact .kept rfl rfl
  split
  · exact .kept rfl rfl
  split
  · exact setup_effect { client with backchannel := _ } world request _ _ _
  split
  · exact .kept rfl rfl
  split
  · exact .kept rfl rfl
  exact inSession_effect { client with backchannel := _ } world request

/-! ### Any requests -/

def Client.Apart (client : Client) : Prop := Exclusive fun track => (client.tracks track).interleaved

theorem Client.created_apart (session : Text) : (Client.created session).Apart := Exclusive.empty

/-- Tracks with the same channels, or fewer, are as far apart. -/
theorem Client.Apart.of_tracks {before after : Client} (apart : before.Apart)
    (channels : ∀ track, (after.tracks track).interleaved = (before.tracks track).interleaved) :
    after.Apart := by
  unfold Client.Apart
  rw [funext channels]
  exact apart

theorem Client.Apart.replaced {before after : Client} (apart : before.Apart)
    (replaced : Replaced before after) : after.Apart := by
  obtain ⟨track, placed, tracks, distinct, free⟩ := replaced
  have updated := Exclusive.update apart distinct free
  unfold Client.Apart
  convert updated using 1
  funext other
  rw [tracks]
  by_cases same : other = track
  · rw [same, Function.update_self, Function.update_self]
  · rw [Function.update_of_ne same, Function.update_of_ne same]

theorem Client.ended_apart (client : Client) : client.ended.Apart :=
  Exclusive.empty

theorem Client.next_apart {client : Client} (apart : client.Apart) (event : Event) :
    (client.next event).Apart := by
  unfold Client.next
  split
  · split
    · rename_i world request
      dsimp only
      split
      · obtain ⟨-, kept | ⟨replaced, -⟩⟩ := handle_effect client world request
        · exact apart.of_tracks fun track => by rw [kept]
        · exact apart.replaced replaced
      · exact Client.ended_apart _
    · rename_i track
      refine apart.of_tracks fun other => ?_
      dsimp only
      by_cases same : other = track
      · rw [same, Function.update_self]
        rfl
      · rw [Function.update_of_ne same]
    · exact client.ended_apart
  · exact apart

theorem Client.run_apart {client : Client} (apart : client.Apart) (events : List Event) :
    (client.run events).Apart := by
  induction events generalizing client with
  | nil => exact apart
  | cons event rest inductionHypothesis => exact inductionHypothesis (client.next_apart apart event)

/-- The interleaved channels of a connection stay pairwise distinct, and a SETUP that is answered
with an error changes neither a track nor the session. -/
theorem channels_apart_and_refusals_keep :
    (∀ (session : Text) (events : List Event),
      ((Client.created session).run events).interleaved.Nodup) ∧
    ∀ (client : Client) (world : World) (request : Request) (answer : Answer),
      request.method = "SETUP".toList →
        (handle client world request).2.answer = some answer → answer.status ≠ 200 →
          (handle client world request).1.tracks = client.tracks ∧
            (handle client world request).1.session = client.session := by
  constructor
  · intro session events
    exact (Client.run_apart (Client.created_apart session) events).nodup_flatMap
      (List.nodup_finRange _)
  · intro client world request answer _ answered refused
    obtain ⟨session, kept | ⟨-, accepted, sent, fine⟩⟩ := handle_effect client world request
    · exact ⟨kept, session⟩
    · rw [answered] at sent
      cases sent
      exact absurd fine refused

/-- A camera with sound and one sensor. -/
def sampleWorld : World where
  audio := true
  sensors := 1
  speaker := true
  username := false
  blocked := false
  authenticated := false
  challenged := none
  described := none
  sockets := []
  random := some (1, 2, 3)
  timeline_ssrc := fun _ => 7
  timeline_base := fun _ => 0
  sent := true

def sampleRequest (uri transport : String) : Request :=
  ⟨"SETUP".toList, uri.toList, [], transport.toList, [], [], [], 1, 0⟩

/-- The sound has the channels 1 and 2, and the picture is refused the channels 2 and 3. -/
theorem channels_apart_and_refusals_keep_sample :
    let client := (Client.created ['s']).run
      [.request sampleWorld (sampleRequest "/live/0/trackID=1" "RTP/AVP/TCP;interleaved=1-2")]
    let refused := handle client sampleWorld
      (sampleRequest "/live/0/trackID=0" "RTP/AVP/TCP;interleaved=2-3")
    client.interleaved = [1, 2] ∧ client.interleaved.Nodup ∧
      refused.1.tracks = client.tracks ∧ refused.1.session = client.session := by
  refine ⟨by decide +kernel, channels_apart_and_refusals_keep.1 _ _,
    channels_apart_and_refusals_keep.2 _ _ _ ⟨461, "Unsupported Transport", []⟩ rfl ?_ (by decide)⟩
  decide +kernel

end JooanW3U.Media.RtspSetup
