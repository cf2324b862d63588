import JooanW3U.Library.Runs
import JooanW3U.Media.Stream
import Mathlib.Data.List.Basic

/-!
Owns what one RTSP client is sent: the playback state changed by SETUP, PLAY,
PAUSE and TEARDOWN, the loop body of `stream_frames`, and the system of that
client with the publishers and the privacy hold. Main result: the video frames
sent are decodable.

Does not own packets, RTCP reports, or requests before authentication.
-/

namespace JooanW3U.Media.RtspPlayback

open JooanW3U.Library

/-! ### The client -/

inductive Track
  | video
  | audio
  | backchannel
deriving Repr, DecidableEq

/-- What the client's thread did, for the trace: a PLAY, `starting` when playback
was stopped before it, or a video frame of a channel. -/
inductive Delivery
  | play (starting : Bool)
  | frame (channel : Nat) (frame : Frame)
deriving Repr, DecidableEq

/-- The playback fields of `rtsp_client`; `connected` until its thread ends, and
`trace` with the newest delivery first. -/
structure Client where
  connected : Bool
  playing : Bool
  needKeyframe : Bool
  channel : Option (Fin videoStreams)
  setup : Track → Bool
  cursor : Track → Nat
  trace : List Delivery

/-- A client as `server_main` creates it. -/
def Client.initial : Client :=
  ⟨true, false, true, none, fun _ => false, fun _ => 0, []⟩

/-- An authenticated request for an existing channel. `session`: its Session
header, which SETUP may leave out, is this client's; `transport`: the rest of
SETUP accepts it. -/
inductive Request
  | setup (channel : Fin videoStreams) (session : Bool) (track : Track) (transport : Bool)
  | play (channel : Fin videoStreams) (session : Bool) (range : String)
  | pause (channel : Fin videoStreams) (session : Bool)
  | teardown (channel : Fin videoStreams) (session : Bool)
deriving Repr, DecidableEq

/-- The ranges PLAY accepts; an absent header is the empty text. -/
def playRange (range : String) : Bool :=
  range = "" || range = "npt=now-" || range = "npt=0-" || range = "npt=0.000-"

def Client.anySetup (client : Client) : Bool :=
  client.setup .video || client.setup .audio || client.setup .backchannel

/-- The playback part of `setup`, `PLAY`, `PAUSE` and `TEARDOWN`, with the status
of the response. -/
def Client.handle (client : Client) : Request → Client × Nat
  | .setup channel session track transport =>
      if client.playing then (client, 455)
      else if session = false ∨ (client.channel.isSome ∧ client.channel ≠ some channel) then
        (client, 454)
      else if transport = false then (client, 461)
      else
        ({ client with
            setup := Function.update client.setup track true
            channel := some channel }, 200)
  | .play channel session range =>
      if client.channel ≠ some channel ∨ session = false then (client, 454)
      else if playRange range = false then (client, 457)
      else if client.anySetup = false then (client, 455)
      else
        ({ client with
            needKeyframe := client.needKeyframe || !client.playing
            playing := true
            trace := .play (!client.playing) :: client.trace }, 200)
  | .pause channel session =>
      if client.channel ≠ some channel ∨ session = false then (client, 454)
      else ({ client with playing := false }, 200)
  | .teardown channel session =>
      if client.channel ≠ some channel ∨ session = false then (client, 454)
      else ({ client with playing := false, connected := false }, 200)

/-- Whether the allocation in `jipc_read`, the sending of the frame and the RTCP
report after it succeed. -/
structure Outcome where
  allocated : Bool
  sent : Bool
  reported : Bool
deriving Repr, DecidableEq

/-- The codec a track carries. -/
def Track.codec : Track → Codec
  | .video => .h264
  | _ => .pcma

/-- A video frame whose predecessor the reader missed. -/
def missed (previous : Nat) (frame : Frame) : Bool :=
  previous ≠ 0 && frame.sequence ≠ previous + 1 && !frame.keyframe

/-- `stream_frames` with a frame it read. -/
def Client.deliver (client : Client) (track : Track) (channel previous : Nat) (frame : Frame)
    (outcome : Outcome) : Client :=
  let awaiting := track = .video && (client.needKeyframe || missed previous frame)
  if awaiting && !frame.keyframe then { client with needKeyframe := true }
  else
    { client with
      needKeyframe := if track = .video then false else client.needKeyframe
      connected := outcome.sent && outcome.reported
      trace := if track = .video then .frame channel frame :: client.trace else client.trace }

/-- The body of the `stream_frames` loop for one of its two tracks. -/
def Client.streamTrack (client : Client) (app : App) (track : Track) (outcome : Outcome) :
    Client :=
  if client.playing = false ∨ client.setup track = false ∨ track = .backchannel then client
  else
    match if track = .audio then some audioStream else client.channel.map Fin.val with
    | none => client
    | some channel =>
        match app.read outcome.allocated channel (client.cursor track) with
        | .failed => { client with connected := false }
        | .nothing => client
        | .frame frame cursor =>
            let previous := client.cursor track
            let client := { client with cursor := Function.update client.cursor track cursor }
            if frame.codec ≠ track.codec then client
            else client.deliver track channel previous frame outcome

/-! ### The system -/

/-- The rings with what was put into each, the video calls in progress and one
client. -/
structure System where
  app : App
  published : Nat → List Frame
  calls : List VideoCall
  client : Client

def System.initial : System := ⟨App.initial, fun _ => [], [], Client.initial⟩

/-- One atomic action of a thread. -/
inductive Event
  | hold (held : Bool)
  | video (source : Nat) (mainOnly : Bool) (data : Bytes) (ptsUs : Nat) (keyframe : Bool)
  | advance (index : Nat) (allocated : Bool)
  | audio (data : Bytes) (ptsUs : Nat) (allocated : Bool)
  | request (request : Request) (answered : Bool)
  | stream (track : Track) (outcome : Outcome)

/-- The frames put into each ring, with those a change of the rings added. -/
def recordPublished (before after : App) (published : Nat → List Frame) : Nat → List Frame :=
  fun channel =>
    if (after.streams channel).ring.count = (before.streams channel).ring.count then
      published channel
    else
      published channel ++ [(after.streams channel).ring.item (after.streams channel).ring.count]

def System.withApp (system : System) (app : App) : System :=
  { system with app, published := recordPublished system.app app system.published }

def System.step (system : System) : Event → System
  | .hold held => { system with app := { system.app with privacyHold := held } }
  | .video source mainOnly data ptsUs keyframe =>
      { system with
        calls := system.calls ++ [VideoCall.enter source mainOnly data ptsUs keyframe] }
  | .advance index allocated =>
      match system.calls[index]? with
      | none => system
      | some call =>
          let result := call.advance system.app allocated
          { system.withApp result.1 with calls := system.calls.set index result.2 }
  | .audio data ptsUs allocated =>
      match system.app.publish allocated audioStream data ptsUs true .pcma with
      | none => system
      | some app => system.withApp app
  | .request request answered =>
      if system.client.connected then
        let client := (system.client.handle request).1
        { system with client := { client with connected := client.connected && answered } }
      else system
  | .stream track outcome =>
      if system.client.connected then
        { system with client := system.client.streamTrack system.app track outcome }
      else system

def System.run (events : List Event) : System := events.foldl System.step .initial

/-! ### Decodable delivery -/

/-- The video frames of a trace, newest first, each with its channel. -/
def framesOf (trace : List Delivery) : List (Nat × Frame) :=
  trace.filterMap fun
    | .play _ => none
    | .frame channel frame => some (channel, frame)

/-- After each PLAY that counts the first frame is a keyframe. -/
def OpensWithKeyframe (counts : Bool → Bool) (trace : List Delivery) : Prop :=
  ∀ later channel frame between starting earlier,
    trace = later ++ .frame channel frame :: (between ++ .play starting :: earlier) →
      counts starting = true → framesOf between = [] → frame.keyframe = true

/-- A frame that is not a keyframe directly follows, in its channel's publication
order, the frame sent before it. -/
def FollowsPredecessor (published : Nat → List Frame) (trace : List Delivery) : Prop :=
  ∀ later channel frame earlier,
    trace = later ++ .frame channel frame :: earlier → frame.keyframe = false →
      ∃ position predecessor, (framesOf earlier).head? = some (channel, predecessor) ∧
        (published channel)[position]? = some predecessor ∧
        (published channel)[position + 1]? = some frame

/-! ### What the publishers do to the rings -/

/-- The rings are kept, or one is pushed its next frame. -/
def RingStep (before after : App) : Prop :=
  (∀ channel, (after.streams channel).ring = (before.streams channel).ring) ∨
    ∃ channel frame, frame.sequence = (before.streams channel).ring.count + 1 ∧
      (channel < videoStreams → frame.codec = .h264) ∧
      (after.streams channel).ring = (before.streams channel).ring.push frame ∧
      ∀ other, other ≠ channel → (after.streams other).ring = (before.streams other).ring

theorem publish_ringStep {app after : App} {allocated keyframe : Bool} {channel ptsUs : Nat}
    {data : Bytes} {codec : Codec} (carried : channel < videoStreams → codec = .h264)
    (published : app.publish allocated channel data ptsUs keyframe codec = some after) :
    RingStep app after := by
  unfold App.publish at published
  split at published
  · cases published
  · obtain rfl := Option.some.inj published
    refine .inr ⟨channel, app.nextFrame channel data ptsUs keyframe codec, rfl, carried, ?_, ?_⟩
    · simp only [Function.update_self]
      split <;> simp
    · intro other different
      simp only [Function.update_of_ne different]

theorem advance_ringStep (call : VideoCall) (app : App) (allocated : Bool) :
    RingStep app (call.advance app allocated).1 := by
  have same : RingStep app app := .inl fun _ => rfl
  unfold VideoCall.advance
  split
  · exact same
  · exact .inl fun _ => rfl
  · exact same
  · rename_i channel rest _
    refine .inl fun other => ?_
    by_cases recorded : other = channel
    · subst recorded
      simp only [Function.update_self]
      split <;> simp
    · simp only [Function.update_of_ne recorded]
  · split <;> exact same
  · exact .inl fun _ => rfl
  · exact same
  · split
    · exact same
    · rename_i published
      exact publish_ringStep (fun _ => rfl) published
  · exact same

/-- Each ring holds its log, whose frames carry their numbers. -/
structure RingsHold (app : App) (published : Nat → List Frame) : Prop where
  holds : ∀ channel, BroadcastRing.Holds (app.streams channel).ring (published channel)
  numbered : ∀ channel (position : Nat) (frame : Frame),
    (published channel)[position]? = some frame → frame.sequence = position + 1
  carried : ∀ channel (position : Nat) (frame : Frame), channel < videoStreams →
    (published channel)[position]? = some frame → frame.codec = .h264

theorem initial_ringsHold : RingsHold App.initial fun _ => [] where
  holds channel := by
    refine ⟨?_, rfl, ?_⟩
    · simp only [App.initial]
      split <;> decide
    · intro index item member
      simp at member
  numbered _ _ _ member := by simp at member
  carried _ _ _ _ member := by simp at member

theorem recordPublished_same {before after : App} (published : Nat → List Frame) {channel : Nat}
    (same : (after.streams channel).ring = (before.streams channel).ring) :
    recordPublished before after published channel = published channel := by
  rw [recordPublished, if_pos (congrArg BroadcastRing.count same)]

theorem recordPublished_push {before after : App} (published : Nat → List Frame) {channel : Nat}
    {frame : Frame}
    (pushed : (after.streams channel).ring = (before.streams channel).ring.push frame) :
    recordPublished before after published channel = published channel ++ [frame] := by
  have newer : (after.streams channel).ring.count ≠ (before.streams channel).ring.count := by
    rw [pushed, BroadcastRing.push_count]
    omega
  rw [recordPublished, if_neg newer, pushed]
  simp [BroadcastRing.push, BroadcastRing.item]

theorem recordPublished_ringsHold {before after : App} {published : Nat → List Frame}
    (rings : RingsHold before published) (step : RingStep before after) :
    RingsHold after (recordPublished before after published) := by
  rcases step with kept | ⟨pushedTo, frame, number, codec, pushed, others⟩
  · have logs : recordPublished before after published = published :=
      funext fun channel => recordPublished_same published (kept channel)
    rw [logs]
    exact ⟨fun channel => kept channel ▸ rings.holds channel, rings.numbered, rings.carried⟩
  · have log := recordPublished_push published pushed
    have logs : ∀ channel, channel ≠ pushedTo →
        recordPublished before after published channel = published channel :=
      fun channel other => recordPublished_same published (others channel other)
    refine ⟨fun channel => ?_, fun channel position found member => ?_,
      fun channel position found video member => ?_⟩
    · by_cases here : channel = pushedTo
      · subst here
        rw [log, pushed]
        exact (rings.holds channel).push frame
      · rw [logs channel here, others channel here]
        exact rings.holds channel
    · by_cases here : channel = pushedTo
      · subst here
        rw [log] at member
        rcases BroadcastRing.getElem?_concat_cases member with old | ⟨rfl, rfl⟩
        · exact rings.numbered channel position found old
        · rw [number, (rings.holds channel).counted]
      · rw [logs channel here] at member
        exact rings.numbered channel position found member
    · by_cases here : channel = pushedTo
      · subst here
        rw [log] at member
        rcases BroadcastRing.getElem?_concat_cases member with old | ⟨rfl, rfl⟩
        · exact rings.carried channel position found video old
        · exact codec video
      · rw [logs channel here] at member
        exact rings.carried channel position found video member

/-- A log only grows. -/
theorem recordPublished_extends {before after : App} (published : Nat → List Frame)
    (step : RingStep before after) (channel : Nat) :
    published channel <+: recordPublished before after published channel := by
  rcases step with kept | ⟨pushedTo, frame, -, -, pushed, others⟩
  · rw [recordPublished_same published (kept channel)]
  · by_cases here : channel = pushedTo
    · subst here
      rw [recordPublished_push published pushed]
      exact List.prefix_append _ _
    · rw [recordPublished_same published (others channel here)]

/-- A frame that was read is the log's frame at the new cursor. -/
theorem read_published {app : App} {published : Nat → List Frame} (rings : RingsHold app published)
    {allocated : Bool} {channel cursor moved : Nat} {frame : Frame}
    (read : app.read allocated channel cursor = .frame frame moved) :
    0 < moved ∧ (published channel)[moved - 1]? = some frame := by
  have holds := rings.holds channel
  have positive := holds.positive
  unfold App.read at read
  split at read
  · cases read
  simp only at read
  split at read
  · cases read
  rename_i fresh
  split at read
  · injection read with same wanted
    have window : (app.streams channel).ring.oldest ≤ moved ∧
        moved ≤ (app.streams channel).ring.count ∧ 0 < moved := by
      rw [← wanted]
      unfold BroadcastRing.oldest
      split <;> split <;> split <;> omega
    refine ⟨window.2.2, ?_⟩
    rw [← same, wanted]
    exact holds.item window.1 window.2.1
  · cases read

/-! ### What one step does to the trace -/

/-- No PLAY that started playback came after the last frame. -/
def NoStartSince (trace : List Delivery) : Prop :=
  ∀ between earlier, trace = between ++ .play true :: earlier → framesOf between ≠ []

/-- The trace is decodable, and without a wait for a keyframe the frame at the
cursor is the last one sent. -/
structure ClientInvariant (published : Nat → List Frame) (client : Client) : Prop where
  opens : OpensWithKeyframe (fun starting => starting) client.trace
  follows : FollowsPredecessor published client.trace
  resumes : client.needKeyframe = false →
    ∃ channel last, client.channel = some channel ∧
      (framesOf client.trace).head? = some (channel.val, last) ∧ 0 < client.cursor .video ∧
      (published channel)[client.cursor .video - 1]? = some last ∧ NoStartSince client.trace

theorem initial_clientInvariant (published : Nat → List Frame) :
    ClientInvariant published Client.initial where
  opens later channel frame between starting earlier shape := by
    simp [Client.initial] at shape
  follows later channel frame earlier shape := by
    simp [Client.initial] at shape
  resumes known := by simp [Client.initial] at known

theorem clientInvariant_grows {published grown : Nat → List Frame} {client : Client}
    (invariant : ClientInvariant published client)
    (grows : ∀ channel, published channel <+: grown channel) : ClientInvariant grown client where
  opens := invariant.opens
  follows later channel frame earlier shape delta := by
    obtain ⟨position, predecessor, sent, before, after⟩ :=
      invariant.follows later channel frame earlier shape delta
    exact ⟨position, predecessor, sent, BroadcastRing.getElem?_of_prefix (grows channel) before,
      BroadcastRing.getElem?_of_prefix (grows channel) after⟩
  resumes known := by
    obtain ⟨channel, last, fixed, sent, positive, found, quiet⟩ := invariant.resumes known
    exact ⟨channel, last, fixed, sent, positive,
      BroadcastRing.getElem?_of_prefix (grows channel) found, quiet⟩

/-- An entry at the head of the trace, or a split of the older trace. -/
theorem split_cons {head entry : Delivery} {trace later earlier : List Delivery}
    (shape : head :: trace = later ++ entry :: earlier) :
    (head = entry ∧ trace = earlier ∧ later = []) ∨
      ∃ rest, later = head :: rest ∧ trace = rest ++ entry :: earlier := by
  cases later with
  | nil =>
      rw [List.nil_append, List.cons.injEq] at shape
      exact .inl ⟨shape.1, shape.2, rfl⟩
  | cons first rest =>
      rw [List.cons_append, List.cons.injEq] at shape
      exact .inr ⟨rest, by rw [shape.1], shape.2⟩

theorem opens_play {counts : Bool → Bool} {trace : List Delivery} (starting : Bool)
    (opens : OpensWithKeyframe counts trace) :
    OpensWithKeyframe counts (.play starting :: trace) := by
  intro later channel frame between start earlier shape
  rcases split_cons shape with ⟨differs, -⟩ | ⟨rest, -, older⟩
  · cases differs
  · exact opens rest channel frame between start earlier older

theorem follows_play {published : Nat → List Frame} {trace : List Delivery} (starting : Bool)
    (follows : FollowsPredecessor published trace) :
    FollowsPredecessor published (.play starting :: trace) := by
  intro later channel frame earlier shape
  rcases split_cons shape with ⟨differs, -⟩ | ⟨rest, -, older⟩
  · cases differs
  · exact follows rest channel frame earlier older

theorem opens_frame {trace : List Delivery} {channel : Nat} {frame : Frame}
    (opens : OpensWithKeyframe (fun starting => starting) trace)
    (allowed : frame.keyframe = true ∨ NoStartSince trace) :
    OpensWithKeyframe (fun starting => starting) (.frame channel frame :: trace) := by
  intro later sentOn sent between start earlier shape counts quiet
  rcases split_cons shape with ⟨same, older, -⟩ | ⟨rest, -, older⟩
  · injection same with _ same
    subst same
    rcases allowed with key | noStart
    · exact key
    · cases counts
      exact absurd quiet (noStart between earlier older)
  · exact opens rest sentOn sent between start earlier older counts quiet

theorem follows_frame {published : Nat → List Frame} {trace : List Delivery} {channel : Nat}
    {frame : Frame} (follows : FollowsPredecessor published trace)
    (allowed : frame.keyframe = true ∨
      ∃ position predecessor, (framesOf trace).head? = some (channel, predecessor) ∧
        (published channel)[position]? = some predecessor ∧
        (published channel)[position + 1]? = some frame) :
    FollowsPredecessor published (.frame channel frame :: trace) := by
  intro later sentOn sent earlier shape delta
  rcases split_cons shape with ⟨same, older, -⟩ | ⟨rest, -, older⟩
  · injection same with sameChannel same
    subst same sameChannel older
    rcases allowed with key | found
    · rw [key] at delta
      cases delta
    · exact found
  · exact follows rest sentOn sent earlier older delta

theorem noStartSince_frame (trace : List Delivery) (channel : Nat) (frame : Frame) :
    NoStartSince (.frame channel frame :: trace) := by
  intro between earlier shape
  rcases split_cons shape with ⟨differs, -⟩ | ⟨rest, rfl, -⟩
  · cases differs
  · exact List.cons_ne_nil _ _

theorem noStartSince_play {trace : List Delivery} (quiet : NoStartSince trace) :
    NoStartSince (.play false :: trace) := by
  intro between earlier shape
  rcases split_cons shape with ⟨differs, -⟩ | ⟨rest, rfl, older⟩
  · cases differs
  · exact quiet rest earlier older

/-! ### Steps keep the invariant -/

theorem handle_keeps {published : Nat → List Frame} {client : Client}
    (invariant : ClientInvariant published client) (request : Request) :
    ClientInvariant published (client.handle request).1 := by
  cases request with
  | setup channel session track transport =>
      simp only [Client.handle]
      split
      · exact invariant
      split
      · exact invariant
      rename_i accepted
      split
      · exact invariant
      refine ⟨invariant.opens, invariant.follows, fun known => ?_⟩
      obtain ⟨fixed, last, known, rest⟩ := invariant.resumes known
      have same : client.channel = some channel := by
        simp only [known, Option.isSome_some, true_and, not_or, not_not] at accepted
        rw [known, accepted.2]
      exact ⟨fixed, last, same ▸ known, rest⟩
  | play channel session range =>
      simp only [Client.handle]
      split
      · exact invariant
      split
      · exact invariant
      split
      · exact invariant
      refine ⟨opens_play _ invariant.opens, follows_play _ invariant.follows, fun known => ?_⟩
      simp only [Bool.or_eq_false_iff] at known
      obtain ⟨fixed, last, known', sent, positive, found, quiet⟩ := invariant.resumes known.1
      refine ⟨fixed, last, known', sent, positive, found, ?_⟩
      rw [known.2]
      exact noStartSince_play quiet
  | pause channel session =>
      simp only [Client.handle]
      split
      · exact invariant
      · exact ⟨invariant.opens, invariant.follows, invariant.resumes⟩
  | teardown channel session =>
      simp only [Client.handle]
      split
      · exact invariant
      · exact ⟨invariant.opens, invariant.follows, invariant.resumes⟩

/-- A video frame read at the new cursor: sent when it is a keyframe or directly
follows the frame at the old cursor. -/
theorem deliver_video_keeps {published : Nat → List Frame} {client : Client}
    (invariant : ClientInvariant published client) {channel : Fin videoStreams} {moved : Nat}
    {frame : Frame} (outcome : Outcome) (watching : client.channel = some channel)
    (positive : 0 < moved) (number : frame.sequence = moved)
    (found : (published channel)[moved - 1]? = some frame) :
    ClientInvariant published
      (({ client with cursor := Function.update client.cursor .video moved }).deliver .video channel
        (client.cursor .video) frame outcome) := by
  unfold Client.deliver
  simp only [decide_true, Bool.true_and, if_true]
  split
  · exact ⟨invariant.opens, invariant.follows, fun known => by simp at known⟩
  rename_i sent
  have allowed : frame.keyframe = true ∨ (client.needKeyframe = false ∧
      (client.cursor .video ≠ 0 → moved = client.cursor .video + 1)) := by
    cases key : frame.keyframe with
    | true => exact .inl rfl
    | false =>
        simp only [missed, key, Bool.not_false, Bool.and_true, Bool.or_eq_true, not_or,
          Bool.not_eq_true, number, Bool.and_eq_false_iff, decide_eq_false_iff_not,
          ne_eq, not_not] at sent
        exact .inr ⟨sent.1, fun started => sent.2.resolve_left started⟩
  refine ⟨opens_frame invariant.opens ?_, follows_frame invariant.follows ?_, fun _ => ?_⟩
  · rcases allowed with key | ⟨steady, -⟩
    · exact .inl key
    · obtain ⟨_, _, _, _, _, _, quiet⟩ := invariant.resumes steady
      exact .inr quiet
  · rcases allowed with key | ⟨steady, direct⟩
    · exact .inl key
    · obtain ⟨fixed, last, known, before, started, there, -⟩ := invariant.resumes steady
      obtain rfl : fixed = channel := Option.some.inj (known.symm.trans watching)
      have next : moved - 1 = client.cursor .video - 1 + 1 := by
        rw [direct (Nat.ne_of_gt started)]
        omega
      exact .inr ⟨client.cursor .video - 1, last, before, there, next ▸ found⟩
  · exact ⟨channel, frame, watching, rfl, by simpa using positive, by simpa using found,
      noStartSince_frame _ _ _⟩

theorem streamTrack_keeps {app : App} {published : Nat → List Frame} {client : Client}
    (rings : RingsHold app published) (invariant : ClientInvariant published client)
    (track : Track) (outcome : Outcome) :
    ClientInvariant published (client.streamTrack app track outcome) := by
  have kept : ∀ connected, ClientInvariant published { client with connected } := fun _ =>
    ⟨invariant.opens, invariant.follows, invariant.resumes⟩
  unfold Client.streamTrack
  split
  · exact invariant
  cases track with
  | backchannel => simp_all
  | audio =>
      simp only [if_true]
      split
      · exact kept false
      · exact invariant
      · have moved : ∀ cursor, ClientInvariant published
            { client with cursor := Function.update client.cursor .audio cursor } := fun _ =>
          ⟨invariant.opens, invariant.follows, invariant.resumes⟩
        split
        · exact moved _
        · exact ⟨invariant.opens, invariant.follows, invariant.resumes⟩
  | video =>
      simp only [reduceCtorEq, if_false]
      split
      · exact invariant
      rename_i channel watching
      obtain ⟨fixed, known, rfl⟩ := Option.map_eq_some_iff.mp watching
      split
      · exact kept false
      · exact invariant
      · rename_i frame moved read
        obtain ⟨positive, found⟩ := read_published rings read
        have number : frame.sequence = moved := by
          rw [rings.numbered _ _ _ found]
          omega
        rw [if_neg]
        · exact deliver_video_keeps invariant outcome known positive number found
        · rw [rings.carried _ _ _ fixed.isLt found]
          exact not_not_intro rfl

/-- The invariant of the system: its rings hold their logs, and its client what
they allow. -/
structure SystemInvariant (system : System) : Prop where
  rings : RingsHold system.app system.published
  client : ClientInvariant system.published system.client

theorem withApp_keeps {system : System} {app : App} (invariant : SystemInvariant system)
    (step : RingStep system.app app) : SystemInvariant (system.withApp app) where
  rings := recordPublished_ringsHold invariant.rings step
  client := clientInvariant_grows invariant.client (recordPublished_extends system.published step)

theorem step_keeps (system : System) (event : Event) (invariant : SystemInvariant system) :
    SystemInvariant (system.step event) := by
  cases event with
  | hold held => exact ⟨⟨invariant.rings.holds, invariant.rings.numbered, invariant.rings.carried⟩,
      invariant.client⟩
  | video source mainOnly data ptsUs keyframe => exact ⟨invariant.rings, invariant.client⟩
  | advance index allocated =>
      simp only [System.step]
      split
      · exact invariant
      · rename_i call _
        have moved := withApp_keeps invariant (advance_ringStep call system.app allocated)
        exact ⟨moved.rings, moved.client⟩
  | audio data ptsUs allocated =>
      simp only [System.step]
      split
      · exact invariant
      · rename_i published
        have notVideo : ¬ audioStream < videoStreams := by decide
        exact withApp_keeps invariant (publish_ringStep (absurd · notVideo) published)
  | request request answered =>
      simp only [System.step]
      split
      · have handled := handle_keeps invariant.client request
        exact ⟨invariant.rings, handled.opens, handled.follows, handled.resumes⟩
      · exact invariant
  | stream track outcome =>
      simp only [System.step]
      split
      · exact ⟨invariant.rings, streamTrack_keeps invariant.rings invariant.client track outcome⟩
      · exact invariant

theorem run_keeps (events : List Event) : SystemInvariant (System.run events) :=
  foldl_preserves step_keeps events ⟨initial_ringsHold, initial_clientInvariant _⟩

/-- In every run, the first frame after each PLAY that starts playback is a
keyframe, and every other frame sent directly follows the frame sent before it. -/
theorem frames_decodable (events : List Event) :
    OpensWithKeyframe (fun starting => starting) (System.run events).client.trace ∧
      FollowsPredecessor (System.run events).published (System.run events).client.trace :=
  ⟨(run_keeps events).client.opens, (run_keeps events).client.follows⟩

/-! ### A PLAY while playing -/

/-- One whole publishing call of the main stream. -/
def publishMain (index : Nat) (header : UInt8) : List Event :=
  [.video 0 false [0, 0, 1, header] 0 false, .advance index true, .advance index true,
    .advance index true]

/-- A keyframe is sent, PLAY is repeated, and a delta frame is sent. -/
def playTwice : List Event :=
  .request (.setup 0 true .video true) true :: .request (.play 0 true "") true ::
    (publishMain 0 0x65 ++ .stream .video ⟨true, true, true⟩ ::
      .request (.play 0 true "") true ::
        (publishMain 1 0x41 ++ [.stream .video ⟨true, true, true⟩]))

theorem play_while_playing_opens_with_delta :
    ¬ OpensWithKeyframe (fun _ => true) (System.run playTwice).client.trace := by
  intro opens
  have trace : (System.run playTwice).client.trace =
      [.frame 0 ⟨[0, 0, 1, 0x41], 0, 2, false, .h264⟩, .play false,
        .frame 0 ⟨[0, 0, 1, 0x65], 0, 1, true, .h264⟩, .play true] := by
    decide
  have key := opens [] 0 ⟨[0, 0, 1, 0x41], 0, 2, false, .h264⟩ [] false _ trace rfl rfl
  cases key

end JooanW3U.Media.RtspPlayback
