import JooanW3U.Library.AnnexB
import JooanW3U.Library.BroadcastRing

/-!
Owns the frame rings of `media.c`: `stream_parameters`, `jipc_publish`,
`jipc_read` without a timeout, and `jipc_publish_video` cut at its atomic
operations, so that calls of several threads interleave.

Numbers of frames are unbounded here. Audio levels and the condition variable
are left out.
-/

namespace JooanW3U.Media

open JooanW3U.Library

abbrev Bytes := List UInt8

inductive Codec
  | h264
  | pcma
  | jpeg
deriving Repr, DecidableEq

structure Frame where
  data : Bytes
  ptsUs : Nat
  sequence : Nat
  keyframe : Bool
  codec : Codec
deriving Repr, DecidableEq

/-- A zeroed slot. -/
def Frame.blank : Frame := ⟨[], 0, 0, false, .h264⟩

abbrev videoStreams : Nat := 4
def audioStream : Nat := 4
def streamCount : Nat := 5
def maxFrame : Nat := 1024 * 1024

structure Stream where
  ring : BroadcastRing Frame
  sps : Bytes
  pps : Bytes

/-! ### Parameter sets -/

/-- The NAL units `stream_parameters` walks over, without the zeros at their ends. -/
def nalUnits (data : Bytes) : List Bytes :=
  match AnnexB.findPrefix data with
  | none => []
  | some (position, size) =>
      -- An empty slice has type 0 and changes nothing, like a start code at the end.
      (AnnexB.slices data.length (data.drop (position + size))).map AnnexB.stripZeros

def nalType (nal : Bytes) : Nat := (nal.headD 0).toNat % 32

/-- `stream_parameters` on no stream: the access unit has an IDR. -/
def hasIdr (data : Bytes) : Bool := (nalUnits data).any fun nal => nalType nal = 5

/-- What `stream_parameters` keeps of one NAL unit. -/
def Stream.keepParameter (stream : Stream) (nal : Bytes) : Stream :=
  if nalType nal = 7 ∧ nal.length ≤ 512 then { stream with sps := nal }
  else if nalType nal = 8 ∧ nal.length ≤ 512 then { stream with pps := nal }
  else stream

/-- `stream_parameters` on a stream. -/
def Stream.recordParameters (stream : Stream) (data : Bytes) : Stream :=
  (nalUnits data).foldl Stream.keepParameter stream

@[simp] theorem Stream.keepParameter_ring (stream : Stream) (nal : Bytes) :
    (stream.keepParameter nal).ring = stream.ring := by
  unfold Stream.keepParameter
  split
  · rfl
  · split <;> rfl

@[simp] theorem Stream.recordParameters_ring (stream : Stream) (data : Bytes) :
    (stream.recordParameters data).ring = stream.ring := by
  unfold Stream.recordParameters
  induction nalUnits data generalizing stream with
  | nil => rfl
  | cons nal rest inductionHypothesis =>
      rw [List.foldl_cons, inductionHypothesis, Stream.keepParameter_ring]

/-! ### Publishing and reading one stream -/

/-- The parts of `jipc_app` the rings and their publishers use. -/
structure App where
  streams : Nat → Stream
  produced : Nat → Nat
  privacyHold : Bool
  privacyWaitKey : Nat → Bool

/-- The state `jipc_streams_init` leaves. -/
def App.initial : App where
  streams channel :=
    { ring := ⟨if channel = audioStream then 32 else 4, fun _ => Frame.blank, 0⟩
      sps := []
      pps := [] }
  produced _ := 0
  privacyHold := false
  privacyWaitKey _ := false

/-- The frame `jipc_publish` puts into the ring next. -/
def App.nextFrame (app : App) (channel : Nat) (data : Bytes) (ptsUs : Nat) (keyframe : Bool)
    (codec : Codec) : Frame where
  data := data
  ptsUs := ptsUs
  sequence := (app.streams channel).ring.count + 1
  keyframe := keyframe || codec = .h264 && hasIdr data
  codec := codec

/-- `jipc_publish`; `none` is a refusal or a failed allocation. -/
def App.publish (app : App) (allocated : Bool) (channel : Nat) (data : Bytes) (ptsUs : Nat)
    (keyframe : Bool) (codec : Codec) : Option App :=
  if channel ≥ streamCount ∨ data = [] ∨ data.length > maxFrame ∨ allocated = false ∨
      (app.streams channel).ring.capacity = 0 then none
  else
    let stream := app.streams channel
    let stream := if codec = .h264 then stream.recordParameters data else stream
    let frame := app.nextFrame channel data ptsUs keyframe codec
    some { app with
      streams := Function.update app.streams channel { stream with ring := stream.ring.push frame }
      produced := Function.update app.produced channel frame.sequence }

inductive ReadResult
  | nothing
  | failed
  | frame (frame : Frame) (cursor : Nat)

/-- `jipc_read` with a zero timeout. -/
def App.read (app : App) (allocated : Bool) (channel cursor : Nat) : ReadResult :=
  if channel ≥ streamCount then .failed
  else
    let ring := (app.streams channel).ring
    if ring.count ≤ cursor then .nothing
    else
      let wanted := if cursor ≠ 0 then cursor + 1 else ring.count
      let wanted := if wanted < ring.oldest then ring.oldest else wanted
      if allocated then .frame (ring.item wanted) wanted else .failed

/-! ### Publishing video -/

/-- Where a call of `jipc_publish_video` stands between two atomic operations. -/
inductive VideoStage
  | entered
  | held
  | recording (channels : List Nat)
  | passed
  | resuming
  | pushing (channels : List Nat)
  | returned (accepted : Bool)
deriving Repr, DecidableEq

structure VideoCall where
  source : Nat
  mainOnly : Bool
  data : Bytes
  ptsUs : Nat
  keyframe : Bool
  stage : VideoStage
deriving Repr, DecidableEq

/-- The streams a call feeds. -/
def VideoCall.channels (call : VideoCall) : List Nat :=
  if call.mainOnly then [call.source, call.source + 1] else [call.source]

def VideoCall.enter (source : Nat) (mainOnly : Bool) (data : Bytes) (ptsUs : Nat)
    (keyframe : Bool) : VideoCall :=
  ⟨source, mainOnly, data, ptsUs, keyframe,
    if source ≥ videoStreams ∨ (mainOnly = true ∧ source % 2 = 1) then .returned false
    else .entered⟩

/-- The frame a call is about to put into `channel`. -/
def VideoCall.frame (call : VideoCall) (app : App) (channel : Nat) : Frame :=
  app.nextFrame channel call.data call.ptsUs call.keyframe .h264

/-- The next atomic operation of `jipc_publish_video`. -/
def VideoCall.advance (call : VideoCall) (app : App) (allocated : Bool) : App × VideoCall :=
  match call.stage with
  | .entered =>
      (app, { call with stage := if app.privacyHold then .held else .passed })
  | .held =>
      ({ app with privacyWaitKey := Function.update app.privacyWaitKey call.source true },
        { call with stage := .recording call.channels })
  | .recording [] => (app, { call with stage := .returned true })
  | .recording (channel :: rest) =>
      let stream := app.streams channel
      let stream := if stream.ring.capacity = 0 then stream else stream.recordParameters call.data
      ({ app with streams := Function.update app.streams channel stream },
        { call with stage := .recording rest })
  | .passed =>
      if app.privacyWaitKey call.source then
        (app, { call with stage := if hasIdr call.data then .resuming else .returned true })
      else (app, { call with stage := .pushing call.channels })
  | .resuming =>
      ({ app with privacyWaitKey := Function.update app.privacyWaitKey call.source false },
        { call with stage := .pushing call.channels })
  | .pushing [] => (app, { call with stage := .returned true })
  | .pushing (channel :: rest) =>
      match app.publish allocated channel call.data call.ptsUs call.keyframe .h264 with
      | none => (app, { call with stage := .returned false })
      | some app => (app, { call with stage := .pushing rest })
  | .returned _ => (app, call)

end JooanW3U.Media
