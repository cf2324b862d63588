import JooanW3U.Library.Attempt
import JooanW3U.Library.Ledger

/-!
Owns the SDK objects of the camera's video backend as media/src/imp_backend.c acquires
and releases them: the chain of SDK calls of `jipc_imp_open` with `video_graph_open`,
the overlay's region, the stills, `jipc_imp_close`, and the flags that record what was
acquired. What each SDK call answers is the caller's to choose.

Does not own what the frames hold, nor the microphone and the speaker, whose threads open
and close their own channels.
-/

namespace JooanW3U.Media

open JooanW3U.Library
open JooanW3U.Library.Ledger

namespace ImpBackend

/-! ## Profiles -/

/-- The configuration and the SDK, as far as they decide which calls are made. The
functions of load_sdk's OPTIONAL list are present or absent. -/
structure Profile where
  sensors : Nat
  main_only : Bool
  /-- The version is "libimp.so T23 openimp". -/
  openimp_fullframe : Bool
  flip : Nat → Nat
  /-- All ten functions of the OSD stage. -/
  osd : Bool
  osd_pool : Bool
  isp_pool : Bool
  vpubs_pool : Bool
  vb_pool : Bool
  stream_out : Bool
  set_fps : Bool
  set_fps_sec : Bool
  hflip : Nat → Bool
  vflip : Nat → Bool
  /-- `jipc_imp_open` refuses every other number before its first call. -/
  one_or_two : sensors = 1 ∨ sensors = 2

namespace Profile

variable (p : Profile)

/-- Full-frame OpenIMP runs both sensor slots, even when one is published. -/
def sensor_count (sensors : Nat) (openimp_fullframe : Bool) : Nat :=
  if openimp_fullframe then 2 else sensors

def fs_channels : List Nat := [0, 1, 3, 4]
def enc_channels : List Nat := [0, 4, 1, 5]
def enc_groups : List Nat := [0, 2, 1, 3]

def fsChannel (stream : Nat) : Nat := fs_channels.getD stream 0
def encChannel (stream : Nat) : Nat := enc_channels.getD stream 0
def encGroup (stream : Nat) : Nat := enc_groups.getD stream 0

/-- OEM direct mode uses line rings on FS0/3, the ordinary outputs carry NV12. -/
def source_channel (main_only openimp_fullframe : Bool) (stream : Nat) : Nat :=
  if main_only then
    if stream < 2 then 1 else 5
  else if openimp_fullframe then [1, 2, 4, 5].getD stream 0 else fsChannel stream

def source (stream : Nat) : Nat :=
  source_channel p.main_only p.openimp_fullframe stream

def sensorCount : Nat :=
  sensor_count p.sensors p.openimp_fullframe

/-- `for (i = 0; i < sensors * 2; i += main_only ? 2 : 1)`. -/
def streams (sensors : Nat) (main_only : Bool) : List Nat :=
  (List.range (sensors * 2)).filter fun i => !main_only || i % 2 == 0

end Profile

open Profile

/-! ## SDK objects -/

/-- `jipc_imp_cell`: device 0 is a frame source, 4 an OSD group, 1 an encoder group. -/
structure Cell where
  device : Nat
  group : Nat
  output : Nat
deriving Repr, DecidableEq

/-- What a successful SDK call acquired. -/
inductive Resource
  | isp
  | sensor (index : Nat)
  | sensors
  | system
  | tuning
  | frameSource (channel : Nat)
  | frames (channel : Nat)
  | group (group : Nat)
  | encoder (channel : Nat)
  | registration (group channel : Nat)
  | binding (source destination : Cell)
  | reception (channel : Nat)
  | picture (channel : Nat)
  | osdGroup (lens : Nat)
  | osdRunning (lens : Nat)
  | region (lens handle : Nat)
  | regionIn (lens handle : Nat)
  | shown (lens handle : Nat)
deriving Repr, DecidableEq

namespace Cell

/-- The object a cell stands for. -/
def owner (cell : Cell) : Resource :=
  if cell.device = 0 then .frameSource cell.group
  else if cell.device = 4 then .osdGroup cell.group
  else .group cell.group

end Cell

/-- The first depends on the second, so the second has to outlive it. -/
def needs : Resource → Resource → Bool
  | .sensor _, .isp => true
  | .sensors, .sensor _ => true
  | .system, .sensors => true
  | .tuning, .isp => true
  | .frameSource _, .system => true
  | .frames channel, .frameSource other => channel == other
  | .group _, .system => true
  | .encoder _, .system => true
  | .registration _ channel, .encoder other => channel == other
  | .registration group _, .group other => group == other
  | .binding source destination, other =>
      source.owner == other || destination.owner == other
  | .reception channel, .encoder other => channel == other
  | .reception channel, .registration _ other => channel == other
  | .picture channel, .reception other => channel == other
  | .osdGroup _, .system => true
  | .osdRunning lens, .osdGroup other => lens == other
  | .region _ _, .system => true
  | .regionIn lens handle, .region lens' handle' => lens == lens' && handle == handle'
  | .regionIn lens _, .osdGroup other => lens == other
  | .shown lens handle, .regionIn lens' handle' => lens == lens' && handle == handle'
  | _, _ => false

/-! ## Flags -/

/-- The flags of `imp_state`. `osd_bound lens level` says that osd_bound is at least the
level, `osd_rgn lens` that osd_rgn is not zero. -/
inductive Flag
  | isp
  | added (index : Nat)
  | enabled
  | system
  | tuning
  | workspace_created
  | workspace_enabled
  | fs_created (stream : Nat)
  | fs_enabled (stream : Nat)
  | groups (group : Nat)
  | enc_created (stream : Nat)
  | registered (stream : Nat)
  | bound (stream : Nat)
  | receiving (stream : Nat)
  | osd_group (lens : Nat)
  | osd_bound (lens level : Nat)
  | osd_started (lens : Nat)
  | osd_rgn (lens : Nat)
  | osd_shown (lens : Nat)
deriving Repr, DecidableEq

structure ImpState where
  flags : Flag → Bool
  /-- `osd_rgn` less one, where the flag is set. -/
  handle : Nat → Nat
  osd_pixels : Bool
  /-- The lens of a still that waits for its picture. -/
  still : Option Nat
  /-- The successful acquisitions and the calls of release functions so far. -/
  log : List (Act Resource)

namespace ImpState

/-- After `calloc`. -/
def zero : ImpState :=
  { flags := fun _ => false, handle := fun _ => 0, osd_pixels := false, still := none, log := [] }

def did (s : ImpState) (acts : List (Act Resource)) : ImpState :=
  { s with log := s.log ++ acts }

def mark (s : ImpState) (flag : Flag) (value : Bool) : ImpState :=
  { s with flags := Function.update s.flags flag value }

def acquires (s : ImpState) (flag : Flag) (resource : Resource) : ImpState :=
  (s.did [.acquired resource]).mark flag true

end ImpState

open ImpState

def sourceCell (channel : Nat) : Cell := ⟨0, channel, 0⟩
def encoderCell (stream : Nat) : Cell := ⟨1, encGroup stream, 0⟩
def osdCell (lens : Nat) : Cell := ⟨4, lens, 0⟩

/-! ## jipc_imp_open -/

/-- One `STEP`: a call that records nothing, a call whose success sets a flag, or a
`failure` without a call. -/
inductive Step
  | check (call : String)
  | acquire (flag : Flag) (resource : Resource) (call : String)
  | refuse (message : String)
deriving Repr, DecidableEq

/-- `if (s->field) STEP(...)`. -/
def optional (present : Bool) (call : String) : List Step :=
  if present then [.check call] else []

/-- The calls of `video_graph_open`. -/
def video_graph_open (sensors : Nat) (main_only openimp_fullframe osd : Bool) : List Step :=
  let source := source_channel main_only openimp_fullframe
  let streams := streams sensors main_only
  (if openimp_fullframe then
    [.acquire .workspace_created (.frameSource 0) "IMP_FrameSource_CreateWorkspace",
      .check "IMP_FrameSource_SetWorkspace"]
   else []) ++
  streams.flatMap (fun i =>
    [.acquire (.fs_created i) (.frameSource (source i)) "IMP_FrameSource_CreateChn",
      .check "IMP_FrameSource_SetChnAttr"]) ++
  (List.range (if main_only then 2 else 4)).map (fun i =>
    .acquire (.groups i) (.group i) "IMP_Encoder_CreateGroup") ++
  streams.flatMap (fun i =>
    [.acquire (.enc_created i) (.encoder (encChannel i)) "IMP_Encoder_CreateChn",
      .acquire (.registered i) (.registration (encGroup i) (encChannel i))
        "IMP_Encoder_RegisterChn"] ++
    if main_only && osd then
      [.acquire (.osd_group (i / 2)) (.osdGroup (i / 2)) "IMP_OSD_CreateGroup",
        .acquire (.osd_bound (i / 2) 1) (.binding (sourceCell (source i)) (osdCell (i / 2)))
          "IMP_System_Bind",
        .acquire (.osd_bound (i / 2) 2) (.binding (osdCell (i / 2)) (encoderCell i))
          "IMP_System_Bind",
        .acquire (.osd_started (i / 2)) (.osdRunning (i / 2)) "IMP_OSD_Start"]
    else
      [.acquire (.bound i) (.binding (sourceCell (source i)) (encoderCell i))
        "IMP_System_Bind"]) ++
  (if openimp_fullframe then
    [.acquire .workspace_enabled (.frames 0) "IMP_FrameSource_EnableWorkspace"]
   else []) ++
  streams.flatMap (fun i =>
    optional (!openimp_fullframe && i % 2 == 0 && sensors == 2)
      "IMP_FrameSource_SetDirectModeAttr" ++
    [.acquire (.fs_enabled i) (.frames (source i)) "IMP_FrameSource_EnableChn"]) ++
  streams.flatMap (fun i =>
    [.check "IMP_Encoder_SetSuperFrameCfg",
      .acquire (.receiving i) (.reception (encChannel i)) "IMP_Encoder_StartRecvPic",
      .check "IMP_Encoder_GetFd"])

/-- A single sensor has to be selected. -/
def streamOut (p : Profile) : List Step :=
  if p.sensorCount == 1 then
    if p.stream_out then [.check "IMP_ISP_SetStreamOut"]
    else [.refuse "single sensor mode requires IMP_ISP_SetStreamOut"]
  else []

def flipControls (p : Profile) (sensor : Nat) : List Step :=
  (if p.flip sensor != 0 && (!p.hflip sensor || !p.vflip sensor) then
    [.refuse "SDK lacks configured sensor flip controls"]
   else []) ++
  optional (p.hflip sensor) "IMP_ISP_Tuning_SetISPHflip" ++
  optional (p.vflip sensor) "IMP_ISP_Tuning_SetISPVflip"

/-- The calls of `jipc_imp_open` up to the readiness loop. What fails without an SDK call
(the buffer, the lock, the library, a missing function) is a check as well. -/
def openSteps (p : Profile) : List Step :=
  [.check "cannot allocate encoder copy buffer", .check "cannot acquire media ownership lock",
    .check "cannot hash external libimp", .check "dlopen libimp", .check "load_sdk",
    .check "IMP_System_GetVersion", .check "validate_provider"] ++
  optional p.osd_pool "IMP_OSD_SetPoolSize" ++
  optional p.isp_pool "IMP_OSD_SetPoolSize_ISP" ++
  optional p.vpubs_pool "IMP_Set_Vpubs_Size" ++
  optional p.vb_pool "IMP_Set_Vbmpool1_Size" ++
  [.check "exclusive_owner", .acquire .isp .isp "IMP_ISP_Open"] ++
  (List.range p.sensorCount).map (fun i =>
    .acquire (.added i) (.sensor i) "IMP_ISP_AddSensor") ++
  [.acquire .enabled .sensors "IMP_ISP_EnableSensor"] ++
  streamOut p ++
  [.acquire .system .system "IMP_System_Init", .acquire .tuning .tuning "IMP_ISP_EnableTuning"] ++
  optional p.set_fps "IMP_ISP_Tuning_SetSensorFPS" ++
  optional (p.sensorCount == 2 && p.set_fps_sec) "IMP_ISP_Tuning_SetSensorFPS_Sec" ++
  (List.range p.sensors).flatMap (flipControls p) ++
  video_graph_open p.sensors p.main_only p.openimp_fullframe p.osd

/-- One step, with the answer to its call. -/
def take (answer : Bool) : Step → Attempt ImpState
  | .check _, s => (answer, s)
  | .acquire flag resource _, s => if answer then (true, s.acquires flag resource) else (false, s)
  | .refuse _, s => (false, s)

/-- The steps in order, up to the first that fails. -/
def perform : List Step → (Nat → Bool) → Attempt ImpState
  | [], _ => fun s => (true, s)
  | step :: steps, answers =>
      (take (answers 0) step).andThen (perform steps fun i => answers (i + 1))

/-- `copy_stream`: the SDK gets its frame back on every path. -/
def copy_stream (channel : Nat) (got : Bool) : List (Act Resource) :=
  if got then [.acquired (.picture channel), .released (.picture channel)] else []

/-- The frames `jipc_imp_poll` copies, each a stream and whether the SDK gave one. -/
def jipc_imp_poll (copies : List (Nat × Bool)) (s : ImpState) : ImpState :=
  s.did (copies.flatMap fun copy => copy_stream (encChannel copy.1) copy.2)

/-- What the SDK answers while `jipc_imp_open` runs: to each step, and in the readiness
loop. -/
structure Opening where
  answers : Nat → Bool
  copies : List (Nat × Bool)
  ready : Bool

/-- `jipc_imp_open` up to its `failed` label, and whether it got past it. -/
def jipc_imp_open (p : Profile) (opening : Opening) : Bool × ImpState :=
  (perform (openSteps p) opening.answers).andThen
    (fun s => (opening.ready, jipc_imp_poll opening.copies s)) .zero

/-! ## jipc_imp_overlay -/

/-- What is answered while `jipc_imp_overlay` runs. `handle` is what CreateRgn returns, if
it is not negative, `fits` that the text was drawn and fits the lens. -/
structure OverlayAnswers where
  allocates : Bool
  handle : Option Nat
  registers : Bool
  fits : Bool
  sets : Bool
  shows : Bool
  hides : Bool
deriving Repr, DecidableEq

section Overlay

variable (lens : Nat) (a : OverlayAnswers)

def hide : Attempt ImpState := fun s =>
  if s.flags (.osd_shown lens) then
    if a.hides then
      (true, (s.did [.released (.shown lens (s.handle lens))]).mark (.osd_shown lens) false)
    else (false, s)
  else (true, s)

def allocate : Attempt ImpState := fun s =>
  if s.osd_pixels then (true, s)
  else if a.allocates then (true, { s with osd_pixels := true })
  else (false, s)

/-- osd_rgn is set between the two calls. -/
def makeRegion : Attempt ImpState := fun s =>
  if s.flags (.osd_rgn lens) then (true, s)
  else
    match a.handle with
    | none => (false, s)
    | some handle =>
        let created := { s.acquires (.osd_rgn lens) (.region lens handle) with
          handle := Function.update s.handle lens handle }
        if a.registers then (true, created.did [.acquired (.regionIn lens handle)])
        else (false, created)

def place : Attempt ImpState := fun s => (a.fits && a.sets, s)

def reveal : Attempt ImpState := fun s =>
  if s.flags (.osd_shown lens) then (true, s)
  else if a.shows then (true, s.acquires (.osd_shown lens) (.shown lens (s.handle lens)))
  else (false, s)

end Overlay

/-- Without a text the region is hidden. -/
def jipc_imp_overlay (p : Profile) (sensor : Nat) (text : Bool) (a : OverlayAnswers) :
    Attempt ImpState := fun s =>
  if p.sensors ≤ sensor ∨ 1 < sensor ∨ s.flags (.osd_bound sensor 2) = false then (true, s)
  else if text = false then hide sensor a s
  else (allocate a).andThen
    ((makeRegion sensor a).andThen ((place a).andThen (reveal sensor a))) s

/-! ## jipc_imp_snapshot -/

structure StillAnswers where
  creates : Bool
  registers : Bool
  starts : Bool
  fd : Bool
deriving Repr, DecidableEq

/-- A still uses encoder 2 or 3, on its lens's substream group or, in main_only, on the
only group the lens has. -/
def stillEncoder (sensor : Nat) : Nat := 2 + sensor

def stillGroup (p : Profile) (sensor : Nat) : Nat :=
  if p.main_only then sensor else 2 + sensor

/-- What `done` releases, in its order. -/
def stillResources (p : Profile) (sensor : Nat) : List Resource :=
  [.reception (stillEncoder sensor), .registration (stillGroup p sensor) (stillEncoder sensor),
    .encoder (stillEncoder sensor)]

/-- What was acquired before the first refusal. -/
def stillTaken (p : Profile) (sensor : Nat) (a : StillAnswers) : List Resource :=
  if a.creates then
    if a.registers then
      if a.starts then stillResources p sensor else (stillResources p sensor).drop 1
    else (stillResources p sensor).drop 2
  else []

/-- `jipc_imp_snapshot` up to the wait, for which the control lock is let go. Stills are
taken one at a time. -/
def snapshotBegins (p : Profile) (channel : Nat) (a : StillAnswers) (s : ImpState) : ImpState :=
  if s.still.isSome ∨ p.sensors * 2 ≤ channel then s
  else
    let taken := stillTaken p (channel / 2) a
    let acquired := s.did (taken.reverse.map .acquired)
    if a.creates && a.registers && a.starts && a.fd then
      { acquired with still := some (channel / 2) }
    else acquired.did (taken.map .released)

/-- `jipc_imp_snapshot` from the end of the wait. -/
def snapshotEnds (p : Profile) (readable got : Bool) (s : ImpState) : ImpState :=
  match s.still with
  | none => s
  | some sensor =>
      { (s.did (copy_stream (stillEncoder sensor) (readable && got))).did
          ((stillResources p sensor).map .released) with still := none }

/-! ## jipc_imp_close -/

/-- The flags in the order `jipc_imp_close` tests them. -/
def closeOrder : List Flag :=
  [3, 2, 1, 0].map .receiving ++ [3, 2, 1, 0].map .fs_enabled ++ [.workspace_enabled] ++
  [1, 0].flatMap (fun lens => [.osd_shown lens, .osd_rgn lens, .osd_started lens,
    .osd_bound lens 2, .osd_bound lens 1, .osd_group lens]) ++
  [3, 2, 1, 0].flatMap (fun i => [.bound i, .registered i, .enc_created i]) ++
  [3, 2, 1, 0].map .groups ++ [3, 2, 1, 0].map .fs_created ++
  [.workspace_created, .system, .enabled] ++ [1, 0].map .added ++ [.tuning, .isp]

/-- The release calls behind a flag. -/
def release (source handle : Nat → Nat) : Flag → List Resource
  | .receiving i => [.reception (encChannel i)]
  | .fs_enabled i => [.frames (source i)]
  | .workspace_enabled => [.frames 0]
  | .osd_shown lens => [.shown lens (handle lens)]
  | .osd_rgn lens => [.regionIn lens (handle lens), .region lens (handle lens)]
  | .osd_started lens => [.osdRunning lens]
  | .osd_bound lens level =>
      if level = 2 then [.binding (osdCell lens) (encoderCell (lens * 2))]
      else [.binding (sourceCell (source (lens * 2))) (osdCell lens)]
  | .osd_group lens => [.osdGroup lens]
  | .bound i => [.binding (sourceCell (source i)) (encoderCell i)]
  | .registered i => [.registration (encGroup i) (encChannel i)]
  | .enc_created i => [.encoder (encChannel i)]
  | .groups i => [.group i]
  | .fs_created i => [.frameSource (source i)]
  | .workspace_created => [.frameSource 0]
  | .system => [.system]
  | .enabled => [.sensors]
  | .added i => [.sensor i]
  | .tuning => [.tuning]
  | .isp => [.isp]

/-- The region is hidden only where there is one. -/
def tested (s : ImpState) : Flag → Bool
  | .osd_shown lens => s.flags (.osd_rgn lens) && s.flags (.osd_shown lens)
  | flag => s.flags flag

/-- The whole log, with the calls of `jipc_imp_close` at its end. -/
def jipc_imp_close (p : Profile) (s : ImpState) : List (Act Resource) :=
  s.log ++ (recorded closeOrder (release p.source s.handle) (tested s)).map .released

/-! ## Runs -/

inductive Event
  | overlay (sensor : Nat) (text : Bool) (answers : OverlayAnswers)
  | snapshotBegins (channel : Nat) (answers : StillAnswers)
  | snapshotEnds (readable got : Bool)
  | polled (copies : List (Nat × Bool))

def step (p : Profile) (s : ImpState) : Event → ImpState
  | .overlay sensor text answers => (jipc_imp_overlay p sensor text answers s).2
  | .snapshotBegins channel answers => snapshotBegins p channel answers s
  | .snapshotEnds readable got => snapshotEnds p readable got s
  | .polled copies => jipc_imp_poll copies s

/-- The log of a backend's life. A failed open closes what it had opened, and a backend
that opened closes after the events, when no still waits any more. -/
def session (p : Profile) (opening : Opening) (events : List Event) (readable got : Bool) :
    List (Act Resource) :=
  match jipc_imp_open p opening with
  | (false, s) => jipc_imp_close p s
  | (true, s) => jipc_imp_close p (snapshotEnds p readable got (events.foldl (step p) s))

end ImpBackend

end JooanW3U.Media
