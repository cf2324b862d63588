import JooanW3U.Media.RtspPlayback

/-!
Owns the segment files of `record.c`: the recorder's thread with its cursors,
rotation, retention and failed writes, interleaved with the publishers and with
the switch that other threads set. Main result: what every segment holds, in the
runs where the two slips of the thread do not show.

Does not own the metadata beside a segment, which picture is asked for as a
keyframe, or the log.
-/

namespace JooanW3U.Media.Recorder

open JooanW3U.Library
open JooanW3U.Media.RtspPlayback (System RingsHold)

/-! ### Segments -/

/-- A frame, with what of it was written before a write failed. -/
structure Piece where
  frame : Frame
  written : Bytes
deriving Repr, DecidableEq

/-- A segment file: its name, when it was opened, the parameter sets the stream had
then, what of them was written, and what was written after them. -/
structure Segment where
  name : String
  opened : Nat
  header : Option Bytes
  start : Bytes
  pieces : List Piece

def Segment.content (segment : Segment) : Bytes :=
  segment.start ++ segment.pieces.flatMap Piece.written

/-- The files of one stream: the one that is open, and those finished before it,
oldest first. -/
structure Output where
  current : Option Segment
  finished : List Segment

def Output.segments (output : Output) : List Segment :=
  output.finished ++ output.current.toList

def Output.finish (output : Output) : Output := ⟨none, output.segments⟩

/-- The parts of `jipc_config` the recorder reads. -/
structure Config where
  sensors : Nat
  mainOnly : Bool
  audio : Bool
  recordMaxMb : Nat
  recordSeconds : Nat
deriving Repr, DecidableEq

def Config.videoOwner (cfg : Config) (channel : Nat) : Nat :=
  if cfg.mainOnly = true ∧ channel < videoStreams then channel / 2 * 2 else channel

/-- The stream is one the recorder does not pass over. -/
def Config.records (cfg : Config) (channel : Nat) : Bool :=
  !(channel < audioStream && (channel ≥ cfg.sensors * 2 || cfg.videoOwner channel ≠ channel) ||
    channel = audioStream && !cfg.audio)

/-- A segment may begin with the frame. -/
def opens (channel : Nat) (frame : Frame) : Bool := channel = audioStream || frame.keyframe

/-- `jipc_codec_parameters` for buffers of 512 bytes. -/
def codecParameters (app : App) (channel : Nat) : Option (Bytes × Bytes) :=
  let stream := app.streams channel
  if channel ≥ videoStreams ∨ stream.sps = [] ∨ stream.pps = [] ∨ stream.sps.length > 512 ∨
      stream.pps.length > 512 then none
  else some (stream.sps, stream.pps)

/-- What a segment of the stream begins with: nothing for audio. -/
def parameterSets (app : App) (channel : Nat) : Option Bytes :=
  if channel = audioStream then some []
  else
    (codecParameters app channel).map fun (sps, pps) =>
      [0, 0, 0, 1] ++ sps ++ ([0, 0, 0, 1] ++ pps)

/-- What the system answers while one frame is handled: the clock before the
rotation; the date and the clock in `begin`, and whether the file could be created;
and how many bytes of the header and of the frame can be written before a write
fails. -/
structure Answers where
  now : Nat
  stamp : String
  mono : Nat
  created : Bool
  headerRoom : Nat
  room : Nat

def segmentName (channel : Nat) (answers : Answers) : String :=
  "stream-" ++ toString channel ++ "-" ++ answers.stamp ++ "-" ++ toString answers.mono ++
    if channel = audioStream then ".alaw" else ".h264"

/-- `begin` and the codec headers after it. -/
def Segment.create (app : App) (channel : Nat) (answers : Answers) : Segment :=
  let header := parameterSets app channel
  ⟨segmentName channel answers, answers.mono, header, (header.getD []).take answers.headerRoom, []⟩

/-- The parameter sets were there and all written. -/
def Segment.begun (segment : Segment) : Bool := segment.header = some segment.start

def Segment.append (segment : Segment) (frame : Frame) (room : Nat) : Segment :=
  { segment with pieces := segment.pieces ++ [⟨frame, frame.data.take room⟩] }

/-- The frame did not follow the one at the cursor. -/
def missed (previous : Nat) (frame : Frame) : Bool :=
  previous ≠ 0 && frame.sequence ≠ previous + 1

/-- The segment has lasted for its time. -/
def Segment.expired (segment : Segment) (cfg : Config) (now : Nat) : Bool :=
  now - segment.opened ≥ cfg.recordSeconds * 1000000

def Output.rotate (output : Output) (cfg : Config) (channel : Nat) (frame : Frame) (now : Nat) :
    Output :=
  match output.current with
  | some segment =>
      if segment.expired cfg now && opens channel frame then output.finish else output
  | none => output

/-- The frame is written to the open segment; `true` is a failed write. -/
def Output.write (output : Output) (segment : Segment) (frame : Frame) (room : Nat) :
    Output × Bool :=
  ({ output with current := some (segment.append frame room) }, room < frame.data.length)

/-- What `record_main` does with a frame after it looked for a loss and for the end
of the segment's time; `true` is an error, which leaves the segment open. -/
def Output.store (output : Output) (app : App) (channel : Nat) (frame : Frame)
    (answers : Answers) : Output × Bool :=
  match output.current with
  | some segment => output.write segment frame answers.room
  | none =>
      if opens channel frame = false then (output, false)
      else if answers.created = false then (output, true)
      else if (Segment.create app channel answers).begun = false then
        ({ output with current := some (Segment.create app channel answers) }, true)
      else output.write (Segment.create app channel answers) frame answers.room

/-- The body of the loop over the streams after `jipc_read`. -/
def Output.record (output : Output) (app : App) (cfg : Config) (channel previous : Nat)
    (frame : Frame) (answers : Answers) : Output × Bool :=
  if missed previous frame then
    if opens channel frame = false then (output.finish, false)
    else output.finish.store app channel frame answers
  else (output.rotate cfg channel frame answers.now).store app channel frame answers

/-! ### Retention -/

/-- A regular file of the directory. -/
structure Entry where
  name : String
  size : Nat
  mtime : Nat
deriving Repr, DecidableEq

def ownedName (name : String) : Bool :=
  "stream-".toList.isPrefixOf name.toList &&
    name.toList.all (fun c => c.isAlphanum || c = '-' || c = '.') &&
    (".h264".toList <:+: name.toList || ".alaw".toList <:+: name.toList)

structure Scan where
  total : Nat
  victim : Option Entry

/-- The body of the loop over the entries. -/
def Scan.add (active : List String) (scan : Scan) (entry : Entry) : Scan :=
  if ownedName entry.name = false then scan
  else
    { total := scan.total + entry.size
      victim :=
        if active.contains entry.name then scan.victim
        else
          match scan.victim with
          | none => some entry
          | some victim => if entry.mtime < victim.mtime then some entry else some victim }

/-- The names of the open segments. -/
def activeNames (files : Nat → Output) : List String :=
  (List.range streamCount).filterMap fun channel => (files channel).current.map Segment.name

def finishAll (files : Nat → Output) : Nat → Output := fun channel => (files channel).finish

/-- `retention` with what each of its attempts finds in the directory, and whether
the victim could be removed; without an answer the directory cannot be opened.
`true` is a failure. -/
def retention (limit : Nat) :
    Nat → List (List Entry × Bool) → (Nat → Output) → (Nat → Output) × Bool
  | 0, _, files => (files, true)
  | _, [], files => (files, true)
  | attempts + 1, (entries, removed) :: readings, files =>
      let scan := entries.foldl (Scan.add (activeNames files)) ⟨0, none⟩
      if scan.total ≤ limit then (files, false)
      else
        match scan.victim with
        | none =>
            -- A small quota closes the active segments.
            if activeNames files = [] then (files, true)
            else retention limit attempts readings (finishAll files)
        | some _ => if removed then retention limit attempts readings files else (files, true)

/-! ### The system -/

/-- Where the recorder's thread stands: before it looks at the switch, in the loop
over the streams, there with a frame it has read, or ended. -/
inductive Stage
  | top
  | scanning (cfg : Config) (channels : List Nat)
  | holding (cfg : Config) (channel previous : Nat) (frame : Frame) (rest : List Nat)
  | ended
deriving DecidableEq

structure State where
  system : System
  recordActive : Bool
  checked : Nat
  cursor : Nat → Nat
  files : Nat → Output
  stage : Stage

/-- The state `jipc_record_start` leaves. -/
def State.initial (recording : Bool) : State where
  system := System.initial
  recordActive := recording
  checked := 0
  cursor _ := 0
  files _ := ⟨none, []⟩
  stage := .top

/-- One atomic action: of a publisher or a client, `jipc_record_set` with whether
the directory can be written and the configuration saved, a configuration patch,
and the steps of the recorder. -/
inductive Event
  | service (event : RtspPlayback.Event)
  | recordSet (enabled : Nat) (writable saved : Bool)
  | patch (recording : Bool)
  | look (cfg : Config) (now : Nat) (readings : List (List Entry × Bool))
  | read (allocated : Bool)
  | record (answers : Answers)
  | quit

/-- `record_main` before the loop over the streams. -/
def State.look (state : State) (cfg : Config) (now : Nat)
    (readings : List (List Entry × Bool)) : State :=
  if state.recordActive = false then
    { state with files := finishAll state.files, cursor := fun _ => 0 }
  else if now - state.checked > 1000000 then
    let kept := retention (cfg.recordMaxMb * 1024 * 1024) 1024 readings state.files
    if kept.2 then { state with checked := now, files := kept.1, recordActive := false }
    else
      { state with
        checked := now, files := kept.1, stage := .scanning cfg (List.range streamCount) }
  else { state with stage := .scanning cfg (List.range streamCount) }

/-- The loop over the streams up to `jipc_read`. -/
def State.read (state : State) (cfg : Config) (channel : Nat) (rest : List Nat)
    (allocated : Bool) : State :=
  if cfg.records channel = false then { state with stage := .scanning cfg rest }
  else
    match state.system.app.read allocated channel (state.cursor channel) with
    | .nothing => { state with stage := .scanning cfg rest }
    | .failed => { state with stage := .scanning cfg rest }
    | .frame frame cursor =>
        { state with
          cursor := Function.update state.cursor channel cursor
          stage := .holding cfg channel (state.cursor channel) frame rest }

/-- The rest of the loop's body; an error ends the loop and clears the switch. -/
def State.record (state : State) (cfg : Config) (channel previous : Nat) (frame : Frame)
    (rest : List Nat) (answers : Answers) : State :=
  let result :=
    (state.files channel).record state.system.app cfg channel previous frame answers
  { state with
    files := Function.update state.files channel result.1
    recordActive := if result.2 then false else state.recordActive
    stage := if result.2 then .top else .scanning cfg rest }

def State.step (state : State) : Event → State
  | .service event => { state with system := state.system.step event }
  | .recordSet enabled writable saved =>
      if enabled ≠ 0 ∧ enabled ≠ 1 then state
      else if (enabled = 1 ∧ writable = false) ∨ saved = false then state
      else { state with recordActive := enabled = 1 }
  | .patch recording => { state with recordActive := recording }
  | .look cfg now readings =>
      if state.stage = .top then state.look cfg now readings else state
  | .read allocated =>
      match state.stage with
      | .scanning _ [] => { state with stage := .top }
      | .scanning cfg (channel :: rest) => state.read cfg channel rest allocated
      | _ => state
  | .record answers =>
      match state.stage with
      | .holding cfg channel previous frame rest =>
          state.record cfg channel previous frame rest answers
      | _ => state
  | .quit =>
      if state.stage = .top then { state with files := finishAll state.files, stage := .ended }
      else state

def State.run (recording : Bool) (events : List Event) : State :=
  events.foldl State.step (.initial recording)

/-! ### What a segment holds -/

def Segment.frames (segment : Segment) : List Frame := segment.pieces.map Piece.frame

/-- The frames of which the file holds something. -/
def Segment.held (segment : Segment) : List Frame :=
  (segment.pieces.filter fun piece => piece.written ≠ []).map Piece.frame

/-- No write to the segment failed. -/
def Segment.whole (segment : Segment) : Bool :=
  segment.begun && segment.pieces.all fun piece => piece.written = piece.frame.data

/-- The parameter sets and then consecutive frames from a keyframe on, of which only
the last, or the parameter sets when there is no frame, may be cut. -/
structure Segment.Sound (log : List Frame) (segment : Segment) : Prop where
  started : segment.start <+: segment.header.getD []
  begun : segment.pieces ≠ [] → segment.begun = true
  consecutive : segment.frames <:+: log
  opening : ∀ frame, segment.frames.head? = some frame → frame.keyframe = true
  written : ∀ piece ∈ segment.pieces, piece.written <+: piece.frame.data
  entire : ∀ piece ∈ segment.pieces.dropLast, piece.written = piece.frame.data

/-- Nothing of a frame is in both segments. -/
def Segment.Disjoint (first second : Segment) : Prop :=
  ∀ frame ∈ first.held, frame ∉ second.held

/-- The segments of every stream are sound and share no frame. -/
def State.Sound (state : State) : Prop :=
  ∀ channel,
    (∀ segment ∈ (state.files channel).segments,
      segment.Sound (state.system.published channel)) ∧
    (state.files channel).segments.Pairwise Segment.Disjoint

/-- The open segment goes on with the frame although a write to it has failed. -/
def Output.resumesCut (output : Output) (cfg : Config) (channel previous : Nat) (frame : Frame)
    (now : Nat) : Bool :=
  !missed previous frame &&
    (output.rotate cfg channel frame now).current.any fun segment => !segment.whole

/-- The frame can begin a segment, and something of it is written to a new one. -/
def begins (app : App) (channel : Nat) (frame : Frame) (answers : Answers) : Bool :=
  opens channel frame && answers.created && (Segment.create app channel answers).begun &&
    frame.data.take answers.room ≠ []

/-- A stream that is read anew begins with a frame that is in a segment. -/
def Output.repeats (output : Output) (app : App) (channel previous : Nat) (frame : Frame)
    (answers : Answers) : Bool :=
  previous = 0 && begins app channel frame answers &&
    output.segments.any fun segment => segment.held.contains frame

/-- The recorder's next step takes one of its two wrong turns. -/
def State.slips (state : State) : Event → Bool
  | .record answers =>
      match state.stage with
      | .holding cfg channel previous frame _ =>
          (state.files channel).resumesCut cfg channel previous frame answers.now ||
            (state.files channel).repeats state.system.app channel previous frame answers
      | _ => false
  | _ => false

/-! ### Steps on the files of one stream -/

@[simp] theorem Output.finish_segments (output : Output) :
    output.finish.segments = output.segments := by
  simp [Output.finish, Output.segments]

@[simp] theorem Output.finish_current (output : Output) : output.finish.current = none := rfl

@[simp] theorem Segment.append_frames (segment : Segment) (frame : Frame) (room : Nat) :
    (segment.append frame room).frames = segment.frames ++ [frame] := by
  simp [Segment.append, Segment.frames]

theorem Segment.append_held {segment : Segment} {frame found : Frame} {room : Nat}
    (held : found ∈ (segment.append frame room).held) :
    found ∈ segment.held ∨ (found = frame ∧ frame.data.take room ≠ []) := by
  simp only [Segment.held, Segment.append, List.filter_append, List.map_append,
    List.mem_append, List.mem_map] at held
  rcases held with old | ⟨piece, inside, rfl⟩
  · exact .inl (List.mem_map.mpr old)
  · obtain ⟨new, written⟩ := List.mem_filter.mp inside
    obtain rfl := List.mem_singleton.mp new
    exact .inr ⟨rfl, of_decide_eq_true written⟩

theorem Segment.frames_of_held {segment : Segment} {frame : Frame} (held : frame ∈ segment.held) :
    frame ∈ segment.frames := by
  obtain ⟨piece, inside, rfl⟩ := List.mem_map.mp held
  exact List.mem_map_of_mem (List.mem_of_mem_filter inside)

/-- Every frame in the first was published before every one in the second. -/
def Segment.Before (first second : Segment) : Prop :=
  ∀ frame ∈ first.held, ∀ later ∈ second.held, frame.sequence < later.sequence

theorem Segment.Before.disjoint {first second : Segment} (before : first.Before second) :
    first.Disjoint second := by
  intro frame inFirst inSecond
  exact absurd (before frame inFirst frame inSecond) (Nat.lt_irrefl _)

/-- The stream's segments while its frames up to `handled` have been taken up, all
of them when `handled` is zero: the open segment, unless a write failed, ends with
the last one. -/
structure Kept (log : List Frame) (output : Output) (handled : Nat) : Prop where
  sound : ∀ segment ∈ output.segments, segment.Sound log
  ordered : output.segments.Pairwise Segment.Before
  bounded : handled ≠ 0 → ∀ segment ∈ output.segments, ∀ frame ∈ segment.held,
    frame.sequence ≤ handled
  reading : output.current.isSome → handled ≠ 0
  going : ∀ segment, output.current = some segment → segment.whole = true →
    segment.pieces ≠ [] ∧
      ∃ older, older ++ segment.frames <+: log ∧ (older ++ segment.frames).length = handled

section Kept

variable {log : List Frame} {output : Output} {handled : Nat}

theorem Kept.finish (kept : Kept log output handled) : Kept log output.finish handled where
  sound := by
    rw [Output.finish_segments]
    exact kept.sound
  ordered := by
    rw [Output.finish_segments]
    exact kept.ordered
  bounded := by
    rw [Output.finish_segments]
    exact kept.bounded
  reading some := by cases some
  going segment current := by cases current

theorem Kept.restart (kept : Kept log output handled) : Kept log output.finish 0 where
  sound := kept.finish.sound
  ordered := kept.finish.ordered
  bounded started := absurd rfl started
  reading some := by cases some
  going segment current := by cases current

theorem Segment.Sound.grows {segment : Segment} {grown : List Frame} (sound : segment.Sound log)
    (growth : log <+: grown) : segment.Sound grown where
  started := sound.started
  begun := sound.begun
  consecutive := sound.consecutive.trans growth.isInfix
  opening := sound.opening
  written := sound.written
  entire := sound.entire

theorem Kept.grows {grown : List Frame} (kept : Kept log output handled)
    (growth : log <+: grown) : Kept grown output handled where
  sound segment inside := (kept.sound segment inside).grows growth
  ordered := kept.ordered
  bounded := kept.bounded
  reading := kept.reading
  going segment current whole := by
    obtain ⟨nonempty, older, before, length⟩ := kept.going segment current whole
    exact ⟨nonempty, older, before.trans growth, length⟩

/-- A frame that begins no segment is passed over. -/
theorem Kept.pass (kept : Kept log output handled) {next : Nat} (closed : output.current = none)
    (bounded : ∀ segment ∈ output.segments, ∀ frame ∈ segment.held, frame.sequence ≤ next) :
    Kept log output next where
  sound := kept.sound
  ordered := kept.ordered
  bounded _ := bounded
  reading some := by
    rw [closed] at some
    cases some
  going segment current := by
    rw [closed] at current
    cases current

theorem Kept.rotate (kept : Kept log output handled) (cfg : Config) (channel : Nat) (frame : Frame)
    (now : Nat) : Kept log (output.rotate cfg channel frame now) handled := by
  unfold Output.rotate
  split
  · split
    · exact kept.finish
    · exact kept
  · exact kept

theorem Segment.Sound.append {segment : Segment} {older : List Frame} {frame : Frame}
    (sound : segment.Sound log) (whole : segment.whole = true)
    (run : older ++ (segment.frames ++ [frame]) <+: log)
    (opening : segment.pieces = [] → frame.keyframe = true) (room : Nat) :
    (segment.append frame room).Sound log where
  started := sound.started
  begun _ := (Bool.and_eq_true_iff.mp whole).1
  consecutive := by
    rw [Segment.append_frames]
    exact (List.suffix_append older _).isInfix.trans run.isInfix
  opening first head := by
    rw [Segment.append_frames] at head
    cases pieces : segment.pieces with
    | nil =>
        simp only [Segment.frames, pieces, List.map_nil, List.nil_append, List.head?_cons,
          Option.some.injEq] at head
        exact head ▸ opening pieces
    | cons piece rest =>
        apply sound.opening first
        simpa [Segment.frames, pieces] using head
  written piece inside := by
    rcases List.mem_append.mp inside with old | new
    · exact sound.written piece old
    · rw [List.mem_singleton.mp new]
      exact List.take_prefix _ _
  entire piece inside := by
    simp only [Segment.append, List.dropLast_concat] at inside
    exact of_decide_eq_true (List.all_eq_true.mp (Bool.and_eq_true_iff.mp whole).2 piece inside)

/-- The next frame of the run goes into a segment to which no write has failed. -/
theorem Output.write_keeps {segment : Segment} {older : List Frame} {frame : Frame}
    (sound : ∀ other ∈ output.finished ++ [segment], other.Sound log)
    (ordered : (output.finished ++ [segment]).Pairwise Segment.Before)
    {room : Nat}
    (bounded : ∀ other ∈ output.finished ++ [segment], ∀ found ∈ other.held,
      found.sequence ≤ frame.sequence)
    (below : frame.data.take room ≠ [] → ∀ other ∈ output.finished ++ [segment],
      ∀ found ∈ other.held, found.sequence < frame.sequence)
    (whole : segment.whole = true) (run : older ++ (segment.frames ++ [frame]) <+: log)
    (length : (older ++ segment.frames).length + 1 = frame.sequence)
    (opening : segment.pieces = [] → frame.keyframe = true) :
    Kept log (output.write segment frame room).1 frame.sequence where
  sound other inside := by
    rcases List.mem_append.mp inside with old | new
    · exact sound other (List.mem_append_left _ old)
    · rw [List.mem_singleton.mp new]
      exact (sound segment (List.mem_append_right _ (List.mem_singleton_self _))).append whole run
        opening room
  ordered := by
    obtain ⟨finished, -, between⟩ := List.pairwise_append.mp ordered
    refine List.pairwise_append.mpr ⟨finished, List.pairwise_singleton _ _, ?_⟩
    intro other inside last new found held later heldLater
    rw [List.mem_singleton.mp new] at heldLater
    rcases Segment.append_held heldLater with old | ⟨rfl, written⟩
    · exact between other inside segment (List.mem_singleton_self _) found held later old
    · exact below written other (List.mem_append_left _ inside) found held
  bounded _ other inside found held := by
    rcases List.mem_append.mp inside with old | new
    · exact bounded other (List.mem_append_left _ old) found held
    · rw [List.mem_singleton.mp new] at held
      rcases Segment.append_held held with old | ⟨rfl, -⟩
      · exact bounded segment (List.mem_append_right _ (List.mem_singleton_self _)) found old
      · exact Nat.le_refl _
  reading _ := by omega
  going last current _ := by
    obtain rfl := Option.some.inj current
    refine ⟨by simp [Segment.append], older, ?_, ?_⟩
    · rw [Segment.append_frames]
      exact run
    · rw [Segment.append_frames, ← List.append_assoc, List.length_append, List.length_singleton]
      exact length

theorem Segment.create_sound (log : List Frame) (app : App) (channel : Nat) (answers : Answers) :
    (Segment.create app channel answers).Sound log where
  started := List.take_prefix _ _
  begun pieces := absurd rfl pieces
  consecutive := List.nil_infix
  opening frame head := by cases head
  written piece inside := by cases inside
  entire piece inside := by cases inside

theorem prefix_concat {older : List Frame} {frame : Frame} (before : older <+: log)
    (next : log[older.length]? = some frame) : older ++ [frame] <+: log := by
  obtain ⟨rest, rfl⟩ := before
  rw [List.getElem?_append_right (Nat.le_refl _), Nat.sub_self] at next
  cases rest with
  | nil => cases next
  | cons first rest =>
      obtain rfl : first = frame := Option.some.inj next
      exact ⟨rest, by simp⟩

/-- A new segment to which nothing but its header was written. -/
theorem Segment.create_held (app : App) (channel : Nat) (answers : Answers) :
    (Segment.create app channel answers).held = [] := rfl

theorem Kept.create (kept : Kept log output handled) (closed : output.current = none) (app : App)
    (channel : Nat) (answers : Answers) :
    (∀ other ∈ output.finished ++ [Segment.create app channel answers], other.Sound log) ∧
      (output.finished ++ [Segment.create app channel answers]).Pairwise Segment.Before := by
  have segments : output.segments = output.finished := by simp [Output.segments, closed]
  constructor
  · intro other inside
    rcases List.mem_append.mp inside with old | new
    · exact kept.sound other (segments ▸ old)
    · rw [List.mem_singleton.mp new]
      exact Segment.create_sound log app channel answers
  · refine List.pairwise_append.mpr ⟨segments ▸ kept.ordered, List.pairwise_singleton _ _, ?_⟩
    intro other _ last new frame _ later held
    rw [List.mem_singleton.mp new] at held
    cases held

theorem Output.store_keeps {frame : Frame} {channel : Nat} (kept : Kept log output handled)
    (found : log[frame.sequence - 1]? = some frame) (positive : 0 < frame.sequence)
    (bounded : ∀ segment ∈ output.segments, ∀ held ∈ segment.held, held.sequence ≤ frame.sequence)
    {app : App} {answers : Answers}
    (fresh : output.current.isSome ∨ begins app channel frame answers = true →
      ∀ segment ∈ output.segments, ∀ held ∈ segment.held, held.sequence < frame.sequence)
    (audio : channel = audioStream → frame.keyframe = true)
    (direct : ∀ segment, output.current = some segment →
      frame.sequence = handled + 1 ∧ segment.whole = true) :
    Kept log (output.store app channel frame answers).1 frame.sequence := by
  unfold Output.store
  split
  · rename_i segment current
    obtain ⟨next, whole⟩ := direct segment current
    obtain ⟨nonempty, older, run, length⟩ := kept.going segment current whole
    have segments : output.segments = output.finished ++ [segment] := by
      simp [Output.segments, current]
    rw [next, Nat.add_sub_cancel, ← length] at found
    have continued := prefix_concat run found
    rw [List.append_assoc] at continued
    exact Output.write_keeps (segments ▸ kept.sound) (segments ▸ kept.ordered)
      (segments ▸ bounded) (fun _ => segments ▸ fresh (.inl (by rw [current]; rfl))) whole
      continued (by omega) (fun empty => absurd empty nonempty)
  · rename_i closed
    have segments : output.segments = output.finished := by simp [Output.segments, closed]
    obtain ⟨sound, ordered⟩ := kept.create closed app channel answers
    have none : ∀ other ∈ output.finished ++ [Segment.create app channel answers],
        ∀ held ∈ other.held, other ∈ output.segments := by
      intro other inside held old
      rcases List.mem_append.mp inside with old | new
      · exact segments ▸ old
      · rw [List.mem_singleton.mp new] at old
        cases old
    split
    · exact kept.pass closed bounded
    rename_i opening
    split
    · exact kept.pass closed bounded
    rename_i created
    split
    · rename_i cut
      refine ⟨sound, ordered, fun _ other inside held old =>
        bounded other (none other inside held old) held old, fun _ => by omega, ?_⟩
      intro segment current whole
      obtain rfl := Option.some.inj current
      rw [Segment.whole, cut] at whole
      cases whole
    · rename_i begun
      have opened := Bool.eq_true_of_not_eq_false opening
      have inside := (List.getElem?_eq_some_iff.mp found).1
      have length : (log.take (frame.sequence - 1)).length = frame.sequence - 1 := by
        rw [List.length_take, Nat.min_eq_left (Nat.le_of_lt inside)]
      have run : log.take (frame.sequence - 1) ++
          ((Segment.create app channel answers).frames ++ [frame]) <+: log :=
        prefix_concat (List.take_prefix _ _) (by rw [length]; exact found)
      refine Output.write_keeps sound ordered
        (fun other inside held old => bounded other (none other inside held old) held old)
        (fun written other inside held old => ?_) ?_ run ?_ ?_
      · refine fresh (.inr ?_) other (none other inside held old) held old
        simp only [begins, opened, Bool.eq_true_of_not_eq_false created,
          Bool.eq_true_of_not_eq_false begun, Bool.and_self, Bool.true_and]
        exact decide_eq_true written
      · rw [Segment.whole, Bool.eq_true_of_not_eq_false begun]
        rfl
      · simp only [Segment.frames, Segment.create, List.map_nil, List.append_nil, length]
        omega
      · intro _
        rcases (Bool.or_eq_true _ _).mp opened with sound | key
        · exact audio (of_decide_eq_true sound)
        · exact key

@[simp] theorem Output.rotate_segments (output : Output) (cfg : Config) (channel : Nat)
    (frame : Frame) (now : Nat) :
    (output.rotate cfg channel frame now).segments = output.segments := by
  unfold Output.rotate
  split
  · split
    · exact output.finish_segments
    · rfl
  · rfl

/-- One frame that was read, when the step does not slip. -/
theorem Output.record_keeps {frame : Frame} {channel : Nat} (kept : Kept log output handled)
    (found : log[frame.sequence - 1]? = some frame) (positive : 0 < frame.sequence)
    (bounded : ∀ segment ∈ output.segments, ∀ held ∈ segment.held, held.sequence ≤ frame.sequence)
    {app : App} {answers : Answers}
    (fresh : handled ≠ 0 ∨ begins app channel frame answers = true →
      ∀ segment ∈ output.segments, ∀ held ∈ segment.held, held.sequence < frame.sequence)
    (audio : channel = audioStream → frame.keyframe = true) (cfg : Config)
    (unbroken : missed handled frame = false → ∀ segment,
      (output.rotate cfg channel frame answers.now).current = some segment → segment.whole = true) :
    Kept log (output.record app cfg channel handled frame answers).1 frame.sequence := by
  unfold Output.record
  split
  · split
    · refine kept.finish.pass rfl ?_
      rw [Output.finish_segments]
      exact bounded
    · refine Output.store_keeps kept.finish found positive ?_ ?_ audio ?_
      · rw [Output.finish_segments]
        exact bounded
      · rw [Output.finish_segments]
        rintro (current | started)
        · cases current
        · exact fresh (.inr started)
      · intro segment current
        cases current
  · rename_i direct
    have direct := Bool.eq_false_of_not_eq_true direct
    have rotated := kept.rotate cfg channel frame answers.now
    refine Output.store_keeps rotated found positive ?_ ?_ audio ?_
    · rw [Output.rotate_segments]
      exact bounded
    · rw [Output.rotate_segments]
      rintro (current | started)
      · exact fresh (.inl (rotated.reading current))
      · exact fresh (.inr started)
    · intro segment current
      have started := rotated.reading (by rw [current]; rfl)
      refine ⟨?_, unbroken direct segment current⟩
      simp only [missed, Bool.and_eq_false_iff, decide_eq_false_iff_not, not_not] at direct
      exact direct.resolve_left (by simpa using started)

end Kept

/-! ### The publishers -/

/-- The call feeds video streams only. -/
def FeedsVideo (call : VideoCall) : Prop :=
  match call.stage with
  | .returned _ => True
  | .recording channels => ∀ channel ∈ channels, channel < videoStreams
  | .pushing channels => ∀ channel ∈ channels, channel < videoStreams
  | _ => ∀ channel ∈ call.channels, channel < videoStreams

theorem enter_feedsVideo (source : Nat) (mainOnly : Bool) (data : Bytes) (ptsUs : Nat)
    (keyframe : Bool) : FeedsVideo (VideoCall.enter source mainOnly data ptsUs keyframe) := by
  unfold FeedsVideo VideoCall.enter
  by_cases refused : source ≥ videoStreams ∨ (mainOnly = true ∧ source % 2 = 1)
  · rw [if_pos refused]
    trivial
  · rw [if_neg refused]
    intro channel inside
    simp only [VideoCall.channels] at inside
    split at inside
    · rename_i both
      simp only [List.mem_cons, List.not_mem_nil, or_false] at inside
      simp only [videoStreams, both, true_and, not_or] at refused ⊢
      omega
    · rw [List.mem_singleton.mp inside]
      omega

theorem advance_feedsVideo {call : VideoCall} (feeds : FeedsVideo call) (app : App)
    (allocated : Bool) : FeedsVideo (call.advance app allocated).2 := by
  cases stage : call.stage with
  | entered =>
      simp only [FeedsVideo, stage] at feeds
      simp only [VideoCall.advance, stage, FeedsVideo]
      cases app.privacyHold <;> exact feeds
  | held =>
      simp only [FeedsVideo, stage] at feeds
      simp only [VideoCall.advance, stage, FeedsVideo]
      exact feeds
  | recording channels =>
      simp only [FeedsVideo, stage] at feeds
      cases channels with
      | nil => simp only [VideoCall.advance, stage, FeedsVideo]
      | cons first rest =>
          simp only [VideoCall.advance, stage, FeedsVideo]
          exact fun channel inside => feeds channel (List.mem_cons_of_mem _ inside)
  | passed =>
      simp only [FeedsVideo, stage] at feeds
      simp only [VideoCall.advance, stage, FeedsVideo]
      cases app.privacyWaitKey call.source with
      | false => exact feeds
      | true =>
          cases hasIdr call.data with
          | false => trivial
          | true => exact feeds
  | resuming =>
      simp only [FeedsVideo, stage] at feeds
      simp only [VideoCall.advance, stage, FeedsVideo]
      exact feeds
  | pushing channels =>
      simp only [FeedsVideo, stage] at feeds
      cases channels with
      | nil => simp only [VideoCall.advance, stage, FeedsVideo]
      | cons first rest =>
          simp only [VideoCall.advance, stage]
          cases app.publish allocated first call.data call.ptsUs call.keyframe .h264 with
          | none => simp only [FeedsVideo]
          | some after => exact fun channel inside => feeds channel (List.mem_cons_of_mem _ inside)
  | returned accepted => simp only [VideoCall.advance, stage, FeedsVideo]

theorem publish_other {app after : App} {allocated keyframe : Bool} {channel ptsUs other : Nat}
    {data : Bytes} {codec : Codec} (different : other ≠ channel)
    (published : app.publish allocated channel data ptsUs keyframe codec = some after) :
    after.streams other = app.streams other := by
  unfold App.publish at published
  split at published
  · cases published
  · obtain rfl := Option.some.inj published
    exact Function.update_of_ne different _ _

theorem advance_audio {call : VideoCall} (feeds : FeedsVideo call) (app : App) (allocated : Bool) :
    (call.advance app allocated).1.streams audioStream = app.streams audioStream := by
  have other : ∀ channel, channel < videoStreams → audioStream ≠ channel := by
    intro channel video
    simp only [videoStreams, audioStream] at *
    omega
  unfold VideoCall.advance
  split
  · rfl
  · rfl
  · rfl
  · rename_i channel rest stage
    simp only [FeedsVideo, stage] at feeds
    exact Function.update_of_ne (other channel (feeds channel List.mem_cons_self)) _ _
  · split <;> rfl
  · rfl
  · rfl
  · rename_i channel rest stage
    simp only [FeedsVideo, stage] at feeds
    split
    · rfl
    · rename_i published
      exact publish_other (other channel (feeds channel List.mem_cons_self)) published
  · rfl

theorem publish_audio {app after : App} {allocated : Bool} {ptsUs : Nat} {data : Bytes}
    (published : app.publish allocated audioStream data ptsUs true .pcma = some after) :
    (after.streams audioStream).ring =
      (app.streams audioStream).ring.push (app.nextFrame audioStream data ptsUs true .pcma) := by
  unfold App.publish at published
  split at published
  · cases published
  · obtain rfl := Option.some.inj published
    simp only [Function.update_self]
    rfl

/-- Every audio frame counts as a keyframe. -/
structure Sources (system : System) : Prop where
  calls : ∀ call ∈ system.calls, FeedsVideo call
  audio : ∀ frame ∈ system.published audioStream, frame.keyframe = true

theorem Sources.step {system : System} (sources : Sources system) (event : RtspPlayback.Event) :
    Sources (system.step event) := by
  cases event with
  | hold held => exact ⟨sources.calls, sources.audio⟩
  | video source mainOnly data ptsUs keyframe =>
      refine ⟨fun call inside => ?_, sources.audio⟩
      rcases List.mem_append.mp inside with old | new
      · exact sources.calls call old
      · rw [List.mem_singleton.mp new]
        exact enter_feedsVideo source mainOnly data ptsUs keyframe
  | advance index allocated =>
      simp only [System.step]
      split
      · exact sources
      · rename_i call found
        have feeds := sources.calls call (List.mem_of_getElem? found)
        refine ⟨fun other inside => ?_, fun frame inside => ?_⟩
        · rcases List.mem_or_eq_of_mem_set inside with old | rfl
          · exact sources.calls other old
          · exact advance_feedsVideo feeds system.app allocated
        · have same := advance_audio feeds system.app allocated
          have log := RtspPlayback.recordPublished_same system.published
            (congrArg Stream.ring same)
          exact sources.audio frame (log ▸ inside)
  | audio data ptsUs allocated =>
      simp only [System.step]
      split
      · exact sources
      · rename_i after published
        refine ⟨sources.calls, fun frame inside => ?_⟩
        have log : (system.withApp after).published audioStream = _ :=
          RtspPlayback.recordPublished_push system.published (publish_audio published)
        rw [log] at inside
        rcases List.mem_append.mp inside with old | new
        · exact sources.audio frame old
        · rw [List.mem_singleton.mp new]
          rfl
  | request request answered =>
      simp only [System.step]
      split
      · exact ⟨sources.calls, sources.audio⟩
      · exact sources
  | stream track outcome =>
      simp only [System.step]
      split
      · exact ⟨sources.calls, sources.audio⟩
      · exact sources

/-- What is published only grows. -/
theorem published_grows (system : System) (event : RtspPlayback.Event) (channel : Nat) :
    system.published channel <+: (system.step event).published channel := by
  cases event with
  | hold held => exact List.prefix_rfl
  | video source mainOnly data ptsUs keyframe => exact List.prefix_rfl
  | advance index allocated =>
      simp only [System.step]
      split
      · exact List.prefix_rfl
      · rename_i call _
        exact RtspPlayback.recordPublished_extends _
          (RtspPlayback.advance_ringStep call system.app allocated) channel
  | audio data ptsUs allocated =>
      simp only [System.step]
      split
      · exact List.prefix_rfl
      · rename_i published
        have notVideo : ¬ audioStream < videoStreams := by decide
        exact RtspPlayback.recordPublished_extends _
          (RtspPlayback.publish_ringStep (absurd · notVideo) published) channel
  | request request answered =>
      simp only [System.step]
      split <;> exact List.prefix_rfl
  | stream track outcome =>
      simp only [System.step]
      split <;> exact List.prefix_rfl

/-! ### Runs -/

theorem retention_preserves {Property : (Nat → Output) → Prop}
    (finished : ∀ files, Property files → Property (finishAll files)) (limit attempts : Nat)
    {readings : List (List Entry × Bool)} {files : Nat → Output} (holds : Property files) :
    Property (retention limit attempts readings files).1 := by
  induction attempts generalizing readings files with
  | zero => exact holds
  | succ attempts inductionHypothesis =>
      cases readings with
      | nil => exact holds
      | cons reading readings =>
          simp only [retention]
          split
          · exact holds
          split
          · split
            · exact holds
            · exact inductionHypothesis (finished files holds)
          · split
            · exact inductionHypothesis holds
            · exact holds

/-- Up to which frame the recorder has taken up those of the stream. -/
def State.handled (state : State) (channel : Nat) : Nat :=
  match state.stage with
  | .holding _ reading previous _ _ => if channel = reading then previous else state.cursor channel
  | _ => state.cursor channel

/-- The frame the recorder has read is the one at its cursor. -/
structure Holding (state : State) (channel previous : Nat) (frame : Frame) : Prop where
  found : (state.system.published channel)[frame.sequence - 1]? = some frame
  positive : 0 < frame.sequence
  cursor : state.cursor channel = frame.sequence
  later : previous < frame.sequence
  bounded : ∀ segment ∈ (state.files channel).segments, ∀ held ∈ segment.held,
    held.sequence ≤ frame.sequence

structure Invariant (state : State) : Prop where
  system : RtspPlayback.SystemInvariant state.system
  sources : Sources state.system
  kept : ∀ channel,
    Kept (state.system.published channel) (state.files channel) (state.handled channel)
  holding : ∀ cfg channel previous frame rest,
    state.stage = .holding cfg channel previous frame rest → Holding state channel previous frame

theorem initial_invariant (recording : Bool) : Invariant (State.initial recording) where
  system := ⟨RtspPlayback.initial_ringsHold, RtspPlayback.initial_clientInvariant _⟩
  sources := ⟨fun call inside => (List.not_mem_nil inside).elim,
    fun frame inside => (List.not_mem_nil inside).elim⟩
  kept _ :=
    { sound := fun _ inside => (List.not_mem_nil inside).elim
      ordered := .nil
      bounded := fun _ _ inside => (List.not_mem_nil inside).elim
      reading := fun some => by cases some
      going := fun _ current => by cases current }
  holding _ _ _ _ _ stage := by cases stage

theorem service_keeps {state : State} (invariant : Invariant state) (event : RtspPlayback.Event) :
    Invariant { state with system := state.system.step event } where
  system := RtspPlayback.step_keeps state.system event invariant.system
  sources := invariant.sources.step event
  kept channel := (invariant.kept channel).grows (published_grows state.system event channel)
  holding cfg channel previous frame rest stage := by
    have held := invariant.holding cfg channel previous frame rest stage
    exact ⟨BroadcastRing.getElem?_of_prefix (published_grows state.system event channel) held.found,
      held.positive, held.cursor, held.later, held.bounded⟩

theorem look_keeps {state : State} (invariant : Invariant state) (top : state.stage = .top)
    (cfg : Config) (now : Nat) (readings : List (List Entry × Bool)) :
    Invariant (state.look cfg now readings) := by
  have kept : ∀ channel, Kept (state.system.published channel) (state.files channel)
      (state.cursor channel) := by
    intro channel
    have kept := invariant.kept channel
    rwa [State.handled, top] at kept
  have retained : ∀ channel, Kept (state.system.published channel)
      ((retention (cfg.recordMaxMb * 1024 * 1024) 1024 readings state.files).1 channel)
      (state.cursor channel) :=
    @retention_preserves
      (fun files => ∀ channel,
        Kept (state.system.published channel) (files channel) (state.cursor channel))
      (fun files kept channel => (kept channel).finish) _ _ _ _ kept
  unfold State.look
  split
  · refine ⟨invariant.system, invariant.sources, fun channel => ?_, fun _ _ _ _ _ stage => ?_⟩
    · simp only [State.handled, top]
      exact (kept channel).restart
    · rw [top] at stage
      cases stage
  split
  · dsimp only
    split
    · refine ⟨invariant.system, invariant.sources, fun channel => ?_, fun _ _ _ _ _ stage => ?_⟩
      · simp only [State.handled, top]
        exact retained channel
      · rw [top] at stage
        cases stage
    · exact ⟨invariant.system, invariant.sources, retained, fun _ _ _ _ _ stage => by cases stage⟩
  · exact ⟨invariant.system, invariant.sources, kept, fun _ _ _ _ _ stage => by cases stage⟩

/-- A frame read is later than the cursor, and the newest one when that is zero. -/
theorem read_later {app : App} {allocated : Bool} {channel cursor moved : Nat} {frame : Frame}
    (positive : 0 < (app.streams channel).ring.capacity)
    (read : app.read allocated channel cursor = .frame frame moved) :
    cursor < moved ∧ (cursor = 0 → moved = (app.streams channel).ring.count) := by
  unfold App.read at read
  split at read
  · cases read
  simp only at read
  split at read
  · cases read
  rename_i fresh
  split at read
  · injection read with same wanted
    rw [← wanted]
    unfold BroadcastRing.oldest
    constructor
    · split <;> split <;> split <;> omega
    · intro anew
      rw [anew]
      split <;> split <;> split <;> omega
  · cases read

/-- What is in a segment was published. -/
theorem held_published {state : State} (invariant : Invariant state) {channel : Nat}
    {segment : Segment} (inside : segment ∈ (state.files channel).segments) {frame : Frame}
    (held : frame ∈ segment.held) :
    0 < frame.sequence ∧ (state.system.published channel)[frame.sequence - 1]? = some frame := by
  have sound := (invariant.kept channel).sound segment inside
  have member := sound.consecutive.subset (Segment.frames_of_held held)
  obtain ⟨position, found⟩ := List.mem_iff_getElem?.mp member
  have number := invariant.system.rings.numbered channel position frame found
  refine ⟨by omega, ?_⟩
  rw [number, Nat.add_sub_cancel]
  exact found

theorem read_keeps {state : State} (invariant : Invariant state) {cfg : Config} {channel : Nat}
    {rest : List Nat} (scanning : state.stage = .scanning cfg (channel :: rest))
    (allocated : Bool) : Invariant (state.read cfg channel rest allocated) := by
  have kept : ∀ channel, Kept (state.system.published channel) (state.files channel)
      (state.cursor channel) := by
    intro channel
    have kept := invariant.kept channel
    rwa [State.handled, scanning] at kept
  have passed : Invariant { state with stage := .scanning cfg rest } :=
    ⟨invariant.system, invariant.sources, kept, fun _ _ _ _ _ stage => by cases stage⟩
  unfold State.read
  split
  · exact passed
  split
  · exact passed
  · exact passed
  rename_i frame moved read
  have rings := invariant.system.rings
  obtain ⟨positive, found⟩ := RtspPlayback.read_published rings read
  obtain ⟨later, newest⟩ := read_later (rings.holds channel).positive read
  have number : frame.sequence = moved := by
    rw [rings.numbered channel _ _ found]
    omega
  refine ⟨invariant.system, invariant.sources, fun other => ?_, ?_⟩
  · by_cases here : other = channel
    · subst here
      simp only [State.handled, if_true]
      exact kept other
    · simp only [State.handled, if_neg here, Function.update_of_ne here]
      exact kept other
  · intro _ _ _ _ _ stage
    injection stage with _ same before sameFrame _
    subst same before sameFrame
    refine ⟨number ▸ found, by omega, ?_, by omega, fun segment inside held old => ?_⟩
    · simp only [Function.update_self]
      exact number.symm
    · by_cases anew : state.cursor channel = 0
      · obtain ⟨started, there⟩ := held_published invariant inside old
        have within := (List.getElem?_eq_some_iff.mp there).1
        rw [number, newest anew, (rings.holds channel).counted]
        omega
      · have before := (kept channel).bounded anew segment inside held old
        omega

theorem record_keeps {state : State} (invariant : Invariant state) {cfg : Config}
    {channel previous : Nat} {frame : Frame} {rest : List Nat}
    (reading : state.stage = .holding cfg channel previous frame rest) (answers : Answers)
    (clear : state.slips (.record answers) = false) :
    Invariant (state.record cfg channel previous frame rest answers) := by
  have holding := invariant.holding cfg channel previous frame rest reading
  have kept := invariant.kept channel
  simp only [State.handled, reading, if_true] at kept
  simp only [State.slips, reading, Bool.or_eq_false_iff] at clear
  have fresh : previous ≠ 0 ∨ begins state.system.app channel frame answers = true →
      ∀ segment ∈ (state.files channel).segments, ∀ held ∈ segment.held,
        held.sequence < frame.sequence := by
    intro used segment inside held old
    by_cases anew : previous = 0
    · have started := used.resolve_left (absurd anew)
      have unseen := clear.2
      simp only [Output.repeats, anew, started, decide_true, Bool.true_and,
        List.any_eq_false] at unseen
      refine Nat.lt_of_le_of_ne (holding.bounded segment inside held old) fun same => ?_
      have there := (held_published invariant inside old).2
      rw [same, holding.found] at there
      obtain rfl := Option.some.inj there
      exact unseen segment inside (List.contains_iff_mem.mpr old)
    · exact Nat.lt_of_le_of_lt (kept.bounded anew segment inside held old) holding.later
  have recorded := Output.record_keeps kept holding.found holding.positive holding.bounded fresh
    (fun audio => invariant.sources.audio frame (audio ▸ List.mem_of_getElem? holding.found))
    cfg
    (fun direct segment current => by
      have uncut := clear.1
      rw [Output.resumesCut, direct, current] at uncut
      simpa using uncut)
  have after : ∀ other, Kept (state.system.published other)
      (Function.update state.files channel
        ((state.files channel).record state.system.app cfg channel previous frame answers).1 other)
      (state.cursor other) := by
    intro other
    by_cases here : other = channel
    · subst here
      rw [Function.update_self, holding.cursor]
      exact recorded
    · rw [Function.update_of_ne here]
      have kept := invariant.kept other
      simp only [State.handled, reading, if_neg here] at kept
      exact kept
  refine ⟨invariant.system, invariant.sources, fun other => ?_, fun _ _ _ _ _ stage => ?_⟩
  · have handled : (state.record cfg channel previous frame rest answers).handled other =
        state.cursor other := by
      simp only [State.record, State.handled]
      split <;> rename_i stage
      · split at stage <;> cases stage
      · rfl
    rw [handled]
    exact after other
  · simp only [State.record] at stage
    split at stage <;> cases stage

theorem quit_keeps {state : State} (invariant : Invariant state) (top : state.stage = .top) :
    Invariant { state with files := finishAll state.files, stage := .ended } := by
  refine ⟨invariant.system, invariant.sources, fun channel => ?_, fun _ _ _ _ _ stage => ?_⟩
  · have kept := invariant.kept channel
    rw [State.handled, top] at kept
    exact kept.finish
  · cases stage

theorem step_keeps (state : State) (event : Event) (invariant : Invariant state)
    (clear : state.slips event = false) : Invariant (state.step event) := by
  have switched : ∀ recordActive, Invariant { state with recordActive } := fun _ =>
    ⟨invariant.system, invariant.sources, invariant.kept,
      fun cfg channel previous frame rest stage =>
      let held := invariant.holding cfg channel previous frame rest stage
      ⟨held.found, held.positive, held.cursor, held.later, held.bounded⟩⟩
  cases event with
  | service event => exact service_keeps invariant event
  | recordSet enabled writable saved =>
      simp only [State.step]
      split
      · exact invariant
      split
      · exact invariant
      · exact switched _
  | patch recording => exact switched recording
  | look cfg now readings =>
      simp only [State.step]
      split
      · rename_i top
        exact look_keeps invariant top cfg now readings
      · exact invariant
  | read allocated =>
      simp only [State.step]
      split
      · rename_i scanning
        refine ⟨invariant.system, invariant.sources, fun channel => ?_, fun _ _ _ _ _ stage => ?_⟩
        · have kept := invariant.kept channel
          rwa [State.handled, scanning] at kept
        · cases stage
      · rename_i scanning
        exact read_keeps invariant scanning allocated
      · exact invariant
  | record answers =>
      simp only [State.step]
      split
      · rename_i reading
        exact record_keeps invariant reading answers clear
      · exact invariant
  | quit =>
      simp only [State.step]
      split
      · rename_i top
        exact quit_keeps invariant top
      · exact invariant

theorem Invariant.soundness {state : State} (invariant : Invariant state) : state.Sound :=
  fun channel => ⟨(invariant.kept channel).sound,
    (invariant.kept channel).ordered.imp Segment.Before.disjoint⟩

/-! ### Where the parameter sets come from -/

theorem Output.record_forall {Property : Segment → Prop} {output : Output} {app : App}
    {channel : Nat} {frame : Frame} {answers : Answers}
    (created : Property (Segment.create app channel answers))
    (appended : ∀ segment, Property segment → Property (segment.append frame answers.room))
    (holds : ∀ segment ∈ output.segments, Property segment) (cfg : Config) (previous : Nat) :
    ∀ segment ∈ (output.record app cfg channel previous frame answers).1.segments,
      Property segment := by
  have stored : ∀ output : Output, (∀ segment ∈ output.segments, Property segment) →
      ∀ segment ∈ (output.store app channel frame answers).1.segments, Property segment := by
    intro output holds
    have added : ∀ last, Property last →
        ∀ segment ∈ output.finished ++ [last], Property segment := by
      intro last new segment inside
      rcases List.mem_append.mp inside with old | here
      · exact holds segment (List.mem_append_left _ old)
      · rw [List.mem_singleton.mp here]
        exact new
    unfold Output.store
    split
    · rename_i segment current
      exact added _ (appended segment (holds segment (by simp [Output.segments, current])))
    split
    · exact holds
    split
    · exact holds
    split
    · exact added _ created
    · exact added _ (appended _ created)
  unfold Output.record
  split
  · split
    · rw [Output.finish_segments]
      exact holds
    · apply stored
      rw [Output.finish_segments]
      exact holds
  · apply stored
    rw [Output.rotate_segments]
    exact holds

theorem step_forall {Property : Nat → Segment → Prop} {state : State}
    (created : ∀ channel answers,
      Property channel (Segment.create state.system.app channel answers))
    (appended : ∀ channel segment frame room, Property channel segment →
      Property channel (segment.append frame room))
    (holds : ∀ channel, ∀ segment ∈ (state.files channel).segments, Property channel segment)
    (event : Event) :
    ∀ channel, ∀ segment ∈ ((state.step event).files channel).segments,
      Property channel segment := by
  have finished : ∀ files : Nat → Output,
      (∀ channel, ∀ segment ∈ (files channel).segments, Property channel segment) →
        ∀ channel, ∀ segment ∈ (finishAll files channel).segments, Property channel segment := by
    intro files holds channel
    rw [finishAll, Output.finish_segments]
    exact holds channel
  cases event with
  | service event => exact holds
  | recordSet enabled writable saved =>
      simp only [State.step]
      split
      · exact holds
      split
      · exact holds
      · exact holds
  | patch recording => exact holds
  | look cfg now readings =>
      simp only [State.step]
      split
      · unfold State.look
        split
        · exact finished state.files holds
        split
        · dsimp only
          split <;> exact retention_preserves finished _ _ holds
        · exact holds
      · exact holds
  | read allocated =>
      simp only [State.step]
      split
      · exact holds
      · unfold State.read
        split
        · exact holds
        · split <;> exact holds
      · exact holds
  | record answers =>
      simp only [State.step]
      split
      · rename_i cfg reading previous frame rest _
        intro channel
        simp only [State.record]
        by_cases here : channel = reading
        · subst here
          rw [Function.update_self]
          exact Output.record_forall (created channel answers)
            (fun segment => appended channel segment frame answers.room) (holds channel) cfg
            previous
        · rw [Function.update_of_ne here]
          exact holds channel
      · exact holds
  | quit =>
      simp only [State.step]
      split
      · exact finished state.files holds
      · exact holds

/-- The header of the segment is what the stream's parameter sets were at some moment
of the run. -/
def FromStream (recording : Bool) (events : List Event) (channel : Nat) (segment : Segment) :
    Prop :=
  ∃ earlier, earlier <+: events ∧
    segment.header = parameterSets (State.run recording earlier).system.app channel

theorem run_fromStream (recording : Bool) (events : List Event) :
    ∀ channel, ∀ segment ∈ ((State.run recording events).files channel).segments,
      FromStream recording events channel segment := by
  induction events using List.reverseRecOn with
  | nil =>
      intro channel segment inside
      exact (List.not_mem_nil inside).elim
  | append_singleton events event inductionHypothesis =>
      have step : State.run recording (events ++ [event]) =
          (State.run recording events).step event := by
        simp only [State.run, List.foldl_append, List.foldl_cons, List.foldl_nil]
      rw [step]
      refine step_forall ?_ ?_ ?_ event
      · intro channel answers
        exact ⟨events, List.prefix_append _ _, rfl⟩
      · intro channel segment frame room known
        exact known
      · intro channel segment inside
        obtain ⟨earlier, before, header⟩ := inductionHypothesis channel segment inside
        exact ⟨earlier, before.trans (List.prefix_append _ _), header⟩

theorem written_cut {pieces : List Piece}
    (written : ∀ piece ∈ pieces, piece.written <+: piece.frame.data)
    (entire : ∀ piece ∈ pieces.dropLast, piece.written = piece.frame.data) :
    pieces.flatMap Piece.written <+: (pieces.map Piece.frame).flatMap Frame.data := by
  induction pieces with
  | nil => exact List.prefix_rfl
  | cons piece rest inductionHypothesis =>
      cases rest with
      | nil => simpa using written piece (List.mem_singleton_self _)
      | cons next rest =>
          have same := entire piece List.mem_cons_self
          have onward := inductionHypothesis
            (fun other inside => written other (List.mem_cons_of_mem _ inside))
            (fun other inside => entire other (List.mem_cons_of_mem _ inside))
          rw [List.flatMap_cons, List.map_cons, List.flatMap_cons, same]
          exact (List.prefix_append_right_inj _).mpr onward

/-- The file is the parameter sets and the data of its frames, perhaps cut. -/
theorem Segment.Sound.content_cut {log : List Frame} {segment : Segment}
    (sound : segment.Sound log) :
    segment.content <+: segment.header.getD [] ++ segment.frames.flatMap Frame.data := by
  unfold Segment.content
  cases pieces : segment.pieces with
  | nil =>
      rw [List.flatMap_nil, List.append_nil]
      exact sound.started.trans (List.prefix_append _ _)
  | cons piece rest =>
      have begun : segment.header = some segment.start :=
        of_decide_eq_true (sound.begun (by simp [pieces]))
      rw [begun, Option.getD_some, ← pieces]
      exact (List.prefix_append_right_inj _).mpr
        (written_cut sound.written sound.entire)

/-- Every segment of the run begins with its stream's parameter sets and goes on with
consecutive frames from a keyframe on, cut at the end only, and no frame is in two. -/
def Recorded (recording : Bool) (events : List Event) : Prop :=
  (State.run recording events).Sound ∧
    ∀ channel, ∀ segment ∈ ((State.run recording events).files channel).segments,
      FromStream recording events channel segment ∧
        segment.content <+: segment.header.getD [] ++ segment.frames.flatMap Frame.data

/-! ### When the recorder slips -/

theorem resumed_unsound {segment : Segment} {log : List Frame} {frame : Frame} {room : Nat}
    (cut : segment.whole = false) : ¬(segment.append frame room).Sound log := by
  intro sound
  have begun : segment.begun = true := sound.begun (by simp [Segment.append])
  have entire : (segment.pieces.all fun piece => piece.written = piece.frame.data) = true := by
    apply List.all_eq_true.mpr
    intro piece inside
    apply decide_eq_true
    apply sound.entire piece
    rw [Segment.append, List.dropLast_concat]
    exact inside
  rw [Segment.whole, begun, entire] at cut
  cases cut

theorem begins_held {app : App} {channel : Nat} {frame : Frame} {answers : Answers}
    (started : begins app channel frame answers = true) :
    frame ∈ ((Segment.create app channel answers).append frame answers.room).held := by
  have written := of_decide_eq_true (Bool.and_eq_true_iff.mp started).2
  simp [Segment.held, Segment.append, Segment.create, written]

theorem Output.record_begins {output : Output} {app : App} {cfg : Config} {channel : Nat}
    {frame : Frame} {answers : Answers} (closed : output.current = none)
    (started : begins app channel frame answers = true) :
    output.record app cfg channel 0 frame answers =
      output.write (Segment.create app channel answers) frame answers.room := by
  simp only [begins, Bool.and_eq_true] at started
  obtain ⟨⟨⟨opening, created⟩, begun⟩, -⟩ := started
  have direct : missed 0 frame = false := rfl
  simp [Output.record, direct, Output.rotate, Output.store, closed, opening, created, begun]

theorem slip_unsound (state : State) (event : Event) (invariant : Invariant state)
    (slips : state.slips event = true) : ¬(state.step event).Sound := by
  intro sound
  cases event with
  | record answers =>
      simp only [State.slips] at slips
      split at slips
      · rename_i cfg channel previous frame rest reading
        have after := sound channel
        simp only [State.step, reading, State.record, Function.update_self] at after
        rcases (Bool.or_eq_true _ _).mp slips with resumed | repeated
        · obtain ⟨direct, broken⟩ := Bool.and_eq_true_iff.mp resumed
          rw [Bool.not_eq_true'] at direct
          cases current : ((state.files channel).rotate cfg channel frame answers.now).current with
          | none =>
              rw [current] at broken
              cases broken
          | some segment =>
              rw [current, Option.any_some, Bool.not_eq_true'] at broken
              refine resumed_unsound broken (after.1 (segment.append frame answers.room) ?_)
              simp [Output.record, direct, Output.store, current, Output.write, Output.segments]
        · simp only [Output.repeats, Bool.and_eq_true, decide_eq_true_eq] at repeated
          obtain ⟨⟨rfl, started⟩, seen⟩ := repeated
          obtain ⟨segment, inside, holds⟩ := List.any_eq_true.mp seen
          have closed : (state.files channel).current = none := by
            have kept := invariant.kept channel
            simp only [State.handled, reading, if_true] at kept
            exact Option.not_isSome_iff_eq_none.mp fun some => kept.reading some rfl
          rw [Output.record_begins closed started] at after
          simp only [Output.segments, closed, Option.toList_none, List.append_nil] at inside
          have apart := (List.pairwise_append.mp after.2).2.2 segment inside _
            (List.mem_singleton_self _)
          exact apart frame (List.contains_iff_mem.mp holds) (begins_held started)
      · cases slips
  | _ => cases slips

/-- In every run, the segments are as promised at every moment exactly when no step
slips. -/
theorem recorded_iff_no_slip (recording : Bool) (events : List Event) :
    (∀ earlier, earlier <+: events → Recorded recording earlier) ↔
      ∀ earlier event, earlier ++ [event] <+: events →
        (State.run recording earlier).slips event = false := by
  have sound := prefixes_iff (fun state => Invariant.soundness) step_keeps slip_unsound events
    (initial_invariant recording)
  refine Iff.trans ?_ sound
  refine forall₂_congr fun earlier _ => and_iff_left_of_imp fun sound channel segment inside => ?_
  exact ⟨run_fromStream recording earlier channel segment inside,
    ((sound channel).1 segment inside).content_cut⟩

/-- One whole publishing call of the main stream. -/
def publishMain (index : Nat) (data : Bytes) : List Event :=
  [.service (.video 0 false data 0 false), .service (.advance index true),
    .service (.advance index true), .service (.advance index true)]

/-- An access unit with both parameter sets and an IDR. -/
def keyUnit : Bytes := [0, 0, 1, 0x67, 1, 0, 0, 1, 0x68, 2, 0, 0, 1, 0x65, 3]

/-- The recorder's pass over the streams, of which only the main one is recorded. -/
def pass (room : Nat) : List Event :=
  [.look ⟨1, true, false, 1024, 60⟩ 0 [], .read true, .record ⟨0, "", 0, true, 100, room⟩] ++
    List.replicate 5 (.read true)

/-- The switch is turned on after a failed write and before the recorder looks at it. -/
def resumedRun : List Event :=
  publishMain 0 keyUnit ++ pass 100 ++ publishMain 1 [0, 0, 1, 0x41, 7] ++ pass 2 ++
    [.recordSet 1 true true] ++ publishMain 2 [0, 0, 1, 0x41, 8] ++ pass 100

/-- The switch is turned off and on while no frame is published. -/
def repeatedRun : List Event :=
  publishMain 0 keyUnit ++ pass 100 ++ [.recordSet 0 true true] ++ pass 100 ++
    [.recordSet 1 true true] ++ pass 100

/-- A frame follows a cut one in its segment, and a frame is in two segments. -/
theorem segment_resumed_and_frame_repeated :
    ¬Recorded true resumedRun ∧ ¬Recorded true repeatedRun := by
  constructor
  · intro recorded
    have cut : (((State.run true resumedRun).files 0).segments.any fun segment =>
        segment.pieces.dropLast.any fun piece => piece.written ≠ piece.frame.data) = true := by
      decide +kernel
    obtain ⟨segment, inside, broken⟩ := List.any_eq_true.mp cut
    obtain ⟨piece, early, unequal⟩ := List.any_eq_true.mp broken
    exact of_decide_eq_true unequal (((recorded.1 0).1 segment inside).entire piece early)
  · intro recorded
    have held : (((State.run true repeatedRun).files 0).segments.map Segment.held) =
        [[⟨keyUnit, 0, 1, true, .h264⟩], [⟨keyUnit, 0, 1, true, .h264⟩]] := by
      decide +kernel
    have apart : (((State.run true repeatedRun).files 0).segments.map Segment.held).Pairwise
        fun first second => ∀ frame ∈ first, frame ∉ second :=
      List.pairwise_map.mpr (recorded.1 0).2
    rw [held] at apart
    simp at apart

end JooanW3U.Media.Recorder
