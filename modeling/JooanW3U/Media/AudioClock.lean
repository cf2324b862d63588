import JooanW3U.Media.RtpVideo
import Mathlib.Data.List.Chain

/-!
Owns the audio clock of `audio.c`, the stamping of captured frames in `mic_main`, and
the RTP timestamps of audio: `media_timestamp` in its 64-bit arithmetic and
`audio_frame`. Main result: while no stamp reports a discontinuity, every audio packet
begins where the one before it ends.

Does not own the capture itself, nor the frames that a publisher fails to pass on.
-/

namespace JooanW3U.Media.AudioClock

open JooanW3U.Library JooanW3U.Media.RtpVideo

/-! ### The clock -/

/-- `jipc_audio_clock`. -/
structure Clock where
  anchor_us : UInt64
  samples : UInt64
  rate : UInt32
  started : Bool
deriving Repr, DecidableEq

/-- `jipc_audio_clock_init`. -/
def clock_init (rate : UInt32) : Clock :=
  ⟨0, 0, if rate ≠ 0 then rate else 8000, false⟩

def samples_us (samples : UInt64) (rate : UInt32) : UInt64 :=
  samples / rate.toUInt64 * 1000000 + samples % rate.toUInt64 * 1000000 / rate.toUInt64

/-- Where the next frame would end. -/
def Clock.finish (clock : Clock) (samples : UInt32) : UInt64 :=
  clock.anchor_us + samples_us (clock.samples + samples.toUInt64) clock.rate

/-- `jipc_audio_clock_ahead`. -/
def ahead (clock : Clock) (now_us : UInt64) (samples : UInt32) : Bool :=
  clock.started && clock.finish samples > now_us + 150000

/-- What `jipc_audio_clock_stamp` returns, with the flag it writes. -/
structure Stamp where
  pts_us : UInt64
  discontinuity : Bool
deriving Repr, DecidableEq

/-- A new anchor, from which the frame would end now. -/
def Clock.restart (clock : Clock) (now_us : UInt64) (samples : UInt32) : Clock :=
  let duration := samples_us samples.toUInt64 clock.rate
  { clock with
    anchor_us := if now_us > duration then now_us - duration else 0
    samples := 0
    started := true }

/-- `jipc_audio_clock_stamp`. -/
def stamp (clock : Clock) (now_us : UInt64) (samples : UInt32) : Stamp × Clock :=
  let restart := !clock.started || now_us > clock.finish samples + 150000
  let clock := if restart then clock.restart now_us samples else clock
  (⟨clock.anchor_us + samples_us clock.samples clock.rate, restart⟩,
    { clock with samples := clock.samples + samples.toUInt64 })

/-! ### Capture -/

/-- The latest reading of the monotonic clock; the kernel keeps it in signed 64-bit
nanoseconds, so every reading in microseconds is below. -/
def TIME_MAX : Nat := 9223372036854775808

/-- A frame of PCMA as `mic_main` has it, one byte a sample, and the time it is stamped
with: the time of its capture, or the end of a frame of silence that bridges a gap. -/
structure Capture where
  now_us : UInt64
  encoded : Bytes
  reading : now_us.toNat < TIME_MAX
  counted : encoded.length < 4294967296

def Capture.samples (capture : Capture) : UInt32 := UInt32.ofNat capture.encoded.length

/-- A published frame. -/
structure AudioFrame where
  data : Bytes
  stamp : Stamp
deriving Repr, DecidableEq

/-- `mic_main` with a captured frame: one that is ahead is dropped. -/
def publish (clock : Clock) (capture : Capture) : Option AudioFrame × Clock :=
  if ahead clock capture.now_us capture.samples then (none, clock)
  else
    let (stamp, clock) := stamp clock capture.now_us capture.samples
    (some ⟨capture.encoded, stamp⟩, clock)

/-- The frames that are published, in their order. -/
def published : Clock → List Capture → List AudioFrame × Clock
  | clock, [] => ([], clock)
  | clock, capture :: captures =>
      let (frame, clock) := publish clock capture
      let (frames, clock) := published clock captures
      (frame.toList ++ frames, clock)

/-! ### RTP -/

/-- What `media_timestamp` adds to the base of the track. -/
def media_ticks (pts_us : UInt64) (rate : UInt32) : UInt64 :=
  pts_us / 1000000 * rate.toUInt64 + pts_us % 1000000 * rate.toUInt64 / 1000000

def media_timestamp (track : Track) (pts_us : UInt64) (rate : UInt32) : UInt32 :=
  track.timestampBase + (media_ticks pts_us rate).toUInt32

/-- The loop of `audio_frame`, over the bytes from its offset on. -/
def audio_loop (link : Link) (timestamp : UInt32) (offset : Nat) (rest : Bytes) (track : Track) :
    Option Track :=
  if _more : rest = [] then some track
  else
    let size := min rest.length rtpPayloadMax
    match track.rtp link 8 (timestamp + UInt32.ofNat offset) false (rest.take size) with
    | none => none
    | some track => audio_loop link timestamp (offset + size) (rest.drop size) track
termination_by rest.length
decreasing_by
  have nonempty := List.length_pos_iff.mpr _more
  rw [List.length_drop]
  simp only [rtpPayloadMax]
  omega

def audio_frame (link : Link) (track : Track) (frame : AudioFrame) : Option Track :=
  audio_loop link (media_timestamp track frame.stamp.pts_us 8000) 0 frame.data track

def audio_frames (link : Link) : List AudioFrame → Track → Option Track
  | [], track => some track
  | frame :: frames, track => (audio_frame link track frame).bind (audio_frames link frames)

/-! ### The timeline -/

/-- The end of what has been stamped, when nothing wraps. -/
def Clock.end_us (clock : Clock) : Nat := clock.anchor_us.toNat + 125 * clock.samples.toNat

/-- A clock of 8000 samples a second that no stamp has brought near 2^64. -/
structure Sound (clock : Clock) : Prop where
  rate : clock.rate = 8000
  bounded : clock.started = true → clock.end_us ≤ TIME_MAX + 600000000000

theorem samples_us_toNat {samples : UInt64} (few : samples.toNat < 100000000000000000) :
    (samples_us samples 8000).toNat = 125 * samples.toNat := by
  unfold samples_us
  have rate : (8000 : UInt32).toUInt64.toNat = 8000 := by decide
  have seconds : samples.toNat / 8000 * 1000000 % 2 ^ 64 = samples.toNat / 8000 * 1000000 :=
    Nat.mod_eq_of_lt (by omega)
  have rest : samples.toNat % 8000 * 1000000 % 2 ^ 64 = samples.toNat % 8000 * 1000000 :=
    Nat.mod_eq_of_lt (by omega)
  simp only [UInt64.toNat_add, UInt64.toNat_mul, UInt64.toNat_div, UInt64.toNat_mod, rate,
    UInt64.reduceToNat, seconds, rest]
  rw [Nat.mod_eq_of_lt (by omega)]
  omega

theorem Sound.finish_toNat {clock : Clock} (sound : Sound clock) (started : clock.started = true)
    (samples : UInt32) :
    (clock.finish samples).toNat = clock.end_us + 125 * samples.toNat := by
  have bounded := sound.bounded started
  have width := samples.toNat_lt
  unfold Clock.end_us TIME_MAX at bounded
  have total : (clock.samples + samples.toUInt64).toNat = clock.samples.toNat + samples.toNat := by
    rw [UInt64.toNat_add, UInt32.toNat_toUInt64]
    omega
  have lasted : (samples_us (clock.samples + samples.toUInt64) clock.rate).toNat =
      125 * (clock.samples.toNat + samples.toNat) := by
    rw [sound.rate, samples_us_toNat (by omega), total]
  unfold Clock.finish Clock.end_us
  rw [UInt64.toNat_add, lasted]
  omega

/-- Silence that goes on where the published frames end is not ahead of its own end. -/
theorem fill_current {clock : Clock} (sound : Sound clock) {published_until : UInt64}
    (ends : clock.end_us = published_until.toNat)
    (reading : published_until.toNat + 40000 < TIME_MAX) :
    ahead clock (published_until + 40000) 320 = false := by
  unfold TIME_MAX at reading
  have later : (published_until + 40000).toNat = published_until.toNat + 40000 := by
    simp only [UInt64.toNat_add, UInt64.reduceToNat]
    omega
  cases started : clock.started with
  | false => simp [ahead, started]
  | true =>
      have finish := sound.finish_toNat started 320
      have length : (320 : UInt32).toNat = 320 := by decide
      have within : clock.finish 320 ≤ published_until + 40000 + 150000 := by
        rw [UInt64.le_iff_toNat_le, finish, ends, length, UInt64.toNat_add, later]
        simp only [UInt64.reduceToNat]
        omega
      simp [ahead, started, UInt64.not_lt.mpr within]

theorem init_sound : Sound (clock_init 8000) :=
  ⟨rfl, fun started => absurd started Bool.false_ne_true⟩

theorem samples_us_frame (samples : UInt32) :
    (samples_us samples.toUInt64 8000).toNat = 125 * samples.toNat := by
  have width := samples.toNat_lt
  rw [samples_us_toNat (by rw [UInt32.toNat_toUInt64]; omega), UInt32.toNat_toUInt64]

theorem restart_end {clock : Clock} (rate : clock.rate = 8000) (now_us : UInt64)
    (samples : UInt32) :
    (clock.restart now_us samples).end_us + 125 * samples.toNat ≤
      now_us.toNat + 600000000000 := by
  have width := samples.toNat_lt
  have lasts := samples_us_frame samples
  unfold Clock.restart Clock.end_us
  rw [rate]
  by_cases later : now_us > samples_us samples.toUInt64 8000
  · have order : samples_us samples.toUInt64 8000 ≤ now_us := UInt64.le_of_lt later
    simp only [if_pos later, UInt64.toNat_sub_of_le _ _ order, UInt64.toNat_zero]
    omega
  · simp only [if_neg later, UInt64.toNat_zero]
    omega

/-- A frame begins at the end of a clock that is far from 2^64, and moves it by its length. -/
theorem counted_end {clock : Clock} (rate : clock.rate = 8000) (samples : UInt32)
    (far : clock.end_us + 125 * samples.toNat ≤ TIME_MAX + 600000000000) :
    (clock.anchor_us + samples_us clock.samples clock.rate).toNat = clock.end_us ∧
      ({ clock with samples := clock.samples + samples.toUInt64 } : Clock).end_us =
        clock.end_us + 125 * samples.toNat := by
  have width := samples.toNat_lt
  unfold Clock.end_us TIME_MAX at far
  have lasted : (samples_us clock.samples clock.rate).toNat = 125 * clock.samples.toNat := by
    rw [rate, samples_us_toNat (by omega)]
  have total : (clock.samples + samples.toUInt64).toNat = clock.samples.toNat + samples.toNat := by
    rw [UInt64.toNat_add, UInt32.toNat_toUInt64]
    omega
  constructor
  · unfold Clock.end_us
    rw [UInt64.toNat_add, lasted]
    omega
  · simp only [Clock.end_us, total]
    omega

theorem restart_rate {clock : Clock} (rate : clock.rate = 8000) (now_us : UInt64)
    (samples : UInt32) : (clock.restart now_us samples).rate = 8000 := by
  cases clock with
  | mk anchor_us counted rated started => exact rate

/-- What a stamp of a frame that is not ahead leaves: the frame begins where the one
before ended unless it reports a discontinuity, and the clock goes to its end. -/
theorem stamp_spec {clock : Clock} (sound : Sound clock) {now_us : UInt64} {samples : UInt32}
    (reading : now_us.toNat < TIME_MAX) (current : ahead clock now_us samples = false) :
    Sound (stamp clock now_us samples).2 ∧ (stamp clock now_us samples).2.started = true ∧
      (stamp clock now_us samples).2.end_us =
        (stamp clock now_us samples).1.pts_us.toNat + 125 * samples.toNat ∧
      ((stamp clock now_us samples).1.discontinuity = false →
        clock.started = true ∧ (stamp clock now_us samples).1.pts_us.toNat = clock.end_us) := by
  by_cases restart : (!clock.started || now_us > clock.finish samples + 150000) = true
  · have bounded := restart_end sound.rate now_us samples
    have rate := restart_rate sound.rate now_us samples
    have far : (clock.restart now_us samples).end_us + 125 * samples.toNat ≤
        TIME_MAX + 600000000000 := by omega
    have counted := @counted_end (clock.restart now_us samples) rate samples far
    simp only [stamp, restart, if_true]
    refine ⟨⟨rate, fun _ => ?_⟩, rfl, ?_, fun quiet => absurd quiet (by decide)⟩
    · rw [counted.2]
      exact far
    · rw [counted.2, counted.1]
  · have going : clock.started = true ∧ ¬now_us > clock.finish samples + 150000 := by
      simpa using restart
    have ends := sound.finish_toNat going.1 samples
    have far : clock.end_us + 125 * samples.toNat ≤ TIME_MAX + 600000000000 := by
      have within : ¬clock.finish samples > now_us + 150000 := by
        simpa [ahead, going.1] using current
      have order : (clock.finish samples).toNat ≤ (now_us + 150000).toNat :=
        UInt64.le_iff_toNat_le.mp (UInt64.not_lt.mp within)
      rw [ends, UInt64.toNat_add] at order
      have sum : (now_us.toNat + (150000 : UInt64).toNat) % 2 ^ 64 ≤ now_us.toNat + 150000 :=
        Nat.mod_le _ _
      omega
    have counted := counted_end sound.rate samples far
    simp only [stamp, restart, if_false, Bool.false_eq_true]
    refine ⟨⟨sound.rate, fun _ => ?_⟩, going.1, ?_, fun _ => ⟨going.1, counted.1⟩⟩
    · rw [counted.2]
      exact far
    · rw [counted.2, counted.1]

/-- A frame that begins where another ends. -/
def Follows (earlier later : AudioFrame) : Prop :=
  later.stamp.pts_us.toNat = earlier.stamp.pts_us.toNat + 125 * earlier.data.length

theorem Capture.samples_toNat (capture : Capture) :
    capture.samples.toNat = capture.encoded.length := by
  have counted := capture.counted
  unfold Capture.samples
  rw [UInt32.toNat_ofNat']
  omega

theorem publish_sound {clock : Clock} (sound : Sound clock) (capture : Capture) :
    Sound (publish clock capture).2 := by
  unfold publish
  cases current : ahead clock capture.now_us capture.samples with
  | true => exact sound
  | false => exact (stamp_spec sound capture.reading current).1

theorem published_sound {clock : Clock} (sound : Sound clock) (captures : List Capture) :
    Sound (published clock captures).2 := by
  induction captures generalizing clock with
  | nil => exact sound
  | cons capture captures inductionHypothesis =>
      exact inductionHypothesis (publish_sound sound capture)

/-- Frames published after another one that the clock ends with follow each other. -/
theorem published_follows {clock : Clock} (sound : Sound clock) (captures : List Capture)
    (quiet : ∀ frame ∈ (published clock captures).1, frame.stamp.discontinuity = false)
    {last : AudioFrame}
    (ends : clock.end_us = last.stamp.pts_us.toNat + 125 * last.data.length) :
    List.IsChain Follows (last :: (published clock captures).1) := by
  induction captures generalizing clock last with
  | nil => exact List.isChain_singleton last
  | cons capture captures inductionHypothesis =>
      unfold published publish at quiet ⊢
      cases current : ahead clock capture.now_us capture.samples with
      | true =>
          simp only [current, if_true, Option.toList_none, List.nil_append] at quiet ⊢
          exact inductionHypothesis sound quiet ends
      | false =>
          obtain ⟨next, started, counted, begins⟩ := stamp_spec sound capture.reading current
          simp only [current, if_false, Bool.false_eq_true, Option.toList_some,
            List.cons_append, List.nil_append, List.mem_cons, forall_eq_or_imp] at quiet ⊢
          rw [capture.samples_toNat] at counted
          refine List.isChain_cons_cons.mpr ⟨?_, inductionHypothesis next quiet.2 counted⟩
          show (stamp clock capture.now_us capture.samples).1.pts_us.toNat = _
          rw [(begins quiet.1).2, ends]

/-- From any clock, frames of which only the first may report a discontinuity. -/
theorem published_chain {clock : Clock} (sound : Sound clock) (captures : List Capture)
    (quiet : ∀ frame ∈ (published clock captures).1.tail, frame.stamp.discontinuity = false) :
    List.IsChain Follows (published clock captures).1 := by
  induction captures generalizing clock with
  | nil => exact List.isChain_nil
  | cons capture captures inductionHypothesis =>
      unfold published publish at quiet ⊢
      cases current : ahead clock capture.now_us capture.samples with
      | true =>
          simp only [current, if_true, Option.toList_none, List.nil_append] at quiet ⊢
          exact inductionHypothesis sound quiet
      | false =>
          obtain ⟨next, started, counted, -⟩ := stamp_spec sound capture.reading current
          rw [capture.samples_toNat] at counted
          simp only [current, if_false, Bool.false_eq_true, Option.toList_some,
            List.cons_append, List.nil_append, List.tail_cons] at quiet ⊢
          exact published_follows next captures quiet counted

/-! ### Timestamps -/

/-- Whole seconds and the rest, counted apart. -/
theorem ticks_split (pts rate : Nat) :
    pts / 1000000 * rate + pts % 1000000 * rate / 1000000 = pts * rate / 1000000 := by
  have whole : pts * rate = 1000000 * (pts / 1000000 * rate) + pts % 1000000 * rate := by
    calc pts * rate = (1000000 * (pts / 1000000) + pts % 1000000) * rate := by
          rw [Nat.div_add_mod]
      _ = 1000000 * (pts / 1000000 * rate) + pts % 1000000 * rate := by
          rw [Nat.add_mul, Nat.mul_assoc]
  rw [whole, Nat.mul_add_div (by decide)]

/-- No step of `media_timestamp` overflows, for any time and any rate up to a tick a
microsecond. -/
theorem media_ticks_exact (pts_us : UInt64) {rate : UInt32} (slow : rate.toNat ≤ 1000000) :
    (pts_us / 1000000).toNat * rate.toNat < 2 ^ 64 ∧
      (pts_us % 1000000).toNat * rate.toNat < 2 ^ 64 ∧
      (media_ticks pts_us rate).toNat = pts_us.toNat * rate.toNat / 1000000 := by
  have width := pts_us.toNat_lt
  have total : pts_us.toNat * rate.toNat / 1000000 < 2 ^ 64 := by
    have atMost : pts_us.toNat * rate.toNat ≤ pts_us.toNat * 1000000 :=
      Nat.mul_le_mul_left _ slow
    omega
  have split := ticks_split pts_us.toNat rate.toNat
  have rest : pts_us.toNat % 1000000 * rate.toNat ≤ 1000000 * 1000000 :=
    Nat.mul_le_mul (Nat.le_of_lt (Nat.mod_lt _ (by decide))) slow
  have seconds : (pts_us / 1000000).toNat = pts_us.toNat / 1000000 := UInt64.toNat_div ..
  have fraction : (pts_us % 1000000).toNat = pts_us.toNat % 1000000 := UInt64.toNat_mod ..
  rw [seconds, fraction]
  refine ⟨by omega, by omega, ?_⟩
  unfold media_ticks
  simp only [UInt64.toNat_add, UInt64.toNat_mul, UInt64.toNat_div, UInt64.toNat_mod,
    UInt32.toNat_toUInt64, UInt64.reduceToNat]
  rw [@Nat.mod_eq_of_lt (pts_us.toNat / 1000000 * rate.toNat) _ (by omega),
    @Nat.mod_eq_of_lt (pts_us.toNat % 1000000 * rate.toNat) _ (by omega), split,
    Nat.mod_eq_of_lt total]

theorem media_timestamp_eq (track : Track) (pts_us : UInt64) {rate : UInt32}
    (slow : rate.toNat ≤ 1000000) :
    media_timestamp track pts_us rate =
      track.timestampBase + UInt32.ofNat (pts_us.toNat * rate.toNat / 1000000) := by
  unfold media_timestamp
  congr 1
  apply UInt32.toNat_inj.mp
  rw [UInt64.toNat_toUInt32, (media_ticks_exact pts_us slow).2.2, UInt32.toNat_ofNat']

/-- The timestamp of the packets of video. -/
theorem mediaTimestamp_eq (track : Track) (pts_us : UInt64) :
    track.mediaTimestamp pts_us.toNat 90000 = media_timestamp track pts_us 90000 := by
  rw [media_timestamp_eq track pts_us (by decide), Track.mediaTimestamp, ticks_split]
  rfl

/-- The packets of these payloads, each of which begins where the one before ends. -/
def packetsAt (ssrc : UInt32) : UInt16 → UInt32 → List Bytes → List RtpH264.Packet
  | _, _, [] => []
  | sequence, timestamp, payload :: rest =>
      ⟨8, false, sequence, timestamp, ssrc, payload⟩ ::
        packetsAt ssrc (sequence + 1) (timestamp + UInt32.ofNat payload.length) rest

theorem packetsAt_append (ssrc : UInt32) (sequence : UInt16) (timestamp : UInt32)
    (early late : List Bytes) :
    packetsAt ssrc sequence timestamp (early ++ late) =
      packetsAt ssrc sequence timestamp early ++
        packetsAt ssrc (sequence + UInt16.ofNat early.length)
          (timestamp + UInt32.ofNat early.flatten.length) late := by
  induction early generalizing sequence timestamp with
  | nil => simp [packetsAt]
  | cons payload early inductionHypothesis =>
      have order : sequence + 1 + UInt16.ofNat early.length =
          sequence + UInt16.ofNat (early.length + 1) := by
        rw [UInt16.ofNat_add, UInt16.add_assoc, UInt16.add_comm 1]
        rfl
      have time : timestamp + UInt32.ofNat payload.length + UInt32.ofNat early.flatten.length =
          timestamp + UInt32.ofNat (payload :: early).flatten.length := by
        rw [List.flatten_cons, List.length_append, UInt32.ofNat_add, UInt32.add_assoc]
      simp only [List.cons_append, packetsAt, inductionHypothesis, List.length_cons, order, time]

/-- `after` is `track` with the packets of these payloads sent, from a timestamp on. -/
structure Carries (timestamp : UInt32) (track after : Track) (payloads : List Bytes) : Prop where
  sent : after.sent =
    track.sent ++ (packetsAt track.ssrc track.sequence timestamp payloads).map RtpH264.Packet.bytes
  sequence : after.sequence = track.sequence + UInt16.ofNat payloads.length
  ssrc : after.ssrc = track.ssrc
  timestampBase : after.timestampBase = track.timestampBase

theorem carries_none (timestamp : UInt32) (track : Track) : Carries timestamp track track [] where
  sent := by simp [packetsAt]
  sequence := by simp
  ssrc := rfl
  timestampBase := rfl

theorem Carries.trans {timestamp : UInt32} {track middle after : Track} {early late : List Bytes}
    (first : Carries timestamp track middle early)
    (second : Carries (timestamp + UInt32.ofNat early.flatten.length) middle after late) :
    Carries timestamp track after (early ++ late) where
  sent := by
    rw [second.sent, first.sent, first.sequence, first.ssrc, packetsAt_append, List.map_append,
      List.append_assoc]
  sequence := by
    rw [second.sequence, first.sequence, List.length_append, UInt16.ofNat_add, UInt16.add_assoc]
  ssrc := second.ssrc.trans first.ssrc
  timestampBase := second.timestampBase.trans first.timestampBase

theorem rtp_carries {link : Link} {track after : Track} {timestamp : UInt32} {payload : Bytes}
    (sent : track.rtp link 8 timestamp false payload = some after) :
    Carries timestamp track after [payload] := by
  unfold Track.rtp at sent
  split at sent
  · cases sent
  · simp only at sent
    split at sent
    · cases sent
    · cases sent
      refine ⟨?_, rfl, rfl, rfl⟩
      simp [packetsAt, RtpH264.Packet.bytes]

theorem audio_loop_carries {link : Link} {timestamp : UInt32} {offset : Nat} {rest : Bytes}
    {track after : Track} (sent : audio_loop link timestamp offset rest track = some after) :
    ∃ payloads, payloads.flatten = rest ∧
      Carries (timestamp + UInt32.ofNat offset) track after payloads := by
  fun_induction audio_loop link timestamp offset rest track with
  | case1 offset track =>
      cases sent
      exact ⟨[], rfl, carries_none _ _⟩
  | case2 => cases sent
  | case3 offset rest track more size middle first inductionHypothesis =>
      obtain ⟨payloads, whole, carried⟩ := inductionHypothesis sent
      refine ⟨rest.take size :: payloads, ?_, ?_⟩
      · rw [List.flatten_cons, whole, List.take_append_drop]
      · have length : (rest.take size).length = size :=
          List.length_take_of_le (Nat.min_le_left _ _)
        refine (rtp_carries first).trans ?_
        rw [List.flatten_singleton, length, UInt32.add_assoc, ← UInt32.ofNat_add]
        exact carried

theorem audio_frame_carries {link : Link} {frame : AudioFrame} {track after : Track}
    (sent : audio_frame link track frame = some after) :
    ∃ payloads, payloads.flatten = frame.data ∧
      Carries (media_timestamp track frame.stamp.pts_us 8000) track after payloads := by
  have start : media_timestamp track frame.stamp.pts_us 8000 + UInt32.ofNat 0 =
      media_timestamp track frame.stamp.pts_us 8000 := UInt32.add_zero _
  have carried := audio_loop_carries sent
  rwa [start] at carried

/-- The tick of a time that is a whole number of samples past another one. The two
roundings agree, since a sample lasts a whole number of microseconds. -/
theorem audio_timestamp_follows (track : Track) {earlier later : AudioFrame}
    (follows : Follows earlier later) :
    media_timestamp track later.stamp.pts_us 8000 =
      media_timestamp track earlier.stamp.pts_us 8000 + UInt32.ofNat earlier.data.length := by
  have rate : (8000 : UInt32).toNat = 8000 := by decide
  have ticks : later.stamp.pts_us.toNat * 8000 / 1000000 =
      earlier.stamp.pts_us.toNat * 8000 / 1000000 + earlier.data.length := by
    rw [follows]
    omega
  rw [media_timestamp_eq track _ (by decide), media_timestamp_eq track _ (by decide), rate, ticks,
    UInt32.ofNat_add, UInt32.add_assoc]

/-- Frames that follow each other are carried as one stream of samples. -/
theorem audio_frames_carry {link : Link} {frame : AudioFrame} {frames : List AudioFrame}
    {track after : Track} (chain : List.IsChain Follows (frame :: frames))
    (sent : audio_frames link (frame :: frames) track = some after) :
    ∃ payloads, payloads.flatten = ((frame :: frames).map AudioFrame.data).flatten ∧
      Carries (media_timestamp track frame.stamp.pts_us 8000) track after payloads := by
  induction frames generalizing frame track with
  | nil =>
      unfold audio_frames at sent
      obtain ⟨middle, first, rest⟩ := Option.bind_eq_some_iff.mp sent
      obtain ⟨payloads, whole, carried⟩ := audio_frame_carries first
      cases rest
      exact ⟨payloads, by simpa using whole, carried⟩
  | cons next frames inductionHypothesis =>
      unfold audio_frames at sent
      obtain ⟨middle, first, rest⟩ := Option.bind_eq_some_iff.mp sent
      obtain ⟨early, earlyWhole, earlyCarried⟩ := audio_frame_carries first
      have steps := List.isChain_cons_cons.mp chain
      obtain ⟨late, lateWhole, lateCarried⟩ := inductionHypothesis steps.2 rest
      refine ⟨early ++ late, ?_, earlyCarried.trans ?_⟩
      · rw [List.flatten_append, earlyWhole, lateWhole]
        rfl
      · have base : media_timestamp middle next.stamp.pts_us 8000 =
            media_timestamp track next.stamp.pts_us 8000 := by
          unfold media_timestamp
          rw [earlyCarried.timestampBase]
        rw [earlyWhole, ← audio_timestamp_follows track steps.1, ← base]
        exact lateCarried

/-- The times a clock of 8000 samples a second stamps become timestamps that advance by
the samples sent, from wherever earlier frames have left the clock and the track; and no
time of a video frame overflows on its way to its timestamp. -/
theorem timestamps_advance_by_samples :
    (∀ (earlier captures : List Capture) (link : Link) (track after : Track),
      let clock := (published (clock_init 8000) earlier).2
      let frames := (published clock captures).1
      (∀ frame ∈ frames.tail, frame.stamp.discontinuity = false) →
      audio_frames link frames track = some after →
      ∃ (first : UInt32) (payloads : List Bytes),
        (∀ frame ∈ frames.head?, first = media_timestamp track frame.stamp.pts_us 8000) ∧
        payloads.flatten = (frames.map AudioFrame.data).flatten ∧
        after.sent = track.sent ++
          (packetsAt track.ssrc track.sequence first payloads).map RtpH264.Packet.bytes) ∧
    ∀ (track : Track) (pts_us : UInt64),
      (pts_us / 1000000).toNat * 90000 < 2 ^ 64 ∧ (pts_us % 1000000).toNat * 90000 < 2 ^ 64 ∧
      (pts_us / 1000000).toNat * 90000 + (pts_us % 1000000).toNat * 90000 / 1000000 < 2 ^ 64 ∧
      media_timestamp track pts_us 90000 =
        track.timestampBase + UInt32.ofNat (pts_us.toNat * 90000 / 1000000) := by
  constructor
  · intro earlier captures link track after clock frames quiet sent
    have chain : List.IsChain Follows frames :=
      published_chain (published_sound init_sound earlier) captures quiet
    cases published : frames with
    | nil =>
        rw [published] at sent
        cases sent
        exact ⟨0, [], by simp, rfl, by simp [packetsAt]⟩
    | cons frame rest =>
        rw [published] at sent chain
        obtain ⟨payloads, whole, carried⟩ := audio_frames_carry chain sent
        exact ⟨_, payloads, by simp, whole, carried.sent⟩
  · intro track pts_us
    have rate : (90000 : UInt32).toNat = 90000 := by decide
    have exact_ticks := media_ticks_exact pts_us (show (90000 : UInt32).toNat ≤ 1000000 by decide)
    have stamped := media_timestamp_eq track pts_us (show (90000 : UInt32).toNat ≤ 1000000 by decide)
    have width := pts_us.toNat_lt
    have seconds : (pts_us / 1000000).toNat = pts_us.toNat / 1000000 := UInt64.toNat_div ..
    have fraction : (pts_us % 1000000).toNat = pts_us.toNat % 1000000 := UInt64.toNat_mod ..
    rw [rate] at exact_ticks stamped
    refine ⟨exact_ticks.1, exact_ticks.2.1, ?_, stamped⟩
    rw [seconds, fraction]
    omega

/-- The base of a track is no part of the time. -/
theorem timestamp_has_base :
    ∃ (track : Track) (pts_us : UInt64),
      media_timestamp track pts_us 90000 ≠ UInt32.ofNat (pts_us.toNat * 90000 / 1000000) :=
  ⟨⟨0, 0, 1, 0, 0, []⟩, 0, by decide⟩

end JooanW3U.Media.AudioClock
