import JooanW3U.Library.Runs
import JooanW3U.Media.AudioClock

/-!
Owns the microphone thread over its audio clock: captured frames with the check that
drops what is ahead, stamps without it, and the silence that bridges a gap. Main result:
stamped frames never overlap, and a checked one ends within 150 ms of its time.

Owns one opening of the device. Does not own the SDK's calls or the encoding.
-/

namespace JooanW3U.Media.AudioClock

open JooanW3U.Library

inductive FrameKind
  /-- It has passed `jipc_audio_clock_ahead`. -/
  | captured
  | unchecked
  /-- Silence that bridges a gap. -/
  | silence
deriving Repr, DecidableEq

/-- A frame that was stamped, and the time when it was. -/
structure Stamped where
  pts_us : UInt64
  samples : UInt32
  now_us : UInt64
  kind : FrameKind
deriving Repr, DecidableEq

def Stamped.finish (frame : Stamped) : Nat := frame.pts_us.toNat + 125 * frame.samples.toNat

/-- The locals of `mic_main`; `frames` are those stamped so far, which nothing reads. -/
structure Mic where
  clock : Clock
  published_until : UInt64
  frames : List Stamped

/-- The state of a device that was just opened. -/
def mic_opened : Mic := ⟨clock_init 8000, 0, []⟩

/-- A valid frame: `samples && samples <= sizeof encoded`. -/
structure Sampled where
  samples : UInt32
  some : 0 < samples.toNat
  few : samples.toNat ≤ 2048

/-- A clock reading. -/
structure Reading where
  now_us : UInt64
  reading : now_us.toNat < TIME_MAX

inductive MicEvent
  /-- A captured frame, and whether it is published. -/
  | capture (now : Reading) (frame : Sampled) (published : Bool)
  /-- A stamp without a check. -/
  | stamp (now : Reading) (frame : Sampled) (published : Bool)
  /-- A turn without a frame, and whether each frame of silence is published. -/
  | bridge (now : Reading) (published : Nat → Bool)

/-- A frame is stamped `at_us`, when the time is `now_us`. -/
def Mic.stamps (mic : Mic) (at_us now_us : UInt64) (samples : UInt32) (kind : FrameKind) : Mic :=
  { mic with
    clock := (stamp mic.clock at_us samples).2
    frames := mic.frames ++ [⟨(stamp mic.clock at_us samples).1.pts_us, samples, now_us, kind⟩] }

/-- The end of a frame that was published. -/
def Mic.publishes (mic : Mic) (pts_us : UInt64) (samples : UInt32) (published : Bool) : Mic :=
  if published then { mic with published_until := pts_us + samples.toUInt64 * 125 } else mic

/-- A frame is stamped now, and published or not. -/
def Mic.sends (mic : Mic) (at_us now_us : UInt64) (samples : UInt32) (kind : FrameKind)
    (published : Bool) : Mic :=
  (mic.stamps at_us now_us samples kind).publishes (stamp mic.clock at_us samples).1.pts_us
    samples published

/-- The loop of the silence, with the turns it has left. -/
def fill (now_us : UInt64) (published : Nat → Bool) : Nat → Mic → Mic
  | 0, mic => mic
  | left + 1, mic =>
      if mic.published_until + 40000 ≤ now_us then
        let sent := mic.sends (mic.published_until + 40000) now_us 320 .silence (published left)
        if published left then fill now_us published left sent else sent
      else mic

def mic_turn (mic : Mic) : MicEvent → Mic
  | .capture now frame published =>
      if ahead mic.clock now.now_us frame.samples then mic
      else mic.sends now.now_us now.now_us frame.samples .captured published
  | .stamp now frame published =>
      mic.sends now.now_us now.now_us frame.samples .unchecked published
  | .bridge now published =>
      if mic.published_until ≠ 0 ∧ now.now_us > mic.published_until + 120000 then
        fill now.now_us published 25 mic
      else mic

/-! ### One stamp -/

/-- A new anchor is the frame's length before now, or 0. -/
theorem restart_begins {clock : Clock} (rate : clock.rate = 8000) (now_us : UInt64)
    (samples : UInt32) :
    (clock.restart now_us samples).end_us = now_us.toNat - 125 * samples.toNat := by
  have lasts := samples_us_frame samples
  unfold Clock.restart Clock.end_us
  rw [rate]
  by_cases later : now_us > samples_us samples.toUInt64 8000
  · have order : samples_us samples.toUInt64 8000 ≤ now_us := UInt64.le_of_lt later
    simp only [if_pos later, UInt64.toNat_sub_of_le _ _ order, UInt64.toNat_zero]
    omega
  · have early : now_us.toNat ≤ (samples_us samples.toUInt64 8000).toNat :=
      UInt64.le_iff_toNat_le.mp (UInt64.not_lt.mp later)
    simp only [if_neg later, UInt64.toNat_zero]
    omega

/-- The clock is far from 2^64, though stamps may have taken it ahead of every reading. -/
def Clock.Far (clock : Clock) : Prop := clock.end_us ≤ TIME_MAX + 500000000000

theorem Clock.Far.sound {clock : Clock} (far : clock.Far) (rate : clock.rate = 8000) :
    Sound clock :=
  ⟨rate, fun _ => Nat.le_trans far (Nat.add_le_add_left (by decide) _)⟩

section

variable {clock : Clock} {at_us : UInt64} {samples : UInt32} (rate : clock.rate = 8000)
  (reading : at_us.toNat < TIME_MAX) (few : samples.toNat ≤ 2048) (far : clock.Far)

include rate reading few far

/-- Where a stamp begins: at the end of the clock, or its length before now when it has
not started or is more than 150 ms late. -/
theorem stamp_begins :
    (clock.started = true ∧ at_us.toNat ≤ clock.end_us + 125 * samples.toNat + 150000 ∧
        (stamp clock at_us samples).1.pts_us.toNat = clock.end_us) ∨
      ((clock.started = true → clock.end_us + 125 * samples.toNat + 150000 < at_us.toNat) ∧
        (stamp clock at_us samples).1.pts_us.toNat = at_us.toNat - 125 * samples.toNat) := by
  have sound := far.sound rate
  by_cases restart : (!clock.started || at_us > clock.finish samples + 150000) = true
  · right
    have counted := @counted_end (clock.restart at_us samples) (restart_rate rate at_us samples)
      samples (by
        rw [restart_begins rate]
        omega)
    simp only [stamp, restart, if_true]
    rw [counted.1, restart_begins rate]
    refine ⟨fun started => ?_, rfl⟩
    have late : at_us > clock.finish samples + 150000 := by simpa [started] using restart
    have order := UInt64.lt_iff_toNat_lt.mp late
    rw [UInt64.toNat_add, sound.finish_toNat started] at order
    have bounded := far
    unfold Clock.Far TIME_MAX at bounded
    simp only [UInt64.reduceToNat] at order
    omega
  · left
    have going : clock.started = true ∧ ¬at_us > clock.finish samples + 150000 := by
      simpa using restart
    have bounded := far
    unfold Clock.Far at bounded
    have counted := counted_end rate samples (by omega)
    have order := UInt64.le_iff_toNat_le.mp (UInt64.not_lt.mp going.2)
    rw [UInt64.toNat_add, sound.finish_toNat going.1] at order
    simp only [UInt64.reduceToNat] at order
    unfold TIME_MAX at bounded
    simp only [stamp, restart, if_false, Bool.false_eq_true]
    exact ⟨going.1, by omega, counted.1⟩

/-- A stamp moves the clock to the end of its frame. -/
theorem stamp_ends :
    (stamp clock at_us samples).2.rate = 8000 ∧ (stamp clock at_us samples).2.started = true ∧
      (stamp clock at_us samples).2.end_us =
        (stamp clock at_us samples).1.pts_us.toNat + 125 * samples.toNat := by
  by_cases restart : (!clock.started || at_us > clock.finish samples + 150000) = true
  · have restarted := restart_rate rate at_us samples
    have counted := @counted_end (clock.restart at_us samples) restarted samples (by
      rw [restart_begins rate]
      omega)
    simp only [stamp, restart, if_true]
    exact ⟨restarted, rfl, by rw [counted.2, counted.1]⟩
  · have going : clock.started = true := by
      have both : clock.started = true ∧ ¬at_us > clock.finish samples + 150000 := by
        simpa using restart
      exact both.1
    have bounded := far
    unfold Clock.Far at bounded
    have counted := counted_end rate samples (by omega)
    simp only [stamp, restart, if_false, Bool.false_eq_true]
    exact ⟨rate, going, by rw [counted.2, counted.1]⟩

/-- A frame that is not ahead ends within 150 ms of its time on either side. -/
theorem stamp_near (current : ahead clock at_us samples = false)
    (past : 125 * samples.toNat ≤ at_us.toNat + 150000) :
    (stamp clock at_us samples).1.pts_us.toNat + 125 * samples.toNat ≤ at_us.toNat + 150000 ∧
      at_us.toNat ≤ (stamp clock at_us samples).1.pts_us.toNat + 125 * samples.toNat + 150000 := by
  rcases stamp_begins rate reading few far with ⟨started, late, begins⟩ | ⟨-, begins⟩
  · have sound := far.sound rate
    have within : ¬clock.finish samples > at_us + 150000 := by simpa [ahead, started] using current
    have order := UInt64.le_iff_toNat_le.mp (UInt64.not_lt.mp within)
    rw [sound.finish_toNat started, UInt64.toNat_add] at order
    unfold TIME_MAX at reading
    simp only [UInt64.reduceToNat] at order
    omega
  · omega

end

/-! ### Runs -/

/-- The frame ends within 150 ms of its time on either side, unless it is longer than
the time since the start of the clock by that much. -/
def Stamped.Near (frame : Stamped) : Prop :=
  125 * frame.samples.toNat ≤ frame.now_us.toNat + 150000 →
    frame.finish ≤ frame.now_us.toNat + 150000 ∧ frame.now_us.toNat ≤ frame.finish + 150000

/-- The frames stamped so far are in order and end before the clock does. -/
structure Ordered (mic : Mic) : Prop where
  rate : mic.clock.rate = 8000
  started : mic.frames ≠ [] → mic.clock.started = true
  within : ∀ frame ∈ mic.frames, frame.finish ≤ mic.clock.end_us
  apart : mic.frames.Pairwise fun earlier later => earlier.finish ≤ later.pts_us.toNat
  sampled : ∀ frame ∈ mic.frames, 0 < frame.samples.toNat
  near : ∀ frame ∈ mic.frames, frame.kind = .captured → frame.Near

theorem Ordered.of_same {mic after : Mic} (ordered : Ordered mic) (clock : after.clock = mic.clock)
    (frames : after.frames = mic.frames) : Ordered after := by
  obtain ⟨afterClock, published_until, afterFrames⟩ := after
  cases clock
  cases frames
  exact ⟨ordered.rate, ordered.started, ordered.within, ordered.apart, ordered.sampled, ordered.near⟩

theorem publishes_same (mic : Mic) (pts_us : UInt64) (samples : UInt32) (published : Bool) :
    (mic.publishes pts_us samples published).clock = mic.clock ∧
      (mic.publishes pts_us samples published).frames = mic.frames := by
  unfold Mic.publishes
  split <;> exact ⟨rfl, rfl⟩

section

variable {mic : Mic} {at_us now_us : UInt64} {samples : UInt32} {kind : FrameKind}
  (ordered : Ordered mic) (reading : at_us.toNat < TIME_MAX) (some : 0 < samples.toNat)
  (few : samples.toNat ≤ 2048) (far : mic.clock.Far)

include ordered reading few far

theorem stamps_end (kind : FrameKind) (now_us : UInt64) :
    (mic.stamps at_us now_us samples kind).clock.end_us ≤
      max mic.clock.end_us at_us.toNat + 256000 := by
  have ends := (stamp_ends ordered.rate reading few far).2.2
  show (stamp mic.clock at_us samples).2.end_us ≤ _
  rw [ends]
  rcases stamp_begins ordered.rate reading few far with ⟨-, -, begins⟩ | ⟨-, begins⟩ <;> omega

include some

theorem stamps_ordered
    (current : kind = .captured → now_us = at_us ∧ ahead mic.clock at_us samples = false) :
    Ordered (mic.stamps at_us now_us samples kind) := by
  obtain ⟨rate, started, ends⟩ := stamp_ends ordered.rate reading few far
  have onward : ∀ frame ∈ mic.frames,
      frame.finish ≤ (stamp mic.clock at_us samples).1.pts_us.toNat := by
    intro frame member
    have before := ordered.within frame member
    have going := ordered.started (List.ne_nil_of_mem member)
    rcases stamp_begins ordered.rate reading few far with ⟨-, -, begins⟩ | ⟨late, begins⟩
    · omega
    · have later := late going
      omega
  refine ⟨rate, fun _ => started, ?_, ?_, ?_, ?_⟩
  · intro frame member
    show frame.finish ≤ (stamp mic.clock at_us samples).2.end_us
    rcases List.mem_append.mp member with earlier | last
    · have before := onward frame earlier
      omega
    · rw [List.mem_singleton.mp last, ends]
      exact Nat.le_refl _
  · refine List.pairwise_append.mpr ⟨ordered.apart, List.pairwise_singleton _ _, ?_⟩
    intro earlier member last same
    rw [List.mem_singleton.mp same]
    exact onward earlier member
  · intro frame member
    rcases List.mem_append.mp member with earlier | last
    · exact ordered.sampled frame earlier
    · rw [List.mem_singleton.mp last]
      exact some
  · intro frame member captured
    rcases List.mem_append.mp member with earlier | last
    · exact ordered.near frame earlier captured
    · rw [List.mem_singleton.mp last] at captured ⊢
      obtain ⟨rfl, fresh⟩ := current captured
      exact stamp_near ordered.rate reading few far fresh

theorem sends_ordered (published : Bool)
    (current : kind = .captured → now_us = at_us ∧ ahead mic.clock at_us samples = false) :
    Ordered (mic.sends at_us now_us samples kind published) := by
  have same := publishes_same (mic.stamps at_us now_us samples kind)
    (stamp mic.clock at_us samples).1.pts_us samples published
  exact (stamps_ordered ordered reading some few far current).of_same same.1 same.2

end

/-- No stamp has taken the clock to 2^63. -/
def Mic.Unexhausted (mic : Mic) : Prop := mic.clock.end_us < TIME_MAX

instance (mic : Mic) : Decidable mic.Unexhausted := inferInstanceAs (Decidable (_ < _))

theorem sends_end {mic : Mic} (ordered : Ordered mic) {at_us now_us : UInt64} {samples : UInt32}
    (reading : at_us.toNat < TIME_MAX) (few : samples.toNat ≤ 2048) (far : mic.clock.Far)
    (kind : FrameKind) (published : Bool) :
    (mic.sends at_us now_us samples kind published).clock.end_us ≤
      max mic.clock.end_us at_us.toNat + 256000 := by
  have same := publishes_same (mic.stamps at_us now_us samples kind)
    (stamp mic.clock at_us samples).1.pts_us samples published
  unfold Mic.sends
  rw [same.1]
  exact stamps_end ordered reading few far kind now_us

/-- Each frame of silence moves the clock by far less than what keeps it from 2^64. -/
theorem fill_ordered {now_us : UInt64} (reading : now_us.toNat < TIME_MAX)
    (published : Nat → Bool) {left : Nat} (turns : left ≤ 25) {mic : Mic} (ordered : Ordered mic)
    (room : mic.clock.end_us + 300000 * left ≤ TIME_MAX + 8000000) :
    Ordered (fill now_us published left mic) := by
  induction left generalizing mic with
  | zero => exact ordered
  | succ left inductionHypothesis =>
      unfold fill
      split
      · next behind =>
          have order := UInt64.le_iff_toNat_le.mp behind
          have at_time : (mic.published_until + 40000).toNat < TIME_MAX := by omega
          have far : mic.clock.Far := by
            unfold Clock.Far
            omega
          have sent := @sends_ordered mic _ now_us 320 .silence ordered at_time (by decide) (by decide)
            far (published left) nofun
          have ends := @sends_end mic ordered _ now_us 320 at_time (by decide) far .silence
            (published left)
          simp only
          split
          · exact inductionHypothesis (by omega) sent (by omega)
          · exact sent
      · exact ordered

theorem mic_turn_ordered {mic : Mic} (ordered : Ordered mic) (unexhausted : mic.Unexhausted)
    (event : MicEvent) : Ordered (mic_turn mic event) := by
  have room : mic.clock.end_us < TIME_MAX := unexhausted
  have far : mic.clock.Far := by
    unfold Clock.Far
    omega
  cases event with
  | capture now frame published =>
      simp only [mic_turn]
      split
      · exact ordered
      · next current =>
          exact sends_ordered ordered now.reading frame.some frame.few far published
            fun _ => ⟨rfl, Bool.not_eq_true _ ▸ current⟩
  | stamp now frame published =>
      exact sends_ordered ordered now.reading frame.some frame.few far published nofun
  | bridge now published =>
      simp only [mic_turn]
      split
      · exact fill_ordered now.reading published (Nat.le_refl 25) ordered (by omega)
      · exact ordered

/-- The frames stamped so far were all published, so silence goes on at the clock's end. -/
structure Bridged (mic : Mic) : Prop where
  ordered : Ordered mic
  none : mic.frames = [] → mic.published_until = 0
  until_end : mic.frames ≠ [] → mic.published_until.toNat = mic.clock.end_us
  silence : ∀ frame ∈ mic.frames, frame.kind = .silence → frame.finish ≤ frame.now_us.toNat

theorem sends_bridged {mic : Mic} (bridged : Bridged mic) {at_us now_us : UInt64}
    {samples : UInt32} {kind : FrameKind} (reading : at_us.toNat < TIME_MAX)
    (some : 0 < samples.toNat) (few : samples.toNat ≤ 2048) (far : mic.clock.Far)
    (current : kind = .captured → now_us = at_us ∧ ahead mic.clock at_us samples = false)
    (bridges : kind = .silence → mic.clock.end_us + 125 * samples.toNat ≤ now_us.toNat ∧
      mic.frames ≠ [] ∧ at_us.toNat ≤ mic.clock.end_us + 150000) :
    Bridged (mic.sends at_us now_us samples kind true) := by
  have ends := stamp_ends bridged.ordered.rate reading few far
  have bounded := stamps_end bridged.ordered reading few far kind now_us
  have end_us : (mic.stamps at_us now_us samples kind).clock.end_us =
      (stamp mic.clock at_us samples).2.end_us := rfl
  refine ⟨sends_ordered bridged.ordered reading some few far true current, ?_, ?_, ?_⟩
  · intro none
    exact absurd none (by simp [Mic.sends, Mic.publishes, Mic.stamps])
  · intro _
    show ((stamp mic.clock at_us samples).1.pts_us + samples.toUInt64 * 125).toNat =
      (stamp mic.clock at_us samples).2.end_us
    rw [end_us, ends.2.2] at bounded
    unfold TIME_MAX at reading
    unfold Clock.Far TIME_MAX at far
    rw [ends.2.2, UInt64.toNat_add, UInt64.toNat_mul, UInt32.toNat_toUInt64]
    simp only [UInt64.reduceToNat]
    omega
  · intro frame member silent
    rcases List.mem_append.mp member with earlier | last
    · exact bridged.silence frame earlier silent
    · rw [List.mem_singleton.mp last] at silent ⊢
      obtain ⟨past, more, quiet⟩ := bridges silent
      have going := bridged.ordered.started more
      show (stamp mic.clock at_us samples).1.pts_us.toNat + 125 * samples.toNat ≤ now_us.toNat
      rcases stamp_begins bridged.ordered.rate reading few far with ⟨-, -, begins⟩ | ⟨late, -⟩
      · omega
      · have later := late going
        omega

theorem fill_bridged {now_us : UInt64} (reading : now_us.toNat < TIME_MAX)
    {published : Nat → Bool} (whole : ∀ index, published index = true) {left : Nat}
    (turns : left ≤ 25) {mic : Mic} (bridged : Bridged mic) (more : mic.frames ≠ [])
    (room : mic.clock.end_us + 300000 * left ≤ TIME_MAX + 8000000) :
    Bridged (fill now_us published left mic) := by
  induction left generalizing mic with
  | zero => exact bridged
  | succ left inductionHypothesis =>
      unfold fill
      split
      · next behind =>
          have order := UInt64.le_iff_toNat_le.mp behind
          have far : mic.clock.Far := by
            unfold Clock.Far
            omega
          have at_end : (mic.published_until + 40000).toNat = mic.clock.end_us + 40000 := by
            have until_end := bridged.until_end more
            unfold TIME_MAX at room
            rw [UInt64.toNat_add, until_end]
            simp only [UInt64.reduceToNat]
            omega
          have at_time : (mic.published_until + 40000).toNat < TIME_MAX := by omega
          have length : (320 : UInt32).toNat = 320 := by decide
          have sent := @sends_bridged mic bridged _ now_us 320 .silence at_time (by decide)
            (by decide) far nofun (fun _ => ⟨by omega, more, by omega⟩)
          have ends := @sends_end mic bridged.ordered _ now_us 320 at_time (by decide) far .silence
            true
          simp only [whole left, if_true]
          exact inductionHypothesis (by omega) sent (by simp [Mic.sends, Mic.publishes, Mic.stamps])
            (by omega)
      · exact bridged

theorem mic_opened_ordered : Ordered mic_opened :=
  ⟨rfl, fun more => absurd rfl more, nofun, .nil, nofun, nofun⟩

def MicEvent.now_us : MicEvent → UInt64
  | capture now _ _ | stamp now _ _ | bridge now _ => now.now_us

/-- The publisher takes every frame of the turn. -/
def MicEvent.Published : MicEvent → Prop
  | capture _ _ published | stamp _ _ published => published = true
  | bridge _ published => ∀ index, published index = true

theorem mic_turn_bridged {mic : Mic} (bridged : Bridged mic) (unexhausted : mic.Unexhausted)
    {event : MicEvent} (published : event.Published) : Bridged (mic_turn mic event) := by
  have room : mic.clock.end_us < TIME_MAX := unexhausted
  have far : mic.clock.Far := by
    unfold Clock.Far
    omega
  cases event with
  | capture now frame _ =>
      obtain rfl : _ = true := published
      simp only [mic_turn]
      split
      · exact bridged
      · next current =>
          exact sends_bridged bridged now.reading frame.some frame.few far
            (fun _ => ⟨rfl, Bool.not_eq_true _ ▸ current⟩) nofun
  | stamp now frame _ =>
      obtain rfl : _ = true := published
      exact sends_bridged bridged now.reading frame.some frame.few far nofun nofun
  | bridge now whole =>
      simp only [mic_turn]
      split
      · next late =>
          have more : mic.frames ≠ [] := fun none => late.1 (bridged.none none)
          exact fill_bridged now.reading published (Nat.le_refl 25) bridged more (by omega)
      · exact bridged

theorem mic_opened_bridged : Bridged mic_opened :=
  ⟨mic_opened_ordered, fun _ => rfl, fun more => absurd rfl more, nofun⟩

/-- A run of the thread from the opening of the device. -/
abbrev MicRun (events : List MicEvent) (mic : Mic) : Prop :=
  Run (fun mic event after => after = mic_turn mic event ∧ mic.Unexhausted) mic_opened events mic

theorem micRun_bridged {events : List MicEvent} {mic : Mic} (run : MicRun events mic)
    (published : ∀ event ∈ events, event.Published) : Bridged mic := by
  refine @Run.preserves_history _ _ _ (fun events mic =>
    (∀ event ∈ events, event.Published) → Bridged mic) _ _ _ run (fun _ => mic_opened_bridged) ?_
    published
  intro earlier mic event after _ bridged stepped whole
  obtain ⟨rfl, unexhausted⟩ := stepped
  exact mic_turn_bridged (bridged fun event member => whole event (List.mem_append_left _ member))
    unexhausted (whole event (List.mem_append_right _ (List.mem_singleton_self _)))

/-- Stamped times strictly increase and frames never overlap; a captured frame that the
check lets through ends within 150 ms of its time on either side; and while the publisher
takes every frame, silence never ends ahead of its time. -/
theorem stamped_frames_in_order {events : List MicEvent} {mic : Mic} (run : MicRun events mic) :
    (mic.frames.Pairwise fun earlier later =>
        earlier.pts_us < later.pts_us ∧ earlier.finish ≤ later.pts_us.toNat) ∧
      (∀ frame ∈ mic.frames, frame.kind = .captured → frame.Near) ∧
      ((∀ event ∈ events, event.Published) →
        ∀ frame ∈ mic.frames, frame.kind = .silence → frame.finish ≤ frame.now_us.toNat) := by
  have ordered : Ordered mic := by
    apply run.preserves _ mic_opened_ordered
    intro mic event after ordered stepped
    rw [stepped.1]
    exact mic_turn_ordered ordered stepped.2 event
  refine ⟨?_, ordered.near, fun published => (micRun_bridged run published).silence⟩
  refine ordered.apart.imp_of_mem fun {earlier later} member _ apart => ?_
  have some := ordered.sampled earlier member
  refine ⟨UInt64.lt_iff_toNat_lt.mpr ?_, apart⟩
  unfold Stamped.finish at apart
  omega

/-- A frame captured at one second, and the turn of the thread at `later`. -/
def opening (later : Reading) : List MicEvent :=
  [.capture ⟨1000000, by decide⟩ ⟨320, by decide, by decide⟩ true, .bridge later fun _ => true]

def opened (later : Reading) : Mic := (opening later).foldl mic_turn mic_opened

theorem opening_run (later : Reading) : MicRun (opening later) (opened later) :=
  .cons ⟨rfl, by decide⟩ (.cons ⟨rfl, by decide +kernel⟩ (.nil _))

theorem stamped_frames_in_order_bridged :
    (opened ⟨1130000, by decide⟩).frames.length = 4 ∧
      (opened ⟨1130000, by decide⟩).frames.Pairwise fun earlier later =>
        earlier.pts_us < later.pts_us ∧ earlier.finish ≤ later.pts_us.toNat :=
  ⟨by decide +kernel, (stamped_frames_in_order (opening_run _)).1⟩

/-- At the start of the clock a captured frame may end more than 150 ms ahead of its
time, and after a gap of two seconds the first silence ends further behind it. -/
theorem stamped_frames_off_time :
    (∃ (events : List MicEvent) (mic : Mic), (events.map MicEvent.now_us).Pairwise (· ≤ ·) ∧
      MicRun events mic ∧ ∃ frame ∈ mic.frames, frame.kind = .captured ∧
        frame.now_us.toNat + 150000 < frame.finish) ∧
    ∃ (events : List MicEvent) (mic : Mic), (events.map MicEvent.now_us).Pairwise (· ≤ ·) ∧
      MicRun events mic ∧ ∃ frame ∈ mic.frames, frame.kind = .silence ∧
        frame.finish + 150000 < frame.now_us.toNat := by
  constructor
  · let early : MicEvent := .capture ⟨0, by decide⟩ ⟨2048, by decide, by decide⟩ true
    refine ⟨[early], mic_turn mic_opened early, by decide, .cons ⟨rfl, by decide⟩ (.nil _),
      ⟨0, 2048, 0, .captured⟩, by decide +kernel, rfl, by decide⟩
  · exact ⟨opening ⟨3000000, by decide⟩, _, by decide, opening_run _,
      ⟨1000000, 320, 3000000, .silence⟩, by decide +kernel, rfl, by decide⟩

end JooanW3U.Media.AudioClock
