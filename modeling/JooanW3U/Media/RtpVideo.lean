import JooanW3U.Library.AnnexB
import JooanW3U.Library.RtpH264
import JooanW3U.Media.Stream
import Mathlib.Data.List.Forall2

/-!
Owns the RTP packets of video: `rtp`, `h264_nal` and `video_frame`, with the
packets each hands to the transport. Main result: depacketizing the packets of
an access unit gives back its NAL units.

Does not own the transport itself or RTCP.
-/

namespace JooanW3U.Media.RtpVideo

open JooanW3U.Library

def rtpPayloadMax : Nat := 1200

/-- The sending side of `rtsp_track`; `sent` holds the packets handed to the
transport, in order. -/
structure Track where
  sequence : UInt16
  ssrc : UInt32
  timestampBase : UInt32
  packets : UInt32
  octets : UInt32
  sent : List Bytes

/-- How the transport answers the packet after the first `n`, and whether the
client is stopped after it. -/
structure Link where
  fails : Nat → Bool
  stopped : Nat → Bool

/-- A link that accepts every packet of a client that is not stopped. -/
structure Link.Up (link : Link) : Prop where
  sends : ∀ count, link.fails count = false
  runs : ∀ count, link.stopped count = false

/-- `media_timestamp`. -/
def Track.mediaTimestamp (track : Track) (ptsUs rate : Nat) : UInt32 :=
  track.timestampBase +
    UInt32.ofNat (ptsUs / 1000000 * rate + ptsUs % 1000000 * rate / 1000000)

/-- `rtp`. -/
def Track.rtp (link : Link) (track : Track) (payloadType : UInt8) (timestamp : UInt32)
    (marker : Bool) (data : Bytes) : Option Track :=
  if data.length > rtpPayloadMax then none
  else
    let packet := [0x80, payloadType ||| (if marker then 0x80 else 0)] ++
      RtpH264.bytes16 track.sequence ++ RtpH264.bytes32 timestamp ++
      RtpH264.bytes32 track.ssrc ++ data
    if link.fails track.sent.length then none
    else some
      { track with
        sequence := track.sequence + 1
        packets := track.packets + 1
        octets := track.octets + UInt32.ofNat data.length
        sent := track.sent ++ [packet] }

/-- The fragment loop of `h264_nal`, over the bytes from its offset on. -/
def Track.fragmentLoop (link : Link) (track : Track) (timestamp : UInt32) (marker : Bool)
    (indicator type : UInt8) (first : Bool) (rest : Bytes) : Option Track :=
  if _more : rest = [] then some track
  else
    let chunk := rest.take (rtpPayloadMax - 2)
    let last := chunk.length = rest.length
    let header := type ||| (if first then 0x80 else 0) ||| (if last then 0x40 else 0)
    match track.rtp link 96 timestamp (last && marker) (indicator :: header :: chunk) with
    | none => none
    | some track =>
        if link.stopped track.sent.length then none
        else track.fragmentLoop link timestamp marker indicator type false
          (rest.drop (rtpPayloadMax - 2))
termination_by rest.length
decreasing_by
  rw [List.length_drop]
  have nonempty := List.length_pos_iff.mpr _more
  simp only [rtpPayloadMax]
  omega

/-- `h264_nal`. -/
def Track.h264Nal (link : Link) (track : Track) (timestamp : UInt32) (marker : Bool) :
    Bytes → Option Track
  | [] => some track
  | header :: data =>
      let type := header &&& 0x1f
      if header &&& 0x80 ≠ 0 ∨ type = 0 ∨ type ≥ 24 then none
      else if data.length + 1 ≤ rtpPayloadMax then
        track.rtp link 96 timestamp marker (header :: data)
      else
        track.fragmentLoop link timestamp marker ((header &&& 0xe0) ||| 28) type true data

/-- The loop of `video_frame`, over the bytes after a start code. -/
def Track.unitLoop (link : Link) (timestamp : UInt32) : Nat → Track → Bytes → Option Track
  | 0, _, _ => none
  | fuel + 1, track, rest =>
      match AnnexB.findPrefix rest with
      | none => track.h264Nal link timestamp true (AnnexB.stripZeros rest)
      | some (position, size) =>
          match track.h264Nal link timestamp false (AnnexB.stripZeros (rest.take position)) with
          | none => none
          | some track => unitLoop link timestamp fuel track (rest.drop (position + size))

/-- What `jipc_codec_parameters` copies into two buffers of 512 bytes. -/
def codecParameters (stream : Stream) : Option (Bytes × Bytes) :=
  if stream.sps = [] ∨ stream.pps = [] ∨ stream.sps.length > 512 ∨ stream.pps.length > 512 then
    none
  else some (stream.sps, stream.pps)

/-- The parameter sets `video_frame` sends before a keyframe. -/
def Track.parameterSets (link : Link) (track : Track) (timestamp : UInt32) (stream : Stream)
    (keyframe : Bool) : Option Track :=
  if keyframe then
    match codecParameters stream with
    | none => some track
    | some (sps, pps) =>
        match track.h264Nal link timestamp false sps with
        | none => none
        | some track => track.h264Nal link timestamp false pps
  else some track

/-- `video_frame`; the fuel of its loop is one more than the size of the frame. -/
def Track.videoFrame (link : Link) (track : Track) (stream : Stream) (frame : Frame) :
    Option Track :=
  let timestamp := track.mediaTimestamp frame.ptsUs 90000
  match track.parameterSets link timestamp stream frame.keyframe with
  | none => none
  | some track =>
      match AnnexB.findPrefix frame.data with
      | none => track.h264Nal link timestamp true frame.data
      | some (position, size) =>
          track.unitLoop link timestamp (frame.data.length + 1) (frame.data.drop (position + size))

/-! ### What a sending leaves behind -/

/-- The packets that carry payloads, each with its marker, from a sequence number on. -/
def packetsFrom (ssrc timestamp : UInt32) : UInt16 → List (Bool × Bytes) → List RtpH264.Packet
  | _, [] => []
  | sequence, (marker, payload) :: rest =>
      ⟨96, marker, sequence, timestamp, ssrc, payload⟩ ::
        packetsFrom ssrc timestamp (sequence + 1) rest

/-- `after` is `track` with the packets of these payloads handed to the transport. -/
structure Emits (timestamp : UInt32) (track after : Track) (queue : List (Bool × Bytes)) : Prop where
  sent : after.sent =
    track.sent ++ (packetsFrom track.ssrc timestamp track.sequence queue).map RtpH264.Packet.bytes
  sequence : after.sequence = track.sequence + UInt16.ofNat queue.length
  ssrc : after.ssrc = track.ssrc
  timestampBase : after.timestampBase = track.timestampBase

theorem packetsFrom_append (ssrc timestamp : UInt32) (sequence : UInt16)
    (early late : List (Bool × Bytes)) :
    packetsFrom ssrc timestamp sequence (early ++ late) =
      packetsFrom ssrc timestamp sequence early ++
        packetsFrom ssrc timestamp (sequence + UInt16.ofNat early.length) late := by
  induction early generalizing sequence with
  | nil => simp [packetsFrom]
  | cons head early inductionHypothesis =>
      obtain ⟨marker, payload⟩ := head
      have order : sequence + 1 + UInt16.ofNat early.length =
          sequence + UInt16.ofNat (early.length + 1) := by
        rw [UInt16.ofNat_add, UInt16.add_assoc, UInt16.add_comm 1]
        rfl
      simp only [List.cons_append, packetsFrom, inductionHypothesis, List.length_cons, order]

theorem Emits.none (timestamp : UInt32) (track : Track) : Emits timestamp track track [] where
  sent := by simp [packetsFrom]
  sequence := by simp
  ssrc := rfl
  timestampBase := rfl

theorem Emits.trans {timestamp : UInt32} {track middle after : Track}
    {early late : List (Bool × Bytes)} (first : Emits timestamp track middle early)
    (second : Emits timestamp middle after late) :
    Emits timestamp track after (early ++ late) where
  sent := by
    rw [second.sent, first.sent, first.sequence, first.ssrc, packetsFrom_append, List.map_append,
      List.append_assoc]
  sequence := by
    rw [second.sequence, first.sequence, List.length_append, UInt16.ofNat_add, UInt16.add_assoc]
  ssrc := second.ssrc.trans first.ssrc
  timestampBase := second.timestampBase.trans first.timestampBase

theorem rtp_emits {link : Link} (up : link.Up) (track : Track) (timestamp : UInt32)
    (marker : Bool) {payload : Bytes} (fits : payload.length ≤ rtpPayloadMax) :
    ∃ after, track.rtp link 96 timestamp marker payload = some after ∧
      Emits timestamp track after [(marker, payload)] := by
  have small : ¬ payload.length > rtpPayloadMax := Nat.not_lt.mpr fits
  unfold Track.rtp
  rw [if_neg small, up.sends]
  refine ⟨_, rfl, ⟨?_, rfl, rfl, rfl⟩⟩
  simp [packetsFrom, RtpH264.Packet.bytes]

/-- Payloads of which the last carries the marker. -/
def markLast (marker : Bool) : List Bytes → List (Bool × Bytes)
  | [] => []
  | [payload] => [(marker, payload)]
  | payload :: next :: rest => (false, payload) :: markLast marker (next :: rest)

theorem markLast_false (payloads : List Bytes) :
    markLast false payloads = payloads.map fun payload => (false, payload) := by
  induction payloads with
  | nil => rfl
  | cons payload rest inductionHypothesis =>
      cases rest with
      | nil => rfl
      | cons next rest =>
          rw [markLast, inductionHypothesis]
          rfl

theorem markLast_append (marker : Bool) (early : List Bytes) {late : List Bytes}
    (nonempty : late ≠ []) :
    markLast marker (early ++ late) = markLast false early ++ markLast marker late := by
  induction early with
  | nil => rfl
  | cons payload early inductionHypothesis =>
      obtain ⟨next, rest, shape⟩ : ∃ next rest, early ++ late = next :: rest :=
        List.exists_cons_of_ne_nil (List.append_ne_nil_of_right_ne_nil early nonempty)
      rw [List.cons_append, shape, markLast, ← shape, inductionHypothesis, markLast_false,
        markLast_false]
      rfl

theorem markLast_cons (marker : Bool) (payload : Bytes) {rest : List Bytes} (nonempty : rest ≠ []) :
    markLast marker (payload :: rest) = (false, payload) :: markLast marker rest :=
  markLast_append marker [payload] nonempty

theorem markLast_length (marker : Bool) (payloads : List Bytes) :
    (markLast marker payloads).length = payloads.length := by
  fun_induction markLast marker payloads with
  | case1 => rfl
  | case2 => rfl
  | case3 payload next rest inductionHypothesis =>
      rw [List.length_cons, inductionHypothesis]
      rfl

/-! ### One NAL unit -/

/-- The type checks of `h264_nal` are those of a NAL unit that may be sent. -/
theorem sendable_checks (header : UInt8) (sendable : RtpH264.Sendable header) :
    ¬ (header &&& 0x80 ≠ 0 ∨ header &&& 0x1f = 0 ∨ header &&& 0x1f ≥ 24) := by
  revert sendable
  revert header
  apply RtpH264.forall_byte
  decide +kernel

theorem fragmentLoop_emits {link : Link} (up : link.Up) (timestamp : UInt32) (marker : Bool)
    (header : UInt8) (start : Bool) (data : Bytes) (nonempty : data ≠ []) (track : Track) :
    ∃ after, track.fragmentLoop link timestamp marker (RtpH264.fuIndicator header)
        (header &&& 0x1f) start data = some after ∧
      Emits timestamp track after
        (markLast marker (RtpH264.fragments (rtpPayloadMax - 2) header start data)) := by
  fun_induction RtpH264.fragments (rtpPayloadMax - 2) header start data generalizing track with
  | case1 start data whole =>
      have whole : data.length ≤ rtpPayloadMax - 2 := whole.resolve_left (by decide)
      have size : (RtpH264.fuIndicator header :: RtpH264.fuHeader header start true ::
          data).length ≤ rtpPayloadMax := by
        simp only [List.length_cons, rtpPayloadMax] at whole ⊢
        omega
      obtain ⟨after, sent, emits⟩ := rtp_emits up track timestamp marker size
      refine ⟨after, ?_, emits⟩
      have rest : data.drop (rtpPayloadMax - 2) = [] := List.drop_eq_nil_of_le whole
      rw [Track.fragmentLoop, dif_neg nonempty, List.take_of_length_le whole]
      simp only [decide_true, Bool.true_and, if_true]
      have same : track.rtp link 96 timestamp marker (RtpH264.fuIndicator header ::
          ((header &&& 0x1f) ||| (if start then 0x80 else 0) ||| 0x40) :: data) = some after := sent
      rw [same]
      simp only [up.runs, rest]
      rw [Track.fragmentLoop, dif_pos rfl]
      rfl
  | case2 start data split inductionHypothesis =>
      have long : rtpPayloadMax - 2 < data.length := by omega
      have cut : (data.take (rtpPayloadMax - 2)).length = rtpPayloadMax - 2 :=
        List.length_take_of_le (Nat.le_of_lt long)
      have more : data.drop (rtpPayloadMax - 2) ≠ [] := by
        rw [ne_eq, List.drop_eq_nil_iff]
        omega
      have size : (RtpH264.fuIndicator header :: RtpH264.fuHeader header start false ::
          data.take (rtpPayloadMax - 2)).length ≤ rtpPayloadMax := by
        rw [List.length_cons, List.length_cons, cut]
        decide
      obtain ⟨middle, sent, first⟩ := rtp_emits up track timestamp false size
      obtain ⟨after, rest, others⟩ := inductionHypothesis more middle
      refine ⟨after, ?_, ?_⟩
      · have notLast : ¬ (data.take (rtpPayloadMax - 2)).length = data.length := by omega
        have same : track.rtp link 96 timestamp false (RtpH264.fuIndicator header ::
            ((header &&& 0x1f) ||| (if start then 0x80 else 0) ||| 0) ::
              data.take (rtpPayloadMax - 2)) = some middle := sent
        rw [Track.fragmentLoop, dif_neg nonempty]
        simp only [notLast, decide_false, Bool.false_and, if_false, Bool.false_eq_true, same,
          up.runs]
        exact rest
      · have tail : RtpH264.fragments (rtpPayloadMax - 2) header false
            (data.drop (rtpPayloadMax - 2)) ≠ [] := by
          rw [RtpH264.fragments]
          split <;> exact List.cons_ne_nil _ _
        rw [markLast_cons marker _ tail]
        exact first.trans others

theorem h264Nal_emits {link : Link} (up : link.Up) (track : Track) (timestamp : UInt32)
    (marker : Bool) (nal : Bytes)
    (sendable : ∀ header, nal.head? = some header → RtpH264.Sendable header) :
    ∃ after, track.h264Nal link timestamp marker nal = some after ∧
      Emits timestamp track after (markLast marker (RtpH264.payloads rtpPayloadMax nal)) := by
  cases nal with
  | nil => exact ⟨track, rfl, .none timestamp track⟩
  | cons header data =>
      have checks := sendable_checks header (sendable header rfl)
      simp only [Track.h264Nal, RtpH264.payloads, if_neg checks]
      split
      · rename_i fits
        exact rtp_emits up track timestamp marker fits
      · rename_i large
        have nonempty : data ≠ [] := by
          rintro rfl
          exact large (by decide)
        exact fragmentLoop_emits up timestamp marker header true data nonempty track

/-! ### One access unit -/

/-- An access unit in Annex B form. A segment may hold no NAL unit (adjacent start
codes), but the last one does. -/
structure AccessUnit where
  segments : List AnnexB.Segment
  trailing : Nat
  framed : ∀ segment ∈ segments, AnnexB.IsNal segment.nal
  sendable : ∀ segment ∈ segments, ∀ header, segment.nal.head? = some header →
    RtpH264.Sendable header
  endsInNal : ∃ last ∈ segments.getLast?, last.nal ≠ []

namespace AccessUnit

def bytes (unit : AccessUnit) : Bytes := AnnexB.stream unit.segments unit.trailing

def nals (unit : AccessUnit) : List Bytes := (unit.segments.map AnnexB.Segment.nal).filter (· ≠ [])

end AccessUnit

theorem payloads_last_ne_nil {segments : List AnnexB.Segment}
    (endsInNal : ∃ last ∈ segments.getLast?, last.nal ≠ []) :
    (segments.map AnnexB.Segment.nal).flatMap (RtpH264.payloads rtpPayloadMax) ≠ [] := by
  obtain ⟨last, member, nonempty⟩ := endsInNal
  intro empty
  have inside : last.nal ∈ segments.map AnnexB.Segment.nal :=
    List.mem_map_of_mem (List.mem_of_getLast? member)
  exact RtpH264.payloads_ne_nil rtpPayloadMax nonempty (List.flatMap_eq_nil_iff.mp empty _ inside)

theorem unitLoop_emits {link : Link} (up : link.Up) (timestamp : UInt32) (trailing : Nat)
    {segments : List AnnexB.Segment} (first : AnnexB.Segment) (track : Track) (fuel : Nat)
    (enough : segments.length < fuel)
    (framed : ∀ segment ∈ first :: segments, AnnexB.IsNal segment.nal)
    (sendable : ∀ segment ∈ first :: segments, ∀ header, segment.nal.head? = some header →
      RtpH264.Sendable header)
    (endsInNal : ∃ last ∈ (first :: segments).getLast?, last.nal ≠ []) :
    ∃ after, Track.unitLoop link timestamp fuel track
        (first.nal ++ AnnexB.stream segments trailing) = some after ∧
      Emits timestamp track after (markLast true
        (((first :: segments).map AnnexB.Segment.nal).flatMap (RtpH264.payloads rtpPayloadMax))) := by
  have valid := framed first List.mem_cons_self
  have goodFirst := sendable first List.mem_cons_self
  induction segments generalizing first track fuel with
  | nil =>
      obtain ⟨fuel, rfl⟩ := Nat.exists_eq_add_of_lt enough
      have whole : first.nal ++ AnnexB.stream [] trailing =
          first.nal ++ List.replicate trailing 0 := rfl
      obtain ⟨after, sent, emits⟩ := h264Nal_emits up track timestamp true first.nal goodFirst
      refine ⟨after, ?_, ?_⟩
      · rw [whole, Track.unitLoop, AnnexB.findPrefix_last valid, AnnexB.stripZeros_nal valid]
        exact sent
      · simpa using emits
  | cons next segments inductionHypothesis =>
      cases fuel with
      | zero => exact absurd enough (Nat.not_lt_zero _)
      | succ fuel =>
          obtain ⟨position, size, found, before, rest⟩ :=
            AnnexB.findPrefix_segment valid next (AnnexB.stream segments trailing)
          have others : ∃ last ∈ (next :: segments).getLast?, last.nal ≠ [] := by
            rwa [List.getLast?_cons_cons] at endsInNal
          obtain ⟨middle, sentFirst, emitsFirst⟩ :=
            h264Nal_emits up track timestamp false first.nal goodFirst
          obtain ⟨after, sentRest, emitsRest⟩ := inductionHypothesis next middle fuel
            (Nat.lt_of_succ_lt_succ enough)
            (fun segment member => framed segment (List.mem_cons_of_mem _ member))
            (fun segment member => sendable segment (List.mem_cons_of_mem _ member)) others
            (framed next (List.mem_cons_of_mem _ List.mem_cons_self))
            (sendable next (List.mem_cons_of_mem _ List.mem_cons_self))
          refine ⟨after, ?_, ?_⟩
          · rw [AnnexB.stream_cons, Track.unitLoop, found]
            simp only [before, rest, AnnexB.stripZeros_nal valid, sentFirst]
            exact sentRest
          · rw [List.map_cons, List.flatMap_cons, markLast_append true _ (payloads_last_ne_nil others)]
            exact emitsFirst.trans emitsRest

/-- The parameter sets sent before a frame. -/
def parametersBefore (stream : Stream) (keyframe : Bool) : List Bytes :=
  if keyframe then
    match codecParameters stream with
    | none => []
    | some (sps, pps) => [sps, pps]
  else []

/-- Parameter sets with a type and forbidden bit that may be sent. -/
def SendableParameters (stream : Stream) : Prop :=
  ∀ nal ∈ [stream.sps, stream.pps], ∀ header, nal.head? = some header → RtpH264.Sendable header

theorem parameterSets_emits {link : Link} (up : link.Up) (track : Track) (timestamp : UInt32)
    {stream : Stream} (parameters : SendableParameters stream) (keyframe : Bool) :
    ∃ after, track.parameterSets link timestamp stream keyframe = some after ∧
      Emits timestamp track after (markLast false
        ((parametersBefore stream keyframe).flatMap (RtpH264.payloads rtpPayloadMax))) := by
  have nothing := Emits.none timestamp track
  cases keyframe with
  | false => exact ⟨track, rfl, nothing⟩
  | true =>
      simp only [Track.parameterSets, parametersBefore, if_true]
      cases known : codecParameters stream with
      | none => exact ⟨track, rfl, nothing⟩
      | some sets =>
          obtain ⟨sps, pps⟩ := sets
          have copied : sps = stream.sps ∧ pps = stream.pps := by
            unfold codecParameters at known
            split at known
            · cases known
            · cases known
              exact ⟨rfl, rfl⟩
          obtain ⟨middle, sentSps, emitsSps⟩ := h264Nal_emits up track timestamp false sps
            (parameters sps (by simp [copied.1]))
          obtain ⟨after, sentPps, emitsPps⟩ := h264Nal_emits up middle timestamp false pps
            (parameters pps (by simp [copied.2]))
          refine ⟨after, ?_, ?_⟩
          · simp only [sentSps, sentPps]
          · have both := emitsSps.trans emitsPps
            simp only [markLast_false, ← List.map_append] at both
            simpa [markLast_false] using both

theorem flatMap_payloads_filter (nals : List Bytes) :
    (nals.filter (· ≠ [])).flatMap (RtpH264.payloads rtpPayloadMax) =
      nals.flatMap (RtpH264.payloads rtpPayloadMax) := by
  induction nals with
  | nil => rfl
  | cons nal nals inductionHypothesis =>
      cases nal with
      | nil => simpa [RtpH264.payloads] using inductionHypothesis
      | cons header data =>
          rw [List.filter_cons_of_pos (by simp), List.flatMap_cons, List.flatMap_cons,
            inductionHypothesis]

/-- `video_frame` emits the payloads of the parameter sets and of the access unit,
with the marker on the last. -/
theorem videoFrame_emits {link : Link} (up : link.Up) (track : Track) {stream : Stream}
    (parameters : SendableParameters stream) (unit : AccessUnit) {frame : Frame}
    (carries : frame.data = unit.bytes) :
    ∃ after, track.videoFrame link stream frame = some after ∧
      Emits (track.mediaTimestamp frame.ptsUs 90000) track after (markLast true
        ((parametersBefore stream frame.keyframe ++ unit.nals).flatMap
          (RtpH264.payloads rtpPayloadMax))) := by
  obtain ⟨segments, trailing, framed, sendable, endsInNal⟩ := unit
  cases segments with
  | nil =>
      obtain ⟨last, absent, -⟩ := endsInNal
      cases absent
  | cons first segments =>
      obtain ⟨position, size, found, -, rest⟩ := AnnexB.findPrefix_segment AnnexB.isNal_nil first
        (AnnexB.stream segments trailing)
      simp only [List.nil_append] at found rest
      have data : frame.data = first.bytes ++ AnnexB.stream segments trailing :=
        carries.trans (AnnexB.stream_cons first segments trailing)
      have enough : segments.length < frame.data.length + 1 := by
        have size := AnnexB.stream_length segments trailing
        rw [data, List.length_append]
        omega
      obtain ⟨middle, sentSets, emitsSets⟩ := parameterSets_emits up track
        (track.mediaTimestamp frame.ptsUs 90000) parameters frame.keyframe
      obtain ⟨after, sentUnits, emitsUnits⟩ := unitLoop_emits up
        (track.mediaTimestamp frame.ptsUs 90000) trailing first middle (frame.data.length + 1) enough
        framed sendable endsInNal
      refine ⟨after, ?_, ?_⟩
      · have search : AnnexB.findPrefix frame.data = some (position, size) := data ▸ found
        have remaining : frame.data.drop (position + size) =
            first.nal ++ AnnexB.stream segments trailing := data ▸ rest
        simp only [Track.videoFrame, sentSets, search, remaining]
        exact sentUnits
      · have both := emitsSets.trans emitsUnits
        rw [← markLast_append true _ (payloads_last_ne_nil endsInNal)] at both
        rw [List.flatMap_append, AccessUnit.nals, flatMap_payloads_filter]
        exact both

/-! ### The round trip -/

theorem packetsFrom_getElem? {ssrc timestamp : UInt32} {sequence : UInt16}
    {queue : List (Bool × Bytes)} {index : Nat} {packet : RtpH264.Packet}
    (found : (packetsFrom ssrc timestamp sequence queue)[index]? = some packet) :
    ∃ marker payload, queue[index]? = some (marker, payload) ∧
      packet = ⟨96, marker, sequence + UInt16.ofNat index, timestamp, ssrc, payload⟩ := by
  induction queue generalizing sequence index with
  | nil => simp [packetsFrom] at found
  | cons head queue inductionHypothesis =>
      obtain ⟨marker, payload⟩ := head
      cases index with
      | zero =>
          refine ⟨marker, payload, rfl, ?_⟩
          simpa [packetsFrom] using found.symm
      | succ index =>
          obtain ⟨later, data, there, rfl⟩ := inductionHypothesis found
          refine ⟨later, data, there, ?_⟩
          rw [UInt16.ofNat_add, UInt16.add_comm (UInt16.ofNat index), ← UInt16.add_assoc]
          rfl

theorem packetsFrom_payloads (ssrc timestamp : UInt32) (sequence : UInt16)
    (queue : List (Bool × Bytes)) :
    (packetsFrom ssrc timestamp sequence queue).map RtpH264.Packet.payload =
      queue.map Prod.snd := by
  induction queue generalizing sequence with
  | nil => rfl
  | cons head queue inductionHypothesis =>
      rw [packetsFrom, List.map_cons, inductionHypothesis, List.map_cons]

theorem markLast_payloads (marker : Bool) (payloads : List Bytes) :
    (markLast marker payloads).map Prod.snd = payloads := by
  fun_induction markLast marker payloads with
  | case1 => rfl
  | case2 => rfl
  | case3 payload next rest inductionHypothesis => rw [List.map_cons, inductionHypothesis]

theorem markLast_getElem? {payloads : List Bytes} {index : Nat} {marker : Bool} {payload : Bytes}
    (found : (markLast true payloads)[index]? = some (marker, payload)) :
    marker = true ↔ index + 1 = payloads.length := by
  induction payloads generalizing index with
  | nil => simp [markLast] at found
  | cons head payloads inductionHypothesis =>
      cases payloads with
      | nil =>
          cases index with
          | zero =>
              simp only [markLast, List.getElem?_cons_zero, Option.some.injEq, Prod.mk.injEq] at found
              simp [← found.1]
          | succ index => simp [markLast] at found
      | cons next rest =>
          cases index with
          | zero =>
              simp only [markLast, List.getElem?_cons_zero, Option.some.injEq, Prod.mk.injEq] at found
              simp [← found.1]
          | succ index =>
              have later := inductionHypothesis found
              simpa using later

/-- What one call of `video_frame` is asked to send. The parameter sets and the
access unit are well formed. -/
structure Call where
  stream : Stream
  frame : Frame
  unit : AccessUnit
  parameters : SendableParameters stream
  carries : frame.data = unit.bytes

/-- The packets of one call carry exactly its parameter sets and NAL units. -/
structure RoundTrip (track : Track) (call : Call) (batch : List RtpH264.Packet) : Prop where
  nalUnits : RtpH264.depacketize none (batch.map RtpH264.Packet.payload) =
    some (parametersBefore call.stream call.frame.keyframe ++ call.unit.nals)
  timestamp : ∀ packet ∈ batch, packet.timestamp = track.mediaTimestamp call.frame.ptsUs 90000
  limit : ∀ packet ∈ batch, packet.payload.length ≤ rtpPayloadMax
  marker : ∀ (index : Nat) (packet : RtpH264.Packet), batch[index]? = some packet →
    (packet.marker = true ↔ index + 1 = batch.length)

/-- Calls of `video_frame` in turn. -/
def Track.videoFrames (link : Link) : Track → List Call → Option Track
  | track, [] => some track
  | track, call :: calls =>
      match track.videoFrame link call.stream call.frame with
      | none => none
      | some track => track.videoFrames link calls

theorem nals_sendable (call : Call) :
    ∀ nal ∈ parametersBefore call.stream call.frame.keyframe ++ call.unit.nals,
      ∃ header, nal.head? = some header ∧ RtpH264.Sendable header := by
  intro nal member
  rcases List.mem_append.mp member with parameter | own
  · unfold parametersBefore codecParameters at parameter
    split at parameter
    · split at parameter
      · cases parameter
      · rename_i known
        split at known
        · cases known
        · rename_i present
          cases known
          have nonempty : nal ≠ [] := by
            rintro rfl
            simp only [List.mem_cons, List.not_mem_nil, or_false] at parameter
            rcases parameter with same | same
            · exact present (.inl same.symm)
            · exact present (.inr (.inl same.symm))
          obtain ⟨header, data, rfl⟩ := List.exists_cons_of_ne_nil nonempty
          exact ⟨header, rfl, call.parameters _ parameter header rfl⟩
    · cases parameter
  · obtain ⟨listed, kept⟩ := List.mem_filter.mp own
    obtain ⟨segment, inside, rfl⟩ := List.mem_map.mp listed
    have nonempty : segment.nal ≠ [] := by simpa using kept
    obtain ⟨header, data, shape⟩ := List.exists_cons_of_ne_nil nonempty
    have first : segment.nal.head? = some header := by rw [shape]; rfl
    exact ⟨header, first, call.unit.sendable segment inside header first⟩

/-- One call: its packets are appended, numbered on, and make the round trip. -/
theorem videoFrame_roundTrip {link : Link} (up : link.Up) (track : Track) (call : Call) :
    ∃ after batch, track.videoFrame link call.stream call.frame = some after ∧
      after.sent = track.sent ++ batch.map RtpH264.Packet.bytes ∧
      after.sequence = track.sequence + UInt16.ofNat batch.length ∧
      after.ssrc = track.ssrc ∧ after.timestampBase = track.timestampBase ∧
      RoundTrip track call batch ∧
      ∀ (index : Nat) (packet : RtpH264.Packet), batch[index]? = some packet →
        packet.sequence = track.sequence + UInt16.ofNat index ∧ packet.ssrc = track.ssrc ∧
          packet.payloadType = 96 := by
  obtain ⟨after, sent, emits⟩ := videoFrame_emits up track call.parameters call.unit call.carries
  let timestamp := track.mediaTimestamp call.frame.ptsUs 90000
  let nals := parametersBefore call.stream call.frame.keyframe ++ call.unit.nals
  let payloads := nals.flatMap (RtpH264.payloads rtpPayloadMax)
  let batch := packetsFrom track.ssrc timestamp track.sequence (markLast true payloads)
  have carried : batch.map RtpH264.Packet.payload = payloads := by
    rw [packetsFrom_payloads, markLast_payloads]
  have size : batch.length = payloads.length := by
    rw [← carried, List.length_map]
  have queued := markLast_length true payloads
  refine ⟨after, batch, sent, emits.sent, ?_, emits.ssrc, emits.timestampBase, ?_, ?_⟩
  · rw [size, ← queued]
    exact emits.sequence
  · refine ⟨?_, ?_, ?_, ?_⟩
    · rw [carried]
      exact RtpH264.depacketize_flatMap (by decide) nals (nals_sendable call)
    · intro packet member
      obtain ⟨index, found⟩ := List.getElem?_of_mem member
      obtain ⟨marker, payload, -, rfl⟩ := packetsFrom_getElem? found
      rfl
    · intro packet member
      have inside : packet.payload ∈ payloads := carried ▸ List.mem_map_of_mem member
      obtain ⟨nal, -, part⟩ := List.mem_flatMap.mp inside
      exact RtpH264.payloads_length (by decide) nal packet.payload part
    · intro index packet found
      obtain ⟨marker, payload, entry, rfl⟩ := packetsFrom_getElem? found
      rw [size]
      exact markLast_getElem? entry
  · intro index packet found
    obtain ⟨marker, payload, -, rfl⟩ := packetsFrom_getElem? found
    exact ⟨rfl, rfl, rfl⟩

/-- The packets of calls in turn make the round trip call by call, and their
sequence numbers are consecutive through all of them. -/
theorem videoFrames_roundTrip {link : Link} (up : link.Up) (track : Track) (calls : List Call) :
    ∃ after batches, track.videoFrames link calls = some after ∧
      after.sent = track.sent ++ batches.flatten.map RtpH264.Packet.bytes ∧
      List.Forall₂ (RoundTrip track) calls batches ∧
      ∀ (index : Nat) (packet : RtpH264.Packet), batches.flatten[index]? = some packet →
        packet.sequence = track.sequence + UInt16.ofNat index ∧
          RtpH264.Packet.parse packet.bytes = some packet := by
  induction calls generalizing track with
  | nil => exact ⟨track, [], rfl, by simp, .nil, by simp⟩
  | cons call calls inductionHypothesis =>
      obtain ⟨middle, batch, sentFirst, packets, sequence, ssrc, base, roundTrip, numbered⟩ :=
        videoFrame_roundTrip up track call
      obtain ⟨after, batches, sentRest, rest, roundTrips, numberedRest⟩ := inductionHypothesis middle
      refine ⟨after, batch :: batches, ?_, ?_, .cons roundTrip ?_, ?_⟩
      · rw [Track.videoFrames, sentFirst]
        exact sentRest
      · rw [rest, packets, List.flatten_cons, List.map_append, List.append_assoc]
      · refine roundTrips.imp fun later laterBatch holds => ?_
        refine ⟨holds.nalUnits, fun packet member => ?_, holds.limit, holds.marker⟩
        rw [holds.timestamp packet member, Track.mediaTimestamp, base, Track.mediaTimestamp]
      · intro index packet found
        rw [List.flatten_cons] at found
        by_cases here : index < batch.length
        · rw [List.getElem?_append_left here] at found
          obtain ⟨number, -, kind⟩ := numbered index packet found
          exact ⟨number, RtpH264.Packet.parse_bytes packet (by rw [kind]; decide)⟩
        · rw [List.getElem?_append_right (Nat.not_lt.mp here)] at found
          obtain ⟨number, parsed⟩ := numberedRest (index - batch.length) packet found
          refine ⟨?_, parsed⟩
          rw [number, sequence, UInt16.add_assoc, ← UInt16.ofNat_add]
          congr 2
          omega

/-! ### Parameter sets come from access units -/

theorem nalUnits_bytes (unit : AccessUnit) :
    nalUnits unit.bytes = unit.segments.map AnnexB.Segment.nal := by
  obtain ⟨segments, trailing, framed, sendable, endsInNal⟩ := unit
  cases segments with
  | nil =>
      obtain ⟨last, absent, -⟩ := endsInNal
      cases absent
  | cons first segments =>
      obtain ⟨position, size, found, -, rest⟩ := AnnexB.findPrefix_segment AnnexB.isNal_nil first
        (AnnexB.stream segments trailing)
      simp only [List.nil_append] at found rest
      have enough : segments.length < (AccessUnit.bytes
          ⟨first :: segments, trailing, framed, sendable, endsInNal⟩).length := by
        have size := AnnexB.stream_length (first :: segments) trailing
        rw [List.length_cons] at size
        simp only [AccessUnit.bytes]
        omega
      have data : AccessUnit.bytes ⟨first :: segments, trailing, framed, sendable, endsInNal⟩ =
          first.bytes ++ AnnexB.stream segments trailing := AnnexB.stream_cons _ _ _
      rw [data] at enough
      unfold nalUnits
      rw [data, found]
      simp only [rest]
      exact AnnexB.slices_stream (framed first List.mem_cons_self) segments
        (fun segment member => framed segment (List.mem_cons_of_mem _ member)) trailing _ enough

theorem keepParameter_sendable {stream : Stream} (parameters : SendableParameters stream)
    {nal : Bytes} (good : ∀ header, nal.head? = some header → RtpH264.Sendable header) :
    SendableParameters (stream.keepParameter nal) := by
  have sps := parameters stream.sps (by simp)
  have pps := parameters stream.pps (by simp)
  unfold Stream.keepParameter
  split
  · simpa [SendableParameters] using And.intro good pps
  · split
    · simpa [SendableParameters] using And.intro sps good
    · exact parameters

/-- A stream published only access units has parameter sets that may be sent. -/
theorem recordParameters_sendable {stream : Stream} (parameters : SendableParameters stream)
    (unit : AccessUnit) : SendableParameters (stream.recordParameters unit.bytes) := by
  have units : ∀ nal ∈ nalUnits unit.bytes, ∀ header, nal.head? = some header →
      RtpH264.Sendable header := by
    rw [nalUnits_bytes]
    intro nal member
    obtain ⟨segment, inside, rfl⟩ := List.mem_map.mp member
    exact unit.sendable segment inside
  unfold Stream.recordParameters
  generalize nalUnits unit.bytes = nals at units
  induction nals generalizing stream with
  | nil => exact parameters
  | cons nal rest inductionHypothesis =>
      rw [List.foldl_cons]
      exact inductionHypothesis (keepParameter_sendable parameters (units nal List.mem_cons_self))
        fun other member => units other (List.mem_cons_of_mem _ member)

/-! ### A concrete keyframe -/

/-- Two NAL units behind a four-byte and a three-byte start code. -/
def sampleUnit : AccessUnit where
  segments := [⟨1, [0x06, 0x05, 0x80]⟩, ⟨0, [0x65, 0x88, 0x84]⟩]
  trailing := 1
  framed segment member := by
    simp only [List.mem_cons, List.not_mem_nil, or_false] at member
    rcases member with rfl | rfl <;> exact ⟨by decide, by decide⟩
  sendable segment member header first := by
    simp only [List.mem_cons, List.not_mem_nil, or_false] at member
    rcases member with rfl | rfl <;> cases first <;> decide
  endsInNal := ⟨⟨0, [0x65, 0x88, 0x84]⟩, rfl, by decide⟩

/-- The unit as a keyframe of a stream with both parameter sets. -/
def sampleCall : Call where
  stream := { ring := ⟨4, fun _ => Frame.blank, 0⟩, sps := [0x67, 0x64], pps := [0x68, 0xEE] }
  frame := ⟨sampleUnit.bytes, 40000, 1, true, .h264⟩
  unit := sampleUnit
  parameters nal member header first := by
    simp only [List.mem_cons, List.not_mem_nil, or_false] at member
    rcases member with rfl | rfl <;> cases first <;> decide
  carries := rfl

theorem videoFrames_roundTrip_sample :
    ∃ after batches, Track.videoFrames ⟨fun _ => false, fun _ => false⟩
        ⟨65535, 1, 0, 0, 0, []⟩ [sampleCall, sampleCall] = some after ∧
      after.sent = [] ++ batches.flatten.map RtpH264.Packet.bytes ∧
      List.Forall₂ (RoundTrip ⟨65535, 1, 0, 0, 0, []⟩) [sampleCall, sampleCall] batches ∧
      ∀ (index : Nat) (packet : RtpH264.Packet), batches.flatten[index]? = some packet →
        packet.sequence = 65535 + UInt16.ofNat index ∧
          RtpH264.Packet.parse packet.bytes = some packet :=
  videoFrames_roundTrip ⟨fun _ => rfl, fun _ => rfl⟩ ⟨65535, 1, 0, 0, 0, []⟩
    [sampleCall, sampleCall]

end JooanW3U.Media.RtpVideo
