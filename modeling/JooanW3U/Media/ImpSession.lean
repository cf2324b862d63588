import JooanW3U.Media.ImpLedger

/-!
Owns the end of a backend's life: a lens whose region the SDK refused to register stays
without a registration under its flag, and the calls of a session settle exactly when no
region was refused.
-/

namespace JooanW3U.Media

open JooanW3U.Library
open JooanW3U.Library.Ledger

namespace ImpBackend

open Profile ImpState

/-! ## A region that was refused -/

/-- The lens has a region by its flag, but by the calls it is in no group. -/
def Lost (s : ImpState) (lens : Nat) : Prop :=
  s.flags (.osd_rgn lens) = true ∧
    ∀ held, settle needs s.log [] = some held → .regionIn lens (s.handle lens) ∉ held

/-- A lens with a region keeps it, and no region is registered for it again. -/
def Keeps (lens : Nat) (s s' : ImpState) : Prop :=
  s.flags (.osd_rgn lens) = true →
    s'.flags (.osd_rgn lens) = true ∧ s'.handle lens = s.handle lens ∧
      ∃ acts, s'.log = s.log ++ acts ∧ ∀ handle, .acquired (.regionIn lens handle) ∉ acts

namespace Keeps

variable {lens : Nat} {s s' s'' : ImpState}

theorem same (flags : s'.flags (.osd_rgn lens) = s.flags (.osd_rgn lens))
    (handle : s'.handle = s.handle) (log : s'.log = s.log) : Keeps lens s s' := by
  intro region
  exact ⟨flags.trans region, congrFun handle lens, [], by rw [log, List.append_nil], nofun⟩

theorem did {acts : List (Act Resource)}
    (free : ∀ handle, .acquired (.regionIn lens handle) ∉ acts) : Keeps lens s (s.did acts) :=
  fun region => ⟨region, rfl, acts, rfl, free⟩

theorem trans (first : Keeps lens s s') (second : Keeps lens s' s'') : Keeps lens s s'' := by
  intro region
  obtain ⟨region, handle, acts, log, free⟩ := first region
  obtain ⟨region, handle', more, log', free'⟩ := second region
  refine ⟨region, handle'.trans handle, acts ++ more, ?_, ?_⟩
  · rw [log', log, List.append_assoc]
  · intro handle member
    rcases List.mem_append.mp member with member | member
    · exact free handle member
    · exact free' handle member

theorem acquires {flag : Flag} {resource : Resource}
    (other : ∀ handle, resource ≠ .regionIn lens handle) :
    Keeps lens s (s.acquires flag resource) := by
  intro region
  refine ⟨?_, rfl, [.acquired resource], rfl, ?_⟩
  · show Function.update s.flags flag true (.osd_rgn lens) = true
    by_cases same : Flag.osd_rgn lens = flag
    · rw [same, Function.update_self]
    · rw [Function.update_of_ne same, region]
  · intro handle member
    exact other handle (Act.acquired.inj (List.mem_singleton.mp member)).symm

theorem lost (keeps : Keeps lens s s') (lost : Lost s lens) : Lost s' lens := by
  obtain ⟨region, handle, acts, log, free⟩ := keeps lost.1
  refine ⟨region, ?_⟩
  rw [log, handle]
  intro held settled member
  rw [settle_append] at settled
  obtain ⟨before, first, later⟩ := Option.bind_eq_some_iff.mp settled
  rcases acquired_of_settled later member with already | acquired
  · exact lost.2 before first already
  · exact free _ acquired

theorem hide {sensor : Nat} {a : OverlayAnswers} : Keeps lens s (hide sensor a s).2 := by
  unfold ImpBackend.hide
  split
  · split
    · have released : Keeps lens s (s.did [.released (.shown sensor (s.handle sensor))]) :=
        did (by simp)
      exact released.trans (same (mark_other nofun) rfl rfl)
    · exact same rfl rfl rfl
  · exact same rfl rfl rfl

theorem allocate {a : OverlayAnswers} : Keeps lens s (allocate a s).2 := by
  unfold ImpBackend.allocate
  split
  · exact same rfl rfl rfl
  · split <;> exact same rfl rfl rfl

theorem makeRegion {sensor : Nat} {a : OverlayAnswers} :
    Keeps lens s (makeRegion sensor a s).2 := by
  intro region
  unfold ImpBackend.makeRegion
  split
  · exact same rfl rfl rfl region
  · next clear =>
      have elsewhere : lens ≠ sensor := by
        rintro rfl
        exact clear region
      split
      · exact same rfl rfl rfl region
      · next handle _ =>
          have created : Keeps lens s { s.acquires (.osd_rgn sensor) (.region sensor handle) with
              handle := Function.update s.handle sensor handle } := by
            intro region
            obtain ⟨region, -, rest⟩ :=
              @acquires _ _ (.osd_rgn sensor) (.region sensor handle) nofun region
            exact ⟨region, Function.update_of_ne elsewhere .., rest⟩
          split
          · exact created.trans (did (by simp [elsewhere])) region
          · exact created region

theorem reveal {sensor : Nat} {a : OverlayAnswers} : Keeps lens s (reveal sensor a s).2 := by
  unfold ImpBackend.reveal
  split
  · exact same rfl rfl rfl
  · split
    · exact acquires nofun
    · exact same rfl rfl rfl

theorem overlay {p : Profile} {sensor : Nat} {text : Bool} {a : OverlayAnswers} :
    Keeps lens s (jipc_imp_overlay p sensor text a s).2 := by
  unfold jipc_imp_overlay
  split
  · exact same rfl rfl rfl
  · split
    · exact hide
    · refine Attempt.andThen_related (Keeps lens) trans (fun _ => allocate) (fun _ => ?_) s
      refine Attempt.andThen_related (Keeps lens) trans (fun _ => makeRegion) (fun _ => ?_) _
      exact Attempt.andThen_related (Keeps lens) trans (fun _ => same rfl rfl rfl)
        (fun _ => reveal) _

theorem copy_stream_free (channel : Nat) (got : Bool) (handle : Nat) :
    Act.acquired (.regionIn lens handle) ∉ copy_stream channel got := by
  cases got <;> simp [copy_stream]

theorem polled (copies : List (Nat × Bool)) : Keeps lens s (jipc_imp_poll copies s) := by
  apply did
  intro handle member
  obtain ⟨copy, -, copied⟩ := List.mem_flatMap.mp member
  exact copy_stream_free _ _ handle copied

theorem snapshotBegins {p : Profile} {channel : Nat} {a : StillAnswers} :
    Keeps lens s (snapshotBegins p channel a s) := by
  have acquired : Keeps lens s
      (s.did ((stillTaken p (channel / 2) a).reverse.map .acquired)) := by
    apply did
    intro handle member
    obtain ⟨resource, taken, same⟩ := List.mem_map.mp member
    have inside := (stillTaken_sublist p (channel / 2) a).subset (List.mem_reverse.mp taken)
    rw [Act.acquired.inj same] at inside
    simp [stillResources] at inside
  unfold ImpBackend.snapshotBegins
  split
  · exact same rfl rfl rfl
  · split
    · exact acquired.trans (same rfl rfl rfl)
    · exact acquired.trans (did (by simp))

theorem snapshotEnds {p : Profile} {readable got : Bool} :
    Keeps lens s (snapshotEnds p readable got s) := by
  unfold ImpBackend.snapshotEnds
  split
  · exact same rfl rfl rfl
  · next sensor _ =>
      have copied : Keeps lens s (s.did (copy_stream (stillEncoder sensor) (readable && got))) :=
        did (copy_stream_free _ _)
      exact (copied.trans (did (by simp))).trans (same rfl rfl rfl)

theorem step {p : Profile} {event : Event} : Keeps lens s (step p s event) := by
  cases event with
  | overlay sensor text answers => exact overlay
  | snapshotBegins channel answers => exact snapshotBegins
  | snapshotEnds readable got => exact snapshotEnds
  | polled copies => exact polled copies

theorem run {p : Profile} (events : List Event) :
    Keeps lens s (events.foldl (ImpBackend.step p) s) := by
  induction events generalizing s with
  | nil => exact same rfl rfl rfl
  | cons event events inductionHypothesis => exact step.trans inductionHypothesis

end Keeps

/-- A refused region leaves its lens with a flag and no group. -/
theorem refused_lost {p : Profile} {s : ImpState} (balanced : Balanced p s) {event : Event}
    (refused : refusesRegion p s event = true) : ∃ lens ≤ 1, Lost (step p s event) lens := by
  cases event with
  | snapshotBegins | snapshotEnds | polled => cases refused
  | overlay sensor text a =>
      simp only [refusesRegion, Bool.and_eq_true, Bool.or_eq_true, decide_eq_true_eq,
        Bool.not_eq_true'] at refused
      obtain ⟨⟨stage, clear⟩, created⟩ := refused.1
      obtain ⟨⟨⟨⟨published, small⟩, bound⟩, written⟩, pixels⟩ := stage
      have refuses := refused.2
      obtain ⟨handle, created⟩ := Option.isSome_iff_exists.mp created
      have allocated : ∃ s', allocate a s = (true, s') ∧ s'.flags = s.flags ∧ s'.log = s.log ∧
          s'.handle = s.handle := by
        unfold allocate
        split
        · exact ⟨s, rfl, rfl, rfl, rfl⟩
        · next none => exact ⟨_, if_pos (pixels.resolve_left none), rfl, rfl, rfl⟩
      obtain ⟨s', allocated, flags, log, handles⟩ := allocated
      have made : makeRegion sensor a s' =
          (false, { s'.acquires (.osd_rgn sensor) (.region sensor handle) with
            handle := Function.update s'.handle sensor handle }) := by
        rw [makeRegion, if_neg (by simp [flags, clear]), created]
        simp [refuses]
      have stage : ¬(p.sensors ≤ sensor ∨ 1 < sensor ∨ s.flags (.osd_bound sensor 2) = false) := by
        simp [bound]
        omega
      refine ⟨sensor, small, ?_⟩
      show Lost (jipc_imp_overlay p sensor text a s).2 sensor
      rw [jipc_imp_overlay, if_neg stage, if_neg (by simp [written]),
        Attempt.andThen_done allocated, Attempt.andThen_refused made]
      refine ⟨Function.update_self .., ?_⟩
      show ∀ held, settle needs (s'.log ++ [.acquired (.region sensor handle)]) [] = some held →
        .regionIn sensor (Function.update s'.handle sensor handle sensor) ∉ held
      rw [Function.update_self, log]
      intro held settled member
      obtain ⟨before, ledger, has⟩ := balanced.ledger
      rw [settle_after needs ledger] at settled
      rw [← Option.some.inj settled] at member
      have graph : Resource.regionIn sensor handle ∈ stillHeld p s.still ++ graphHeld p s :=
        has.mem_iff.mp ((List.mem_cons.mp member).resolve_left Resource.noConfusion)
      rcases List.mem_append.mp graph with still | graph
      · cases waits : s.still with
        | none =>
            rw [waits] at still
            cases still
        | some lens =>
            rw [waits] at still
            simp [stillHeld, stillResources] at still
      · obtain ⟨flag, set, released⟩ := List.mem_flatMap.mp graph
        have same : flag = .osd_rgn sensor := by
          cases flag <;> simp [release] at released
          · split at released <;> simp at released
          · exact congrArg Flag.osd_rgn released.1.symm
        rw [same, List.mem_filter, clear] at set
        cases set.2

/-! ## jipc_imp_close -/

/-- Every region that the overlay makes is registered. -/
def Registered (p : Profile) : ImpState → List Event → Prop
  | _, [] => True
  | s, event :: events => refusesRegion p s event = false ∧ Registered p (step p s event) events

theorem step_balanced {p : Profile} {s : ImpState} (balanced : Balanced p s) {event : Event}
    (registered : refusesRegion p s event = false) : Balanced p (step p s event) := by
  cases event with
  | overlay sensor text answers => exact overlay_balanced balanced registered
  | snapshotBegins channel answers => exact snapshotBegins_balanced balanced channel answers
  | snapshotEnds readable got => exact (snapshotEnds_balanced balanced readable got).1
  | polled copies => exact poll_balanced balanced copies

/-- With no still waiting, the close calls give back all that is held. -/
theorem close_settles {p : Profile} {s : ImpState} (balanced : Balanced p s)
    (none : s.still = none) : settle needs (jipc_imp_close p s) [] = some [] := by
  have all : tested s = s.flags := by
    funext flag
    cases flag with
    | osd_shown lens =>
        show (s.flags (.osd_rgn lens) && s.flags (.osd_shown lens)) = s.flags (.osd_shown lens)
        cases shown : s.flags (.osd_shown lens) with
        | false => exact Bool.and_false _
        | true => rw [balanced.shown_region lens shown, Bool.and_true]
    | _ => rfl
  have held := balanced.ledger
  rw [none] at held
  rw [jipc_imp_close, all, ← Holds.nil_iff]
  apply Holds.released
  · rw [List.append_nil]
    exact held
  · exact fun _ _ => needs_self _
  · exact (close_order p s.handle).sublist recorded_sublist
  · exact fun _ _ _ => nofun

/-- A close that finds a refused region unregisters what was never registered. -/
theorem close_unsettled {p : Profile} {s : ImpState} {lens : Nat} (small : lens ≤ 1)
    (lost : Lost s lens) : settle needs (jipc_imp_close p s) [] ≠ some [] := by
  intro settled
  have released : Resource.regionIn lens (s.handle lens) ∈
      recorded closeOrder (release p.source s.handle) (tested s) := by
    apply List.mem_flatMap.mpr
    refine ⟨.osd_rgn lens, ?_, List.mem_cons_self ..⟩
    exact List.mem_filter.mpr ⟨(region_flags_member small).1, lost.1⟩
  obtain ⟨held, ledger, member⟩ := held_of_released settled released
  exact lost.2 held ledger member

theorem run_settles_iff {p : Profile} {s : ImpState} (balanced : Balanced p s)
    (events : List Event) (readable got : Bool) :
    settle needs (jipc_imp_close p (snapshotEnds p readable got (events.foldl (step p) s))) [] =
      some [] ↔ Registered p s events := by
  induction events generalizing s with
  | nil =>
      obtain ⟨balanced, none⟩ := snapshotEnds_balanced balanced readable got
      exact iff_of_true (close_settles balanced none) trivial
  | cons event events inductionHypothesis =>
      rw [List.foldl_cons, Registered]
      cases registered : refusesRegion p s event with
      | false => simpa using inductionHypothesis (step_balanced balanced registered)
      | true =>
          obtain ⟨lens, small, lost⟩ := refused_lost balanced registered
          have later := (@Keeps.run _ _ p events).lost lost
          have closing := (@Keeps.snapshotEnds _ _ p readable got).lost later
          exact iff_of_false (close_unsettled small closing) (by simp)

/-- The calls of a session release everything they acquired, each once, nothing else, and
nothing before what depends on it, exactly when `jipc_imp_open` failed or the overlay made
no region that the SDK refused to register. -/
theorem session_settles_iff (p : Profile) (opening : Opening) (events : List Event)
    (readable got : Bool) :
    settle needs (session p opening events readable got) [] = some [] ↔
      ((jipc_imp_open p opening).1 = true → Registered p (jipc_imp_open p opening).2 events) := by
  have balanced := open_balanced p opening
  have still := open_still p opening
  unfold session
  cases ran : jipc_imp_open p opening with
  | mk done s =>
      rw [ran] at balanced still
      cases done with
      | false => exact iff_of_true (close_settles balanced still) nofun
      | true => exact (run_settles_iff balanced events readable got).trans (by simp)

/-- The camera: two lenses on full-frame OpenIMP, with every optional function. -/
def camera : Profile :=
  { sensors := 2, main_only := true, openimp_fullframe := true, flip := fun _ => 0, osd := true,
    osd_pool := true, isp_pool := true, vpubs_pool := true, vb_pool := true, stream_out := true,
    set_fps := true, set_fps_sec := true, hflip := fun _ => true, vflip := fun _ => true,
    one_or_two := .inr rfl }

/-- Everything succeeds but the registration of the first lens's region. -/
def unregistered : OverlayAnswers :=
  { allocates := true, handle := some 0, registers := false, fits := true, sets := true,
    shows := true, hides := true }

theorem unregistered_region_released :
    ¬ ∀ (p : Profile) (opening : Opening) (events : List Event) (readable got : Bool),
      settle needs (session p opening events readable got) [] = some [] := by
  intro settles
  have refused := settles camera ⟨fun _ => true, [], true⟩ [.overlay 0 true unregistered]
    false false
  exact absurd refused (by decide +kernel)

end ImpBackend

end JooanW3U.Media
