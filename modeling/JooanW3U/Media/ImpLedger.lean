import JooanW3U.Media.ImpBackend

/-!
Owns the resource ledger of the video backend while it is open: the order in which
`jipc_imp_close` releases respects what the SDK objects need, and every call keeps the
flags true to what is held, but for an overlay call whose region is refused.

Does not own what follows from a refused region, nor the close.
-/

namespace JooanW3U.Media

open JooanW3U.Library
open JooanW3U.Library.Ledger

namespace ImpBackend

open Profile ImpState

/-! ## The order of the releases -/

/-- What a cell can stand for. -/
def bindable : Resource → Bool
  | .frameSource _ | .osdGroup _ | .group _ => true
  | _ => false

theorem bindable_owner (cell : Cell) : bindable cell.owner = true := by
  unfold Cell.owner
  split
  · rfl
  · split <;> rfl

theorem needs_binding (source destination : Cell) {resource : Resource}
    (free : bindable resource = false) : needs (.binding source destination) resource = false := by
  have other (cell : Cell) : (cell.owner == resource) = false := by
    apply beq_false_of_ne
    intro same
    rw [← same, bindable_owner] at free
    cases free
  simp only [needs, other, Bool.or_self]

theorem needs_self (resource : Resource) : needs resource resource = false := by
  cases resource with
  | binding source destination => exact needs_binding source destination rfl
  | _ => rfl

theorem needs_picture (other : Resource) (channel : Nat) :
    needs other (.picture channel) = false := by
  cases other with
  | binding source destination => exact needs_binding source destination rfl
  | _ => rfl

theorem needs_shown (other : Resource) (lens handle : Nat) :
    needs other (.shown lens handle) = false := by
  cases other with
  | binding source destination => exact needs_binding source destination rfl
  | _ => rfl

/-- A region without its handle. -/
def plain : Resource → Resource
  | .region lens _ => .region lens 0
  | .regionIn lens _ => .regionIn lens 0
  | .shown lens _ => .shown lens 0
  | resource => resource

/-- Two regions of one lens are in order whatever their handles are. -/
theorem needs_plain {late early : Resource} (needed : needs late early = true) :
    needs (plain late) (plain early) = true := by
  cases late with
  | binding source destination =>
      have inside : bindable early = true := by
        by_contra outside
        rw [needs_binding source destination (Bool.not_eq_true _ ▸ outside)] at needed
        cases needed
      cases early <;> first | exact needed | cases inside
  | _ => cases early <;> simp_all [needs, plain]

theorem release_plain (source handle : Nat → Nat) (flag : Flag) :
    (release source handle flag).map plain = release source (fun _ => 0) flag := by
  cases flag with
  | osd_bound lens level =>
      by_cases last : level = 2 <;> simp only [release, last, if_true, if_false] <;> rfl
  | _ => rfl

theorem close_order_plain :
    ∀ main_only fullframe : Bool,
      (closeOrder.flatMap (release (source_channel main_only fullframe) fun _ => 0)).Pairwise
        fun early late => needs late early = false := by
  decide +kernel

/-- Nothing released by `jipc_imp_close` is needed by what it releases later. -/
theorem close_order (p : Profile) (handle : Nat → Nat) :
    (closeOrder.flatMap (release p.source handle)).Pairwise
      fun early late => needs late early = false := by
  have all := close_order_plain p.main_only p.openimp_fullframe
  have same : (closeOrder.flatMap (release p.source handle)).map plain =
      closeOrder.flatMap (release p.source fun _ => 0) := by
    rw [List.map_flatMap]
    exact List.flatMap_congr fun flag _ => release_plain p.source handle flag
  have mapped : ((closeOrder.flatMap (release p.source handle)).map plain).Pairwise
      fun early late => needs late early = false := by
    rw [same]
    exact all
  apply List.Pairwise.of_map plain _ mapped
  intro early late free
  by_contra needed
  rw [needs_plain (Bool.not_eq_false _ ▸ needed)] at free
  cases free

theorem closeOrder_nodup : closeOrder.Nodup := by
  decide +kernel

theorem encChannel_cases (stream : Nat) :
    encChannel stream = 0 ∨ encChannel stream = 4 ∨ encChannel stream = 1 ∨
      encChannel stream = 5 := by
  match stream with
  | 0 => exact .inl rfl
  | 1 => exact .inr (.inl rfl)
  | 2 => exact .inr (.inr (.inl rfl))
  | 3 => exact .inr (.inr (.inr rfl))
  | _ + 4 => exact .inl rfl

/-- The streams leave encoders 2 and 3 to the stills. -/
theorem encChannel_ne_still (stream : Nat) {sensor : Nat} (lens : sensor < 2) :
    (encChannel stream == stillEncoder sensor) = false := by
  apply beq_false_of_ne
  unfold stillEncoder
  rcases encChannel_cases stream with channel | channel | channel | channel <;> omega

/-- Nothing of the graph needs what a still uses. -/
theorem still_free (p : Profile) {source handle : Nat → Nat} {flag : Flag} {sensor : Nat}
    (lens : sensor < 2) {other resource : Resource} (graph : other ∈ release source handle flag)
    (still : resource ∈ stillResources p sensor) : needs other resource = false := by
  have channel := fun stream => encChannel_ne_still stream lens
  have unbound : bindable resource = false := by
    simp only [stillResources, List.mem_cons, List.not_mem_nil, or_false] at still
    rcases still with rfl | rfl | rfl <;> rfl
  have free : ∀ cell cell', needs (.binding cell cell') resource = false :=
    fun cell cell' => needs_binding cell cell' unbound
  cases flag with
  | bound | osd_bound =>
      simp only [release, List.mem_cons, List.not_mem_nil, or_false] at graph
      grind
  | _ =>
      simp only [release, List.mem_cons, List.not_mem_nil, or_false] at graph
      simp only [stillResources, List.mem_cons, List.not_mem_nil, or_false] at still
      rcases still with rfl | rfl | rfl <;>
        first
        | (subst graph; first | rfl | exact channel _)
        | rcases graph with rfl | rfl <;> rfl

theorem mark_other {s : ImpState} {flag other : Flag} {value : Bool} (ne : other ≠ flag) :
    (s.mark flag value).flags other = s.flags other :=
  Function.update_of_ne ne ..

/-! ## What is held -/

/-- What a waiting still holds. -/
def stillHeld (p : Profile) : Option Nat → List Resource
  | none => []
  | some sensor => stillResources p sensor

/-- What the flags stand for. -/
abbrev graphHeld (p : Profile) (s : ImpState) : List Resource :=
  recorded closeOrder (release p.source s.handle) s.flags

/-- The flags, with the waiting still, say what the calls so far have left held. -/
structure Balanced (p : Profile) (s : ImpState) : Prop where
  shown_region : ∀ lens, s.flags (.osd_shown lens) = true → s.flags (.osd_rgn lens) = true
  still_lens : ∀ sensor, s.still = some sensor → sensor < 2
  ledger : Holds needs s.log (stillHeld p s.still ++ graphHeld p s)

theorem mem_graphHeld {p : Profile} {s : ImpState} {resource : Resource}
    (member : resource ∈ graphHeld p s) :
    ∃ flag, resource ∈ release p.source s.handle flag := by
  obtain ⟨flag, -, released⟩ := List.mem_flatMap.mp member
  exact ⟨flag, released⟩

namespace Balanced

variable {p : Profile} {s : ImpState}

theorem zero : Balanced p .zero where
  shown_region := nofun
  still_lens := nofun
  ledger := Holds.nil

/-- A call that sets its flag keeps the balance, where the flag's release call undoes it. -/
theorem acquires (balanced : Balanced p s) {flag : Flag} {resource : Resource}
    (member : flag ∈ closeOrder) (clear : s.flags flag = false)
    (undone : release p.source s.handle flag = [resource])
    (region : ∀ lens, flag = .osd_shown lens → s.flags (.osd_rgn lens) = true) :
    Balanced p (s.acquires flag resource) where
  shown_region := by
    intro lens set
    show Function.update s.flags flag true (.osd_rgn lens) = true
    have before : s.flags (.osd_rgn lens) = true := by
      by_cases same : Flag.osd_shown lens = flag
      · exact region lens same.symm
      · exact balanced.shown_region lens ((Function.update_of_ne same ..).symm.trans set)
    by_cases same : Flag.osd_rgn lens = flag
    · rw [same, Function.update_self]
    · rw [Function.update_of_ne same, before]
  still_lens := balanced.still_lens
  ledger := by
    have added : (graphHeld p (s.acquires flag resource)).Perm (resource :: graphHeld p s) := by
      have := @recorded_set _ _ _ closeOrder (release p.source s.handle) s.flags flag
        closeOrder_nodup member clear
      rwa [undone] at this
    exact balanced.ledger.acquired.perm
      ((List.perm_middle.symm).trans (added.symm.append_left (stillHeld p s.still)))

/-- A release call that clears its flag keeps the balance, where nothing held needs what
it releases. -/
theorem clears (balanced : Balanced p s) {flag : Flag} {resource : Resource}
    (member : flag ∈ closeOrder) (set : s.flags flag = true)
    (undone : release p.source s.handle flag = [resource])
    (free : ∀ other, needs other resource = false) (region : ∀ lens, flag ≠ .osd_rgn lens) :
    Balanced p ((s.did [.released resource]).mark flag false) where
  shown_region := by
    intro lens shown
    show Function.update s.flags flag false (.osd_rgn lens) = true
    rw [Function.update_of_ne (region lens).symm]
    by_cases same : Flag.osd_shown lens = flag
    · have : Function.update s.flags flag false (.osd_shown lens) = true := shown
      rw [same, Function.update_self] at this
      cases this
    · exact balanced.shown_region lens ((Function.update_of_ne same ..).symm.trans shown)
  still_lens := balanced.still_lens
  ledger := by
    have taken := @recorded_clear _ _ _ closeOrder (release p.source s.handle) s.flags flag
      closeOrder_nodup member set
    rw [undone] at taken
    have held := balanced.ledger.perm
      ((taken.append_left (stillHeld p s.still)).trans List.perm_middle)
    exact @Holds.released _ _ _ _ _ [resource] held (fun _ _ => needs_self _)
      (List.pairwise_singleton ..) fun r member other _ => by
        rw [List.mem_singleton.mp member]
        exact free other

/-- Acts that settle by themselves keep the balance. -/
theorem did (balanced : Balanced p s) {acts : List (Act Resource)}
    (ledger : Holds needs (s.log ++ acts) (stillHeld p s.still ++ graphHeld p s)) :
    Balanced p (s.did acts) :=
  ⟨balanced.shown_region, balanced.still_lens, ledger⟩

end Balanced

/-! ## Frames -/

/-- A copied frame leaves nothing behind. -/
theorem copy_stream_holds {acts : List (Act Resource)} {resources : List Resource}
    (holds : Holds needs acts resources) (channel : Nat) (got : Bool) :
    Holds needs (acts ++ copy_stream channel got) resources := by
  cases got with
  | false => rwa [copy_stream, if_neg Bool.false_ne_true, List.append_nil]
  | true =>
      have taken := @Holds.acquired _ _ _ _ _ (.picture channel) holds
      have back := @Holds.released _ _ _ _ _ [.picture channel] taken (fun _ _ => needs_self _)
        (List.pairwise_singleton ..) fun r member other _ => by
          rw [List.mem_singleton.mp member]
          exact needs_picture other channel
      rwa [List.append_assoc] at back

theorem poll_balanced {p : Profile} {s : ImpState} (balanced : Balanced p s)
    (copies : List (Nat × Bool)) : Balanced p (jipc_imp_poll copies s) := by
  apply balanced.did
  have holds := balanced.ledger
  generalize s.log = acts at holds ⊢
  induction copies generalizing acts with
  | nil => rwa [List.flatMap_nil, List.append_nil]
  | cons copy copies inductionHypothesis =>
      rw [List.flatMap_cons, ← List.append_assoc]
      exact inductionHypothesis _ (copy_stream_holds holds (encChannel copy.1) copy.2)

/-! ## jipc_imp_open -/

def Step.acquisition : Step → Option (Flag × Resource)
  | .acquire flag resource _ => some (flag, resource)
  | _ => none

/-- The flags that steps can set, with what their calls acquire. -/
def acquisitions (steps : List Step) : List (Flag × Resource) :=
  steps.filterMap Step.acquisition

def Flag.ofRegion : Flag → Bool
  | .osd_rgn _ | .osd_shown _ => true
  | _ => false

/-- The flag is not a region's, is tested by `jipc_imp_close`, and leads to the release of
what was acquired. -/
def Undone (source : Nat → Nat) (acquisition : Flag × Resource) : Prop :=
  acquisition.1 ∈ closeOrder ∧ acquisition.1.ofRegion = false ∧
    release source (fun _ => 0) acquisition.1 = [acquisition.2]

instance (source : Nat → Nat) (acquisition : Flag × Resource) :
    Decidable (Undone source acquisition) :=
  inferInstanceAs (Decidable (_ ∧ _))

theorem release_graph {source : Nat → Nat} {flag : Flag} (graph : flag.ofRegion = false)
    (handle : Nat → Nat) : release source handle flag = release source (fun _ => 0) flag := by
  cases flag with
  | osd_rgn => cases graph
  | osd_shown => cases graph
  | _ => rfl

theorem take_other {s : ImpState} {answer : Bool} {step : Step} {flag : Flag}
    (other : ∀ acquisition, step.acquisition = some acquisition → acquisition.1 ≠ flag) :
    (take answer step s).2.flags flag = s.flags flag := by
  cases step with
  | check call => rfl
  | refuse message => rfl
  | acquire set resource call =>
      cases answer with
      | false => rfl
      | true => exact Function.update_of_ne (other _ rfl).symm ..

theorem take_balanced {p : Profile} {s : ImpState} {answer : Bool} {step : Step}
    (balanced : Balanced p s)
    (undone : ∀ acquisition, step.acquisition = some acquisition →
      Undone p.source acquisition ∧ s.flags acquisition.1 = false) :
    Balanced p (take answer step s).2 := by
  cases step with
  | check call => exact balanced
  | refuse message => exact balanced
  | acquire flag resource call =>
      obtain ⟨undone, clear⟩ := undone _ rfl
      cases answer with
      | false => exact balanced
      | true =>
          refine balanced.acquires undone.1 clear ((release_graph undone.2.1 _).trans undone.2.2) ?_
          rintro lens rfl
          cases undone.2.1

/-- Whichever step fails first, the flags are true to what was acquired. -/
theorem perform_balanced {p : Profile} {steps : List Step}
    (undone : ∀ acquisition ∈ acquisitions steps, Undone p.source acquisition)
    (once : ((acquisitions steps).map Prod.fst).Nodup) (answers : Nat → Bool) {s : ImpState}
    (balanced : Balanced p s) (clear : ∀ acquisition ∈ acquisitions steps,
      s.flags acquisition.1 = false) : Balanced p (perform steps answers s).2 := by
  induction steps generalizing answers s with
  | nil => exact balanced
  | cons step steps inductionHypothesis =>
      have here : ∀ acquisition, step.acquisition = some acquisition →
          acquisition ∈ acquisitions (step :: steps) := by
        intro acquisition acquired
        exact List.mem_filterMap.mpr ⟨step, List.mem_cons_self .., acquired⟩
      have later : ∀ acquisition ∈ acquisitions steps,
          acquisition ∈ acquisitions (step :: steps) := by
        intro acquisition member
        obtain ⟨other, inside, acquired⟩ := List.mem_filterMap.mp member
        exact List.mem_filterMap.mpr ⟨other, .tail _ inside, acquired⟩
      have taken := @take_balanced _ _ (answers 0) _ balanced fun acquisition acquired =>
        ⟨undone _ (here _ acquired), clear _ (here _ acquired)⟩
      have others : ((acquisitions steps).map Prod.fst).Nodup ∧
          ∀ acquisition, step.acquisition = some acquisition →
            acquisition.1 ∉ (acquisitions steps).map Prod.fst := by
        cases acquired : step.acquisition with
        | none =>
            rw [acquisitions, List.filterMap_cons_none acquired] at once
            exact ⟨once, nofun⟩
        | some acquisition =>
            rw [acquisitions, List.filterMap_cons_some acquired, List.map_cons,
              List.nodup_cons] at once
            exact ⟨once.2, fun _ same => Option.some.inj same ▸ once.1⟩
      have fresh : ∀ acquisition ∈ acquisitions steps,
          (take (answers 0) step s).2.flags acquisition.1 = false := by
        intro acquisition member
        rw [take_other, clear _ (later _ member)]
        intro first acquired same
        exact others.2 first acquired (same ▸ List.mem_map_of_mem member)
      exact Attempt.andThen_ends taken fun _ =>
        inductionHypothesis (fun acquisition member => undone _ (later _ member)) others.1 _ taken
          fresh

theorem acquisitions_append (early late : List Step) :
    acquisitions (early ++ late) = acquisitions early ++ acquisitions late :=
  List.filterMap_append

theorem acquisitions_optional (present : Bool) (call : String) :
    acquisitions (optional present call) = [] := by
  cases present <;> rfl

theorem acquisitions_flipControls (p : Profile) (sensors : List Nat) :
    acquisitions (sensors.flatMap (flipControls p)) = [] := by
  unfold acquisitions
  rw [List.filterMap_flatMap, List.flatMap_eq_nil_iff]
  intro sensor _
  show acquisitions (flipControls p sensor) = []
  unfold flipControls
  rw [acquisitions_append, acquisitions_append, acquisitions_optional, acquisitions_optional]
  split <;> rfl

theorem acquisitions_streamOut (p : Profile) : acquisitions (streamOut p) = [] := by
  unfold streamOut
  split
  · split <;> rfl
  · rfl

/-- All that `jipc_imp_open` acquires. -/
def opened (sensors : Nat) (main_only fullframe osd : Bool) : List (Flag × Resource) :=
  (.isp, .isp) ::
    ((List.range (sensor_count sensors fullframe)).map (fun i => (.added i, .sensor i)) ++
      [(.enabled, .sensors), (.system, .system), (.tuning, .tuning)] ++
      acquisitions (video_graph_open sensors main_only fullframe osd))

theorem acquisitions_openSteps (p : Profile) :
    acquisitions (openSteps p) = opened p.sensors p.main_only p.openimp_fullframe p.osd := by
  have added : acquisitions ((List.range p.sensorCount).map fun i =>
      Step.acquire (.added i) (.sensor i) "IMP_ISP_AddSensor") =
        (List.range p.sensorCount).map fun i => (.added i, .sensor i) := by
    unfold acquisitions
    rw [List.filterMap_map, ← List.filterMap_eq_map]
    rfl
  simp only [openSteps, acquisitions_append, acquisitions_optional, acquisitions_flipControls,
    acquisitions_streamOut, added, opened, List.append_assoc, List.nil_append]
  rfl

/-- Each flag is set once and undone by `jipc_imp_close`, in every profile. -/
theorem opened_undone :
    ∀ sensors ∈ [1, 2], ∀ main_only fullframe osd : Bool,
      (∀ acquisition ∈ opened sensors main_only fullframe osd,
        Undone (source_channel main_only fullframe) acquisition) ∧
      ((opened sensors main_only fullframe osd).map Prod.fst).Nodup := by
  decide +kernel

theorem perform_still {steps : List Step} {answers : Nat → Bool} {s : ImpState} :
    (perform steps answers s).2.still = s.still := by
  induction steps generalizing answers s with
  | nil => rfl
  | cons step steps inductionHypothesis =>
      have taken : (take (answers 0) step s).2.still = s.still := by
        cases step with
        | acquire => cases answers 0 <;> rfl
        | _ => rfl
      exact @Attempt.andThen_ends _ (fun final : ImpState => final.still = s.still) _ _ _ taken
        fun _ => inductionHypothesis.trans taken

/-- However far `jipc_imp_open` gets, the flags are true to what was acquired. -/
theorem open_balanced (p : Profile) (opening : Opening) :
    Balanced p (jipc_imp_open p opening).2 := by
  have count : p.sensors ∈ [1, 2] := by
    simpa using p.one_or_two
  obtain ⟨undone, once⟩ := opened_undone _ count p.main_only p.openimp_fullframe p.osd
  rw [← acquisitions_openSteps] at undone once
  have performed := perform_balanced undone once opening.answers .zero fun _ _ => rfl
  unfold jipc_imp_open
  exact Attempt.andThen_ends performed fun _ => poll_balanced performed opening.copies

theorem open_still (p : Profile) (opening : Opening) :
    (jipc_imp_open p opening).2.still = none := by
  have performed : (perform (openSteps p) opening.answers .zero).2.still = none := by
    rw [perform_still]
    rfl
  unfold jipc_imp_open
  cases ran : perform (openSteps p) opening.answers .zero with
  | mk done s =>
      rw [ran] at performed
      cases done with
      | false => rwa [Attempt.andThen_refused ran]
      | true =>
          rw [Attempt.andThen_done ran]
          exact performed

/-! ## jipc_imp_overlay -/

theorem region_flags_member {lens : Nat} (small : lens ≤ 1) :
    Flag.osd_rgn lens ∈ closeOrder ∧ Flag.osd_shown lens ∈ closeOrder := by
  match lens, small with
  | 0, _ => decide
  | 1, _ => decide

section Overlay

variable {p : Profile} {s : ImpState} {lens : Nat} {a : OverlayAnswers}

theorem hide_balanced (balanced : Balanced p s) (small : lens ≤ 1) :
    Balanced p (hide lens a s).2 := by
  unfold hide
  split
  · next shown =>
      split
      · exact balanced.clears (region_flags_member small).2 shown rfl
          (fun other => needs_shown other ..) nofun
      · exact balanced
  · exact balanced

theorem allocate_balanced (balanced : Balanced p s) : Balanced p (allocate a s).2 := by
  unfold allocate
  split
  · exact balanced
  · split
    · exact ⟨balanced.shown_region, balanced.still_lens, balanced.ledger⟩
    · exact balanced

/-- A registered region is released by what its flag stands for. -/
theorem makeRegion_balanced (balanced : Balanced p s) (small : lens ≤ 1)
    (registered : s.flags (.osd_rgn lens) = false → a.handle.isSome → a.registers = true) :
    Balanced p (makeRegion lens a s).2 := by
  unfold makeRegion
  split
  · exact balanced
  · next clear =>
      replace clear := eq_false_of_ne_true clear
      split
      · exact balanced
      · next handle created =>
          have answered := registered clear (by rw [created]; rfl)
          rw [if_pos answered]
          exact
            { shown_region := by
                intro lens' shown
                show Function.update s.flags (.osd_rgn lens) true (.osd_rgn lens') = true
                have kept : Function.update s.flags (.osd_rgn lens) true (.osd_shown lens') =
                    s.flags (.osd_shown lens') := by
                  apply Function.update_of_ne
                  nofun
                have before := balanced.shown_region lens' (kept.symm.trans shown)
                by_cases same : Flag.osd_rgn lens' = .osd_rgn lens
                · rw [same, Function.update_self]
                · rw [Function.update_of_ne same, before]
              still_lens := balanced.still_lens
              ledger := by
                have others : recorded closeOrder
                    (release p.source (Function.update s.handle lens handle)) s.flags =
                      graphHeld p s := by
                  apply recorded_congr
                  intro flag _ set
                  have elsewhere : ∀ lens', s.flags (.osd_rgn lens') = true →
                      Function.update s.handle lens handle lens' = s.handle lens' := by
                    intro lens' there
                    apply Function.update_of_ne
                    rintro rfl
                    rw [clear] at there
                    cases there
                  cases flag with
                  | osd_rgn lens' => rw [release, release, elsewhere lens' set]
                  | osd_shown lens' =>
                      rw [release, release, elsewhere lens' (balanced.shown_region lens' set)]
                  | _ => rfl
                have added := @recorded_set _ _ _ closeOrder
                  (release p.source (Function.update s.handle lens handle)) s.flags
                  (.osd_rgn lens) closeOrder_nodup (region_flags_member small).1 clear
                rw [others, release, Function.update_self] at added
                have created := @Holds.acquired _ _ _ _ _ (.region lens handle) balanced.ledger
                have both := @Holds.acquired _ _ _ _ _ (.regionIn lens handle) created
                refine both.perm (List.Perm.trans ?_ (added.symm.append_left _))
                exact ((List.perm_middle.trans (List.perm_middle.cons _)).symm) }

theorem makeRegion_region (done : (makeRegion lens a s).1 = true) :
    (makeRegion lens a s).2.flags (.osd_rgn lens) = true := by
  unfold makeRegion at done ⊢
  split at done
  · next set =>
      rw [if_pos set]
      exact set
  · next clear =>
      rw [if_neg clear]
      split at done
      · cases done
      · split at done
        · next registers =>
            rw [if_pos registers]
            exact Function.update_self ..
        · cases done

theorem reveal_balanced (balanced : Balanced p s) (small : lens ≤ 1)
    (region : s.flags (.osd_rgn lens) = true) : Balanced p (reveal lens a s).2 := by
  unfold reveal
  split
  · exact balanced
  · next hidden =>
      split
      · refine balanced.acquires (region_flags_member small).2
          (eq_false_of_ne_true hidden) rfl ?_
        intro lens' same
        cases same
        exact region
      · exact balanced

/-- CreateRgn made a region, and RegisterRgn refuses it. -/
def refusesRegion (p : Profile) (s : ImpState) : Event → Bool
  | .overlay sensor text a =>
      decide (sensor < p.sensors) && decide (sensor ≤ 1) && s.flags (.osd_bound sensor 2) &&
        text && (s.osd_pixels || a.allocates) && !s.flags (.osd_rgn sensor) && a.handle.isSome &&
        !a.registers
  | _ => false

theorem allocate_done (done : (allocate a s).1 = true) :
    (s.osd_pixels || a.allocates) = true ∧ (allocate a s).2.flags = s.flags := by
  unfold allocate at done ⊢
  split at done
  · next pixels =>
      rw [if_pos pixels, pixels]
      exact ⟨rfl, rfl⟩
  · next none =>
      rw [if_neg none]
      split at done
      · next allocates =>
          rw [if_pos allocates, allocates, Bool.or_true]
          exact ⟨rfl, rfl⟩
      · cases done

/-- An overlay call keeps the balance unless it makes a region that is refused. -/
theorem overlay_balanced (balanced : Balanced p s) {sensor : Nat} {text : Bool}
    (registered : refusesRegion p s (.overlay sensor text a) = false) :
    Balanced p (jipc_imp_overlay p sensor text a s).2 := by
  unfold jipc_imp_overlay
  split
  · exact balanced
  · next stage =>
      obtain ⟨published, small, bound⟩ : sensor < p.sensors ∧ sensor ≤ 1 ∧
          s.flags (.osd_bound sensor 2) = true := by
        simpa [not_or] using stage
      split
      · exact hide_balanced balanced small
      · next written =>
          apply Attempt.andThen_ends (allocate_balanced balanced)
          intro allocated
          obtain ⟨pixels, same⟩ := allocate_done allocated
          have made : Balanced p (makeRegion sensor a (allocate a s).2).2 := by
            apply makeRegion_balanced (allocate_balanced balanced) small
            rw [same]
            intro clear created
            simpa [refusesRegion, published, small, bound, written, pixels, clear, created] using
              registered
          apply Attempt.andThen_ends made
          intro region
          have placed : Balanced p (place a (makeRegion sensor a (allocate a s).2).2).2 := made
          apply Attempt.andThen_ends placed
          intro _
          exact reveal_balanced made small (makeRegion_region region)

end Overlay

/-! ## jipc_imp_snapshot -/

section Still

variable {p : Profile} {s : ImpState}

theorem still_order (p : Profile) (sensor : Nat) :
    (stillResources p sensor).Pairwise fun early late => needs late early = false := by
  simp [stillResources, needs]

/-- What a still took is the end of what `done` releases. -/
theorem stillTaken_sublist (p : Profile) (sensor : Nat) (a : StillAnswers) :
    (stillTaken p sensor a).Sublist (stillResources p sensor) := by
  unfold stillTaken
  split
  · split
    · split
      · exact .refl _
      · exact List.drop_sublist ..
    · exact List.drop_sublist ..
  · exact List.nil_sublist _

/-- Releases of what a still took keep the rest. -/
theorem still_released {sensor : Nat} (lens : sensor < 2) {acts : List (Act Resource)}
    {taken : List Resource} (part : taken.Sublist (stillResources p sensor))
    (holds : Holds needs acts (taken ++ graphHeld p s)) :
    Holds needs (acts ++ taken.map .released) (graphHeld p s) := by
  apply holds.released
  · exact fun _ _ => needs_self _
  · exact (still_order p sensor).sublist part
  · intro resource member other graph
    obtain ⟨flag, released⟩ := mem_graphHeld graph
    exact still_free p lens released (part.subset member)

theorem acquired_all {acts : List (Act Resource)} {held : List Resource}
    (holds : Holds needs acts held) (taken : List Resource) :
    Holds needs (acts ++ taken.reverse.map .acquired) (taken ++ held) := by
  induction taken with
  | nil => simpa using holds
  | cons resource taken inductionHypothesis =>
      rw [List.reverse_cons, List.map_append, ← List.append_assoc]
      exact inductionHypothesis.acquired

theorem snapshotBegins_balanced (balanced : Balanced p s) (channel : Nat) (a : StillAnswers) :
    Balanced p (snapshotBegins p channel a s) := by
  unfold snapshotBegins
  split
  · exact balanced
  · next free =>
      push Not at free
      have none : s.still = none := Option.not_isSome_iff_eq_none.mp free.1
      have lens : channel / 2 < 2 := by
        have := p.one_or_two
        omega
      have before := balanced.ledger
      rw [none] at before
      have acquired := acquired_all before (stillTaken p (channel / 2) a)
      split
      · next all =>
          simp only [Bool.and_eq_true] at all
          have whole : stillTaken p (channel / 2) a = stillResources p (channel / 2) := by
            rw [stillTaken, if_pos all.1.1.1, if_pos all.1.1.2, if_pos all.1.2]
          refine ⟨balanced.shown_region, ?_, ?_⟩
          · intro sensor waits
            cases waits
            exact lens
          · rw [whole] at acquired ⊢
            exact acquired
      · refine ⟨balanced.shown_region, balanced.still_lens, ?_⟩
        show Holds needs _ (stillHeld p s.still ++ graphHeld p s)
        rw [none]
        exact still_released lens (stillTaken_sublist ..) acquired

theorem snapshotEnds_balanced (balanced : Balanced p s) (readable got : Bool) :
    Balanced p (snapshotEnds p readable got s) ∧ (snapshotEnds p readable got s).still = none := by
  unfold snapshotEnds
  split
  · next none => exact ⟨balanced, none⟩
  · next sensor waits =>
      refine ⟨⟨balanced.shown_region, nofun, ?_⟩, rfl⟩
      have held := balanced.ledger
      rw [waits] at held
      have copied := copy_stream_holds held (stillEncoder sensor) (readable && got)
      exact still_released (balanced.still_lens sensor waits) (.refl _) copied

end Still

end ImpBackend

end JooanW3U.Media
