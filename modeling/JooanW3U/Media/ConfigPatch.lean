import JooanW3U.Media.ConfigFile
import JooanW3U.Media.FailedSaves

/-!
Owns the configuration patch as a whole: what a refused patch leaves, and what an
accepted one may have changed. Main result: a patch does all of it or nothing exactly
where its save does not fail behind the rename.

Does not own what the service does with a changed setting.
-/

namespace JooanW3U.Media

open JooanW3U.Library

/-- The settings of the local administrator. -/
def localSettings : List Setting :=
  [.text .bind, .number .http_port, .number .rtsp_port, .number .discovery_port, .text .backend,
    .text .realm, .text .state_dir, .text .record_dir, .text .libimp, .text .input0, .text .input1,
    .text .input2, .text .input3, .text .tls_cert, .text .tls_key, .text .ntp_server,
    .flag .motor_home, .flag .watchdog, .flag .allow_plain_http]

theorem localSettings_local : ∀ setting ∈ localSettings, localOnly setting.name = true := by
  decide +kernel

/-- The members of a patch. -/
def patchMembers (json : List Char) : List (List Char × Json) :=
  match Json.parseWhole json with
  | some (.object members) => members
  | _ => []

namespace Config.SameAt

theorem refl (c : Config) (setting : Setting) : c.SameAt c setting := by
  cases setting <;> rfl

theorem trans {first middle last : Config} {setting : Setting}
    (right : middle.SameAt last setting) (left : first.SameAt middle setting) :
    first.SameAt last setting := by
  cases setting <;> exact Eq.trans right left

end Config.SameAt

/-! ### One member -/

theorem find_setting_name {name : List Char} {setting : Setting}
    (found : find_setting name = some setting) : setting.name = name := by
  have named := List.find?_some found
  simpa using named

theorem patchSetting_keeps {setting kept : Setting} {value : Json} {c next : Config}
    (patched : patchSetting setting value c = some next) (other : kept ≠ setting) :
    c.SameAt next kept := by
  unfold patchSetting at patched
  split at patched
  · next text _ =>
      split at patched
      · rw [← Option.some.inj patched]
        cases kept with
        | text kept =>
            exact Function.update_of_ne (fun same => other (congrArg Setting.text same)) ..
        | number kept => rfl
        | flag kept => rfl
      · contradiction
  · next flag _ =>
      rw [← Option.some.inj patched]
      cases kept with
      | flag kept => exact Function.update_of_ne (fun same => other (congrArg Setting.flag same)) ..
      | text kept => rfl
      | number kept => rfl
  · next number _ =>
      obtain ⟨_, -, rfl⟩ := Option.map_eq_some_iff.mp patched
      cases kept with
      | number kept =>
          exact Function.update_of_ne (fun same => other (congrArg Setting.number same)) ..
      | text kept => rfl
      | flag kept => rfl
  · contradiction

/-- A value of a patch fits its field. -/
theorem patchSetting_fits {setting : Setting} {value : Json} {c next : Config}
    (patched : patchSetting setting value c = some next) (fits : c.Fits) : next.Fits := by
  unfold patchSetting at patched
  split at patched
  · next setting text =>
      split at patched
      · next short =>
          rw [← Option.some.inj patched]
          refine { fits with text := fun other => ?_ }
          simp only [Config.setText]
          by_cases same : other = setting
          · rw [same, Function.update_self]
            exact short
          · rw [Function.update_of_ne same]
            exact fits.text other
      · contradiction
  · rw [← Option.some.inj patched]
    exact { fits with }
  · next _ setting =>
      obtain ⟨number, range, rfl⟩ := Option.map_eq_some_iff.mp patched
      have bounded := (Option.filter_eq_some_iff.mp range).2
      simp only [decide_eq_true_eq] at bounded
      refine { fits with number := fun other => ?_ }
      simp only [Config.setNumber]
      by_cases same : other = setting
      · rw [same, Function.update_self]
        omega
      · rw [Function.update_of_ne same]
        exact fits.number other
  · contradiction

/-! ### All members -/

/-- An accepted member names a setting a client may change, and changes it. -/
theorem patchSettings_cons {member : List Char × Json} {rest : List (List Char × Json)}
    {c next : Config} {restart restarts : Bool}
    (patched : patchSettings (member :: rest) c restart = some (next, restarts)) :
    ∃ setting middle, find_setting member.1 = some setting ∧ localOnly member.1 = false ∧
      patchSetting setting member.2 c = some middle ∧
      patchSettings rest middle (restart || !takesEffect member.1) = some (next, restarts) := by
  rw [patchSettings] at patched
  split at patched
  · contradiction
  · split at patched
    · contradiction
    · next setting found =>
        split at patched
        · contradiction
        · next allowed =>
            split at patched
            · contradiction
            · next middle changed =>
                exact ⟨setting, middle, found, Bool.not_eq_true _ ▸ allowed, changed, patched⟩

/-- A setting that no allowed member names stays. -/
theorem patchSettings_keeps {members : List (List Char × Json)} {c next : Config}
    {restart restarts : Bool} {kept : Setting}
    (patched : patchSettings members c restart = some (next, restarts))
    (untouched : kept.name ∈ members.map Prod.fst → localOnly kept.name = true) :
    c.SameAt next kept := by
  induction members generalizing c restart with
  | nil =>
      obtain ⟨rfl, -⟩ := Prod.mk.inj (Option.some.inj patched)
      exact .refl _ _
  | cons member rest inductionHypothesis =>
      obtain ⟨setting, middle, found, allowed, changed, patched⟩ := patchSettings_cons patched
      have later := inductionHypothesis patched fun named =>
        untouched (List.mem_cons_of_mem _ named)
      apply later.trans
      apply patchSetting_keeps changed
      rintro rfl
      have name := find_setting_name found
      rw [name, allowed] at untouched
      exact absurd (untouched (List.mem_cons_self ..)) nofun

theorem patchSettings_fits {members : List (List Char × Json)} {c next : Config}
    {restart restarts : Bool} (patched : patchSettings members c restart = some (next, restarts))
    (fits : c.Fits) : next.Fits := by
  induction members generalizing c restart with
  | nil =>
      obtain ⟨rfl, -⟩ := Prod.mk.inj (Option.some.inj patched)
      exact fits
  | cons member rest inductionHypothesis =>
      obtain ⟨_, _, -, -, changed, patched⟩ := patchSettings_cons patched
      exact inductionHypothesis patched (patchSetting_fits changed fits)

/-- An accepted patch passed the checks and changed its members. -/
theorem patchConfig_ok {native : Bool} {json : List Char} {c next : Config} {restart : Bool}
    (patched : patchConfig native json c = .ok (next, restart)) :
    next.invalid native = none ∧ patchSettings (patchMembers json) c false = some (next, restart) := by
  unfold patchConfig at patched
  split at patched
  · contradiction
  · split at patched
    · next member members parsed =>
        split at patched
        · contradiction
        · next settings =>
            split at patched
            · contradiction
            · next valid =>
                obtain ⟨rfl, rfl⟩ := Prod.mk.inj (Except.ok.inj patched)
                simp only [patchMembers, parsed]
                exact ⟨valid, settings⟩
    · contradiction

namespace SavedState

/-! ### The call -/

/-- What a patch that was accepted has done. -/
structure Patched (json : List Char) (app after : SavedState) : Prop where
  valid : after.config.invalid app.native = none
  path : after.config.path = app.config.path
  saved : after.config.saveText.isSome = true ∧
    after.disk after.config.path = after.config.saveText
  loads : app.config.Fits → jipc_config_load after.config.path (after.disk after.config.path)
    jipc_config_defaults = .ok after.config
  named : ∀ setting, setting.name ∉ (patchMembers json).map Prod.fst →
    app.config.SameAt after.config setting
  kept : ∀ setting ∈ localSettings, app.config.SameAt after.config setting

/-- A patch is made as a whole or not at all. -/
def PatchWhole (json : List Char) (files : FileCalls) (app : SavedState) : Prop :=
  ((app.jipc_config_patch json files).1 = false →
    SameMemory app (app.jipc_config_patch json files).2 ∧
      (app.jipc_config_patch json files).2.disk app.config.path = app.disk app.config.path) ∧
  ((app.jipc_config_patch json files).1 = true →
    Patched json app (app.jipc_config_patch json files).2)

theorem commit_saved {save : Save} {files : FileCalls} {disk after : Disk}
    (done : commit save files disk = (true, after)) :
    ∃ path text, save = some (path, text) ∧ after path = some text := by
  cases save with
  | none => exact absurd (congrArg Prod.fst done) nofun
  | some pair =>
      obtain ⟨path, text⟩ := pair
      refine ⟨path, text, rfl, ?_⟩
      have ran : jipc_atomic_file path text files disk = (true, after) := done
      by_cases replaced : replaces path files disk = true
      · have holds := (@jipc_atomic_file_replaces _ text _ _ replaced).1
        rwa [ran] at holds
      · have refused := (@jipc_atomic_file_keeps _ text _ _ (Bool.not_eq_true _ ▸ replaced)).2
        rw [ran] at refused
        exact absurd refused nofun

theorem patch_accepted {json : List Char} {files : FileCalls} {app : SavedState}
    (accepted : (app.jipc_config_patch json files).1 = true) :
    Patched json app (app.jipc_config_patch json files).2 := by
  unfold jipc_config_patch at accepted ⊢
  split at accepted
  · exact absurd accepted nofun
  · next next restart patched =>
      split at accepted
      · exact absurd accepted nofun
      · next disk done =>
          obtain ⟨valid, settings⟩ := patchConfig_ok patched
          obtain ⟨path, text, saves, holds⟩ := commit_saved done
          obtain ⟨_, saved, same⟩ := Option.map_eq_some_iff.mp saves
          obtain ⟨rfl, rfl⟩ := Prod.mk.inj same
          exact {
            valid
            path := patchConfig_path patched
            saved := ⟨by rw [saved]; rfl, holds.trans saved.symm⟩
            loads := fun fits => by
              show jipc_config_load next.path (disk next.path) jipc_config_defaults = .ok next
              rw [holds]
              exact load_saved (patchSettings_fits settings fits) valid saved jipc_config_defaults
            named := fun setting unnamed =>
              patchSettings_keeps settings fun named => absurd named unnamed
            kept := fun setting member =>
              patchSettings_keeps settings fun _ => localSettings_local setting member }

/-- Whatever its text says, a patch is made as a whole or not at all, exactly where its
save does not fail behind the rename of other content. -/
theorem patch_is_whole_iff (json : List Char) (mkdirs : Bool) (files : FileCalls)
    (app : SavedState) :
    app.PatchWhole json files ↔ ¬app.FailsLate ⟨.patch json, mkdirs, files⟩ := by
  constructor
  · rintro ⟨refused, -⟩ late
    exact fails_late late refused
  · intro notLate
    exact ⟨fails_cleanly notLate, patch_accepted⟩

/-- A camera whose configuration file is still the one it came with. -/
def templateState : SavedState :=
  { emptyState with
    config := markedConfig
    disk := fun path => if path = markedConfig.path then some "# template\n".toList else none }

/-- Only the directory cannot be synchronized: the patch is refused, its file stays. -/
theorem refused_patch_kept :
    ¬∀ (json : List Char) (files : FileCalls) (app : SavedState), app.PatchWhole json files := by
  intro claimed
  let json := "\x7b\"fps\":10\x7d".toList
  have refused : (templateState.jipc_config_patch json unsettledCreation.files).1 = false := by
    decide +kernel
  have written : (templateState.jipc_config_patch json unsettledCreation.files).2.disk
      markedConfig.path ≠ templateState.disk markedConfig.path := by decide +kernel
  exact written ((claimed json unsettledCreation.files templateState).1 refused).2

end SavedState

end JooanW3U.Media
