import JooanW3U.Library.Lines
import JooanW3U.Media.Config

/-!
Owns reading the configuration file: its lines, their keys and values, and the defaults
they replace. Main result: what is saved of a valid configuration is read back as it was.

Does not own the command line or the disk.
-/

namespace JooanW3U.Media

open JooanW3U.Library Lines

def jipc_config_defaults : Config where
  path := []
  text
    | .bind => "127.0.0.1".toList
    | .username => "admin".toList
    | .realm => "jooanipc-open".toList
    | .backend => "replay".toList
    | .state_dir => "./state".toList
    | .record_dir => "./recordings".toList
    | _ => []
  number
    | .http_port => 8080
    | .rtsp_port => 8554
    | .max_clients => 4
    | .fps => 15
    | .bitrate => 1024
    | .width => 2304
    | .height => 1296
    | .sub_width => 640
    | .sub_height => 360
    | .sensors => 2
    | .record_seconds => 300
    | .record_max_mb => 512
    | .discovery_port => 3702
    | _ => 0
  flag
    | .audio => true
    | .discovery => true
    | _ => false

/-! ## Loading -/

/-- The size of the line buffer. -/
def lineCapacity : Nat := 2048

/-- The C string in a buffer. -/
def cString (buffer : List Char) : List Char := buffer.takeWhile (· ≠ Json.nul)

/-- `strtoul` over a whole value that neither is empty nor starts with `-`. -/
def strtoul (value : List Char) : Option Nat :=
  let digits := if value.head? = some '+' then value.drop 1 else value
  if digits ≠ [] ∧ digits.all Char.isDigit = true then some (digitsValue digits) else none

/-- The setting with the value of its line. -/
def loadSetting (setting : Setting) (value : List Char) (c : Config) : Option Config :=
  match setting with
  | .text setting =>
      if value.length < setting.capacity then some (c.setText setting value) else none
  | .number setting =>
      ((strtoul value).filter (· ≤ 4294967295)).map fun n => c.setNumber setting n
  | .flag setting => ((strtoul value).filter (· ≤ 1)).map fun n => c.setFlag setting (n = 1)

/-- One line, after the settings seen before it. -/
def loadLine (line : List Char) (seen : List Setting) (c : Config) :
    Option (List Setting × Config) :=
  let key := trim isSpace line
  if key = [] ∨ key.head? = some '#' ∨ key.head? = some ';' then some (seen, c)
  else if '=' ∉ key then none
  else
    match find_setting (trim isSpace (key.takeWhile (· ≠ '='))) with
    | none => none
    | some setting =>
        if setting ∈ seen then none
        else
          (loadSetting setting (trim isSpace ((key.dropWhile (· ≠ '=')).drop 1)) c).map
            fun c => (setting :: seen, c)

/-- The line read is cut, and not by the end of the file. -/
def lineTooLong (buffer : List Char) : Prop :=
  '\n' ∉ cString buffer ∧
    ¬(buffer.length < lineCapacity - 1 ∧ buffer.getLast? ≠ some '\n')

instance (buffer : List Char) : Decidable (lineTooLong buffer) :=
  inferInstanceAs (Decidable (_ ∧ _))

/-- The loop of `jipc_config_load` over the text left, after `number` lines. -/
def loadLines (text : List Char) (number : Nat) (seen : List Setting) (c : Config) :
    Except String Config :=
  if _ : text = [] then .ok c
  else
    let read := takeLine '\n' (lineCapacity - 1) text
    if lineTooLong read.1 then .error "configuration line too long"
    else
      match loadLine (cString read.1) seen c with
      | none => .error ("invalid or duplicate setting at line " ++ toString (number + 1))
      | some (seen, c) => loadLines read.2 (number + 1) seen c
termination_by text.length
decreasing_by exact takeLine_shorter '\n' (lineCapacity - 2) ‹_›

/-- `file` is the text at the path, if it can be opened. -/
def jipc_config_load (path : List Char) (file : Option (List Char)) (c : Config) :
    Except String Config :=
  match file with
  | none => .error "cannot open configuration file"
  | some text =>
      if 512 ≤ path.length then .error "configuration path too long"
      else loadLines text 0 [] { c with path }

/-! ## What is saved -/

namespace Config

/-- What the fields of a configuration can hold. -/
structure Fits (c : Config) : Prop where
  path : c.path.length < 512
  text : ∀ setting, (c.text setting).length < setting.capacity
  number : ∀ setting, c.number setting ≤ 4294967295

/-- The value of a line. -/
def value (c : Config) : Setting → List Char
  | .text setting => c.text setting
  | .number setting => Nat.toDigits 10 (c.number setting)
  | .flag setting => if c.flag setting = true then ['1'] else ['0']

theorem line_eq (c : Config) (setting : Setting) :
    c.line setting = setting.name ++ '=' :: c.value setting ++ ['\n'] := by
  cases setting <;> rfl

end Config

/-- A value that a line carries as it is. -/
structure Bare (value : List Char) : Prop where
  head : value.head?.any isSpace = false
  last : value.getLast?.any isSpace = false
  unbroken : '\n' ∉ value
  whole : Json.nul ∉ value
  short : value.length < 512

theorem text_bare {value : List Char} (printable : Config.printable false value = true)
    (margins : Config.margins value = false) (short : value.length < 512) : Bare value := by
  simp only [Config.margins, Bool.or_eq_false_iff] at margins
  have visible : ∀ c ∈ value, 32 ≤ c.toNat := by
    intro c member
    have holds := List.all_eq_true.mp printable c member
    simp at holds
    omega
  refine ⟨margins.1, margins.2, fun broken => ?_, fun cut => ?_, short⟩
  · exact absurd (visible _ broken) (by decide)
  · exact absurd (visible _ cut) (by decide)

theorem digits_bare {value : List Char} (digits : ∀ c ∈ value, c.isDigit = true)
    (short : value.length < 512) : Bare value := by
  refine ⟨?_, ?_, fun broken => ?_, fun cut => ?_, short⟩
  · cases head : value.head? with
    | none => rfl
    | some c => exact digit_black (digits c (List.mem_of_head? head))
  · cases last : value.getLast? with
    | none => rfl
    | some c => exact digit_black (digits c (List.mem_of_getLast? last))
  · exact absurd (digits _ broken) (by decide)
  · exact absurd (digits _ cut) (by decide)

theorem capacity_le (setting : TextSetting) : setting.capacity ≤ 512 := by
  cases setting <;> decide

theorem settings_complete : ∀ setting : Setting, setting ∈ settings := by
  intro setting
  cases setting with
  | text setting => cases setting <;> decide
  | number setting => cases setting <;> decide
  | flag setting => cases setting <;> decide

theorem value_bare {c : Config} {native : Bool} (fits : c.Fits) (valid : c.invalid native = none)
    (setting : Setting) : Bare (c.value setting) := by
  cases setting with
  | text setting =>
      unfold Config.invalid at valid
      split at valid
      · contradiction
      · next checked =>
          have fine := List.any_eq_false.mp (Bool.not_eq_true _ ▸ checked) _
            (settings_complete (.text setting))
          simp only [Bool.not_eq_true, Bool.or_eq_false_iff, Bool.not_eq_false'] at fine
          have short := Nat.lt_of_lt_of_le (fits.text setting) (capacity_le setting)
          exact text_bare fine.1 fine.2 short
  | number setting =>
      have short : (Nat.toDigits 10 (c.number setting)).length ≤ 10 :=
        (Nat.length_toDigits_le_iff (by decide) (by decide)).mpr
          (Nat.lt_of_le_of_lt (fits.number setting) (by decide))
      exact digits_bare (fun _ => Decimal.isDigit_of_mem_toDigits) (by simp only [Config.value]; omega)
  | flag setting =>
      simp only [Config.value]
      split <;> exact ⟨rfl, rfl, by decide, by decide, by decide⟩

/-! ## Reading it back -/

namespace Config

/-- The configuration with one setting of another. -/
def copy (c : Config) (setting : Setting) (loaded : Config) : Config :=
  match setting with
  | .text setting => loaded.setText setting (c.text setting)
  | .number setting => loaded.setNumber setting (c.number setting)
  | .flag setting => loaded.setFlag setting (c.flag setting)

def SameAt (c loaded : Config) : Setting → Prop
  | .text setting => loaded.text setting = c.text setting
  | .number setting => loaded.number setting = c.number setting
  | .flag setting => loaded.flag setting = c.flag setting

theorem copy_same (c : Config) (setting : Setting) (loaded : Config) :
    SameAt c (c.copy setting loaded) setting := by
  cases setting <;> exact Function.update_self ..

theorem copy_keeps {c loaded : Config} {kept : Setting} (same : SameAt c loaded kept)
    (setting : Setting) : SameAt c (c.copy setting loaded) kept := by
  by_cases here : setting = kept
  · rw [here]
    exact copy_same c kept loaded
  · cases setting <;> cases kept <;> try exact same
    all_goals
      simp only [SameAt, copy, setText, setNumber, setFlag] at same ⊢
      rw [Function.update_of_ne]
      · exact same
      · intro clash
        exact here (by rw [clash])

theorem copies_same {c loaded : Config} {kept : Setting} (left : List Setting)
    (same : kept ∈ left ∨ SameAt c loaded kept) :
    SameAt c (left.foldl (fun loaded setting => c.copy setting loaded) loaded) kept := by
  induction left generalizing loaded with
  | nil => exact same.resolve_left (List.not_mem_nil)
  | cons setting left inductionHypothesis =>
      apply inductionHypothesis
      rcases same with member | same
      · rcases List.mem_cons.mp member with rfl | later
        · exact .inr (copy_same c kept loaded)
        · exact .inl later
      · exact .inr (copy_keeps same setting)

theorem copies_path (c : Config) (left : List Setting) (loaded : Config) :
    (left.foldl (fun loaded setting => c.copy setting loaded) loaded).path = loaded.path := by
  induction left generalizing loaded with
  | nil => rfl
  | cons setting left inductionHypothesis =>
      rw [List.foldl_cons, inductionHypothesis]
      cases setting <;> rfl

theorem copy_all (c loaded : Config) :
    settings.foldl (fun loaded setting => c.copy setting loaded) loaded =
      { c with path := loaded.path } := by
  have same := fun kept => @copies_same c loaded kept settings (.inl (settings_complete kept))
  have path := copies_path c settings loaded
  generalize settings.foldl (fun loaded setting => c.copy setting loaded) loaded = read at same path
  obtain ⟨readPath, text, number, flag⟩ := read
  simp only [Config.mk.injEq]
  exact ⟨path, funext fun setting => same (.text setting), funext fun setting => same (.number setting),
    funext fun setting => same (.flag setting)⟩

end Config

theorem strtoul_toDigits (number : Nat) : strtoul (Nat.toDigits 10 number) = some number := by
  have digits : ∀ c ∈ Nat.toDigits 10 number, c.isDigit = true :=
    fun _ => Decimal.isDigit_of_mem_toDigits
  have value := digitsValue_toDigits number
  have unsigned : ¬(Nat.toDigits 10 number).head? = some '+' := by
    intro plus
    exact absurd (digits _ (List.mem_of_head? plus)) (by decide)
  unfold strtoul
  simp only [if_neg unsigned, value]
  rw [if_pos ⟨Nat.toDigits_ne_nil, List.all_eq_true.mpr digits⟩]

theorem loadSetting_value {c : Config} (fits : c.Fits) (setting : Setting) (loaded : Config) :
    loadSetting setting (c.value setting) loaded = some (c.copy setting loaded) := by
  cases setting with
  | text setting => exact if_pos (fits.text setting)
  | number setting =>
      have range : (decide (c.number setting ≤ 4294967295)) = true :=
        decide_eq_true (fits.number setting)
      simp only [loadSetting, Config.value, strtoul_toDigits, Option.filter_some, range, if_true,
        Option.map_some, Config.copy]
  | flag setting =>
      simp only [loadSetting, Config.value, Config.copy]
      cases c.flag setting <;> rfl

/-! ### Lines -/

/-- A character that means nothing to the loader. -/
def inert (c : Char) : Bool :=
  !isSpace c && c ≠ '=' && c ≠ '#' && c ≠ ';' && c ≠ '\n' && c ≠ Json.nul

theorem names_inert : ∀ setting ∈ settings, setting.name ≠ [] ∧ setting.name.all inert = true ∧
    setting.name.length ≤ 20 ∧ find_setting setting.name = some setting := by
  decide +kernel

/-- The name of a line, as the loader takes it. -/
structure Named (name : List Char) : Prop where
  more : name ≠ []
  chars : ∀ c ∈ name, inert c = true
  short : name.length ≤ 20

theorem setting_named (setting : Setting) : Named setting.name := by
  obtain ⟨more, plain, short, -⟩ := names_inert setting (settings_complete setting)
  exact ⟨more, List.all_eq_true.mp plain, short⟩

section Pair

variable {name value : List Char} (named : Named name) (bare : Bare value)

include named

theorem Named.avoids {c : Char} (marked : inert c = false) : c ∉ name := by
  intro member
  exact absurd ((named.chars c member).symm.trans marked) (by decide)

theorem Named.black {c : Char} (member : c ∈ name) : isSpace c = false := by
  have plain := named.chars c member
  unfold inert at plain
  cases space : isSpace c with
  | false => rfl
  | true => simp [space] at plain

theorem Named.trimmed : trim isSpace name = name := by
  apply trim_bare
  · cases head : name.head? with
    | none => rfl
    | some c => exact named.black (List.mem_of_head? head)
  · cases last : name.getLast? with
    | none => rfl
    | some c => exact named.black (List.mem_of_getLast? last)

theorem pair_head (rest : List Char) : (name ++ rest).head? = name.head? := by
  cases name with
  | nil => exact absurd rfl named.more
  | cons c name => rfl

include bare

theorem pair_trimmed : trim isSpace (name ++ '=' :: value ++ ['\n']) = name ++ '=' :: value := by
  apply trim_concat
  · rw [pair_head named]
    cases head : name.head? with
    | none => rfl
    | some c => exact named.black (List.mem_of_head? head)
  · simp
  · rfl
  · have last := bare.last
    rw [List.getLast?_append, List.getLast?_cons]
    cases ends : value.getLast? with
    | none => rfl
    | some c =>
        rw [ends] at last
        exact last

/-- A line of this name and value sets the setting of the name. -/
theorem loadLine_pair {setting : Setting} (found : find_setting name = some setting)
    {seen : List Setting} (fresh : setting ∉ seen) (c : Config) :
    loadLine (name ++ '=' :: value ++ ['\n']) seen c =
      (loadSetting setting value c).map fun c => (setting :: seen, c) := by
  have unequal : ∀ c ∈ name, decide (c ≠ '=') = true := by
    intro c member
    apply decide_eq_true
    rintro rfl
    exact named.avoids (by decide) member
  have left : (name ++ '=' :: value).takeWhile (fun c => decide (c ≠ '=')) = name := by
    rw [List.takeWhile_append_of_pos unequal]
    simp
  have right : (name ++ '=' :: value).dropWhile (fun c => decide (c ≠ '=')) = '=' :: value := by
    rw [List.dropWhile_append_of_pos unequal]
    simp
  have setting_line : ¬(name ++ '=' :: value = [] ∨ (name ++ '=' :: value).head? = some '#' ∨
      (name ++ '=' :: value).head? = some ';') := by
    rw [pair_head named]
    rintro (empty | comment | comment)
    · simp at empty
    · exact named.avoids (by decide) (List.mem_of_head? comment)
    · exact named.avoids (by decide) (List.mem_of_head? comment)
  have paired : ¬('=' ∉ name ++ '=' :: value) := by simp
  unfold loadLine
  simp only [pair_trimmed named bare, if_neg setting_line, if_neg paired, left, right,
    named.trimmed, found, if_neg fresh, List.drop_one, List.tail_cons,
    trim_bare isSpace bare.head bare.last]

theorem pair_short : (name ++ '=' :: value).length < lineCapacity - 1 := by
  have short := bare.short
  have brief := named.short
  simp only [List.length_append, List.length_cons, lineCapacity]
  omega

theorem pair_whole : cString (name ++ '=' :: value ++ ['\n']) = name ++ '=' :: value ++ ['\n'] := by
  apply List.takeWhile_eq_self_iff.mpr
  intro c member
  apply decide_eq_true
  rintro rfl
  rcases List.mem_append.mp member with member | ends
  · rcases List.mem_append.mp member with member | member
    · exact named.avoids (by decide) member
    · rcases List.mem_cons.mp member with same | member
      · exact absurd same (by decide)
      · exact bare.whole member
  · exact absurd (List.mem_singleton.mp ends) (by decide)

theorem pair_unbroken : '\n' ∉ name ++ '=' :: value := by
  intro member
  rcases List.mem_append.mp member with member | member
  · exact named.avoids (by decide) member
  · rcases List.mem_cons.mp member with same | member
    · exact absurd same (by decide)
    · exact bare.unbroken member

end Pair

/-! ### Files -/

/-- The lines saved for some settings are read back, each into its field. -/
theorem loadLines_saved {c : Config} {native : Bool} (fits : c.Fits)
    (valid : c.invalid native = none) {left : List Setting} (once : left.Nodup) (number : Nat)
    {seen : List Setting} (fresh : ∀ setting ∈ left, setting ∉ seen) (loaded : Config) :
    loadLines (left.flatMap c.line) number seen loaded =
      .ok (left.foldl (fun loaded setting => c.copy setting loaded) loaded) := by
  induction left generalizing number seen loaded with
  | nil =>
      unfold loadLines
      rfl
  | cons setting left inductionHypothesis =>
      obtain ⟨alone, once⟩ := List.nodup_cons.mp once
      have named := setting_named setting
      have bare := value_bare fits valid setting
      have found := (names_inert setting (settings_complete setting)).2.2.2
      have read : takeLine '\n' (lineCapacity - 1) (c.line setting ++ left.flatMap c.line) =
          (c.line setting, left.flatMap c.line) := by
        rw [c.line_eq, List.append_assoc _ ['\n']]
        exact takeLine_line (pair_unbroken named bare) (pair_short named bare) _
      have whole : cString (c.line setting) = c.line setting := by
        rw [c.line_eq]
        exact pair_whole named bare
      have ends : ¬lineTooLong (c.line setting) := by
        intro long
        rw [lineTooLong, whole, c.line_eq] at long
        exact long.1 (by simp)
      have more : ¬c.line setting ++ left.flatMap c.line = [] := by
        rw [c.line_eq]
        simp
      have loadedLine : loadLine (c.line setting) seen loaded =
          some (setting :: seen, c.copy setting loaded) := by
        rw [c.line_eq, loadLine_pair named bare found (fresh setting (List.mem_cons_self ..)),
          loadSetting_value fits]
        rfl
      rw [List.flatMap_cons, loadLines, dif_neg more]
      simp only [read, if_neg ends, whole, loadedLine, List.foldl_cons]
      apply inductionHypothesis once
      intro later member seenBefore
      rcases List.mem_cons.mp seenBefore with same | before
      · exact alone (same ▸ member)
      · exact fresh later (List.mem_cons_of_mem _ member) before

theorem saveLines_some {c : Config} {left : List Setting} {start text : List Char}
    (saved : c.saveLines left start = some text) : text = start ++ left.flatMap c.line := by
  induction left generalizing start with
  | nil =>
      rw [List.flatMap_nil, List.append_nil]
      exact (Option.some.inj saved).symm
  | cons setting left inductionHypothesis =>
      unfold Config.saveLines at saved
      split at saved
      · exact absurd saved nofun
      · rw [inductionHypothesis saved, List.flatMap_cons, List.append_assoc]

theorem saveText_some {c : Config} {text : List Char} (saved : c.saveText = some text) :
    text = settings.flatMap c.line := by
  unfold Config.saveText at saved
  split at saved
  · exact absurd saved nofun
  · have lines := saveLines_some saved
    rwa [List.nil_append] at lines

/-- Loading what was saved of a valid configuration, from any start, gives it back. -/
theorem load_saved {c : Config} {native : Bool} {text : List Char} (fits : c.Fits)
    (valid : c.invalid native = none) (saved : c.saveText = some text) (start : Config) :
    jipc_config_load c.path (some text) start = .ok c := by
  have short : ¬512 ≤ c.path.length := Nat.not_le.mpr fits.path
  have once : settings.Nodup := by decide +kernel
  have read := loadLines_saved fits valid once 0 (fun _ _ => List.not_mem_nil)
    { start with path := c.path }
  rw [saveText_some saved]
  simp only [jipc_config_load, if_neg short, read, c.copy_all]

/-- What is saved of a valid configuration loads over the defaults as it was. -/
theorem config_round_trip {c : Config} {native : Bool} {text : List Char} (fits : c.Fits)
    (valid : c.invalid native = none) (saved : c.saveText = some text) :
    jipc_config_load c.path (some text) jipc_config_defaults = .ok c :=
  load_saved fits valid saved jipc_config_defaults

/-- A password with every mark of the file in it. -/
def markedConfig : Config :=
  { ((jipc_config_defaults.setText .password "# a = b; c =".toList).setText .input0
      "/media/a b.h264".toList).setNumber .bitrate1 4096 with path := "jipc.conf".toList }

theorem config_round_trip_marked :
    ∃ text, markedConfig.saveText = some text ∧
      jipc_config_load markedConfig.path (some text) jipc_config_defaults = .ok markedConfig := by
  have fits : markedConfig.Fits :=
    ⟨by decide, fun setting => by cases setting <;> decide, fun setting => by cases setting <;> decide⟩
  have valid : markedConfig.invalid false = none := by decide +kernel
  have written : markedConfig.saveText.isSome = true := by decide +kernel
  obtain ⟨text, saved⟩ := Option.isSome_iff_exists.mp written
  exact ⟨text, saved, config_round_trip fits valid saved⟩

end JooanW3U.Media
