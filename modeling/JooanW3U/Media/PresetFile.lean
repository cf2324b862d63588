import JooanW3U.Library.Json
import JooanW3U.Media.PlatformControl

/-!
Owns the preset catalogue's file: the text `presets_save` writes, `presets_load`
with the older format it still reads, and the round trip between them. `replay`
selects the backend the file is for. Main result: a well-formed catalogue comes back
whole from its own file.

Does not own how the file gets onto the disk.
-/

namespace JooanW3U.Media.Platform

open JooanW3U.Library

def backendName (replay : Bool) : String := if replay then "replay" else "imp"

def coordinateSpace (replay : Bool) : String := if replay then "normalized" else "motor_steps"

/-- `coordinate_valid` of either backend. -/
def coordinatesValid : Bool → Int → Int → Prop
  | true, x, y => -100 ≤ x ∧ x ≤ 100 ∧ -100 ≤ y ∧ y ≤ 100
  | false, x, y => coordinate_valid x y

instance : ∀ (replay : Bool) (x y : Int), Decidable (coordinatesValid replay x y)
  | true, _, _ => inferInstanceAs (Decidable (_ ∧ _))
  | false, x, y => inferInstanceAs (Decidable (coordinate_valid x y))

/-! ## Saving -/

def jipc_json_escape (text : List Char) (capacity : Nat) : Option (List Char) :=
  let encoded := Json.printString text
  if encoded.length < capacity then some encoded else none

def openingText (replay : Bool) : List Char :=
  "\x7b\"version\":2,\"backend\":\"".toList ++ (backendName replay).toList ++
    "\",\"coordinate_space\":\"".toList ++ (coordinateSpace replay).toList ++
      "\",\"presets\":[".toList

/-- The text of one preset; its name is escaped already. -/
def entryText (first : Bool) (slot : Nat) (name : List Char) (x y : Int) : List Char :=
  (if first = true then [] else [',']) ++ "\x7b\"slot\":".toList ++ Decimal.ofInt slot ++
    ",\"name\":".toList ++ name ++ ",\"x\":".toList ++ Decimal.ofInt x ++ ",\"y\":".toList ++
      Decimal.ofInt y ++ ['\x7d']

/-- The loop of `presets_save`, from the slot with this number: the text so far, and
whether it holds no preset yet. -/
def saveEntries : List (Option SavedPreset) → Nat → List Char → Bool → Option (List Char)
  | [], _, text, _ => some text
  | none :: rest, slot, text, first => saveEntries rest (slot + 1) text first
  | some preset :: rest, slot, text, first =>
      match jipc_json_escape preset.name 400 with
      | none => none
      | some name =>
          let entry := entryText first slot name preset.x preset.y
          if 8192 - text.length - 3 ≤ entry.length then none
          else saveEntries rest (slot + 1) (text ++ entry) false

/-- The text `presets_save` gives to the disk; an error when it does not fit. -/
def presets_save (replay : Bool) (presets : List (Option SavedPreset)) : Option (List Char) :=
  (saveEntries presets 1 (openingText replay) true).map (· ++ "]\x7d\n".toList)

/-! ## Loading -/

/-- What opening and reading a file of the state directory gives. -/
inductive Stored
  | missing
  | failed
  | file (content : List Char)
  deriving Repr, DecidableEq

def json_integer (object : Json) (key : String) : Option Int :=
  ((object.get? key.toList).bind Json.toInt?).filter fun value =>
    -10000 ≤ value ∧ value ≤ 10000

def json_string (object : Json) (key : String) : Option (List Char) :=
  match object.get? key.toList with
  | some (.string text) => some text
  | _ => none

def unique_keys : Json → Bool
  | .object members => decide (members.map Prod.fst).Nodup
  | _ => true

/-- An escape that stands for a NUL; an escaped backslash is literal. -/
def escapesNul : List Char → Bool
  | [] => false
  | '\\' :: c :: rest => "u0000".toList.isPrefixOf (c :: rest) || escapesNul rest
  | _ :: rest => escapesNul rest

/-- A slot that is already loaded has the name, ignoring case. -/
def nameLoaded (presets : List (Option SavedPreset)) (name : Name) : Bool :=
  presets.any fun preset => preset.any fun preset => sameIgnoringCase preset.name name

/-- The numbers of an entry, when they are a slot and a position. -/
def entryNumbers (replay : Bool) (v : Json) : Option (Nat × Int × Int) := do
  let slot ← json_integer v "slot"
  let x ← json_integer v "x"
  let y ← json_integer v "y"
  if 1 ≤ slot ∧ slot ≤ PRESET_COUNT ∧ coordinatesValid replay x y then
    some ((slot - 1).toNat, x, y)
  else none

/-- One turn of the loop of `presets_load`. -/
def loadEntry (replay : Bool) (presets : List (Option SavedPreset)) (v : Json) :
    Option (List (Option SavedPreset)) := do
  let (index, x, y) ← entryNumbers replay v
  let name ← json_string v "name"
  if v.isObject ∧ unique_keys v ∧ preset_name_valid name = true ∧
      presets.getD index none = none ∧ nameLoaded presets name = false then
    some (presets.set index (some ⟨x, y, name⟩))
  else none

def emptySlots : List (Option SavedPreset) := List.replicate PRESET_COUNT none

/-- `presets_load` of a version 2 text. -/
def loadCatalogue (replay : Bool) (text : List Char) : Option (List (Option SavedPreset)) :=
  if escapesNul text = true then none
  else
    match Json.parseWhole text with
    | none => none
    | some root =>
        if root.isObject ∧ unique_keys root ∧ json_integer root "version" = some 2 ∧
            json_string root "backend" = some (backendName replay).toList ∧
            json_string root "coordinate_space" = some (coordinateSpace replay).toList then
          match root.get? "presets".toList with
          | some (.array entries) =>
              if PRESET_COUNT < entries.length then none
              else runs (loadEntry replay) emptySlots entries
          | _ => none
        else none

/-! ### The older format -/

/-- The lines `strtok_r` gives: those that are not empty. -/
def tokens (text : List Char) : List (List Char) :=
  (text.splitOn '\n').filter (· ≠ [])

/-- `sscanf(line, "JIPC_PRESETS_1 %15s %c", …)` converts its first word alone. -/
def legacyHeader (line : List Char) : Option (List Char) :=
  if "JIPC_PRESETS_1".toList.isPrefixOf line = true then
    let word := ((line.drop 14).dropWhile isSpace).takeWhile fun c => !isSpace c
    let rest := ((line.drop 14).dropWhile isSpace).dropWhile fun c => !isSpace c
    if word = [] ∨ 15 < word.length ∨ rest.dropWhile isSpace ≠ [] then none else some word
  else none

/-- `sscanf(line, "%d %d %d %c", …)` converts three numbers and nothing else. -/
def legacyEntry (line : List Char) : Option (Int × Int × Int) := do
  let (slot, rest) ← scanInt line.length line
  let (x, rest) ← scanInt rest.length rest
  let (y, rest) ← scanInt rest.length rest
  if rest.dropWhile isSpace = [] then some (slot, x, y) else none

def loadLegacyEntry (replay : Bool) (presets : List (Option SavedPreset)) (line : List Char) :
    Option (List (Option SavedPreset)) := do
  let (slot, x, y) ← legacyEntry line
  if 1 ≤ slot ∧ slot ≤ PRESET_COUNT ∧ coordinatesValid replay x y ∧
      presets.getD (slot - 1).toNat none = none then
    some (presets.set (slot - 1).toNat (some ⟨x, y, presetName slot⟩))
  else none

def loadLegacy (replay : Bool) (text : List Char) : Option (List (Option SavedPreset)) :=
  match tokens text with
  | [] => none
  | line :: rest =>
      if legacyHeader line = some (backendName replay).toList then
        runs (loadLegacyEntry replay) emptySlots rest
      else none

/-- A file that is read whole, as C text. -/
def readable (content : List Char) : Bool :=
  content.length < 8192 && Json.nul ∉ content

/-- `presets_load` over the catalogue and the file of the older format. -/
def presets_load (replay : Bool) (file legacy : Stored) : Option (List (Option SavedPreset)) :=
  match file, legacy with
  | .file content, _ => if readable content = true then loadCatalogue replay content else none
  | .failed, _ => none
  | .missing, .file content => if readable content = true then loadLegacy replay content else none
  | .missing, .failed => none
  | .missing, .missing => some emptySlots

/-! ## Names -/

/-- A Unicode scalar value that XML admits, and no ASCII control character. -/
def printableScalar (code : Nat) : Prop :=
  32 ≤ code ∧ code ≠ 127 ∧ code ≤ 0x10ffff ∧ ¬(0xd800 ≤ code ∧ code ≤ 0xdfff) ∧
    code ≠ 0xfffe ∧ code ≠ 0xffff

/-- The bytes are UTF-8 of printable characters. -/
def PrintableText (name : List Char) : Prop :=
  ∃ codes : List Nat, (∀ code ∈ codes, printableScalar code) ∧ name = codes.flatMap Json.utf8

theorem PrintableText.cons {code : Nat} {rest : List Char} (isPrintable : printableScalar code)
    (others : PrintableText rest) : PrintableText (Json.utf8 code ++ rest) := by
  obtain ⟨codes, printables, rfl⟩ := others
  refine ⟨code :: codes, ?_, rfl⟩
  intro other member
  rcases List.mem_cons.mp member with rfl | later
  · exact isPrintable
  · exact printables other later

theorem printableScalar_of_scalar {least code : Nat} (above : 128 ≤ least)
    (isScalar : scalar least code = true) : least ≤ code ∧ printableScalar code := by
  simp only [scalar, Bool.and_eq_true, Bool.not_eq_true', decide_eq_true_eq, Bool.and_eq_false_iff,
    decide_eq_false_iff_not] at isScalar
  unfold printableScalar
  omega

section Bytes

variable {c c₁ c₂ c₃ : Char}

theorem ofNat_byte {c : Char} {value : Nat} (same : value = c.toNat) : Char.ofNat value = c := by
  rw [same, Char.ofNat_toNat]

theorem utf8_two (low : 0xc2 ≤ c.toNat) (high : c.toNat ≤ 0xdf) (second : continues c₁ = true) :
    Json.utf8 (c.toNat % 32 * 64 + c₁.toNat % 64) = [c, c₁] := by
  simp only [continues, decide_eq_true_eq] at second
  rw [Json.utf8, if_neg (by omega), if_pos (by omega), @ofNat_byte c _ (by omega),
    @ofNat_byte c₁ _ (by omega)]

theorem utf8_three (low : 0xe0 ≤ c.toNat) (high : c.toNat ≤ 0xef) (second : continues c₁ = true)
    (third : continues c₂ = true)
    (least : 0x800 ≤ (c.toNat % 16 * 64 + c₁.toNat % 64) * 64 + c₂.toNat % 64) :
    Json.utf8 ((c.toNat % 16 * 64 + c₁.toNat % 64) * 64 + c₂.toNat % 64) = [c, c₁, c₂] := by
  simp only [continues, decide_eq_true_eq] at second third
  rw [Json.utf8, if_neg (by omega), if_neg (by omega), if_pos (by omega),
    @ofNat_byte c _ (by omega), @ofNat_byte c₁ _ (by omega), @ofNat_byte c₂ _ (by omega)]

theorem utf8_four (low : 0xf0 ≤ c.toNat) (high : c.toNat ≤ 0xf4) (second : continues c₁ = true)
    (third : continues c₂ = true) (fourth : continues c₃ = true)
    (least : 0x10000 ≤
      ((c.toNat % 8 * 64 + c₁.toNat % 64) * 64 + c₂.toNat % 64) * 64 + c₃.toNat % 64) :
    Json.utf8 (((c.toNat % 8 * 64 + c₁.toNat % 64) * 64 + c₂.toNat % 64) * 64 + c₃.toNat % 64) =
      [c, c₁, c₂, c₃] := by
  simp only [continues, decide_eq_true_eq] at second third fourth
  rw [Json.utf8, if_neg (by omega), if_neg (by omega), if_neg (by omega),
    @ofNat_byte c _ (by omega), @ofNat_byte c₁ _ (by omega), @ofNat_byte c₂ _ (by omega),
    @ofNat_byte c₃ _ (by omega)]

end Bytes

/-- What the check of a name admits is UTF-8 of printable characters. -/
theorem printable_text {name : List Char} (isPrintable : printable name = true) :
    PrintableText name := by
  fun_induction printable name with
  | case1 => exact ⟨[], fun _ member => absurd member List.not_mem_nil, rfl⟩
  | case3 c rest lead notControl ascii inductionHypothesis =>
      simp only [Bool.or_eq_true, decide_eq_true_eq, not_or] at notControl
      have single : Json.utf8 c.toNat = [c] := by
        rw [Json.utf8, if_pos ascii, Char.ofNat_toNat]
      have isScalar : printableScalar c.toNat := by
        unfold printableScalar
        omega
      have text := PrintableText.cons isScalar (inductionHypothesis isPrintable)
      rwa [single] at text
  | case4 c lead _ _ range c₁ rest inductionHypothesis =>
      simp only [Bool.and_eq_true, decide_eq_true_eq] at isPrintable range
      obtain ⟨⟨second, isScalar⟩, others⟩ := isPrintable
      have bounds := printableScalar_of_scalar (by decide) isScalar
      have text := PrintableText.cons bounds.2 (inductionHypothesis others)
      rwa [utf8_two range.1 range.2 second] at text
  | case6 c lead _ _ _ range c₁ c₂ rest inductionHypothesis =>
      simp only [Bool.and_eq_true, decide_eq_true_eq] at isPrintable range
      obtain ⟨⟨⟨second, third⟩, isScalar⟩, others⟩ := isPrintable
      have bounds := printableScalar_of_scalar (by decide) isScalar
      have text := PrintableText.cons bounds.2 (inductionHypothesis others)
      rwa [utf8_three range.1 range.2 second third bounds.1] at text
  | case8 c lead _ _ _ _ range c₁ c₂ c₃ rest inductionHypothesis =>
      simp only [Bool.and_eq_true, decide_eq_true_eq] at isPrintable range
      obtain ⟨⟨⟨⟨second, third⟩, fourth⟩, isScalar⟩, others⟩ := isPrintable
      have bounds := printableScalar_of_scalar (by decide) isScalar
      have text := PrintableText.cons bounds.2 (inductionHypothesis others)
      rwa [utf8_four range.1 range.2 second third fourth bounds.1] at text
  | _ => exact absurd isPrintable Bool.false_ne_true

/-- 1 to 64 bytes, the UTF-8 of printable characters. -/
def PrintableName (name : Name) : Prop :=
  0 < name.length ∧ name.length ≤ 64 ∧ PrintableText name

theorem preset_name_valid_printable {name : Name} (valid : preset_name_valid name = true) :
    PrintableName name := by
  simp only [preset_name_valid, Bool.and_eq_true, decide_eq_true_eq] at valid
  exact ⟨List.length_pos_of_ne_nil valid.1.1, valid.1.2, printable_text valid.2⟩

/-- A printable name has no control character, a NUL among them. -/
theorem printable_above {name : List Char} (isPrintable : printable name = true) :
    ∀ c ∈ name, 31 < c.toNat := by
  have continuing : ∀ c : Char, continues c = true → 31 < c.toNat := by
    intro c follows
    simp only [continues, decide_eq_true_eq] at follows
    omega
  fun_induction printable name <;> simp_all
  all_goals omega

theorem name_whole {name : Name} (valid : preset_name_valid name = true) : Json.nul ∉ name := by
  simp only [preset_name_valid, Bool.and_eq_true] at valid
  intro member
  exact absurd (printable_above valid.2 _ member) (by decide)

/-! ## Catalogues -/

/-- Two slots whose names a `strcasecmp` tells apart, if both hold a preset. -/
def Apart (a b : Option SavedPreset) : Prop :=
  ∀ p ∈ a, ∀ q ∈ b, sameIgnoringCase p.name q.name = false

structure WellFormed (replay : Bool) (presets : List (Option SavedPreset)) : Prop where
  slots : presets.length = PRESET_COUNT
  names : ∀ preset, some preset ∈ presets → preset_name_valid preset.name = true
  coordinates : ∀ preset, some preset ∈ presets → coordinatesValid replay preset.x preset.y
  distinct : presets.Pairwise Apart

theorem sameIgnoringCase_symm (a b : List Char) : sameIgnoringCase a b = sameIgnoringCase b a := by
  simp only [sameIgnoringCase, eq_comm]

theorem wellFormed_empty (replay : Bool) : WellFormed replay emptySlots where
  slots := List.length_replicate
  names := by simp [emptySlots, List.mem_replicate]
  coordinates := by simp [emptySlots, List.mem_replicate]
  distinct := List.pairwise_replicate.mpr (.inr nofun)

section WellFormed

variable {replay : Bool} {presets : List (Option SavedPreset)} {preset : SavedPreset} {index : Nat}

/-- A slot takes a preset whose name no other slot has. -/
theorem WellFormed.set (wellFormed : WellFormed replay presets)
    (name : preset_name_valid preset.name = true)
    (coordinates : coordinatesValid replay preset.x preset.y)
    (free : ∀ other q, other ≠ index → presets[other]? = some (some q) →
      sameIgnoringCase preset.name q.name = false) :
    WellFormed replay (presets.set index (some preset)) where
  slots := by rw [List.length_set, wellFormed.slots]
  names := by
    intro p member
    rcases List.mem_or_eq_of_mem_set member with kept | same
    · exact wellFormed.names p kept
    · rwa [Option.some.inj same]
  coordinates := by
    intro p member
    rcases List.mem_or_eq_of_mem_set member with kept | same
    · exact wellFormed.coordinates p kept
    · rwa [Option.some.inj same]
  distinct := by
    have apart := List.pairwise_iff_getElem.mp wellFormed.distinct
    rw [List.pairwise_iff_getElem]
    intro i j below above ordered p first q second
    simp only [List.length_set] at below above
    rw [List.getElem_set] at first second
    by_cases left : index = i
    · rw [if_pos left] at first
      rw [if_neg (by omega)] at second
      have taken := free j q (by omega) (by rw [List.getElem?_eq_getElem above, second])
      rwa [← Option.some.inj first]
    · rw [if_neg left] at first
      by_cases right : index = j
      · rw [if_pos right] at second
        have taken := free i p (by omega) (by rw [List.getElem?_eq_getElem below, first])
        rwa [← Option.some.inj second, sameIgnoringCase_symm]
      · rw [if_neg right] at second
        exact apart i j below above ordered p first q second

theorem WellFormed.remove (wellFormed : WellFormed replay presets) (index : Nat) :
    WellFormed replay (presets.set index none) where
  slots := by rw [List.length_set, wellFormed.slots]
  names := by
    intro p member
    rcases List.mem_or_eq_of_mem_set member with kept | empty
    · exact wellFormed.names p kept
    · exact absurd empty nofun
  coordinates := by
    intro p member
    rcases List.mem_or_eq_of_mem_set member with kept | empty
    · exact wellFormed.coordinates p kept
    · exact absurd empty nofun
  distinct := by
    have apart := List.pairwise_iff_getElem.mp wellFormed.distinct
    rw [List.pairwise_iff_getElem]
    intro i j below above ordered p first q second
    simp only [List.length_set] at below above
    rw [List.getElem_set] at first second
    split at first
    · exact absurd first nofun
    · split at second
      · exact absurd second nofun
      · exact apart i j below above ordered p first q second

end WellFormed

/-! ## The text of a catalogue -/

def presetJson (slot : Nat) (preset : SavedPreset) : Json :=
  .object
    [("slot".toList, .ofInt slot), ("name".toList, .string preset.name),
      ("x".toList, .ofInt preset.x), ("y".toList, .ofInt preset.y)]

def entriesJson : List (Option SavedPreset) → Nat → List Json
  | [], _ => []
  | none :: rest, slot => entriesJson rest (slot + 1)
  | some preset :: rest, slot => presetJson slot preset :: entriesJson rest (slot + 1)

def catalogueJson (replay : Bool) (presets : List (Option SavedPreset)) : Json :=
  .object
    [("version".toList, .ofInt 2), ("backend".toList, .string (backendName replay).toList),
      ("coordinate_space".toList, .string (coordinateSpace replay).toList),
      ("presets".toList, .array (entriesJson presets 1))]

theorem entriesJson_length (presets : List (Option SavedPreset)) (slot : Nat) :
    (entriesJson presets slot).length ≤ presets.length := by
  induction presets generalizing slot with
  | nil => exact le_rfl
  | cons preset presets inductionHypothesis =>
      have others := inductionHypothesis (slot + 1)
      cases preset with
      | none => exact others.trans (Nat.le_succ _)
      | some preset => exact Nat.succ_le_succ others

/-- Items behind the text so far, which holds one already unless this is the first. -/
def separated : Bool → List Json → List Char
  | _, [] => []
  | first, item :: items =>
      (if first = true then [] else [',']) ++ item.print ++ separated false items

theorem separated_printItems (items : List Json) :
    Json.printItems items = separated false items ++ [']'] := by
  induction items with
  | nil => rfl
  | cons item items inductionHypothesis => simp [Json.printItems, separated, inductionHypothesis]

theorem separated_print (items : List Json) :
    (Json.array items).print = '[' :: separated true items ++ [']'] := by
  cases items with
  | nil => rfl
  | cons item items => simp [Json.print, separated, separated_printItems]

theorem entryText_print (first : Bool) (slot : Nat) (preset : SavedPreset) :
    entryText first slot (Json.printString preset.name) preset.x preset.y =
      (if first = true then [] else [',']) ++ (presetJson slot preset).print := by
  have slotKey : Json.printString "slot".toList = "\"slot\"".toList := by decide
  have nameKey : Json.printString "name".toList = "\"name\"".toList := by decide
  have xKey : Json.printString "x".toList = "\"x\"".toList := by decide
  have yKey : Json.printString "y".toList = "\"y\"".toList := by decide
  simp only [presetJson, Json.print, Json.printMember, Json.printMembers, Json.ofInt, slotKey,
    nameKey, xKey, yKey]
  simp [entryText]

theorem openingText_print (replay : Bool) (presets : List (Option SavedPreset)) :
    openingText replay ++ separated true (entriesJson presets 1) ++ "]\x7d\n".toList =
      (catalogueJson replay presets).print ++ ['\n'] := by
  have opening :
      openingText replay =
        '\x7b' :: Json.printMember ("version".toList, .ofInt 2) ++ [','] ++
          Json.printMember ("backend".toList, .string (backendName replay).toList) ++ [','] ++
          Json.printMember ("coordinate_space".toList, .string (coordinateSpace replay).toList) ++
            [','] ++ Json.printString "presets".toList ++ [':', '['] := by
    cases replay <;> decide
  rw [opening]
  simp [catalogueJson, Json.print, Json.printMembers, Json.printMember, separated_print]

/-! ### The text fits -/

theorem name_escaped {name : Name} (valid : preset_name_valid name = true) :
    jipc_json_escape name 400 = some (Json.printString name) := by
  simp only [preset_name_valid, Bool.and_eq_true, decide_eq_true_eq] at valid
  have bound := Json.printString_length_le name
  have short : (Json.printString name).length < 400 := by omega
  simp only [jipc_json_escape, if_pos short]

theorem coordinatesValid.range {replay : Bool} {x y : Int} (valid : coordinatesValid replay x y) :
    (-100 ≤ x ∧ x ≤ 8600) ∧ -100 ≤ y ∧ y ≤ 2000 := by
  cases replay with
  | true =>
      obtain ⟨_, _, _, _⟩ := valid
      omega
  | false =>
      obtain ⟨_, _, _, _⟩ := valid
      omega

theorem entryText_length {first : Bool} {slot : Nat} {preset : SavedPreset} {replay : Bool}
    (few : slot ≤ PRESET_COUNT) (name : preset_name_valid preset.name = true)
    (coordinates : coordinatesValid replay preset.x preset.y) :
    (entryText first slot (Json.printString preset.name) preset.x preset.y).length ≤ 440 := by
  simp only [preset_name_valid, Bool.and_eq_true, decide_eq_true_eq] at name
  have nameBound := Json.printString_length_le preset.name
  obtain ⟨⟨_, _⟩, _, _⟩ := coordinates.range
  simp only [PRESET_COUNT] at few
  have slotBound : (Decimal.ofInt slot).length ≤ 3 := Decimal.length_ofInt_le (by decide) (by omega)
  have xBound : (Decimal.ofInt preset.x).length ≤ 5 := Decimal.length_ofInt_le (by decide) (by omega)
  have yBound : (Decimal.ofInt preset.y).length ≤ 5 := Decimal.length_ofInt_le (by decide) (by omega)
  have comma : (if first = true then [] else [',']).length ≤ 1 := by cases first <;> decide
  simp only [entryText, List.length_append]
  have literals : "\x7b\"slot\":".toList.length = 8 ∧ ",\"name\":".toList.length = 8 ∧
      ",\"x\":".toList.length = 5 ∧ ",\"y\":".toList.length = 5 ∧ ['\x7d'].length = 1 := by decide
  omega

/-- Over the slots from this number on, the loop of `presets_save` adds each preset's
text; an entry takes at most 440 bytes. -/
theorem saveEntries_eq {replay : Bool} {presets : List (Option SavedPreset)}
    (names : ∀ preset, some preset ∈ presets → preset_name_valid preset.name = true)
    (coordinates : ∀ preset, some preset ∈ presets → coordinatesValid replay preset.x preset.y) :
    ∀ (slot : Nat) (text : List Char) (first : Bool), slot + presets.length ≤ PRESET_COUNT + 1 →
      text.length + 440 * presets.length ≤ 8000 →
        saveEntries presets slot text first =
          some (text ++ separated first (entriesJson presets slot)) := by
  induction presets with
  | nil => simp [saveEntries, entriesJson, separated]
  | cons preset rest inductionHypothesis =>
      intro slot text first few room
      have others := inductionHypothesis
        (fun preset member => names preset (.tail _ member))
        (fun preset member => coordinates preset (.tail _ member)) (slot + 1)
      simp only [List.length_cons] at few room
      cases preset with
      | none => exact others text first (by omega) (by omega)
      | some preset =>
          have name := names preset (.head _)
          have short := @entryText_length first slot preset replay (by omega) name
            (coordinates preset (.head _))
          have fits : ¬ 8192 - text.length - 3 ≤
              (entryText first slot (Json.printString preset.name) preset.x preset.y).length := by
            omega
          have next := others
            (text ++ entryText first slot (Json.printString preset.name) preset.x preset.y) false
            (by omega) (by simp only [List.length_append]; omega)
          simp only [saveEntries, name_escaped name, if_neg fits, next]
          simp only [entriesJson, separated, entryText_print, List.append_assoc]

theorem saveEntries_length {presets : List (Option SavedPreset)} {after : List Char} :
    ∀ {slot : Nat} {text : List Char} {first : Bool}, text.length < 8189 →
      saveEntries presets slot text first = some after → after.length < 8189 := by
  induction presets with
  | nil =>
      intro slot text first room saved
      rwa [← Option.some.inj saved]
  | cons preset rest inductionHypothesis =>
      intro slot text first room saved
      cases preset with
      | none => exact inductionHypothesis room saved
      | some preset =>
          rw [saveEntries] at saved
          split at saved
          · exact absurd saved nofun
          · next name escaped =>
              simp only at saved
              split at saved
              · exact absurd saved nofun
              · next fits =>
                  apply inductionHypothesis _ saved
                  rw [List.length_append]
                  omega

/-- What `presets_save` writes is below the size `presets_load` refuses. -/
theorem presets_save_length {replay : Bool} {presets : List (Option SavedPreset)}
    {text : List Char} (saved : presets_save replay presets = some text) : text.length < 8192 := by
  obtain ⟨entries, ran, rfl⟩ := Option.map_eq_some_iff.mp saved
  have opening : (openingText replay).length < 8189 := by cases replay <;> decide
  have bound := saveEntries_length opening ran
  have closing : "]\x7d\n".toList.length = 3 := rfl
  rw [List.length_append, closing]
  omega

/-- The file of a well-formed catalogue is the JSON of the catalogue. -/
theorem presets_save_print {replay : Bool} {presets : List (Option SavedPreset)}
    (wellFormed : WellFormed replay presets) :
    presets_save replay presets = some ((catalogueJson replay presets).print ++ ['\n']) := by
  have opening : (openingText replay).length ≤ 100 := by cases replay <;> decide
  have slots : presets.length = 16 := wellFormed.slots
  have saved := saveEntries_eq wellFormed.names wellFormed.coordinates 1 (openingText replay) true
    (by simp only [slots, PRESET_COUNT]; omega) (by omega)
  rw [presets_save, saved, Option.map_some, openingText_print]

/-! ### The text has no escaped NUL -/

/-- Text behind which the scan for an escaped NUL goes on as if it were not there. -/
def Quiet (text : List Char) : Prop := ∀ rest, escapesNul (text ++ rest) = escapesNul rest

theorem Quiet.append {first second : List Char} (left : Quiet first) (right : Quiet second) :
    Quiet (first ++ second) := by
  intro rest
  rw [List.append_assoc, left, right]

theorem escapesNul_cons {c : Char} (plain : c ≠ '\\') (rest : List Char) :
    escapesNul (c :: rest) = escapesNul rest := by
  rw [escapesNul]
  intro _ _ backslash _
  exact plain backslash

theorem quiet_plain {text : List Char} (plain : '\\' ∉ text) : Quiet text := by
  induction text with
  | nil => exact fun rest => rfl
  | cons c text inductionHypothesis =>
      intro rest
      rw [List.mem_cons, not_or] at plain
      rw [List.cons_append, escapesNul_cons (Ne.symm plain.1), inductionHypothesis plain.2]

theorem quiet_escape {c : Char} (above : 31 < c.toNat) : Quiet (Json.escape c) := by
  intro rest
  by_cases special : c = '"' ∨ c = '\\'
  · rw [Json.escape, if_pos special]
    have mark : "u0000".toList.isPrefixOf (c :: rest) = false := by
      rcases special with rfl | rfl <;> rfl
    simp only [List.cons_append, List.nil_append, escapesNul, mark, Bool.false_or]
  · rw [Json.escape, if_neg special, if_pos above]
    exact escapesNul_cons (not_or.mp special).2 rest

theorem quiet_printString {text : List Char} (above : ∀ c ∈ text, 31 < c.toNat) :
    Quiet (Json.printString text) := by
  have inside : Quiet (Json.escaped text) := by
    induction text with
    | nil => exact fun rest => rfl
    | cons c text inductionHypothesis =>
        have others := inductionHypothesis fun other member => above other (.tail _ member)
        exact (quiet_escape (above c (.head _))).append others
  exact ((quiet_plain (by decide : '\\' ∉ ['"'])).append inside).append (quiet_plain (by decide))

theorem quiet_numeral (value : Int) : Quiet (Decimal.ofInt value) := by
  apply quiet_plain
  intro member
  exact absurd ((Json.isNumeral_ofInt value).numeric _ member) (by decide)

theorem quiet_entry (slot : Nat) {preset : SavedPreset}
    (name : preset_name_valid preset.name = true) : Quiet (presetJson slot preset).print := by
  have text := entryText_print true slot preset
  rw [if_pos rfl, List.nil_append] at text
  simp only [preset_name_valid, Bool.and_eq_true] at name
  have literal : ∀ {text : List Char}, '\\' ∉ text → Quiet text := quiet_plain
  rw [← text, entryText, if_pos rfl]
  exact (((((((((literal (by decide)).append (literal (by decide))).append
    (quiet_numeral slot)).append (literal (by decide))).append
    (quiet_printString (printable_above name.2))).append (literal (by decide))).append
    (quiet_numeral preset.x)).append (literal (by decide))).append
    (quiet_numeral preset.y)).append (literal (by decide))

theorem quiet_separated {presets : List (Option SavedPreset)}
    (names : ∀ preset, some preset ∈ presets → preset_name_valid preset.name = true) :
    ∀ (slot : Nat) (first : Bool), Quiet (separated first (entriesJson presets slot)) := by
  induction presets with
  | nil => exact fun _ _ rest => rfl
  | cons preset presets inductionHypothesis =>
      intro slot first
      have others := inductionHypothesis fun preset member => names preset (.tail _ member)
      cases preset with
      | none => exact others (slot + 1) first
      | some preset =>
          have comma : Quiet (if first = true then [] else [',']) := by
            cases first <;> exact quiet_plain (by decide)
          exact (comma.append (quiet_entry slot (names preset (.head _)))).append
            (others (slot + 1) false)

/-! ### The catalogue comes back -/

section Loads

variable {replay : Bool} {presets : List (Option SavedPreset)}

theorem fits_entries (names : ∀ preset, some preset ∈ presets → preset_name_valid preset.name = true)
    (slot : Nat) : Json.ItemsFit 998 (entriesJson presets slot) := by
  induction presets generalizing slot with
  | nil => exact trivial
  | cons preset presets inductionHypothesis =>
      have others := inductionHypothesis (fun preset member => names preset (.tail _ member))
        (slot + 1)
      cases preset with
      | none => exact others
      | some preset =>
          have whole := name_whole (names preset (.head _))
          refine ⟨?_, others⟩
          simp only [presetJson, Json.Fits, Json.MembersFit, Json.MemberFits, Json.ofInt]
          exact ⟨by decide, ⟨by decide, Json.isNumeral_ofInt _⟩, ⟨by decide, whole⟩,
            ⟨by decide, Json.isNumeral_ofInt _⟩, ⟨by decide, Json.isNumeral_ofInt _⟩, trivial⟩

theorem fits_catalogue (wellFormed : WellFormed replay presets) :
    Json.Fits Json.nestingLimit (catalogueJson replay presets) := by
  have entries := fits_entries wellFormed.names 1
  simp only [catalogueJson, Json.nestingLimit, Json.Fits, Json.MembersFit, Json.MemberFits,
    Json.ofInt]
  exact ⟨by decide, ⟨by decide, Json.isNumeral_ofInt 2⟩,
    ⟨by decide, by cases replay <;> decide⟩, ⟨by decide, by cases replay <;> decide⟩,
    ⟨by decide, by decide, entries⟩, trivial⟩

theorem json_integer_ofInt {object : Json} {key : String} {value : Int}
    (found : object.get? key.toList = some (.ofInt value)) (low : -10000 ≤ value)
    (high : value ≤ 10000) : json_integer object key = some value := by
  have whole : (Json.ofInt value).toInt? = some value := Json.toInt?_ofInt (by omega) (by omega)
  simp only [json_integer, found, Option.bind_some, whole, Option.filter, decide_eq_true_eq,
    if_pos (And.intro low high)]

theorem json_string_string {object : Json} {key : String} {text : List Char}
    (found : object.get? key.toList = some (.string text)) :
    json_string object key = some text := by
  rw [json_string, found]

theorem entryNumbers_json {preset : SavedPreset} {index : Nat} (below : index < PRESET_COUNT)
    (coordinates : coordinatesValid replay preset.x preset.y) :
    entryNumbers replay (presetJson (index + 1) preset) = some (index, preset.x, preset.y) := by
  obtain ⟨⟨_, _⟩, _, _⟩ := coordinates.range
  have count : PRESET_COUNT = 16 := rfl
  have slot : json_integer (presetJson (index + 1) preset) "slot" = some ((index + 1 : Nat) : Int) :=
    json_integer_ofInt rfl (by omega) (by omega)
  have x : json_integer (presetJson (index + 1) preset) "x" = some preset.x :=
    json_integer_ofInt rfl (by omega) (by omega)
  have y : json_integer (presetJson (index + 1) preset) "y" = some preset.y :=
    json_integer_ofInt rfl (by omega) (by omega)
  have inRange : (1 : Int) ≤ ((index + 1 : Nat) : Int) ∧ ((index + 1 : Nat) : Int) ≤ PRESET_COUNT ∧
      coordinatesValid replay preset.x preset.y := ⟨by omega, by omega, coordinates⟩
  have place : (((index + 1 : Nat) : Int) - 1).toNat = index := by omega
  simp only [entryNumbers, slot, x, y, Option.bind_eq_bind, Option.bind_some, if_pos inRange, place]

/-- The entry of a slot is loaded into it behind the slots before it. -/
theorem loadEntry_json {preset : SavedPreset} (loaded : List (Option SavedPreset)) (later : Nat)
    (below : loaded.length < PRESET_COUNT) (name : preset_name_valid preset.name = true)
    (coordinates : coordinatesValid replay preset.x preset.y)
    (apart : ∀ slot ∈ loaded, Apart slot (some preset)) :
    loadEntry replay (loaded ++ none :: List.replicate later none)
        (presetJson (loaded.length + 1) preset) =
      some (loaded ++ some preset :: List.replicate later none) := by
  have numbers := entryNumbers_json below coordinates
  have text : json_string (presetJson (loaded.length + 1) preset) "name" = some preset.name :=
    json_string_string rfl
  have free : (loaded ++ none :: List.replicate later none).getD loaded.length none = none := by
    simp
  have unused : nameLoaded (loaded ++ none :: List.replicate later none) preset.name = false := by
    simp only [nameLoaded, List.any_append, List.any_cons, List.any_replicate, Option.any_none,
      Bool.or_false, ite_self, List.any_eq_false]
    intro slot member taken
    cases slot with
    | none => exact absurd taken nofun
    | some p =>
        rw [Option.any_some, apart _ member p rfl preset rfl] at taken
        exact absurd taken nofun
  have keys : decide ["slot".toList, "name".toList, "x".toList, "y".toList].Nodup = true := by
    decide
  have accepted : (presetJson (loaded.length + 1) preset).isObject = true ∧
      unique_keys (presetJson (loaded.length + 1) preset) = true ∧
      preset_name_valid preset.name = true ∧
      (loaded ++ none :: List.replicate later none).getD loaded.length none = none ∧
      nameLoaded (loaded ++ none :: List.replicate later none) preset.name = false :=
    ⟨rfl, keys, name, free, unused⟩
  simp only [loadEntry, numbers, text, Option.bind_eq_bind, Option.bind_some, if_pos accepted]
  simp

/-- The loop of `presets_load` over the entries of the slots that are left. -/
theorem loadEntries_json (left : List (Option SavedPreset)) :
    ∀ loaded : List (Option SavedPreset), (loaded ++ left).length = PRESET_COUNT →
      (∀ preset, some preset ∈ left → preset_name_valid preset.name = true) →
      (∀ preset, some preset ∈ left → coordinatesValid replay preset.x preset.y) →
      (loaded ++ left).Pairwise Apart →
        runs (loadEntry replay) (loaded ++ List.replicate left.length none)
          (entriesJson left (loaded.length + 1)) = some (loaded ++ left) := by
  induction left with
  | nil => simp [entriesJson, runs]
  | cons slot left inductionHypothesis =>
      intro loaded count names coordinates distinct
      have others := inductionHypothesis (loaded ++ [slot])
      simp only [List.append_assoc, List.singleton_append, List.length_append, List.length_cons,
        List.length_nil] at others count
      have rest := others count (fun preset member => names preset (.tail _ member))
        (fun preset member => coordinates preset (.tail _ member)) distinct
      cases slot with
      | none => exact rest
      | some preset =>
          have apart := (List.pairwise_append.mp distinct).2.2
          have first := loadEntry_json loaded left.length (by omega) (names preset (.head _))
            (coordinates preset (.head _)) fun slot member => apart slot member _ (.head _)
          rw [entriesJson, List.length_cons, List.replicate_succ, runs, first, Option.bind_some]
          exact rest

theorem loadCatalogue_save (wellFormed : WellFormed replay presets) :
    loadCatalogue replay ((catalogueJson replay presets).print ++ ['\n']) = some presets := by
  have quiet : escapesNul ((catalogueJson replay presets).print ++ ['\n']) = false := by
    have opening : '\\' ∉ openingText replay := by cases replay <;> decide
    have text := ((quiet_plain opening).append (quiet_separated wellFormed.names 1 true)).append
      (quiet_plain (by decide : '\\' ∉ "]\x7d\n".toList))
    rw [← openingText_print, ← List.append_nil (_ ++ "]\x7d\n".toList), text []]
    rfl
  have parsed : Json.parseWhole ((catalogueJson replay presets).print ++ ['\n']) =
      some (catalogueJson replay presets) :=
    Json.parseWhole_print (fits_catalogue wellFormed) rfl rfl
  have version : json_integer (catalogueJson replay presets) "version" = some 2 :=
    json_integer_ofInt rfl (by decide) (by decide)
  have keys : decide
      ["version".toList, "backend".toList, "coordinate_space".toList, "presets".toList].Nodup =
        true := by decide
  have accepted : (catalogueJson replay presets).isObject = true ∧
      unique_keys (catalogueJson replay presets) = true ∧
      json_integer (catalogueJson replay presets) "version" = some 2 ∧
      json_string (catalogueJson replay presets) "backend" = some (backendName replay).toList ∧
      json_string (catalogueJson replay presets) "coordinate_space" =
        some (coordinateSpace replay).toList :=
    ⟨rfl, keys, version, json_string_string rfl, json_string_string rfl⟩
  have found : (catalogueJson replay presets).get? "presets".toList =
      some (.array (entriesJson presets 1)) := rfl
  have few : ¬PRESET_COUNT < (entriesJson presets 1).length := by
    have bound := entriesJson_length presets 1
    rw [wellFormed.slots] at bound
    omega
  have entries := loadEntries_json presets [] wellFormed.slots wellFormed.names
    wellFormed.coordinates wellFormed.distinct
  rw [wellFormed.slots] at entries
  simp only [loadCatalogue, quiet, Bool.false_eq_true, if_false, parsed, if_pos accepted, found,
    if_neg few]
  exact entries

/-- The file `presets_save` writes of a well-formed catalogue loads as that catalogue. -/
theorem presets_load_save (wellFormed : WellFormed replay presets) (legacy : Stored) :
    ∃ text, presets_save replay presets = some text ∧
      presets_load replay (.file text) legacy = some presets := by
  have saved := presets_save_print wellFormed
  refine ⟨_, saved, ?_⟩
  have short := presets_save_length saved
  have whole := (Json.print_whole _ (fits_catalogue wellFormed)).append
    (by decide : Json.Whole ['\n'])
  have text : readable ((catalogueJson replay presets).print ++ ['\n']) = true := by
    simp only [readable, Bool.and_eq_true, decide_eq_true_eq]
    exact ⟨short, fun member => whole _ member rfl⟩
  rw [presets_load, if_pos text, loadCatalogue_save wellFormed]

end Loads

/-! ## What loading accepts -/

section Accepted

variable {replay : Bool} {presets after : List (Option SavedPreset)}

theorem loadEntry_wellFormed {v : Json} (wellFormed : WellFormed replay presets)
    (loaded : loadEntry replay presets v = some after) : WellFormed replay after := by
  obtain ⟨⟨index, x, y⟩, numbers, loaded⟩ := Option.bind_eq_some_iff.mp loaded
  obtain ⟨name, -, loaded⟩ := Option.bind_eq_some_iff.mp loaded
  have coordinates : coordinatesValid replay x y := by
    obtain ⟨slot, -, numbers⟩ := Option.bind_eq_some_iff.mp numbers
    obtain ⟨x', -, numbers⟩ := Option.bind_eq_some_iff.mp numbers
    obtain ⟨y', -, numbers⟩ := Option.bind_eq_some_iff.mp numbers
    split at numbers
    · next inRange =>
        obtain ⟨-, rfl, rfl⟩ := Option.some.inj numbers
        exact inRange.2.2
    · exact absurd numbers nofun
  split at loaded
  · next accepted =>
      rw [← Option.some.inj loaded]
      apply wellFormed.set accepted.2.2.1 coordinates
      intro other q _ found
      have unused := List.any_eq_false.mp accepted.2.2.2.2 _ (List.mem_of_getElem? found)
      rw [sameIgnoringCase_symm]
      simpa using unused
  · exact absurd loaded nofun

theorem loadCatalogue_wellFormed {text : List Char}
    (loaded : loadCatalogue replay text = some presets) : WellFormed replay presets := by
  unfold loadCatalogue at loaded
  split at loaded
  · exact absurd loaded nofun
  · split at loaded
    · exact absurd loaded nofun
    · split at loaded
      · split at loaded
        · split at loaded
          · exact absurd loaded nofun
          · exact (run_of_runs loaded).preserves
              (fun _ _ _ wellFormed step => loadEntry_wellFormed wellFormed step)
              (wellFormed_empty replay)
        · exact absurd loaded nofun
      · exact absurd loaded nofun

/-- A catalogue of the older format has the default names. -/
structure Numbered (replay : Bool) (presets : List (Option SavedPreset)) : Prop where
  slots : presets.length = PRESET_COUNT
  named : ∀ index p, presets[index]? = some (some p) →
    p.name = presetName (index + 1 : Nat) ∧ coordinatesValid replay p.x p.y

theorem presetName_valid : ∀ index < PRESET_COUNT,
    preset_name_valid (presetName (index + 1 : Nat)) = true := by
  decide +kernel

theorem presetName_apart : ∀ i < PRESET_COUNT, ∀ j < PRESET_COUNT, i ≠ j →
    sameIgnoringCase (presetName (i + 1 : Nat)) (presetName (j + 1 : Nat)) = false := by
  decide +kernel

theorem Numbered.wellFormed (numbered : Numbered replay presets) : WellFormed replay presets where
  slots := numbered.slots
  names := by
    intro p member
    obtain ⟨index, below, found⟩ := List.mem_iff_getElem.mp member
    have named := numbered.named index p (by rw [List.getElem?_eq_getElem below, found])
    rw [named.1]
    exact presetName_valid index (numbered.slots ▸ below)
  coordinates := by
    intro p member
    obtain ⟨index, below, found⟩ := List.mem_iff_getElem.mp member
    exact (numbered.named index p (by rw [List.getElem?_eq_getElem below, found])).2
  distinct := by
    rw [List.pairwise_iff_getElem]
    intro i j below above ordered p first q second
    have left := numbered.named i p (by rw [List.getElem?_eq_getElem below, first])
    have right := numbered.named j q (by rw [List.getElem?_eq_getElem above, second])
    rw [left.1, right.1]
    exact presetName_apart i (numbered.slots ▸ below) j (numbered.slots ▸ above) (by omega)

theorem loadLegacyEntry_numbered {line : List Char} (numbered : Numbered replay presets)
    (loaded : loadLegacyEntry replay presets line = some after) : Numbered replay after := by
  obtain ⟨⟨slot, x, y⟩, -, loaded⟩ := Option.bind_eq_some_iff.mp loaded
  simp only at loaded
  split at loaded
  · next accepted =>
      obtain ⟨above, below, coordinates, -⟩ := accepted
      rw [← Option.some.inj loaded]
      refine ⟨by rw [List.length_set, numbered.slots], fun index p found => ?_⟩
      rw [List.getElem?_set] at found
      split at found
      · next same =>
          split at found
          · obtain rfl := Option.some.inj (Option.some.inj found)
            have number : ((index + 1 : Nat) : Int) = slot := by omega
            exact ⟨by rw [number], coordinates⟩
          · exact absurd found nofun
      · exact numbered.named index p found
  · exact absurd loaded nofun

theorem loadLegacy_wellFormed {text : List Char} (loaded : loadLegacy replay text = some presets) :
    WellFormed replay presets := by
  have empty : Numbered replay emptySlots :=
    ⟨List.length_replicate, fun index p found =>
      absurd (List.mem_of_getElem? found) (by simp [emptySlots, List.mem_replicate])⟩
  unfold loadLegacy at loaded
  split at loaded
  · exact absurd loaded nofun
  · split at loaded
    · exact ((run_of_runs loaded).preserves
        (fun _ _ _ numbered step => loadLegacyEntry_numbered numbered step) empty).wellFormed
    · exact absurd loaded nofun

/-- Whatever the files hold, what is loaded is a catalogue. -/
theorem presets_load_wellFormed {file legacy : Stored}
    (loaded : presets_load replay file legacy = some presets) : WellFormed replay presets := by
  unfold presets_load at loaded
  split at loaded
  · split at loaded
    · exact loadCatalogue_wellFormed loaded
    · exact absurd loaded nofun
  · exact absurd loaded nofun
  · split at loaded
    · exact loadLegacy_wellFormed loaded
    · exact absurd loaded nofun
  · exact absurd loaded nofun
  · rw [← Option.some.inj loaded]
    exact wellFormed_empty replay

end Accepted

end JooanW3U.Media.Platform
