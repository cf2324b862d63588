import JooanW3U.Library.AddressBlock
import JooanW3U.Library.Decimal
import JooanW3U.Media.Config

/-!
Owns the list of private routes: `private_routes`, which reads it from a request and
writes it one CIDR a line, and `private_routes_validate`, which checks the lines before
they are installed. Main result: every installed network is private exactly when no
172.16/12 or 192.168/16 address comes with a prefix shorter than its range.

Does not own the staging of the file, or what the installed list is used for.
-/

namespace JooanW3U.Daemon.PrivateRoutes

open JooanW3U.Library JooanW3U.Library.AddressBlock JooanW3U.Media

abbrev Text := List Char

/-! ### Addresses -/

/-- `inet_pton(AF_INET, …)` and `ntohl`. -/
def ipv4 (text : Text) : Option Nat :=
  (Config.inet_pton text).map fun parts => parts.foldl (fun value part => value * 256 + part) 0

def isHex (c : Char) : Bool :=
  c.isDigit || ('a' ≤ c && c ≤ 'f') || ('A' ≤ c && c ≤ 'F')

def hexDigit (c : Char) : Nat :=
  if c.isDigit then c.toNat - '0'.toNat
  else if 'a' ≤ c then c.toNat - 'a'.toNat + 10
  else c.toNat - 'A'.toNat + 10

/-- One to four hexadecimal digits. -/
def hexGroup (text : Text) : Option Nat :=
  if text ≠ [] ∧ text.length ≤ 4 ∧ text.all isHex = true
    then some (text.foldl (fun value c => value * 16 + hexDigit c) 0)
    else none

/-- The groups between colons; the last four bytes may stand in dotted decimal. -/
def groups (dotted : Bool) : List Text → Option (List Nat)
  | [] => some []
  | [last] =>
      if dotted && last.contains '.' then
        (ipv4 last).map fun value => [value / 65536, value % 65536]
      else (hexGroup last).map fun value => [value]
  | part :: rest => do
      let value ← hexGroup part
      let values ← groups dotted rest
      some (value :: values)

/-- The groups on one side of a double colon. -/
def side (dotted : Bool) (text : Text) : Option (List Nat) :=
  if text = [] then some [] else groups dotted (text.splitOn ':')

/-- What stands before and behind the first double colon. -/
def splitDouble : Text → Option (Text × Text)
  | ':' :: ':' :: rest => some ([], rest)
  | c :: rest => (splitDouble rest).map fun (before, after) => (c :: before, after)
  | [] => none

/-- The eight groups; a double colon stands for one or more zeros. -/
def allGroups (text : Text) : Option (List Nat) :=
  match splitDouble text with
  | none => groups true (text.splitOn ':')
  | some (before, after) => do
      let left ← side false before
      let right ← side true after
      if left.length + right.length ≤ 7
        then some (left ++ List.replicate (8 - left.length - right.length) 0 ++ right)
        else none

/-- `inet_pton(AF_INET6, …)`. -/
def ipv6 (text : Text) : Option Nat :=
  if text.all fun c => isHex c || c = ':' || c = '.' then
    ((allGroups text).filter fun values => values.length = 8).map fun values =>
      values.foldl (fun value group => value * 65536 + group) 0
  else none

/-! ### The request -/

def ULONG_MAX : Nat := 4294967295

/-- `strtoul(text, NULL, 10)`. -/
def strtoul (text : Text) : Nat :=
  let text := text.dropWhile isSpace
  let signed := text.head? = some '-' || text.head? = some '+'
  let value := digitsValue ((if signed then text.drop 1 else text).takeWhile Char.isDigit)
  if value > ULONG_MAX then ULONG_MAX
  else if text.head? = some '-' then (ULONG_MAX + 1 - value) % (ULONG_MAX + 1)
  else value

/-- What stands before the slash. -/
def baseOf (item : Text) : Text := item.takeWhile (· ≠ '/')

def prefixOf (item : Text) : Nat := strtoul ((item.dropWhile (· ≠ '/')).drop 1)

/-- The condition that leaves `ok` set. -/
def routeOk (item : Text) : Bool :=
  if (ipv4 (baseOf item)).isSome && 8 ≤ prefixOf item && prefixOf item ≤ 32 then
    (ipv4 (baseOf item)).any fun a => a >>> 24 = 10 || a >>> 20 = 0xac1 || a >>> 16 = 0xc0a8
  else if (ipv6 (baseOf item)).isSome && 7 ≤ prefixOf item && prefixOf item ≤ 128 then
    (ipv6 (baseOf item)).any fun a => (a >>> 120) &&& 0xfe = 0xfc
  else false

/-- What is printed for an item, without the end of the line. -/
def lineOf (item : Text) : Text := baseOf item ++ '/' :: Nat.toDigits 10 (prefixOf item)

/-- The loop of `private_routes`. -/
def routesFrom (cap : Nat) : Nat → List Text → Option Text
  | _, [] => some []
  | used, item :: rest =>
      if !item.contains '/' then none
      else if !routeOk item then none
      else if (lineOf item).length + 1 ≥ cap - used then none
      else (routesFrom cap (used + ((lineOf item).length + 1)) rest).map fun text =>
        lineOf item ++ '\n' :: text

/-- The items `strtok_r` finds. -/
def items (input : Text) : List Text :=
  (input.splitOnP fun c => c = ',' || c = ' ').filter (· ≠ [])

def private_routes (input : Text) (cap : Nat) : Option Text :=
  if input.length ≥ 1024 then none
  else (routesFrom cap 0 (items input)).bind fun text => if text = [] then none else some text

/-! ### The helper -/

/-- The lines that `while read` sees: the last one only if it is ended. -/
def readLines : Text → Text → List Text
  | _, [] => []
  | line, c :: rest => if c = '\n' then line :: readLines [] rest else readLines (line ++ [c]) rest

/-- A shell pattern of `*` and literal characters. -/
def glob : Text → Text → Bool
  | [], text => text.isEmpty
  | c :: pattern, text =>
      if c = '*' then text.tails.any (glob pattern)
      else text.head? = some c && glob pattern text.tail

/-- The patterns of the second `case`. -/
def privatePatterns : List String :=
  ["10.*/*", "192.168.*/*", "172.16.*/*", "172.17.*/*", "172.18.*/*", "172.19.*/*", "172.20.*/*",
    "172.21.*/*", "172.22.*/*", "172.23.*/*", "172.24.*/*", "172.25.*/*", "172.26.*/*",
    "172.27.*/*", "172.28.*/*", "172.29.*/*", "172.30.*/*", "172.31.*/*", "fc*:*/*", "fd*:*/*"]

/-- The patterns of the third `case`. -/
def refusedPatterns : List String := ["0.0.0.0/0", "::/0", "*..*"]

def validLine (cidr : Text) : Bool :=
  cidr ≠ [] && (cidr.all fun c => isHex c || c = ':' || c = '.' || c = '/') &&
    (privatePatterns.any fun pattern => glob pattern.toList cidr) &&
    !refusedPatterns.any fun pattern => glob pattern.toList cidr

def private_routes_validate (file : Text) : Bool := (readLines [] file).all validLine

/-! ### What a line denotes -/

inductive Network
  | v4 (address length : Nat)
  | v6 (address length : Nat)
deriving DecidableEq, Repr

/-- A line of an address, a slash and a decimal number that is no longer than the address. -/
def cidrOf (line : Text) : Option Network :=
  let digits := (line.dropWhile (· ≠ '/')).drop 1
  if digits = [] ∨ digits.all Char.isDigit = false then none
  else
    match ipv4 (line.takeWhile (· ≠ '/')), ipv6 (line.takeWhile (· ≠ '/')) with
    | some address, _ =>
        if digitsValue digits ≤ 32 then some (.v4 address (digitsValue digits)) else none
    | none, some address =>
        if digitsValue digits ≤ 128 then some (.v6 address (digitsValue digits)) else none
    | none, none => none

/-- The whole range lies in 10/8, 172.16/12, 192.168/16 or fc00::/7. -/
def Network.Private : Network → Prop
  | .v4 base length => ∀ address < 2 ^ 32, Contains 32 base length address →
      Contains 32 0x0a000000 8 address ∨ Contains 32 0xac100000 12 address ∨
        Contains 32 0xc0a80000 16 address
  | .v6 base length => ∀ address < 2 ^ 128, Contains 128 base length address →
      Contains 128 (0xfc * 2 ^ 120) 7 address

/-- A 172.16/12 or 192.168/16 address comes with a prefix that is not shorter than its range's. -/
def Narrow (item : Text) : Prop :=
  ∀ base, ipv4 (baseOf item) = some base →
    (Contains 32 0xac100000 12 base → 12 ≤ prefixOf item) ∧
      (Contains 32 0xc0a80000 16 base → 16 ≤ prefixOf item)

/-! ### What an address is -/

/-- The value of digits of a base is bounded by their number. -/
theorem foldl_lt {Digit : Type} {base : Nat} {value : Digit → Nat} {digits : List Digit}
    (small : ∀ digit ∈ digits, value digit < base) (start : Nat) :
    digits.foldl (fun sum digit => sum * base + value digit) start <
      (start + 1) * base ^ digits.length := by
  induction digits generalizing start with
  | nil =>
      rw [List.foldl_nil, List.length_nil, Nat.pow_zero]
      omega
  | cons digit rest inductionHypothesis =>
      have here := small digit List.mem_cons_self
      have bound := inductionHypothesis (fun other listed => small other (List.mem_cons_of_mem _ listed))
        (start * base + value digit)
      have step : start * base + value digit + 1 ≤ (start + 1) * base := by
        rw [Nat.succ_mul]
        omega
      calc (digit :: rest).foldl (fun sum digit => sum * base + value digit) start
          < (start * base + value digit + 1) * base ^ rest.length := bound
        _ ≤ (start + 1) * base * base ^ rest.length := Nat.mul_le_mul_right _ step
        _ = (start + 1) * base ^ (digit :: rest).length := by
            rw [List.length_cons, Nat.pow_succ', Nat.mul_assoc]

/-- What is not the separator is in a part. -/
theorem mem_splitOn {separator c : Char} {text : Text} (listed : c ∈ text) (other : c ≠ separator) :
    ∃ part ∈ text.splitOn separator, c ∈ part := by
  induction text with
  | nil => cases listed
  | cons d rest inductionHypothesis =>
      rw [List.splitOn_cons_eq_if_modifyHead]
      by_cases separates : (d == separator) = true
      · rw [if_pos separates]
        rcases List.mem_cons.mp listed with rfl | later
        · exact absurd (eq_of_beq separates) other
        · obtain ⟨part, found, inPart⟩ := inductionHypothesis later
          exact ⟨part, List.mem_cons_of_mem _ found, inPart⟩
      · rw [if_neg separates]
        obtain ⟨head, tail, shape⟩ := List.exists_cons_of_ne_nil
          (List.splitOn_ne_nil separator rest)
        rw [shape] at inductionHypothesis ⊢
        rw [List.modifyHead_cons]
        rcases List.mem_cons.mp listed with rfl | later
        · exact ⟨_, List.mem_cons_self, List.mem_cons_self⟩
        · obtain ⟨part, found, inPart⟩ := inductionHypothesis later
          rcases List.mem_cons.mp found with rfl | behind
          · exact ⟨_, List.mem_cons_self, List.mem_cons_of_mem _ inPart⟩
          · exact ⟨part, List.mem_cons_of_mem _ behind, inPart⟩

theorem ipv4_spec {text : Text} {address : Nat} (found : ipv4 text = some address) :
    address < 2 ^ 32 ∧ (∀ c ∈ text, c = '.' ∨ c.isDigit = true) ∧ '.' ∈ text := by
  unfold ipv4 Config.inet_pton at found
  dsimp only at found
  by_cases formed : (text.splitOn '.').length = 4 ∧ ((text.splitOn '.').all fun digits =>
      1 ≤ digits.length && digits.length ≤ 3 && digits.all Char.isDigit &&
        (digits.length = 1 || digits.head? ≠ some '0') && digitsValue digits ≤ 255) = true
  · rw [if_pos formed, Option.map_some, Option.some.injEq] at found
    obtain ⟨four, valid⟩ := formed
    have parts := List.all_eq_true.mp valid
    refine ⟨?_, ?_, ?_⟩
    · have bound := @foldl_lt Nat 256 id ((text.splitOn '.').map digitsValue) (by
        intro value listed
        obtain ⟨part, inParts, rfl⟩ := List.mem_map.mp listed
        have checked := parts part inParts
        simp only [Bool.and_eq_true, decide_eq_true_eq] at checked
        exact Nat.lt_succ_of_le checked.2) 0
      rw [List.length_map, four] at bound
      rw [← found]
      exact bound
    · intro c listed
      by_cases dot : c = '.'
      · exact .inl dot
      · obtain ⟨part, inParts, inPart⟩ := mem_splitOn listed dot
        have checked := parts part inParts
        simp only [Bool.and_eq_true] at checked
        exact .inr (List.all_eq_true.mp checked.1.1.2 c inPart)
    · by_contra missing
      rw [List.splitOn_eq_singleton missing] at four
      cases four
  · rw [if_neg formed] at found
    cases found

theorem hexDigit_lt {c : Char} (hex : isHex c = true) : hexDigit c < 16 := by
  unfold hexDigit
  unfold isHex at hex
  by_cases digit : c.isDigit = true
  · have bounds := Char.isDigit_iff_toNat.mp digit
    rw [show '0'.toNat = 48 by rfl, show '9'.toNat = 57 by rfl] at bounds
    rw [if_pos digit, show '0'.toNat = 48 by rfl]
    omega
  · rw [if_neg digit]
    rw [Bool.eq_false_iff.mpr digit] at hex
    simp only [Bool.false_or, Bool.or_eq_true, Bool.and_eq_true, decide_eq_true_eq] at hex
    by_cases lower : 'a' ≤ c
    · rw [if_pos lower, show 'a'.toNat = 97 by rfl]
      rcases hex with letter | letter
      · have high : c.toNat ≤ 102 := letter.2
        omega
      · have high : c.toNat ≤ 70 := letter.2
        omega
    · rw [if_neg lower, show 'A'.toNat = 65 by rfl]
      rcases hex with letter | letter
      · exact absurd letter.1 lower
      · have high : c.toNat ≤ 70 := letter.2
        omega

theorem hexGroup_lt {text : Text} {value : Nat} (found : hexGroup text = some value) :
    value < 65536 := by
  unfold hexGroup at found
  split at found
  · rename_i formed
    obtain ⟨-, short, hex⟩ := formed
    have bound := @foldl_lt Char 16 hexDigit text
      (fun c listed => hexDigit_lt (List.all_eq_true.mp hex c listed)) 0
    have power : 16 ^ text.length ≤ 16 ^ 4 := Nat.pow_le_pow_right (by decide) short
    rw [Option.some.injEq] at found
    omega
  · cases found

theorem groups_lt {dotted : Bool} {parts : List Text} {values : List Nat}
    (found : groups dotted parts = some values) : ∀ value ∈ values, value < 65536 := by
  fun_induction groups dotted parts generalizing values with
  | case1 =>
      cases found
      exact nofun
  | case2 last isDotted =>
      obtain ⟨address, read, rfl⟩ := Option.map_eq_some_iff.mp found
      have bound := (ipv4_spec read).1
      intro value listed
      rcases List.mem_cons.mp listed with rfl | low
      · omega
      · rw [List.mem_singleton.mp low]
        omega
  | case3 last plain =>
      obtain ⟨group, read, rfl⟩ := Option.map_eq_some_iff.mp found
      intro value listed
      rw [List.mem_singleton.mp listed]
      exact hexGroup_lt read
  | case4 part rest more inductionHypothesis =>
      obtain ⟨group, read, onward⟩ := Option.bind_eq_some_iff.mp found
      obtain ⟨others, readRest, whole⟩ := Option.bind_eq_some_iff.mp onward
      cases whole
      intro value listed
      rcases List.mem_cons.mp listed with rfl | behind
      · exact hexGroup_lt read
      · exact inductionHypothesis readRest value behind

theorem side_lt {dotted : Bool} {text : Text} {values : List Nat}
    (found : side dotted text = some values) : ∀ value ∈ values, value < 65536 := by
  unfold side at found
  split at found
  · cases found
    exact nofun
  · exact groups_lt found

theorem allGroups_lt {text : Text} {values : List Nat} (found : allGroups text = some values) :
    ∀ value ∈ values, value < 65536 := by
  unfold allGroups at found
  split at found
  · exact groups_lt found
  · obtain ⟨left, readLeft, onward⟩ := Option.bind_eq_some_iff.mp found
    obtain ⟨right, readRight, filled⟩ := Option.bind_eq_some_iff.mp onward
    split at filled
    · cases filled
      intro value listed
      rcases List.mem_append.mp listed with early | late
      · rcases List.mem_append.mp early with before | zeros
        · exact side_lt readLeft value before
        · rw [List.eq_of_mem_replicate zeros]
          decide
      · exact side_lt readRight value late
    · cases filled

theorem ipv6_spec {text : Text} {address : Nat} (found : ipv6 text = some address) :
    address < 2 ^ 128 ∧ ∀ c ∈ text, isHex c = true ∨ c = ':' ∨ c = '.' := by
  unfold ipv6 at found
  split at found
  · rename_i plain
    obtain ⟨values, read, rfl⟩ := Option.map_eq_some_iff.mp found
    obtain ⟨grouped, eight⟩ := Option.filter_eq_some_iff.mp read
    constructor
    · have bound := @foldl_lt Nat 65536 id values (allGroups_lt grouped) 0
      rw [of_decide_eq_true eight] at bound
      exact bound
    · intro c listed
      have checked := List.all_eq_true.mp plain c listed
      simpa [or_assoc] using checked
  · cases found

/-- No text is an address of both families. -/
theorem ipv6_none {text : Text} {address : Nat} (found : ipv4 text = some address) :
    ipv6 text = none := by
  obtain ⟨-, chars, dot⟩ := ipv4_spec found
  have noColon : ':' ∉ text := by
    intro listed
    rcases chars ':' listed with same | digit
    · exact absurd same (by decide)
    · exact absurd digit (by decide)
  have single : splitDouble text = none := by
    clear found chars dot
    induction text with
    | nil => rfl
    | cons c rest inductionHypothesis =>
        have other : c ≠ ':' := fun same => noColon (same ▸ List.mem_cons_self)
        have onward := inductionHypothesis fun listed => noColon (List.mem_cons_of_mem _ listed)
        unfold splitDouble
        split
        · rename_i shape
          cases shape
          exact absurd rfl other
        · rename_i shape
          cases shape
          rw [onward, Option.map_none]
        · rfl
  have two : allGroups text = (ipv4 text).map fun value => [value / 65536, value % 65536] := by
    rw [allGroups, single, List.splitOn_eq_singleton noColon]
    exact if_pos (by simpa using dot)
  unfold ipv6
  split
  · rw [two, found]
    rfl
  · rfl

/-! ### One line -/

theorem baseOf_slash (item : Text) : '/' ∉ baseOf item := by
  intro listed
  exact absurd (List.mem_takeWhile_imp listed) (by decide)

/-- A text that is an address in one family or the other has no end of line in it. -/
theorem address_unbroken {text : Text} (found : (ipv4 text).isSome ∨ (ipv6 text).isSome) :
    '\n' ∉ text := by
  intro listed
  rcases found with four | six
  · obtain ⟨address, read⟩ := Option.isSome_iff_exists.mp four
    rcases (ipv4_spec read).2.1 _ listed with same | digit
    · exact absurd same (by decide)
    · exact absurd digit (by decide)
  · obtain ⟨address, read⟩ := Option.isSome_iff_exists.mp six
    exact absurd ((ipv6_spec read).2 _ listed) (by decide)

/-- The condition of `private_routes` in terms of blocks. -/
theorem routeOk_spec {item : Text} (ok : routeOk item = true) :
    (∃ base, ipv4 (baseOf item) = some base ∧ 8 ≤ prefixOf item ∧ prefixOf item ≤ 32 ∧
      (Contains 32 0x0a000000 8 base ∨ Contains 32 0xac100000 12 base ∨
        Contains 32 0xc0a80000 16 base)) ∨
    (∃ base, ipv4 (baseOf item) = none ∧ ipv6 (baseOf item) = some base ∧ 7 ≤ prefixOf item ∧
      prefixOf item ≤ 128 ∧ Contains 128 (0xfc * 2 ^ 120) 7 base) := by
  unfold routeOk at ok
  split at ok
  · rename_i four
    simp only [Bool.and_eq_true, decide_eq_true_eq] at four
    obtain ⟨base, read⟩ := Option.isSome_iff_exists.mp four.1.1
    rw [read, Option.any_some] at ok
    simp only [Bool.or_eq_true, decide_eq_true_eq, Nat.shiftRight_eq_div_pow] at ok
    refine .inl ⟨base, read, four.1.2, four.2, ?_⟩
    simp only [Contains, top]
    omega
  · split at ok
    · rename_i six
      simp only [Bool.and_eq_true, decide_eq_true_eq] at six
      obtain ⟨base, read⟩ := Option.isSome_iff_exists.mp six.1.1
      rw [read, Option.any_some, decide_eq_true_eq] at ok
      refine .inr ⟨base, ?_, read, six.1.2, six.2, ?_⟩
      · cases other : ipv4 (baseOf item) with
        | none => rfl
        | some address =>
            rw [ipv6_none other] at read
            cases read
      · have bound := (ipv6_spec read).1
        have byte : base >>> 120 < 256 := by
          rw [Nat.shiftRight_eq_div_pow]
          omega
        have bits : ∀ value < 256, value &&& 0xfe = 0xfc → value / 2 = 126 := by decide +kernel
        have head := bits _ byte ok
        rw [Nat.shiftRight_eq_div_pow] at head
        simp only [Contains, top]
        omega
    · cases ok

/-- What a printed line denotes. -/
theorem cidrOf_lineOf (item : Text) : cidrOf (lineOf item) =
    match ipv4 (baseOf item), ipv6 (baseOf item) with
    | some address, _ => if prefixOf item ≤ 32 then some (.v4 address (prefixOf item)) else none
    | none, some address =>
        if prefixOf item ≤ 128 then some (.v6 address (prefixOf item)) else none
    | none, none => none := by
  have stays : ∀ c ∈ baseOf item, (decide (c ≠ '/')) = true := fun c listed =>
    decide_eq_true fun same => baseOf_slash item (same ▸ listed)
  have base : (lineOf item).takeWhile (· ≠ '/') = baseOf item := by
    rw [lineOf, List.takeWhile_append_of_pos stays, List.takeWhile_cons_of_neg (by decide),
      List.append_nil]
  have digits : ((lineOf item).dropWhile (· ≠ '/')).drop 1 = Nat.toDigits 10 (prefixOf item) := by
    rw [lineOf, List.dropWhile_append_of_pos stays, List.dropWhile_cons_of_neg (by decide)]
    rfl
  have plain : ¬ (Nat.toDigits 10 (prefixOf item) = [] ∨
      (Nat.toDigits 10 (prefixOf item)).all Char.isDigit = false) := by
    rw [not_or, Bool.not_eq_false, List.all_eq_true]
    exact ⟨Nat.toDigits_ne_nil, fun _ => Decimal.isDigit_of_mem_toDigits⟩
  unfold cidrOf
  dsimp only
  rw [base, digits, if_neg plain, digitsValue_toDigits]

/-- A network in one of the ranges is private when its prefix is not shorter than the range's. -/
theorem v4_private_iff {base length range long : Nat} (base_lt : base < 2 ^ 32) (wide : 8 ≤ length)
    (length_le : length ≤ 32) (short : 8 ≤ long) (long_le : long ≤ 32)
    (inside : Contains 32 range long base)
    (alone : ∀ address, Contains 32 range 8 address →
      (Contains 32 0x0a000000 8 address ∨ Contains 32 0xac100000 12 address ∨
        Contains 32 0xc0a80000 16 address ↔ Contains 32 range long address)) :
    (Network.v4 base length).Private ↔ long ≤ length := by
  have eight : ∀ address, Contains 32 base length address → Contains 32 range 8 address :=
    fun address contains =>
      (contains.shorter wide length_le).of_base (inside.shorter short long_le)
  constructor
  · intro isPrivate
    by_contra shorter
    obtain ⟨address, small, contains, outside⟩ :=
      exists_outside (Nat.lt_of_not_le shorter) long_le base_lt
    have within := (alone address (eight address contains)).mp (isPrivate address small contains)
    exact outside (within.trans inside.symm)
  · intro longer address _ contains
    exact (alone address (eight address contains)).mpr
      ((contains.shorter longer length_le).of_base inside)

/-- An accepted item's line denotes a network, which is private exactly when the item is narrow. -/
theorem line_private_iff {item : Text} (ok : routeOk item = true) :
    (∃ network, cidrOf (lineOf item) = some network ∧ network.Private) ↔ Narrow item := by
  rw [cidrOf_lineOf]
  rcases routeOk_spec ok with ⟨base, read, wide, fits, ranges⟩ | ⟨base, other, read, wide, fits, range⟩
  · have base_lt := (ipv4_spec read).1
    have narrow : Narrow item ↔ (Contains 32 0xac100000 12 base → 12 ≤ prefixOf item) ∧
        (Contains 32 0xc0a80000 16 base → 16 ≤ prefixOf item) := by
      constructor
      · intro all
        exact all base read
      · intro one other same
        rw [read] at same
        cases same
        exact one
    have network : (∃ network, (if prefixOf item ≤ 32 then some (Network.v4 base (prefixOf item))
        else none) = some network ∧ network.Private) ↔
          (Network.v4 base (prefixOf item)).Private := by
      rw [if_pos fits]
      constructor
      · rintro ⟨network, same, isPrivate⟩
        cases same
        exact isPrivate
      · intro isPrivate
        exact ⟨_, rfl, isPrivate⟩
    rw [read]
    dsimp only
    rw [network, narrow]
    rcases ranges with ten | twelve | sixteen
    · rw [@v4_private_iff _ _ 0x0a000000 8 base_lt wide fits (by decide) (by decide) ten
        (by intro address; simp only [Contains, top]; omega)]
      simp only [Contains, top] at ten ⊢
      omega
    · rw [@v4_private_iff _ _ 0xac100000 12 base_lt wide fits (by decide) (by decide) twelve
        (by intro address; simp only [Contains, top]; omega)]
      simp only [Contains, top] at twelve ⊢
      omega
    · rw [@v4_private_iff _ _ 0xc0a80000 16 base_lt wide fits (by decide) (by decide) sixteen
        (by intro address; simp only [Contains, top]; omega)]
      simp only [Contains, top] at sixteen ⊢
      omega
  · rw [other, read]
    dsimp only
    rw [if_pos fits]
    constructor
    · intro _ base4 same
      rw [other] at same
      cases same
    · intro _
      exact ⟨_, rfl, fun address _ contains => (contains.shorter wide fits).of_base range⟩

/-! ### The list -/

theorem readLines_line {line : Text} (unbroken : '\n' ∉ line) (start rest : Text) :
    readLines start (line ++ '\n' :: rest) = (start ++ line) :: readLines [] rest := by
  induction line generalizing start with
  | nil => rw [List.nil_append, readLines, if_pos rfl, List.append_nil]
  | cons c line inductionHypothesis =>
      have other : c ≠ '\n' := fun same => unbroken (same ▸ List.mem_cons_self)
      rw [List.cons_append, readLines, if_neg other,
        inductionHypothesis fun listed => unbroken (List.mem_cons_of_mem _ listed),
        List.append_assoc, List.singleton_append]

theorem lineOf_unbroken {item : Text} (ok : routeOk item = true) : '\n' ∉ lineOf item := by
  have address : (ipv4 (baseOf item)).isSome ∨ (ipv6 (baseOf item)).isSome := by
    rcases routeOk_spec ok with ⟨base, read, -⟩ | ⟨base, -, read, -⟩
    · exact .inl (by rw [read]; rfl)
    · exact .inr (by rw [read]; rfl)
  intro listed
  rcases List.mem_append.mp listed with inBase | behind
  · exact address_unbroken address inBase
  · rcases List.mem_cons.mp behind with slash | inDigits
    · exact absurd slash (by decide)
    · exact absurd (Decimal.isDigit_of_mem_toDigits inDigits) (by decide)

/-- What is printed is one line for each item, all of which passed. -/
theorem routesFrom_lines {cap used : Nat} {list : List Text} {text : Text}
    (printed : routesFrom cap used list = some text) :
    (∀ item ∈ list, routeOk item = true) ∧ readLines [] text = list.map lineOf := by
  fun_induction routesFrom cap used list generalizing text with
  | case1 used =>
      cases printed
      exact ⟨nofun, rfl⟩
  | case2 => cases printed
  | case3 => cases printed
  | case4 => cases printed
  | case5 used item rest slash passes room inductionHypothesis =>
      obtain ⟨after, onward, rfl⟩ := Option.map_eq_some_iff.mp printed
      obtain ⟨others, lines⟩ := inductionHypothesis onward
      have ok : routeOk item = true := by simpa using passes
      constructor
      · intro other listed
        rcases List.mem_cons.mp listed with rfl | behind
        · exact ok
        · exact others other behind
      · rw [readLines_line (lineOf_unbroken ok), lines]
        rfl

/-- For every list that both checks accept, every installed line denotes a private network
exactly when every item is narrow. -/
theorem installed_private_iff_narrow (input installed : Text) (cap : Nat)
    (accepted : private_routes input cap = some installed)
    (_validated : private_routes_validate installed = true) :
    (∀ line ∈ readLines [] installed, ∃ network, cidrOf line = some network ∧ network.Private) ↔
      ∀ item ∈ items input, Narrow item := by
  unfold private_routes at accepted
  split at accepted
  · cases accepted
  · obtain ⟨text, printed, nonempty⟩ := Option.bind_eq_some_iff.mp accepted
    split at nonempty
    · cases nonempty
    · cases nonempty
      obtain ⟨ok, lines⟩ := routesFrom_lines printed
      rw [lines]
      constructor
      · intro all item listed
        exact (line_private_iff (ok item listed)).mp (all _ (List.mem_map_of_mem listed))
      · intro all line listed
        obtain ⟨item, inItems, rfl⟩ := List.mem_map.mp listed
        exact (line_private_iff (ok item inItems)).mpr (all item inItems)

theorem installed_private_iff_narrow_sample :
    (∀ line ∈ readLines [] "10.1.2.0/24\nfd00::1/64\n".toList,
      ∃ network, cidrOf line = some network ∧ network.Private) ↔
      ∀ item ∈ items "10.1.2.0/24, fd00::1/64".toList, Narrow item :=
  installed_private_iff_narrow "10.1.2.0/24, fd00::1/64".toList
    "10.1.2.0/24\nfd00::1/64\n".toList 1200 (by decide +kernel) (by decide +kernel)

/-- 172.16/12 with a shorter prefix is installed, and 172.32.0.0 is in the network. -/
theorem public_network_installed :
    private_routes "172.16.0.0/8".toList 1200 = some "172.16.0.0/8\n".toList ∧
      private_routes_validate "172.16.0.0/8\n".toList = true ∧
      cidrOf "172.16.0.0/8".toList = some (.v4 0xac100000 8) ∧
      ¬ (Network.v4 0xac100000 8).Private := by
  refine ⟨by decide +kernel, by decide +kernel, by decide +kernel, fun isPrivate => ?_⟩
  have inside := isPrivate 0xac200000 (by decide) (by unfold Contains; decide)
  simp only [Contains, top] at inside
  omega

end JooanW3U.Daemon.PrivateRoutes
