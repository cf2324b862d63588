import JooanW3U.Library.Base64
import JooanW3U.Library.Runs
import JooanW3U.Library.Sha1
import JooanW3U.Media.CreatedTime
import JooanW3U.Media.OnvifXml
import Mathlib.Data.List.Nodup

/-!
Owns WS-Security authorization: the UsernameToken checks of
`jipc_onvif_authorize`, its ring of used nonces, and what runs of it accept.

The mbedTLS digest and base64 functions are parameters. Times are whole seconds
of `time(NULL)`.

Does not own the SOAP actions that follow an accepted token.
-/

namespace JooanW3U.Media.OnvifAuth

open JooanW3U.Media
open JooanW3U.Media.OnvifXml
open JooanW3U.Library

abbrev Bytes := List UInt8

/-- The mbedTLS functions behind `jipc_sha1`, `jipc_base64` and
`jipc_base64_decode`; the last two take the capacity of their output. -/
structure Crypto where
  sha1 : Bytes → Bytes
  base64 : Bytes → Nat → Option (List Char)
  base64Decode : List Char → Nat → Option Bytes

/-- The functions as standardised; an encoding also needs room for its NUL. -/
def Crypto.standard : Crypto where
  sha1 := Sha1.sha1
  base64 bytes capacity :=
    if (Base64.encode bytes).length < capacity then some (Base64.encode bytes) else none
  base64Decode text capacity := (Base64.decode text).filter fun bytes => bytes.length ≤ capacity

/-- The stream account of the configuration. -/
structure Account where
  username : List Char
  password : List Char
deriving Repr, DecidableEq

/-- The fields `jipc_onvif_authorize` reads from a UsernameToken. -/
structure UsernameToken where
  user : List Char
  pass : List Char
  nonce : List Char
  created : List Char
  type : List Char
deriving Repr, DecidableEq

def passwordDigest : List Char :=
  ("http://docs.oasis-open.org/wss/2004/01/oasis-200401-wss-username-token-profile-1.0" ++
    "#PasswordDigest").toList

def bytesOf (text : List Char) : Bytes := text.map fun c => UInt8.ofNat c.toNat

/-- The token of a request body, when it carries one that fits the buffers. -/
def usernameToken (body : List Char) : Option UsernameToken := do
  let d ← parseXml body
  let header ← d.header
  let security ← child d (some header) "Security"
  let token ← child d (some security) "UsernameToken"
  let p := child d (some token) "Password"
  let user ← textValue d (some token) "Username" 64
  let pass ← textValue d (some token) "Password" 128
  let nonce ← textValue d (some token) "Nonce" 256
  let created ← textValue d (some token) "Created" 64
  let type ← attrValue d p "Type" 256
  return ⟨user, pass, nonce, created, type⟩

/-! ### The credential check -/

/-- One call of the check: the clock it reads, the configured account and the
token offered. -/
structure TokenCheck where
  now : Int
  account : Account
  token : UsernameToken
deriving Repr, DecidableEq

/-- Nonce bytes and Created second of a token that passes every check made
before the nonce ring is consulted. -/
def credentials (crypto : Crypto) (check : TokenCheck) : Option (Bytes × Int) := do
  if check.token.type ≠ passwordDigest then none
  if check.now = -1 then none
  let stamp ← createdTime check.token.created
  if stamp < check.now - 300 || stamp > check.now + 300 then none
  let raw ← crypto.base64Decode check.token.nonce 192
  if raw.length < 16 || raw.length > 192 then none
  let input := raw ++ bytesOf check.token.created ++ bytesOf check.account.password
  let expected ← crypto.base64 (crypto.sha1 input) 64
  if check.token.user = check.account.username && check.token.pass = expected then
    some (raw, stamp)
  else none

/-- An accepted stamp lies within 300 seconds of the clock. -/
theorem credentials_window {crypto : Crypto} {check : TokenCheck} {raw : Bytes} {stamp : Int}
    (valid : credentials crypto check = some (raw, stamp)) :
    check.now - 300 ≤ stamp ∧ stamp ≤ check.now + 300 := by
  unfold credentials at valid
  split at valid
  · simp at valid
  split at valid
  · simp at valid
  obtain ⟨read, -, valid⟩ := Option.bind_eq_some_iff.mp valid
  split at valid
  · simp at valid
  rename_i window
  obtain ⟨bytes, -, valid⟩ := Option.bind_eq_some_iff.mp valid
  split at valid
  · simp at valid
  obtain ⟨expected, -, valid⟩ := Option.bind_eq_some_iff.mp valid
  split at valid
  · have same : stamp = read := by simpa using (congrArg (Option.map Prod.snd) valid).symm
    simp only [Bool.or_eq_true, decide_eq_true_eq, not_or, Int.not_lt] at window
    omega
  · simp at valid

/-- A token of the account whose parts all decode passes. -/
theorem credentials_of_parts {crypto : Crypto} {check : TokenCheck} {raw : Bytes} {stamp : Int}
    {expected : List Char} (type : check.token.type = passwordDigest) (known : check.now ≠ -1)
    (stamped : createdTime check.token.created = some stamp)
    (low : check.now - 300 ≤ stamp) (high : stamp ≤ check.now + 300)
    (decoded : crypto.base64Decode check.token.nonce 192 = some raw)
    (long : 16 ≤ raw.length) (short : raw.length ≤ 192)
    (encoded : crypto.base64 (crypto.sha1
      (raw ++ bytesOf check.token.created ++ bytesOf check.account.password)) 64 = some expected)
    (user : check.token.user = check.account.username) (pass : check.token.pass = expected) :
    credentials crypto check = some (raw, stamp) := by
  have window : ¬ (stamp < check.now - 300 ∨ stamp > check.now + 300) := by omega
  have size : ¬ (raw.length < 16 ∨ raw.length > 192) := by omega
  simp only [credentials, type, known, stamped, decoded, encoded, user, pass, window, size,
    Option.bind_eq_bind, Option.bind_some, Bool.or_eq_true, decide_eq_true_eq, ne_eq,
    not_true_eq_false, if_false, decide_true, Bool.and_self, if_true]

/-! ### The nonce ring -/

structure NonceEntry where
  nonceHash : Bytes
  expires : Int
  created : Int
deriving Repr, DecidableEq

/-- `nonces`, `nonce_next` and `nonce_floor`. -/
@[ext]
structure NonceTable where
  nonces : Vector NonceEntry 1024
  next : Fin 1024
  floor : Int

/-- A slot of the zeroed static array. -/
def blankEntry : NonceEntry := ⟨List.replicate 20 0, 0, 0⟩

def NonceTable.initial : NonceTable := ⟨Vector.replicate 1024 blankEntry, 0, 0⟩

/-- The floor a check works with: one ahead of the clock is pulled back. -/
def NonceTable.steppedFloor (table : NonceTable) (now : Int) : Int :=
  if table.floor > now then now - 1 else table.floor

/-- A live entry of the ring has this hash. -/
def NonceTable.seen (table : NonceTable) (now : Int) (hash : Bytes) : Bool :=
  table.nonces.toList.any fun e => e.expires ≥ now && e.nonceHash = hash

/-- Write the slot at `next`; a live token pushed out raises the floor. -/
def NonceTable.store (table : NonceTable) (now stamp : Int) (hash : Bytes) : NonceTable :=
  let floor := table.steppedFloor now
  let slot := table.nonces[table.next]
  { nonces := table.nonces.set table.next ⟨hash, stamp + 301, stamp⟩
    next := table.next + 1
    floor := if slot.expires ≥ now ∧ slot.created > floor then slot.created else floor }

/-- The locked part of `jipc_onvif_authorize`: whether the token is fresh, and
the ring afterwards. -/
def NonceTable.consult (table : NonceTable) (now stamp : Int) (hash : Bytes) : Bool × NonceTable :=
  let floor := table.steppedFloor now
  if stamp ≤ floor then (false, { table with floor := floor })
  else if table.seen now hash then (false, { table with floor := floor })
  else (true, table.store now stamp hash)

/-- `jipc_onvif_authorize` after its token has been read from the body. -/
def authorizeToken (crypto : Crypto) (check : TokenCheck) (table : NonceTable) :
    Bool × NonceTable :=
  match credentials crypto check with
  | some (raw, stamp) => table.consult check.now stamp (crypto.sha1 raw)
  | none => (false, table)

/-- `jipc_onvif_authorize`. -/
def authorize (crypto : Crypto) (account : Account) (now : Int) (body : List Char)
    (table : NonceTable) : Bool × NonceTable :=
  match usernameToken body with
  | some token => authorizeToken crypto ⟨now, account, token⟩ table
  | none => (false, table)

/-! ### Runs of checks -/

/-- The ring with the last clock reading and the tokens accepted so far, newest
first, each as its nonce bytes and Created second. -/
structure ReplayState where
  table : NonceTable
  clock : Int
  accepted : List (Bytes × Int)

def ReplayState.initial (clock : Int) : ReplayState := ⟨NonceTable.initial, clock, []⟩

/-- The state after a check. -/
def ReplayState.after (crypto : Crypto) (state : ReplayState) (check : TokenCheck) :
    ReplayState :=
  let result := authorizeToken crypto check state.table
  { table := result.2
    clock := check.now
    accepted :=
      if result.1 then (credentials crypto check).toList ++ state.accepted else state.accepted }

/-- A check at a clock reading that did not step back. -/
def ReplayStep (crypto : Crypto) (state : ReplayState) (check : TokenCheck)
    (next : ReplayState) : Prop :=
  state.clock ≤ check.now ∧ next = state.after crypto check

/-- A check that does not find the floor ahead of its clock. -/
def FloorBehind (state : ReplayState) (check : TokenCheck) : Prop :=
  state.table.floor ≤ check.now

/-- An accepted token is refused from now on: its entry is in the ring, the
floor has reached its stamp, or its window has passed. -/
def Remembered (crypto : Crypto) (state : ReplayState) (key : Bytes × Int) : Prop :=
  ⟨crypto.sha1 key.1, key.2 + 301, key.2⟩ ∈ state.table.nonces ∨
    key.2 ≤ state.table.floor ∨ key.2 + 300 < state.clock

structure ReplayInvariant (crypto : Crypto) (state : ReplayState) : Prop where
  remembered : ∀ key ∈ state.accepted, Remembered crypto state key
  once : state.accepted.Nodup

theorem initial_invariant (crypto : Crypto) (clock : Int) :
    ReplayInvariant crypto (.initial clock) where
  remembered := by simp [ReplayState.initial]
  once := by simp [ReplayState.initial]

theorem NonceTable.steppedFloor_behind {table : NonceTable} {now : Int}
    (behind : table.floor ≤ now) : table.steppedFloor now = table.floor :=
  if_neg (Int.not_lt.mpr behind)

theorem NonceTable.consult_fresh {table : NonceTable} {now stamp : Int} {hash : Bytes}
    (above : table.steppedFloor now < stamp) (unseen : table.seen now hash = false) :
    table.consult now stamp hash = (true, table.store now stamp hash) := by
  rw [NonceTable.consult, if_neg (Int.not_le.mpr above), unseen]
  rfl

/-- After a store, a hash that neither the new entry nor another slot has is unseen. -/
theorem NonceTable.store_unseen {table : NonceTable} {now stamp : Int} {hash other : Bytes}
    (differs : hash ≠ other)
    (elsewhere : ∀ slot : Fin 1024, slot ≠ table.next → table.nonces[slot].nonceHash ≠ other) :
    (table.store now stamp hash).seen now other = false := by
  rw [NonceTable.seen, List.any_eq_false]
  intro found member
  obtain ⟨slot, inside, rfl⟩ := Vector.mem_iff_getElem.mp (Vector.mem_toList_iff.mp member)
  have hashes : (table.store now stamp hash).nonces[slot].nonceHash ≠ other := by
    dsimp only [NonceTable.store]
    rw [Vector.getElem_set]
    split
    · exact differs
    · rename_i kept
      exact elsewhere ⟨slot, inside⟩ fun same => kept (congrArg Fin.val same).symm
  simp [hashes]

/-- What a check does: refuse, or store a token above the floor that no live
entry of the ring has. -/
theorem authorizeToken_cases (crypto : Crypto) (check : TokenCheck) (table : NonceTable)
    (behind : table.floor ≤ check.now) :
    authorizeToken crypto check table = (false, table) ∨
      ∃ raw stamp, credentials crypto check = some (raw, stamp) ∧ table.floor < stamp ∧
        table.seen check.now (crypto.sha1 raw) = false ∧
        authorizeToken crypto check table =
          (true, table.store check.now stamp (crypto.sha1 raw)) := by
  have kept := NonceTable.steppedFloor_behind behind
  unfold authorizeToken
  cases valid : credentials crypto check with
  | none => exact .inl rfl
  | some key =>
      obtain ⟨raw, stamp⟩ := key
      by_cases low : stamp ≤ table.floor
      · exact .inl (by simp [NonceTable.consult, kept, low])
      · cases found : table.seen check.now (crypto.sha1 raw) with
        | true => exact .inl (by simp [NonceTable.consult, kept, found])
        | false =>
            have above : table.floor < stamp := Int.not_le.mp low
            exact .inr ⟨raw, stamp, rfl, above, found, NonceTable.consult_fresh (kept ▸ above) found⟩

theorem replayStep_accept {crypto : Crypto} {state : ReplayState} {check : TokenCheck}
    {raw : Bytes} {stamp : Int} (later : state.clock ≤ check.now)
    (valid : credentials crypto check = some (raw, stamp))
    (above : state.table.steppedFloor check.now < stamp)
    (unseen : state.table.seen check.now (crypto.sha1 raw) = false) :
    ReplayStep crypto state check
      ⟨state.table.store check.now stamp (crypto.sha1 raw), check.now,
        (raw, stamp) :: state.accepted⟩ := by
  have accepted : authorizeToken crypto check state.table =
      (true, state.table.store check.now stamp (crypto.sha1 raw)) := by
    rw [authorizeToken, valid]
    exact NonceTable.consult_fresh above unseen
  refine ⟨later, ?_⟩
  rw [ReplayState.after, accepted, valid]
  rfl

/-- A remembered token is not fresh at a later check. -/
theorem remembered_refused {crypto : Crypto} {state : ReplayState} {check : TokenCheck}
    {raw : Bytes} {stamp : Int} (later : state.clock ≤ check.now)
    (valid : credentials crypto check = some (raw, stamp))
    (above : state.table.floor < stamp)
    (fresh : state.table.seen check.now (crypto.sha1 raw) = false) :
    ¬ Remembered crypto state (raw, stamp) := by
  have window := credentials_window valid
  rintro (inRing | low | expired)
  · have live : state.table.seen check.now (crypto.sha1 raw) = true := by
      simp only [NonceTable.seen, List.any_eq_true]
      refine ⟨_, Vector.mem_toList_iff.mpr inRing, ?_⟩
      simp only [ge_iff_le, decide_true, Bool.and_true, decide_eq_true_eq]
      omega
    rw [live] at fresh
    cases fresh
  · exact absurd low (Int.not_le.mpr above)
  · dsimp only at expired
    omega

/-- Storing a token forgets no other: the entry it drops was expired, or the new
floor covers it. -/
theorem remembered_store {crypto : Crypto} {state : ReplayState} {now stamp : Int} {hash : Bytes}
    {key : Bytes × Int} (log : List (Bytes × Int)) (before : Remembered crypto state key)
    (later : state.clock ≤ now) (behind : state.table.floor ≤ now) :
    Remembered crypto ⟨state.table.store now stamp hash, now, log⟩ key := by
  have kept := NonceTable.steppedFloor_behind behind
  have floor : (state.table.store now stamp hash).floor =
      if state.table.nonces[state.table.next].expires ≥ now ∧
          state.table.nonces[state.table.next].created > state.table.floor then
        state.table.nonces[state.table.next].created
      else state.table.floor := by
    rw [NonceTable.store, kept]
  have rises : state.table.floor ≤ (state.table.store now stamp hash).floor := by
    rw [floor]
    split
    · omega
    · exact Int.le_refl _
  rcases before with inRing | low | expired
  · obtain ⟨index, inside, found⟩ := Vector.mem_iff_getElem.mp inRing
    by_cases evicted : index = state.table.next.val
    · subst evicted
      have slot : state.table.nonces[state.table.next] =
          ⟨crypto.sha1 key.1, key.2 + 301, key.2⟩ := found
      rw [slot] at floor
      by_cases live : key.2 + 301 ≥ now
      · refine .inr (.inl ?_)
        by_cases above : key.2 > state.table.floor
        · exact Int.le_of_eq (floor.trans (if_pos ⟨live, above⟩)).symm
        · exact Int.le_trans (Int.not_lt.mp above) rises
      · exact .inr (.inr (by dsimp only; omega))
    · refine .inl (Vector.mem_iff_getElem.mpr ⟨index, inside, ?_⟩)
      dsimp only [NonceTable.store]
      rw [Vector.getElem_set_ne _ _ (Ne.symm evicted)]
      exact found
  · exact .inr (.inl (Int.le_trans low rises))
  · exact .inr (.inr (Int.lt_of_lt_of_le expired later))

/-- One check keeps the invariant. -/
theorem replayStep_keeps_invariant (crypto : Crypto) (state : ReplayState) (check : TokenCheck)
    (next : ReplayState) (invariant : ReplayInvariant crypto state)
    (step : FloorBehind state check ∧ ReplayStep crypto state check next) :
    ReplayInvariant crypto next := by
  obtain ⟨behind, later, rfl⟩ := step
  rcases authorizeToken_cases crypto check state.table behind with
    refused | ⟨raw, stamp, valid, above, fresh, accepted⟩
  · have same : state.after crypto check = { state with clock := check.now } := by
      simp [ReplayState.after, refused]
    rw [same]
    refine ⟨fun key member => ?_, invariant.once⟩
    rcases invariant.remembered key member with inRing | low | expired
    · exact .inl inRing
    · exact .inr (.inl low)
    · exact .inr (.inr (Int.lt_of_lt_of_le expired later))
  · have stored : state.after crypto check =
        ⟨state.table.store check.now stamp (crypto.sha1 raw), check.now,
          (raw, stamp) :: state.accepted⟩ := by
      simp [ReplayState.after, accepted, valid]
    rw [stored]
    refine ⟨fun key member => ?_, ?_⟩
    · rcases List.mem_cons.mp member with rfl | old
      · refine .inl (Vector.mem_iff_getElem.mpr ?_)
        exact ⟨state.table.next, state.table.next.isLt, Vector.getElem_set_self _⟩
      · exact remembered_store _ (invariant.remembered key old) later behind
    · refine List.nodup_cons.mpr ⟨fun member => ?_, invariant.once⟩
      exact remembered_refused later valid above fresh (invariant.remembered _ member)

/-! ### A floor ahead of the clock

A token stamped 300 seconds ahead is accepted, 1024 further tokens push it out of
the ring within those seconds, and it is offered again. -/

namespace FloorAhead

/-- 2024-01-01T00:00:00Z. -/
def epoch : Int := 1704067200

def twoDigits (n : Nat) : List Char :=
  [Char.ofNat (48 + n / 10 % 10), Char.ofNat (48 + n % 10)]

def created (offset : Nat) : List Char :=
  "2024-01-01T00:".toList ++ twoDigits (offset / 60) ++ ':' :: twoDigits (offset % 60) ++ ['Z']

def raw (nonce : Nat) : Bytes := List.replicate 15 0 ++ [UInt8.ofNat nonce]

def account : Account := ⟨"admin".toList, "secret".toList⟩

def digest (nonce offset : Nat) : Bytes :=
  Sha1.sha1 (raw nonce ++ bytesOf (created offset) ++ bytesOf account.password)

def token (nonce offset : Nat) : UsernameToken where
  user := account.username
  pass := Base64.encode (digest nonce offset)
  nonce := Base64.encode (raw nonce)
  created := created offset
  type := passwordDigest

/-- Offset of the `index`th stamp from `epoch`; the first is the one ahead. -/
def offset (index : Nat) : Nat := if index = 0 then 600 else 2 * (index / 8)

/-- Eight nonces serve in turn: two seconds on, their old entries have expired. -/
def nonce (index : Nat) : Nat := if index = 0 then 8 else index % 8

def clock (index : Nat) : Int := epoch + 300 + 2 * (index / 8 : Nat)

def stamp (index : Nat) : Int := epoch + offset index

def check (index : Nat) : TokenCheck := ⟨clock index, account, token (nonce index) (offset index)⟩

def key (index : Nat) : Bytes × Int := (raw (nonce index), stamp index)

def entry (index : Nat) : NonceEntry :=
  ⟨Sha1.sha1 (raw (nonce index)), stamp index + 301, stamp index⟩

theorem created_stamp : ∀ k ∈ 300 :: List.range 129,
    createdTime (created (2 * k)) = some (epoch + (2 * k : Nat)) := by
  decide +kernel

theorem nonce_text : ∀ n < 9, Base64.decode (Base64.encode (raw n)) = some (raw n) := by
  decide +kernel

theorem nonce_hash : ((List.range 9).map fun n => Sha1.sha1 (raw n)).Nodup := by
  decide +kernel

theorem nonce_lt (index : Nat) : nonce index < 9 := by
  unfold nonce
  split <;> omega

theorem stamp_window (index : Nat) :
    clock index - 300 ≤ stamp index ∧ stamp index ≤ clock index + 300 := by
  unfold clock stamp offset
  split <;> omega

theorem hash_ne {left right : Nat} (differ : nonce left ≠ nonce right) :
    Sha1.sha1 (raw (nonce left)) ≠ Sha1.sha1 (raw (nonce right)) := by
  intro same
  have injective := List.inj_on_of_nodup_map nonce_hash
  exact differ (injective (List.mem_range.mpr (nonce_lt left))
    (List.mem_range.mpr (nonce_lt right)) same)

/-- A token passes the checks before the ring at any clock within its window. -/
theorem credentials_token (index : Nat) (now : Int) (known : now ≠ -1)
    (low : now - 300 ≤ stamp index) (high : stamp index ≤ now + 300) (bound : index ≤ 1024) :
    credentials .standard ⟨now, account, token (nonce index) (offset index)⟩ =
      some (key index) := by
  have stamped : createdTime (created (offset index)) = some (stamp index) := by
    have even : offset index = 2 * (offset index / 2) := by
      unfold offset
      split <;> omega
    have listed : offset index / 2 ∈ 300 :: List.range 129 := by
      rw [List.mem_cons, List.mem_range]
      unfold offset
      split <;> omega
    rw [stamp, even]
    exact created_stamp _ listed
  have length : (raw (nonce index)).length = 16 := by
    rw [raw, List.length_append, List.length_replicate, List.length_singleton]
  have decoded : Crypto.standard.base64Decode (Base64.encode (raw (nonce index))) 192 =
      some (raw (nonce index)) := by
    simp only [Crypto.standard, nonce_text _ (nonce_lt index), Option.filter_some, length]
    rfl
  have encoded : Crypto.standard.base64 (digest (nonce index) (offset index)) 64 =
      some (Base64.encode (digest (nonce index) (offset index))) := by
    have fits : (Base64.encode (digest (nonce index) (offset index))).length < 64 := by
      rw [Base64.encode_length, digest, Sha1.sha1_length]
      omega
    simp only [Crypto.standard, fits, if_true]
  exact credentials_of_parts rfl known stamped low high decoded (by omega) (by omega) encoded rfl rfl

/-- The ring after the first `count` tokens, while none has been pushed out. -/
def filled (count : Nat) : NonceTable where
  nonces := Vector.ofFn fun slot => if slot.val < count then entry slot else blankEntry
  next := Fin.ofNat 1024 count
  floor := 0

theorem filled_zero : filled 0 = NonceTable.initial := by
  apply NonceTable.ext
  · apply Vector.ext
    intro index inside
    simp [filled, NonceTable.initial]
  · rfl
  · rfl

/-- No live entry of the filled ring has the nonce of the next token. -/
theorem filled_unseen (count : Nat) (bound : count ≤ 1024) :
    (filled count).seen (clock count) (Sha1.sha1 (raw (nonce count))) = false := by
  rw [NonceTable.seen, List.any_eq_false]
  intro found member
  obtain ⟨slot, inside, rfl⟩ := Vector.mem_iff_getElem.mp (Vector.mem_toList_iff.mp member)
  simp only [filled, Vector.getElem_ofFn, Bool.and_eq_true, decide_eq_true_eq, not_and]
  intro live
  split at live
  · rename_i earlier
    rw [if_pos earlier]
    apply hash_ne
    unfold entry stamp offset clock at live
    unfold nonce
    split at live <;> simp only at live <;> split <;> split <;> omega
  · simp only [blankEntry, clock, epoch] at live
    omega

theorem filled_steppedFloor (count : Nat) : (filled count).steppedFloor (clock count) = 0 := by
  apply NonceTable.steppedFloor_behind
  simp only [filled, clock, epoch]
  omega

theorem store_filled (count : Nat) (bound : count < 1024) :
    (filled count).store (clock count) (stamp count) (Sha1.sha1 (raw (nonce count))) =
      filled (count + 1) := by
  have slot : (filled count).nonces[(filled count).next] = blankEntry := by
    simp [filled, Fin.ofNat, Nat.mod_eq_of_lt bound]
  refine NonceTable.ext ?_ ?_ ?_
  · apply Vector.ext
    intro index inside
    dsimp only [NonceTable.store]
    rw [Vector.getElem_set]
    simp only [filled, Fin.ofNat, Nat.mod_eq_of_lt bound, Vector.getElem_ofFn]
    by_cases written : count = index
    · rw [if_pos written, if_pos (by omega), written]
      rfl
    · rw [if_neg written]
      split <;> split <;> first | rfl | omega
  · apply Fin.ext
    simp [NonceTable.store, filled, Fin.ofNat, Fin.val_add]
  · dsimp only [NonceTable.store]
    rw [slot, filled_steppedFloor]
    apply if_neg
    rintro ⟨-, ahead⟩
    exact Int.lt_irrefl 0 ahead

/-- Each check finds its token fresh in the ring the earlier ones filled. -/
theorem step_filled (count : Nat) (bound : count ≤ 1024) {last : Int} (log : List (Bytes × Int))
    (later : last ≤ clock count) :
    ReplayStep .standard ⟨filled count, last, log⟩ (check count)
      ⟨(filled count).store (clock count) (stamp count) (Sha1.sha1 (raw (nonce count))),
        clock count, key count :: log⟩ := by
  have window := stamp_window count
  have known : clock count ≠ -1 := by
    unfold clock epoch
    omega
  have above : (filled count).steppedFloor (clock count) < stamp count := by
    rw [filled_steppedFloor]
    unfold stamp epoch
    omega
  exact replayStep_accept later (credentials_token count _ known window.1 window.2 bound) above
    (filled_unseen count bound)

/-- The first `count` checks are all accepted. -/
theorem run_filled (count : Nat) (bound : count ≤ 1024) :
    ∃ log last, Run (ReplayStep .standard) (.initial (clock 0))
        ((List.range count).map check) ⟨filled count, last, log⟩ ∧
      last ≤ clock count ∧ (0 < count → key 0 ∈ log) := by
  induction count with
  | zero =>
      refine ⟨[], clock 0, ?_, Int.le_refl _, fun positive => absurd positive (Nat.lt_irrefl 0)⟩
      rw [filled_zero]
      exact .nil _
  | succ count inductionHypothesis =>
      obtain ⟨log, last, run, later, member⟩ := inductionHypothesis (by omega)
      have step := step_filled count (by omega) log later
      rw [store_filled count (by omega)] at step
      refine ⟨key count :: log, clock count, ?_, by unfold clock; omega, fun _ => ?_⟩
      · rw [List.range_succ, List.map_append]
        exact run.append (.singleton step)
      · cases count with
        | zero => exact List.mem_cons_self
        | succ previous => exact List.mem_cons_of_mem _ (member (Nat.succ_pos previous))

/-- The token that pushes out the first one leaves the floor ahead of the clock. -/
theorem store_full_floor (hash : Bytes) :
    ((filled 1024).store (clock 1024) (stamp 1024) hash).floor = stamp 0 := by
  have slot : (filled 1024).nonces[(filled 1024).next] = entry 0 := by
    simp [filled]
  dsimp only [NonceTable.store]
  rw [slot, filled_steppedFloor]
  exact if_pos (by decide)

theorem store_full_unseen :
    ((filled 1024).store (clock 1024) (stamp 1024) (Sha1.sha1 (raw (nonce 1024)))).seen
      (clock 1024) (Sha1.sha1 (raw (nonce 0))) = false := by
  apply NonceTable.store_unseen (hash_ne (by decide))
  intro slot other
  have positive : slot.val ≠ 0 := fun zero => other (Fin.ext zero)
  simp only [filled, Fin.getElem_fin, Vector.getElem_ofFn, slot.isLt, if_true]
  apply hash_ne
  unfold nonce
  rw [if_neg positive, if_pos rfl]
  omega

/-- From the ring so left, the first token is accepted at the same clock. -/
theorem step_again (full : NonceTable) (floor : full.floor = stamp 0)
    (unseen : full.seen (clock 1024) (Sha1.sha1 (raw (nonce 0))) = false)
    (log : List (Bytes × Int)) :
    ∃ table, ReplayStep .standard ⟨full, clock 1024, log⟩
      ⟨clock 1024, account, token (nonce 0) (offset 0)⟩ ⟨table, clock 1024, key 0 :: log⟩ := by
  have valid : credentials .standard ⟨clock 1024, account, token (nonce 0) (offset 0)⟩ =
      some (key 0) :=
    credentials_token 0 (clock 1024) (by decide) (by decide) (by decide) (by decide)
  have above : full.steppedFloor (clock 1024) < stamp 0 := by
    rw [NonceTable.steppedFloor, floor]
    decide
  exact ⟨_, replayStep_accept (Int.le_refl _) valid above unseen⟩

/-- A run with a nondecreasing clock that accepts its first token twice. -/
theorem token_accepted_twice :
    ∃ final, Run (ReplayStep .standard) (.initial (clock 0))
        ((List.range 1024).map check ++
          [check 1024, ⟨clock 1024, account, token (nonce 0) (offset 0)⟩]) final ∧
      ¬ final.accepted.Nodup := by
  obtain ⟨log, last, run, later, member⟩ := run_filled 1024 (Nat.le_refl _)
  have pushed := step_filled 1024 (Nat.le_refl _) log later
  obtain ⟨table, again⟩ :=
    step_again _ (store_full_floor _) store_full_unseen (key 1024 :: log)
  refine ⟨_, run.append (.cons pushed (.singleton again)), ?_⟩
  intro once
  exact (List.nodup_cons.mp once).1 (List.mem_cons_of_mem _ (member (by decide)))

end FloorAhead

/-! ### A floor behind the clock -/

/-- In a run whose checks never find the floor ahead of the clock, no token is
accepted twice. -/
theorem accepted_once (crypto : Crypto) (clock : Int) (checks : List TokenCheck)
    (final : ReplayState)
    (run : Run (fun state check next => FloorBehind state check ∧ ReplayStep crypto state check next)
      (.initial clock) checks final) :
    final.accepted.Nodup :=
  (run.preserves (replayStep_keeps_invariant crypto) (initial_invariant crypto clock)).once

/-- The first token of `FloorAhead`, offered twice while it is in the ring. -/
theorem accepted_once_resent :
    (((ReplayState.initial (FloorAhead.clock 0)).after .standard (FloorAhead.check 0)).after
      .standard (FloorAhead.check 0)).accepted.Nodup := by
  have step := FloorAhead.step_filled 0 (by decide) [] (Int.le_refl (FloorAhead.clock 0))
  rw [FloorAhead.filled_zero] at step
  have first : (ReplayState.initial (FloorAhead.clock 0)).after .standard (FloorAhead.check 0) =
      ⟨_, FloorAhead.clock 0, [FloorAhead.key 0]⟩ := step.2.symm
  have start : FloorBehind (.initial (FloorAhead.clock 0)) (FloorAhead.check 0) :=
    (by decide : (0 : Int) ≤ FloorAhead.clock 0)
  have behind : FloorBehind
      ((ReplayState.initial (FloorAhead.clock 0)).after .standard (FloorAhead.check 0))
      (FloorAhead.check 0) := by
    rw [first, ← FloorAhead.filled_zero, FloorAhead.store_filled 0 (by decide)]
    exact (by decide : (0 : Int) ≤ FloorAhead.clock 0)
  exact accepted_once .standard (FloorAhead.clock 0) [FloorAhead.check 0, FloorAhead.check 0] _
    (.cons ⟨start, Int.le_refl _, rfl⟩ (.singleton ⟨behind, Int.le_refl _, rfl⟩))

end JooanW3U.Media.OnvifAuth
