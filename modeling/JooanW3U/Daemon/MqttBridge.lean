import Mathlib.Data.Int.Notation
import Mathlib.Data.List.DropRight
import JooanW3U.Library.Runs
import JooanW3U.Media.CText

/-!
Owns the bridge's table of commands sent to the OEM application and the marker
`rtsp.synced`: how a request takes a slot and the hash of `rtsp.password`, how an
answer finds the request it is taken for, and when the marker names a secret the
application has accepted.

Does not own the broker's packets or who calls for a request.
-/

namespace JooanW3U.Daemon.MqttBridge

open JooanW3U.Library JooanW3U.Media

/-! ## The application's answers -/

/-- `strstr`: the text from the first occurrence on. -/
def strstr (needle : List Char) : List Char → Option (List Char)
  | [] => if needle = [] then some [] else none
  | c :: rest => if needle <+: c :: rest then some (c :: rest) else strstr needle rest

def isBlank (c : Char) : Bool := c = ' ' || c = '\t'

/-- The number after the first `"cmd"`, as `unsigned`; 0 when there is none. -/
def json_command : List Char → Nat
  | [] => 0
  | c :: rest =>
      if (c :: rest).length ≤ 5 then 0
      else if "\"cmd\"".toList <+: c :: rest then
        let value := ((c :: rest).drop 5).dropWhile fun c => isBlank c || c = ':'
        digitsValue (value.takeWhile Char.isDigit) % 2 ^ 32
      else json_command rest

/-- The text after the first `"field"`, blanks, a colon and blanks. -/
def fieldValue (field json : List Char) : Option (List Char) :=
  let needle := '"' :: field ++ ['"']
  match strstr needle json with
  | none => none
  | some found =>
      match (found.drop needle.length).dropWhile isBlank with
      | ':' :: rest => some (rest.dropWhile isBlank)
      | _ => none

def json_zero (json field : List Char) : Bool :=
  match fieldValue field json with
  | some ('0' :: c :: _) => c = ',' || c = '\x7d' || c = ' ' || c = '\t'
  | _ => false

def json_string_is (json field value : List Char) : Bool :=
  match fieldValue field json with
  | some ('"' :: rest) => '"' ∈ rest && rest.takeWhile (· ≠ '"') = value
  | _ => false

/-- `response[2049]` as a C string: cut, and ended by the first NUL. -/
def stored (payload : List Char) : List Char :=
  (payload.take 2048).takeWhile (· ≠ '\x00')

/-- The command that sets the application's RTSP secret. -/
def SECURITY_PASSWORD : Nat := 66517

/-- The application reports success for setting its secret. -/
def Succeeds (text : List Char) : Prop :=
  json_command text = SECURITY_PASSWORD ∧
    json_string_is (stored text) "cmd_type".toList "response".toList = true ∧
    json_zero (stored text) "status".toList = true

instance (text : List Char) : Decidable (Succeeds text) :=
  inferInstanceAs (Decidable (_ ∧ _ ∧ _))

/-! ## The table of operations -/

inductive OperationState
  | free
  | pending
  | answered
  | failed
  deriving Repr, DecidableEq

/-- A slot of `operations`, and which request filled it. -/
structure Operation (Hash : Type) where
  id : List Char
  command : Nat
  created : Int
  state : OperationState
  credential_hash : Option Hash
  response : List Char
  request : Nat
  deriving Repr, DecidableEq

def Operation.empty {Hash : Type} : Operation Hash where
  id := []
  command := 0
  created := 0
  state := .free
  credential_hash := none
  response := []
  request := 0

def OPERATIONS : Nat := 16

section Table

variable {Hash : Type}

/-- Waiting for an answer to this command, for at most 120 seconds. -/
def waits (now : Int) (command : Nat) (operation : Operation Hash) : Bool :=
  operation.state = .pending && now ≤ operation.created + 120 && operation.command = command

/-- The slot for a new operation: the first one free or expired, or else the oldest. -/
def freeSlot (now : Int) : List (Operation Hash) → Nat → Int → Nat → Nat
  | [], _, _, slot => slot
  | operation :: rest, index, oldest, slot =>
      if operation.state = .free ∨ operation.created + 120 < now then index
      else if operation.created < oldest then freeSlot now rest (index + 1) operation.created index
      else freeSlot now rest (index + 1) oldest slot

/-- Created before the candidate so far, if there is one. -/
def older (operation : Operation Hash) : Option (Nat × Operation Hash) → Bool
  | none => true
  | some (_, candidate) => operation.created < candidate.created

/-- The operation an answer is taken for: the oldest one that waits for it. -/
def best (now : Int) (command : Nat) :
    List (Operation Hash) → Nat → Option (Nat × Operation Hash) → Option (Nat × Operation Hash)
  | [], _, found => found
  | operation :: rest, index, found =>
      if waits now command operation && older operation found then
        best now command rest (index + 1) (some (index, operation))
      else best now command rest (index + 1) found

end Table

/-! ## The bridge between password changes and the application -/

/-- Where a call of `joan_mqtt_request` that took a slot stands. -/
inductive Stage
  | recorded
  | published
  | failed
  deriving Repr, DecidableEq

/-- A request: its command, the secret its payload carries and the slot it took. -/
structure Request where
  command : Nat
  secret : Option (List Char)
  slot : Nat
  stage : Stage
  deriving Repr, DecidableEq

/-- A message of the application, and the request it answers. -/
structure Answer where
  request : Option Nat
  text : List Char
  deriving Repr, DecidableEq

/-- The operations and files, every request so far and every message the
application sent; a message can be delivered at any later time. -/
structure State (Hash : Type) where
  operations : List (Operation Hash)
  subscribed : Bool
  password : Option (List Char)
  synced : Option Hash
  requests : List Request
  answers : List Answer
  deriving Repr, DecidableEq

inductive Event
  /-- `rtsp.password` is replaced or removed. -/
  | rewrite (content : Option (List Char))
  /-- `rtsp.synced` is unlinked. -/
  | unlinkMarker
  | subscribe
  /-- The client is gone, or a new one has connected. -/
  | reconnect
  /-- The daemon starts again; calls that were under way are gone. -/
  | restart
  /-- `joan_mqtt_request` up to its `joan_mqtt_bridge_publish`. -/
  | record (command : Nat) (secret : Option (List Char)) (id : List Char) (now : Int)
  | publish (request : Nat) (sent : Bool)
  | abandon (id : List Char)
  /-- The application sends a message. -/
  | answer (request : Option Nat) (text : List Char)
  | deliver (answer : Nat) (now : Int) (written : Bool)
  deriving Repr, DecidableEq

section Machine

variable {Hash : Type} (hash : List Char → Hash)

/-- `joan_read_file` with a limit of 512 bytes. -/
def readPassword (state : State Hash) : Option (List Char) :=
  state.password.filter fun content => content.length ≤ 512

def joan_mqtt_request (state : State Hash) (command : Nat) (secret : Option (List Char))
    (id : List Char) (now : Int) : State Hash :=
  if state.operations.any (waits now command) then state
  else
    let slot := freeSlot now state.operations 0 now 0
    let operation : Operation Hash :=
      { id, command, created := now, state := .pending
        credential_hash :=
          if command = SECURITY_PASSWORD then (readPassword state).map hash else none
        response := [], request := state.requests.length }
    { state with
      operations := state.operations.set slot operation
      requests := state.requests ++ [{ command, secret, slot, stage := .recorded }] }

/-- The rest of `joan_mqtt_request`: without a subscriber the operation has failed. -/
def publish (state : State Hash) (index : Nat) (request : Request) (sent : Bool) : State Hash :=
  if state.subscribed && sent then
    { state with requests := state.requests.set index { request with stage := .published } }
  else
    { state with
      operations := state.operations.modify request.slot fun operation =>
        { operation with
          state := .failed, response := "\x7b\"error\":\"mqtt unavailable\"\x7d".toList }
      requests := state.requests.set index { request with stage := .failed } }

def joan_mqtt_abandon (operations : List (Operation Hash)) (id : List Char) :
    List (Operation Hash) :=
  operations.map fun operation =>
    if operation.state = .pending ∧ operation.id = id then { operation with state := .failed }
    else operation

def correlate (state : State Hash) (payload : List Char) (now : Int) (written : Bool) :
    State Hash :=
  let command := json_command payload
  if command = 0 then state
  else
    match best now command state.operations 0 none with
    | none => state
    | some (index, operation) =>
        let heard := { operation with response := stored payload }
        if json_string_is (stored payload) "cmd_type".toList "response".toList = false then
          { state with operations := state.operations.set index heard }
        else
          { state with
            operations := state.operations.set index { heard with state := .answered }
            synced :=
              if command = SECURITY_PASSWORD ∧ operation.credential_hash.isSome ∧
                  json_zero (stored payload) "status".toList = true ∧ written = true then
                operation.credential_hash
              else state.synced }

def step (state : State Hash) : Event → Option (State Hash)
  | .rewrite content => some { state with password := content }
  | .unlinkMarker => some { state with synced := none }
  | .subscribe => some { state with subscribed := true }
  | .reconnect => some { state with subscribed := false }
  | .restart =>
      some { state with
        operations := List.replicate OPERATIONS .empty
        subscribed := false
        requests := state.requests.map fun request =>
          if request.stage = .recorded then { request with stage := .failed } else request }
  | .record command secret id now => some (joan_mqtt_request hash state command secret id now)
  | .publish index sent =>
      match state.requests[index]? with
      | none => none
      | some request =>
          if request.stage = .recorded then some (publish state index request sent) else none
  | .abandon id => some { state with operations := joan_mqtt_abandon state.operations id }
  | .answer request text =>
      match request with
      | none => some { state with answers := state.answers ++ [⟨none, text⟩] }
      | some index =>
          match state.requests[index]? with
          | none => none
          | some request =>
              if request.stage = .published then
                some { state with answers := state.answers ++ [⟨some index, text⟩] }
              else none
  | .deliver index now written =>
      match state.answers[index]? with
      | none => none
      | some answer => some (correlate state answer.text now written)

/-- The secret in the file, as the senders take it: without the line's end. -/
def trim (content : List Char) : List Char :=
  content.rdropWhile fun c => c = '\n' || c = '\r'

/-- The daemon has just started for the first time. -/
structure Start (state : State Hash) : Prop where
  operations : state.operations = List.replicate OPERATIONS .empty
  synced : state.synced = none
  requests : state.requests = []
  answers : state.answers = []

/-- The marker is the hash of a file whose secret the application has accepted: it
answered a request that carried this secret with status 0. -/
def Synchronized (state : State Hash) : Prop :=
  ∀ marker, state.synced = some marker → ∃ content index request answer,
    marker = hash content ∧ state.requests[index]? = some request ∧
      request.command = SECURITY_PASSWORD ∧ request.secret = some (trim content) ∧
      answer ∈ state.answers ∧ answer.request = some index ∧ Succeeds answer.text

/-- The answered request set the secret, and the same one as the request that waits. -/
def sameSecret (state : State Hash) (answered : Option Nat) (waiting : Nat) : Bool :=
  match answered.bind fun index => state.requests[index]?, state.requests[waiting]? with
  | some request, some own => request.command = SECURITY_PASSWORD && request.secret = own.secret
  | _, _ => false

/-- Before a step: a request carries the secret that the file holds as its hash is
taken; and a success that would be noted answers a request that carried the same
secret as the one that waits. -/
def inStep (state : State Hash) : Event → Bool
  | .record command secret _ _ =>
      command ≠ SECURITY_PASSWORD || (readPassword state).all fun content =>
        secret = some (trim content)
  | .deliver index now _ =>
      state.answers[index]?.all fun answer =>
        !decide (Succeeds answer.text) ||
          (best now SECURITY_PASSWORD state.operations 0 none).all fun hit =>
            sameSecret state answer.request hit.2.request
  | _ => true

/-! ## The marker in every run -/

/-- Every hash that waits is of the file whose secret its request carried. -/
def Recorded (state : State Hash) : Prop :=
  ∀ operation ∈ state.operations, ∀ marker, operation.credential_hash = some marker →
    ∃ content request, marker = hash content ∧
      state.requests[operation.request]? = some request ∧
        request.command = SECURITY_PASSWORD ∧ request.secret = some (trim content)

/-- Requests and answers stay, but for the stage of a request. -/
structure Extends (state next : State Hash) : Prop where
  requests : ∀ (index : Nat) (request : Request), state.requests[index]? = some request →
    ∃ same : Request, next.requests[index]? = some same ∧ same.command = request.command ∧
      same.secret = request.secret
  answers : ∀ answer ∈ state.answers, answer ∈ next.answers

variable {hash} {state next : State Hash}

theorem Extends.of_eq (requests : next.requests = state.requests)
    (answers : next.answers = state.answers) : Extends state next :=
  ⟨fun index request found => ⟨request, requests ▸ found, rfl, rfl⟩,
    fun _ member => answers ▸ member⟩

theorem Synchronized.extend (synchronized : Synchronized hash state)
    (extends_ : Extends state next) (marker : next.synced = state.synced) :
    Synchronized hash next := by
  intro noted isNoted
  obtain ⟨content, index, request, answer, isHash, found, command, secret, sent, answers,
    succeeds⟩ := synchronized noted (marker ▸ isNoted)
  obtain ⟨same, foundSame, sameCommand, sameSecret⟩ := extends_.requests index request found
  exact ⟨content, index, same, answer, isHash, foundSame, sameCommand.trans command,
    sameSecret.trans secret, extends_.answers answer sent, answers, succeeds⟩

/-- Operations that keep their hash and their request keep what was recorded. -/
theorem Recorded.extend (recorded : Recorded hash state) (extends_ : Extends state next)
    (operations : ∀ operation ∈ next.operations, operation.credential_hash = none ∨
      ∃ old ∈ state.operations, old.credential_hash = operation.credential_hash ∧
        old.request = operation.request) : Recorded hash next := by
  intro operation member marker isMarker
  cases operations operation member with
  | inl noHash => exact absurd (noHash.symm.trans isMarker) nofun
  | inr kept =>
      obtain ⟨old, wasThere, sameHash, sameRequest⟩ := kept
      obtain ⟨content, request, isHash, found, command, secret⟩ :=
        recorded old wasThere marker (sameHash.trans isMarker)
      obtain ⟨same, foundSame, sameCommand, sameSecret⟩ :=
        extends_.requests old.request request found
      exact ⟨content, same, isHash, sameRequest ▸ foundSame, sameCommand.trans command,
        sameSecret.trans secret⟩

theorem best_mem {now : Int} {command : Nat} :
    ∀ {operations : List (Operation Hash)} {index : Nat}
      {found : Option (Nat × Operation Hash)} {slot : Nat} {operation : Operation Hash},
      best now command operations index found = some (slot, operation) →
        operation ∈ operations ∨ found = some (slot, operation)
  | [], _, _, _, _, isBest => .inr isBest
  | first :: rest, index, found, slot, operation, isBest => by
      rw [best] at isBest
      by_cases better : (waits now command first && older first found) = true
      · rw [if_pos better] at isBest
        cases best_mem isBest with
        | inl inRest => exact .inl (List.mem_cons_of_mem _ inRest)
        | inr isFirst =>
            simp only [Option.some.injEq, Prod.mk.injEq] at isFirst
            exact .inl (isFirst.2 ▸ List.mem_cons_self)
      · rw [if_neg better] at isBest
        exact (best_mem isBest).imp_left (List.mem_cons_of_mem _)

theorem record_keeps {command : Nat} {secret : Option (List Char)} {id : List Char} {now : Int}
    (recorded : Recorded hash state) (synchronized : Synchronized hash state)
    (carries : inStep state (.record command secret id now) = true) :
    Recorded hash (joan_mqtt_request hash state command secret id now) ∧
      Synchronized hash (joan_mqtt_request hash state command secret id now) := by
  unfold joan_mqtt_request
  by_cases busy : state.operations.any (waits now command) = true
  · rw [if_pos busy]
    exact ⟨recorded, synchronized⟩
  · rw [if_neg busy]
    have extends_ : ∀ (operations : List (Operation Hash)) (new : Request), Extends state
        { state with operations, requests := state.requests ++ [new] } := by
      intro operations new
      refine ⟨fun index request found => ⟨request, ?_, rfl, rfl⟩, fun _ member => member⟩
      have inRange := (List.getElem?_eq_some_iff.mp found).1
      show (state.requests ++ _)[index]? = _
      rw [List.getElem?_append_left inRange, found]
    refine ⟨?_, synchronized.extend (extends_ _ _) rfl⟩
    intro operation member marker isMarker
    cases List.mem_or_eq_of_mem_set member with
    | inl before =>
        obtain ⟨content, request, isHash, found, isCommand, isSecret⟩ :=
          recorded operation before marker isMarker
        obtain ⟨same, foundSame, sameCommand, sameSecret⟩ :=
          (extends_ [] { command, secret, slot := freeSlot now state.operations 0 now 0,
                         stage := .recorded }).requests operation.request request found
        exact ⟨content, same, isHash, foundSame, sameCommand.trans isCommand,
          sameSecret.trans isSecret⟩
    | inr isNew =>
        subst isNew
        by_cases isPassword : command = SECURITY_PASSWORD
        · simp only [if_pos isPassword, Option.map_eq_some_iff] at isMarker
          obtain ⟨content, readable, isHash⟩ := isMarker
          refine ⟨content,
            { command, secret, slot := freeSlot now state.operations 0 now 0, stage := .recorded },
            isHash.symm, ?_, isPassword, ?_⟩
          · show (state.requests ++ [_])[state.requests.length]? = _
            rw [List.getElem?_append_right (Nat.le_refl _), Nat.sub_self]
            rfl
          · simpa [inStep, isPassword, readable] using carries
        · simp [isPassword] at isMarker

theorem publish_extends {index : Nat} {request : Request}
    (found : state.requests[index]? = some request) (stage : Stage)
    (operations : List (Operation Hash)) :
    Extends state
      { state with operations, requests := state.requests.set index { request with stage } } := by
  refine ⟨?_, fun _ member => member⟩
  intro other old foundOld
  by_cases same : other = index
  · subst same
    have inRange := (List.getElem?_eq_some_iff.mp found).1
    rw [found, Option.some.injEq] at foundOld
    subst foundOld
    exact ⟨{ request with stage }, List.getElem?_set_self inRange, rfl, rfl⟩
  · refine ⟨old, ?_, rfl, rfl⟩
    show (state.requests.set index _)[other]? = _
    rw [List.getElem?_set_ne (Ne.symm same), foundOld]

theorem publish_keeps {index : Nat} {request : Request} {sent : Bool}
    (found : state.requests[index]? = some request) (recorded : Recorded hash state)
    (synchronized : Synchronized hash state) :
    Recorded hash (publish state index request sent) ∧
      Synchronized hash (publish state index request sent) := by
  unfold publish
  by_cases works : (state.subscribed && sent) = true
  · rw [if_pos works]
    have extends_ := publish_extends found .published state.operations
    exact ⟨recorded.extend extends_ fun operation member => .inr ⟨operation, member, rfl, rfl⟩,
      synchronized.extend extends_ rfl⟩
  · rw [if_neg works]
    have extends_ := fun operations => publish_extends found .failed operations
    refine ⟨recorded.extend (extends_ _) ?_, synchronized.extend (extends_ _) rfl⟩
    intro operation member
    obtain ⟨place, inRange, isOperation⟩ := List.mem_iff_getElem.mp member
    rw [List.getElem_modify] at isOperation
    have inTable : place < state.operations.length := by simpa using inRange
    refine .inr ⟨state.operations[place], List.getElem_mem inTable, ?_⟩
    by_cases isSlot : request.slot = place
    · rw [if_pos isSlot] at isOperation
      exact isOperation ▸ ⟨rfl, rfl⟩
    · rw [if_neg isSlot] at isOperation
      exact isOperation ▸ ⟨rfl, rfl⟩

/-- An operation written over the one it came from keeps what was recorded. -/
theorem recorded_set {index : Nat} {operation heard : Operation Hash}
    (recorded : Recorded hash state) (member : operation ∈ state.operations)
    (sameHash : heard.credential_hash = operation.credential_hash)
    (sameRequest : heard.request = operation.request) (synced : Option Hash) :
    Recorded hash { state with operations := state.operations.set index heard, synced } := by
  refine recorded.extend (.of_eq rfl rfl) ?_
  intro other isThere
  cases List.mem_or_eq_of_mem_set isThere with
  | inl before => exact .inr ⟨other, before, rfl, rfl⟩
  | inr isHeard => exact .inr ⟨operation, member, isHeard ▸ sameHash.symm, isHeard ▸ sameRequest.symm⟩

theorem sameSecret_request {answered : Option Nat} {waiting : Nat} {own : Request}
    (same : sameSecret state answered waiting = true) (found : state.requests[waiting]? = some own) :
    ∃ index request, answered = some index ∧ state.requests[index]? = some request ∧
      request.command = SECURITY_PASSWORD ∧ request.secret = own.secret := by
  cases answered with
  | none => simp [sameSecret] at same
  | some index =>
      cases foundRequest : state.requests[index]? with
      | none => simp [sameSecret, foundRequest] at same
      | some request =>
          simp [sameSecret, foundRequest, found] at same
          exact ⟨index, request, rfl, foundRequest, same⟩

theorem deliver_keeps {index : Nat} {answer : Answer} {now : Int} {written : Bool}
    (found : state.answers[index]? = some answer) (recorded : Recorded hash state)
    (synchronized : Synchronized hash state)
    (answers : inStep state (.deliver index now written) = true) :
    Recorded hash (correlate state answer.text now written) ∧
      Synchronized hash (correlate state answer.text now written) := by
  unfold correlate
  by_cases noCommand : json_command answer.text = 0
  · simp only [if_pos noCommand]
    exact ⟨recorded, synchronized⟩
  · simp only [if_neg noCommand]
    cases isBest : best now (json_command answer.text) state.operations 0 none with
    | none => exact ⟨recorded, synchronized⟩
    | some hit =>
        obtain ⟨slot, operation⟩ := hit
        have member : operation ∈ state.operations := (best_mem isBest).resolve_right nofun
        by_cases notResponse :
            json_string_is (stored answer.text) "cmd_type".toList "response".toList = false
        · simp only [if_pos notResponse]
          refine ⟨?_, synchronized.extend (.of_eq rfl rfl) rfl⟩
          apply recorded_set recorded member
          · rfl
          · rfl
        · simp only [if_neg notResponse]
          constructor
          · apply recorded_set recorded member
            · rfl
            · rfl
          by_cases notes : json_command answer.text = SECURITY_PASSWORD ∧
              operation.credential_hash.isSome = true ∧
              json_zero (stored answer.text) "status".toList = true ∧ written = true
          · have succeeds : Succeeds answer.text :=
              ⟨notes.1, by simpa using notResponse, notes.2.2.1⟩
            rw [notes.1] at isBest
            have same : sameSecret state answer.request operation.request = true := by
              simpa [inStep, found, succeeds, isBest] using answers
            intro marker isMarker
            simp only [if_pos notes] at isMarker
            obtain ⟨content, own, isHash, foundOwn, -, secret⟩ :=
              recorded operation member marker isMarker
            obtain ⟨answered, request, isAnswered, foundRequest, isCommand, sent⟩ :=
              sameSecret_request same foundOwn
            exact ⟨content, answered, request, answer, isHash, foundRequest, isCommand,
              sent.trans secret, List.mem_of_getElem? found, isAnswered, succeeds⟩
          · refine @Synchronized.extend _ _ state _ synchronized (.of_eq rfl rfl) ?_
            simp only [if_neg notes]

/-- A step that is in step keeps the marker that of an accepted secret. -/
theorem step_keeps {event : Event} (recorded : Recorded hash state)
    (synchronized : Synchronized hash state) (guarded : inStep state event = true)
    (stepped : step hash state event = some next) :
    Recorded hash next ∧ Synchronized hash next := by
  cases event with
  | rewrite | subscribe | reconnect =>
      rw [← Option.some.inj stepped]
      exact ⟨recorded, synchronized⟩
  | unlinkMarker =>
      rw [← Option.some.inj stepped]
      exact ⟨recorded, nofun⟩
  | restart =>
      rw [← Option.some.inj stepped]
      have extends_ : ∀ operations subscribed, Extends state
          { state with
            operations, subscribed
            requests := state.requests.map fun request =>
              if request.stage = .recorded then { request with stage := .failed } else request } := by
        intro operations subscribed
        refine ⟨?_, fun _ member => member⟩
        intro index request found
        refine ⟨_, by rw [List.getElem?_map, found]; rfl, ?_⟩
        by_cases waiting : request.stage = .recorded
        · simp [waiting]
        · simp [waiting]
      refine ⟨?_, synchronized.extend (extends_ _ _) rfl⟩
      intro operation member marker isMarker
      rw [List.eq_of_mem_replicate member] at isMarker
      exact absurd isMarker nofun
  | record command secret id now =>
      rw [← Option.some.inj stepped]
      exact record_keeps recorded synchronized guarded
  | publish index sent =>
      simp only [step] at stepped
      cases found : state.requests[index]? with
      | none => simp [found] at stepped
      | some request =>
          simp only [found] at stepped
          by_cases waiting : request.stage = .recorded
          · rw [if_pos waiting] at stepped
            rw [← Option.some.inj stepped]
            exact publish_keeps found recorded synchronized
          · simp [waiting] at stepped
  | abandon id =>
      rw [← Option.some.inj stepped]
      refine ⟨recorded.extend (.of_eq rfl rfl) ?_, synchronized⟩
      intro operation member
      obtain ⟨old, wasThere, isNow⟩ := List.mem_map.mp member
      refine .inr ⟨old, wasThere, ?_⟩
      by_cases given : old.state = .pending ∧ old.id = id
      · rw [if_pos given] at isNow
        exact isNow ▸ ⟨rfl, rfl⟩
      · rw [if_neg given] at isNow
        exact isNow ▸ ⟨rfl, rfl⟩
  | answer request text =>
      have sends : ∀ sent : Answer, Extends state { state with answers := state.answers ++ [sent] } :=
        fun sent => ⟨fun _ request found => ⟨request, found, rfl, rfl⟩,
          fun _ member => List.mem_append_left _ member⟩
      have kept : ∀ sent : Answer, some { state with answers := state.answers ++ [sent] } = some next →
          Recorded hash next ∧ Synchronized hash next := by
        intro sent isNext
        rw [← Option.some.inj isNext]
        exact ⟨recorded.extend (sends sent) fun operation member =>
          .inr ⟨operation, member, rfl, rfl⟩, synchronized.extend (sends sent) rfl⟩
      cases request with
      | none => exact kept _ stepped
      | some index =>
          simp only [step] at stepped
          cases found : state.requests[index]? with
          | none => simp [found] at stepped
          | some request =>
              simp only [found] at stepped
              by_cases published : request.stage = .published
              · rw [if_pos published] at stepped
                exact kept _ stepped
              · simp [published] at stepped
  | deliver index now written =>
      simp only [step] at stepped
      cases found : state.answers[index]? with
      | none => simp [found] at stepped
      | some answer =>
          simp only [found, Option.some.injEq] at stepped
          exact stepped ▸ deliver_keeps found recorded synchronized guarded

/-- In every run in step, the marker is the hash of a file whose secret the
application has accepted. -/
theorem marker_names_accepted_secret {start final : State Hash} {events : List Event}
    (fresh : Start start)
    (ran : runs (fun state event =>
      if inStep state event = true then step hash state event else none) start events = some final) :
    Synchronized hash final := by
  have started : Recorded hash start ∧ Synchronized hash start := by
    refine ⟨?_, ?_⟩
    · intro operation member marker isMarker
      rw [fresh.operations] at member
      rw [List.eq_of_mem_replicate member] at isMarker
      exact absurd isMarker nofun
    · intro marker isMarker
      rw [fresh.synced] at isMarker
      exact absurd isMarker nofun
  have kept : ∀ (state : State Hash) (event : Event) (next : State Hash),
      Recorded hash state ∧ Synchronized hash state →
        step hash state event = some next ∧ inStep state event = true →
          Recorded hash next ∧ Synchronized hash next :=
    fun _ _ _ both stepped => step_keeps both.1 both.2 stepped.2 stepped.1
  exact ((run_of_guarded ran).preserves kept started).2

end Machine

/-! ## An answer that comes late -/

section Example

private def idle : State (List Char) where
  operations := List.replicate OPERATIONS .empty
  subscribed := false
  password := some "aa\n".toList
  synced := none
  requests := []
  answers := []

private def success : List Char :=
  "\x7b\"cmd\":66517,\"cmd_type\":\"response\",\"status\":0\x7d".toList

private theorem idle_start : Start idle := ⟨rfl, rfl, rfl, rfl⟩

private def asked : List Event :=
  [.subscribe, .record SECURITY_PASSWORD (some "aa".toList) ['1'] 0, .publish 0 true]

/-- The application accepts the secret it was sent, and the marker says so. -/
theorem marker_names_accepted_secret_once : ∃ final : State (List Char),
    final.synced = some "aa\n".toList ∧ Synchronized id final := by
  have ran : (runs (fun state event => if inStep state event = true then step id state event else none)
      idle (asked ++ [.answer (some 0) success, .deliver 0 1 true])).map State.synced =
        some (some "aa\n".toList) := by
    decide +kernel
  obtain ⟨final, ran, marked⟩ := Option.map_eq_some_iff.mp ran
  exact ⟨final, marked, marker_names_accepted_secret idle_start ran⟩

/-- The first request's answer arrives after it has expired, while a newer request
with another secret waits: the marker names the secret nobody has accepted. -/
theorem late_answer_marks_newer_secret : ∃ (events : List Event) (final : State (List Char)),
    runs (step id) idle events = some final ∧ ¬ Synchronized id final := by
  have ran : (runs (step id) idle (asked ++
      [.answer (some 0) success, .rewrite (some "bb\n".toList), .unlinkMarker,
        .record SECURITY_PASSWORD (some "bb".toList) ['2'] 130, .publish 1 true,
        .deliver 0 131 true])).map (fun final => (final.synced, final.requests, final.answers)) =
      some (some "bb\n".toList, [⟨SECURITY_PASSWORD, some "aa".toList, 0, .published⟩,
        ⟨SECURITY_PASSWORD, some "bb".toList, 0, .published⟩], [⟨some 0, success⟩]) := by
    decide +kernel
  obtain ⟨final, ran, ends⟩ := Option.map_eq_some_iff.mp ran
  simp only [Prod.mk.injEq] at ends
  obtain ⟨marked, requests, answers⟩ := ends
  refine ⟨_, final, ran, ?_⟩
  intro synchronized
  obtain ⟨content, index, request, answer, isHash, found, -, secret, sent, isAnswered, -⟩ :=
    synchronized _ marked
  have isContent : content = "bb\n".toList := isHash.symm
  rw [answers, List.mem_singleton] at sent
  rw [sent] at isAnswered
  rw [← Option.some.inj isAnswered, requests] at found
  rw [← Option.some.inj found, isContent] at secret
  exact absurd secret (by decide)

end Example

end JooanW3U.Daemon.MqttBridge
