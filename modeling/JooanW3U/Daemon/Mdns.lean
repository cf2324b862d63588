import Mathlib.Data.List.TakeWhile
import JooanW3U.Library.DnsMessage

/-!
Owns the mDNS names and packets of the daemon: which host labels `valid_label` takes, the
announcement that `build_discovery` writes, and the question that `decode_question` reads.

Does not own the sockets, nor whom the daemon answers.
-/

namespace JooanW3U.Daemon.Mdns

open JooanW3U.Library
open JooanW3U.Library.RtpH264 (Bytes bytes16 bytes32 forall_byte)
open JooanW3U.Library.DnsMessage

/-- A text of the source. -/
def ascii (text : String) : Bytes := text.toList.map fun c => UInt8.ofNat c.toNat

def DOT : UInt8 := 46
def HYPHEN : UInt8 := 45

/-! ## Host labels -/

/-- `tolower` and `isalnum` of the C locale. -/
def tolower (c : UInt8) : UInt8 := if 65 ≤ c.toNat ∧ c.toNat ≤ 90 then c + 32 else c

def isalnum (c : UInt8) : Bool :=
  (48 ≤ c.toNat && c.toNat ≤ 57) || (65 ≤ c.toNat && c.toNat ≤ 90) ||
    (97 ≤ c.toNat && c.toNat ≤ 122)

def valid_label : Option Bytes → Option Bytes
  | none => none
  | some input =>
      let n :=
        if 6 < input.length ∧ (input.drop (input.length - 6)).map tolower = ascii ".local" then
          input.length - 6
        else input.length
      if n = 0 ∨ 63 < n ∨ input.head? = some HYPHEN ∨ (input.take n).getLast? = some HYPHEN then none
      else if (input.take n).all fun c => isalnum c || c = HYPHEN then
        some ((input.take n).map tolower)
      else none

/-! ## Writing a packet -/

/-- The loop of `dns_name`, with fuel, behind what is written already. -/
def writeLabels (cap : Nat) : Nat → Bytes → Bytes → Option Bytes
  | 0, _, _ => none
  | fuel + 1, out, s =>
      if s = [] then some out
      else
        let label := s.takeWhile (· ≠ DOT)
        if label = [] ∨ 63 < label.length ∨ cap ≤ out.length + label.length + 1 then none
        else
          let out := out ++ UInt8.ofNat label.length :: label
          match s.drop label.length with
          | [] => some out
          | _ :: s => writeLabels cap fuel out s

def dns_name (cap : Nat) (out name : Bytes) : Option Bytes :=
  match writeLabels cap (name.length + 1) out name with
  | none => none
  | some out => if cap ≤ out.length then none else some (out ++ [0])

/-- The record up to its data, and where its length will stand. -/
def rr_head (cap : Nat) (out name : Bytes) (type : UInt16) (ttl : UInt32) : Option (Bytes × Nat) :=
  match dns_name cap out name with
  | none => none
  | some out =>
      if cap < out.length + 10 then none
      else
        let out := out ++ (bytes16 type ++ [if type = 12 then 0 else 0x80, 1] ++ bytes32 ttl)
        some (out ++ [0, 0], out.length)

def rr_end (out : Bytes) (rdlen : Nat) : Bytes :=
  let n := out.length - rdlen - 2
  (out.set rdlen (UInt8.ofNat (n / 256))).set (rdlen + 1) (UInt8.ofNat n)

structure Service where
  service : Bytes
  port : UInt16
  txt : Bytes
  deriving Repr, DecidableEq

def svc : List Service :=
  [⟨ascii "_http._tcp.local", 80, ascii "path=/"⟩,
    ⟨ascii "_ssh._tcp.local", 22, ascii "auth=password"⟩,
    ⟨ascii "_jooan-camera._tcp.local", 80, ascii "model=JA-A12"⟩]

/-- The loop's turn for one service. -/
def writeService (cap : Nat) (label host : Bytes) (ttl : UInt32) (out : Bytes) (s : Service) :
    Option Bytes := do
  let name := (label ++ DOT :: s.service).take 159
  let (out, rd) ← rr_head cap out s.service 12 ttl
  let out ← dns_name cap out name
  let (out, rd) ← rr_head cap (rr_end out rd) name 33 ttl
  if cap < out.length + 6 then none
  else
    let out ← dns_name cap (out ++ ([0, 0, 0, 0] ++ bytes16 s.port)) host
    let (out, rd) ← rr_head cap (rr_end out rd) name 16 ttl
    if cap < out.length + s.txt.length + 1 then none
    else some (rr_end (out ++ UInt8.ofNat s.txt.length :: s.txt) rd)

structure InAddr where
  a : UInt8
  b : UInt8
  c : UInt8
  d : UInt8
  deriving Repr, DecidableEq

def build_discovery (cap : Nat) (label : Bytes) (address : InAddr) (ttl : UInt32) :
    Option Bytes := do
  let count := 1 + svc.length * 3
  let out := [0, 0, 0x84, 0, 0, 0, UInt8.ofNat (count / 256), UInt8.ofNat count, 0, 0, 0, 0]
  let host := (label ++ ascii ".local").take 79
  let (out, rd) ← rr_head cap out host 1 ttl
  if cap < out.length + 4 then none
  else
    let out := rr_end (out ++ [address.a, address.b, address.c, address.d]) rd
    svc.foldlM (writeService cap label host ttl) out

/-! ## Reading a question -/

/-- What `decode_question` comes to: refused, a name, a read outside the packet, or no end. -/
inductive Decoded
  | refused
  | name (text : Bytes)
  | outside
  | endless
  deriving Repr, DecidableEq

/-- The loop of `decode_question`, with fuel, at `p` behind the `text` so far. -/
def decodeLabels (packet : Bytes) (cap : Nat) : Nat → Nat → Bytes → Decoded
  | 0, _, _ => .endless
  | fuel + 1, p, text =>
      if packet.length ≤ p then .refused
      else
        match packet[p]? with
        | none => .outside
        | some len =>
            if len = 0 then if packet.length < p + 5 then .refused else .name text
            else if len &&& 0xc0 ≠ 0 ∨ packet.length < p + 1 + len.toNat ∨
                cap < text.length + len.toNat + 2 then .refused
            else
              match (List.range len.toNat).mapM fun i => packet[p + 1 + i]? with
              | none => .outside
              | some label =>
                  decodeLabels packet cap fuel (p + 1 + len.toNat)
                    ((if text = [] then [] else text ++ [DOT]) ++ label.map tolower)

def decode_question (packet : Bytes) (cap : Nat) : Decoded :=
  if packet.length < 17 then .refused
  else decodeLabels packet cap packet.length 12 []

/-! ## What is announced -/

/-- A name with dots between its labels. -/
def dotted : List Bytes → Bytes
  | [] => []
  | [label] => label
  | label :: labels => label ++ DOT :: dotted labels

/-- The labels of a service's own name. -/
def Service.labels (s : Service) : List Bytes :=
  [s.service.takeWhile (· ≠ DOT), ascii "_tcp", ascii "local"]

def hostName (label : Bytes) : List Bytes := [label, ascii "local"]

/-- The records of one service. -/
def Service.records (s : Service) (label : Bytes) (ttl : UInt32) : List Record :=
  [⟨s.labels, 1, ttl, .pointer (label :: s.labels)⟩,
    ⟨label :: s.labels, 0x8001, ttl, .service 0 0 s.port (hostName label)⟩,
    ⟨label :: s.labels, 0x8001, ttl, .text [s.txt]⟩]

/-- The camera's address, and its services at this host. -/
def announcement (label : Bytes) (address : InAddr) (ttl : UInt32) : Message where
  id := 0
  flags := 0x8400
  questions := []
  answers :=
    ⟨hostName label, 0x8001, ttl, .address address.a address.b address.c address.d⟩ ::
      svc.flatMap fun s => s.records label ttl
  authority := []
  additional := []

/-! ### Names -/

def Dotless (labels : List Bytes) : Prop := ∀ label ∈ labels, DOT ∉ label

instance (labels : List Bytes) : Decidable (Dotless labels) :=
  inferInstanceAs (Decidable (∀ label ∈ labels, DOT ∉ label))

theorem Dotless.tail {label : Bytes} {labels : List Bytes} (dotless : Dotless (label :: labels)) :
    Dotless labels := fun other listed => dotless other (List.mem_cons_of_mem _ listed)

theorem dotted_cons {labels : List Bytes} (more : labels ≠ []) (label : Bytes) :
    dotted (label :: labels) = label ++ DOT :: dotted labels := by
  cases labels with
  | nil => exact absurd rfl more
  | cons next labels => rfl

theorem takeWhile_label {label : Bytes} (dotless : DOT ∉ label) (rest : Bytes) :
    (label ++ DOT :: rest).takeWhile (· ≠ DOT) = label := by
  have plain : ∀ c ∈ label, decide (c ≠ DOT) = true := by
    intro c listed
    have other : c ≠ DOT := fun same => dotless (same ▸ listed)
    exact decide_eq_true other
  rw [List.takeWhile_append_of_pos plain]
  simp

theorem takeWhile_last {label : Bytes} (dotless : DOT ∉ label) :
    label.takeWhile (· ≠ DOT) = label := by
  apply List.takeWhile_eq_self_iff.mpr
  intro c listed
  have other : c ≠ DOT := fun same => dotless (same ▸ listed)
  exact decide_eq_true other

theorem length_encodeName (label : Bytes) (labels : List Bytes) :
    (encodeName (label :: labels)).length = 1 + label.length + (encodeName labels).length := by
  rw [encodeName_cons, List.length_cons, List.length_append]
  omega

/-- A turn of the loop writes a label. -/
theorem writeLabels_label {cap fuel : Nat} {out label s : Bytes} (dotless : DOT ∉ label)
    (size : 0 < label.length ∧ label.length ≤ 63) (fits : out.length + label.length + 1 < cap)
    (first : s = label ∨ ∃ rest, s = label ++ DOT :: rest) :
    writeLabels cap (fuel + 1) out s =
      match s.drop label.length with
      | [] => some (out ++ UInt8.ofNat label.length :: label)
      | _ :: rest => writeLabels cap fuel (out ++ UInt8.ofNat label.length :: label) rest := by
  have some_label : label ≠ [] := List.ne_nil_of_length_pos size.1
  have taken : s.takeWhile (· ≠ DOT) = label := by
    rcases first with rfl | ⟨rest, rfl⟩
    · exact takeWhile_last dotless
    · exact takeWhile_label dotless rest
  have some_text : s ≠ [] := by
    intro empty
    rw [empty] at taken
    exact some_label taken.symm
  have written : ¬(label = [] ∨ 63 < label.length ∨ cap ≤ out.length + label.length + 1) := by
    rintro (empty | long | full)
    · exact some_label empty
    · omega
    · omega
  simp only [writeLabels, if_neg some_text, taken, if_neg written]

theorem writeLabels_eq {cap : Nat} {labels : List Bytes} (valid : Labels labels)
    (dotless : Dotless labels) {fuel : Nat} (enough : labels.length < fuel) {out : Bytes}
    (fits : out.length + (encodeName labels).length ≤ cap) :
    writeLabels cap fuel out (dotted labels) = some (out ++ encodeLabels labels) := by
  induction labels generalizing fuel out with
  | nil =>
      cases fuel with
      | zero => exact absurd enough (Nat.not_lt_zero _)
      | succ fuel => simp [writeLabels, dotted, encodeLabels]
  | cons label labels inductionHypothesis =>
      have size := valid label List.mem_cons_self
      have plain := dotless label List.mem_cons_self
      have terminated : 0 < (encodeName labels).length := Nat.zero_lt_of_lt
        (length_le_encodeName labels)
      rw [length_encodeName] at fits
      have room : out.length + label.length + 1 < cap := by omega
      cases fuel with
      | zero => exact absurd enough (Nat.not_lt_zero _)
      | succ fuel =>
          by_cases more : labels = []
          · have turn := @writeLabels_label cap fuel out label label plain size room (Or.inl rfl)
            rw [List.drop_length] at turn
            rw [more, dotted, turn]
            simp [encodeLabels]
          · have turn := @writeLabels_label cap fuel out label _ plain size room
              (Or.inr ⟨dotted labels, rfl⟩)
            have behind : (out ++ UInt8.ofNat label.length :: label).length +
                (encodeName labels).length ≤ cap := by
              rw [List.length_append, List.length_cons]
              omega
            rw [List.drop_left] at turn
            rw [dotted_cons more, turn, encodeLabels_cons]
            simp only [inductionHypothesis valid.tail dotless.tail
              (Nat.lt_of_succ_lt_succ enough) behind, List.append_assoc, List.cons_append]

theorem length_le_dotted {labels : List Bytes} (valid : Labels labels) :
    labels.length ≤ (dotted labels).length := by
  induction labels with
  | nil => exact Nat.le_refl 0
  | cons label labels inductionHypothesis =>
      have size := valid label List.mem_cons_self
      by_cases more : labels = []
      · rw [more]
        exact size.1
      · have later := inductionHypothesis valid.tail
        rw [dotted_cons more, List.length_append, List.length_cons, List.length_cons]
        omega

theorem dns_name_eq {cap : Nat} {labels : List Bytes} (valid : Labels labels)
    (dotless : Dotless labels) {out : Bytes}
    (fits : out.length + (encodeName labels).length ≤ cap) :
    dns_name cap out (dotted labels) = some (out ++ encodeName labels) := by
  have room : ¬cap ≤ (out ++ encodeLabels labels).length := by
    rw [encodeName, List.length_append, List.length_singleton] at fits
    rw [List.length_append]
    omega
  simp only [dns_name, writeLabels_eq valid dotless (Nat.lt_succ_of_le (length_le_dotted valid)) fits,
    if_neg room, List.append_assoc, encodeName]

/-! ### Records -/

/-- A record up to its length. -/
def head (record : Record) : Bytes :=
  encodeName record.name ++
    (bytes16 record.data.type ++ bytes16 record.recordClass ++ bytes32 record.ttl)

theorem length_head (record : Record) :
    (head record).length = (encodeName record.name).length + 8 := by
  simp [head, bytes16, bytes32]

theorem length_record (record : Record) :
    record.bytes.length = (encodeName record.name).length + 10 + record.data.bytes.length := by
  simp [Record.bytes, bytes16, bytes32]
  omega

/-- What `rr_head` writes as the class. -/
def Classed (record : Record) : Prop :=
  bytes16 record.recordClass = [if record.data.type = 12 then 0 else 0x80, 1]

theorem rr_head_eq {cap : Nat} {record : Record} (valid : Labels record.name)
    (dotless : Dotless record.name) (classed : Classed record) {out : Bytes}
    (fits : out.length + (encodeName record.name).length + 10 ≤ cap) :
    rr_head cap out (dotted record.name) record.data.type record.ttl =
      some (out ++ head record ++ [0, 0], (out ++ head record).length) := by
  have room : ¬cap < (out ++ encodeName record.name).length + 10 := by
    rw [List.length_append]
    omega
  have named : dns_name cap out (dotted record.name) = some (out ++ encodeName record.name) :=
    dns_name_eq valid dotless (by omega)
  have written : bytes16 record.recordClass = [if record.data.type = 12 then 0 else 0x80, 1] :=
    classed
  simp only [rr_head, named, if_neg room, written, head, List.append_assoc]

/-- The patched length is that of what was written behind it. -/
theorem rr_end_eq (first : Bytes) {data : Bytes} (short : data.length < 65536) :
    rr_end (first ++ [0, 0] ++ data) first.length =
      first ++ (bytes16 (UInt16.ofNat data.length) ++ data) := by
  have behind : (first ++ [0, 0] ++ data).length - first.length - 2 = data.length := by
    simp only [List.length_append, List.length_cons, List.length_nil]
    omega
  have size : (UInt16.ofNat data.length).toNat = data.length := by
    rw [UInt16.toNat_ofNat']
    exact Nat.mod_eq_of_lt short
  have second : first.length + 1 - first.length = 1 := Nat.add_sub_cancel_left _ 1
  rw [rr_end, behind, List.append_assoc, List.set_append_right _ _ (Nat.le_refl _),
    List.set_append_right _ _ (Nat.le_succ _), Nat.sub_self, second, bytes16, size]
  rfl

theorem written_record (out : Bytes) {record : Record} (short : record.data.bytes.length < 65536) :
    rr_end (out ++ head record ++ [0, 0] ++ record.data.bytes) (out ++ head record).length =
      out ++ record.bytes := by
  rw [rr_end_eq _ short, head, Record.bytes]
  simp only [List.append_assoc]

/-! ### The announcement -/

/-- A label as `valid_label` gives it. -/
structure HostLabel (label : Bytes) : Prop where
  size : 0 < label.length ∧ label.length ≤ 63
  dotless : DOT ∉ label

theorem tolower_dotless (c : UInt8) : (isalnum c || decide (c = HYPHEN)) = true → tolower c ≠ DOT :=
  @forall_byte (fun c => (isalnum c || decide (c = HYPHEN)) = true → tolower c ≠ DOT)
    (by decide +kernel) c

theorem valid_label_host {input : Option Bytes} {label : Bytes}
    (valid : valid_label input = some label) : HostLabel label := by
  cases input with
  | none => contradiction
  | some input =>
      simp only [valid_label] at valid
      generalize size : (if 6 < input.length ∧
        (input.drop (input.length - 6)).map tolower = ascii ".local" then input.length - 6
          else input.length) = n at valid
      have inside : n ≤ input.length := by
        rw [← size]
        split <;> omega
      split at valid
      · contradiction
      · next bounds =>
          split at valid
          · next formed =>
              have same : (input.take n).map tolower = label := Option.some.inj valid
              have length : label.length = n := by
                rw [← same, List.length_map, List.length_take_of_le inside]
              refine ⟨by omega, ?_⟩
              rw [← same]
              intro listed
              obtain ⟨c, member, lowered⟩ := List.mem_map.mp listed
              exact tolower_dotless c (List.all_eq_true.mp formed c member) lowered
          · contradiction

/-- A service whose names fit the buffers they are written into. -/
structure Service.Fit (s : Service) : Prop where
  spelled : dotted s.labels = s.service
  labels : Labels s.labels
  dotless : Dotless s.labels
  named : s.labels ≠ []
  short : s.service.length ≤ 63
  sized : (encodeName s.labels).length ≤ 64
  txt : s.txt.length ≤ 255 ∧ s.txt ≠ []

theorem svc_fit : ∀ s ∈ svc, s.Fit := by
  intro s listed
  simp only [svc, List.mem_cons, List.not_mem_nil, or_false] at listed
  rcases listed with rfl | rfl | rfl <;>
    exact ⟨by decide, by decide, by decide, by decide, by decide, by decide, by decide⟩

section Written

variable {cap : Nat} {label : Bytes} {ttl : UInt32} {out : Bytes}

theorem HostLabel.labels (host : HostLabel label) {labels : List Bytes} (valid : Labels labels) :
    Labels (label :: labels) := by
  intro other listed
  rcases List.mem_cons.mp listed with rfl | later
  · exact host.size
  · exact valid other later

theorem HostLabel.dotlessAll (host : HostLabel label) {labels : List Bytes}
    (dotless : Dotless labels) : Dotless (label :: labels) := by
  intro other listed
  rcases List.mem_cons.mp listed with rfl | later
  · exact host.dotless
  · exact dotless other later

theorem local_labels : Labels [ascii "local"] ∧ Dotless [ascii "local"] := by decide

theorem length_hostName (label : Bytes) : (encodeName (hostName label)).length = label.length + 8 := by
  rw [hostName, length_encodeName, show (encodeName [ascii "local"]).length = 7 by decide]
  omega

/-- The record that points from a service to the camera's. -/
def pointerRecord (s : Service) (label : Bytes) (ttl : UInt32) : Record :=
  ⟨s.labels, 1, ttl, .pointer (label :: s.labels)⟩

def serviceRecord (s : Service) (label : Bytes) (ttl : UInt32) : Record :=
  ⟨label :: s.labels, 0x8001, ttl, .service 0 0 s.port (hostName label)⟩

def textRecord (s : Service) (label : Bytes) (ttl : UInt32) : Record :=
  ⟨label :: s.labels, 0x8001, ttl, .text [s.txt]⟩

theorem records_bytes (s : Service) (label : Bytes) (ttl : UInt32) :
    (s.records label ttl).flatMap Record.bytes =
      (pointerRecord s label ttl).bytes ++ ((serviceRecord s label ttl).bytes ++
        (textRecord s label ttl).bytes) := by
  simp [Service.records, pointerRecord, serviceRecord, textRecord]

theorem pointerRecord_classed (s : Service) : Classed (pointerRecord s label ttl) := by
  have written : bytes16 1 = [if (12 : UInt16) = 12 then 0 else 0x80, 1] := by decide
  exact written

theorem serviceRecord_classed (s : Service) : Classed (serviceRecord s label ttl) := by
  have written : bytes16 0x8001 = [if (33 : UInt16) = 12 then 0 else 0x80, 1] := by decide
  exact written

theorem textRecord_classed (s : Service) : Classed (textRecord s label ttl) := by
  have written : bytes16 0x8001 = [if (16 : UInt16) = 12 then 0 else 0x80, 1] := by decide
  exact written

/-- A record whose data is written behind `rr_head` is there whole. -/
theorem rr_written {record : Record} (valid : Labels record.name) (dotless : Dotless record.name)
    (classed : Classed record) (short : record.data.bytes.length < 65536)
    (room : out.length + record.bytes.length ≤ cap) :
    ∃ first rd, rr_head cap out (dotted record.name) record.data.type record.ttl = some (first, rd) ∧
      first.length + record.data.bytes.length ≤ cap ∧
        rr_end (first ++ record.data.bytes) rd = out ++ record.bytes := by
  have size := length_record record
  have headSize := length_head record
  refine ⟨_, _, rr_head_eq valid dotless classed (by omega), ?_, written_record out short⟩
  rw [List.length_append, List.length_append, headSize, List.length_cons, List.length_singleton]
  omega

/-- What the loop writes for a service are its records. -/
theorem writeService_eq (host : HostLabel label) {s : Service} (fit : s.Fit)
    (room : out.length + ((s.records label ttl).flatMap Record.bytes).length ≤ cap) :
    writeService cap label (label ++ ascii ".local") ttl out s =
      some (out ++ (s.records label ttl).flatMap Record.bytes) := by
  have labels := host.labels fit.labels
  have dotless := host.dotlessAll fit.dotless
  have hostLabels : Labels (hostName label) := host.labels local_labels.1
  have hostDotless : Dotless (hostName label) := host.dotlessAll local_labels.2
  have instanceSize := length_encodeName label s.labels
  have hostSize := length_hostName label
  have serviceSize := fit.sized
  have size := host.size
  have txtSize := fit.txt.1
  have named : (label ++ DOT :: s.service).take 159 = dotted (label :: s.labels) := by
    have bound := fit.short
    rw [dotted_cons fit.named, fit.spelled]
    apply List.take_of_length_le
    rw [List.length_append, List.length_cons]
    omega
  have hosted : label ++ ascii ".local" = dotted (hostName label) := rfl
  have pointerData : (pointerRecord s label ttl).data.bytes = encodeName (label :: s.labels) := rfl
  have serviceData : (serviceRecord s label ttl).data.bytes =
      [0, 0, 0, 0] ++ bytes16 s.port ++ encodeName (hostName label) := rfl
  have textData : (textRecord s label ttl).data.bytes = UInt8.ofNat s.txt.length :: s.txt := by
    simp [textRecord, Data.bytes, encodeLabels]
  rw [records_bytes, List.length_append, List.length_append] at room
  obtain ⟨first, firstMark, opened, fits, closed⟩ :=
    @rr_written cap out (pointerRecord s label ttl) fit.labels fit.dotless (pointerRecord_classed s)
      (by rw [pointerData]; omega) (by omega)
  obtain ⟨second, secondMark, opened', fits', closed'⟩ :=
    @rr_written cap (out ++ (pointerRecord s label ttl).bytes) (serviceRecord s label ttl) labels
      dotless (serviceRecord_classed s)
      (by rw [serviceData, List.length_append, List.length_append, bytes16]; simp; omega)
      (by rw [List.length_append]; omega)
  obtain ⟨third, thirdMark, opened'', fits'', closed''⟩ :=
    @rr_written cap (out ++ (pointerRecord s label ttl).bytes ++ (serviceRecord s label ttl).bytes)
      (textRecord s label ttl) labels dotless (textRecord_classed s)
      (by rw [textData, List.length_cons]; omega)
      (by rw [List.length_append, List.length_append]; omega)
  rw [pointerData] at fits closed
  rw [serviceData] at fits' closed'
  rw [textData] at fits'' closed''
  have heading : rr_head cap out s.service 12 ttl = some (first, firstMark) := by
    rw [← fit.spelled]
    exact opened
  have heading' : rr_head cap (out ++ (pointerRecord s label ttl).bytes)
      (dotted (label :: s.labels)) 33 ttl = some (second, secondMark) := opened'
  have heading'' : rr_head cap (out ++ (pointerRecord s label ttl).bytes ++
      (serviceRecord s label ttl).bytes) (dotted (label :: s.labels)) 16 ttl =
        some (third, thirdMark) := opened''
  have pointed : dns_name cap first (dotted (label :: s.labels)) =
      some (first ++ encodeName (label :: s.labels)) := dns_name_eq labels dotless fits
  have numbers : ([0, 0, 0, 0] ++ bytes16 s.port).length = 6 := by
    simp [bytes16]
  have served : dns_name cap (second ++ ([0, 0, 0, 0] ++ bytes16 s.port))
      (dotted (hostName label)) =
        some (second ++ ([0, 0, 0, 0] ++ bytes16 s.port) ++ encodeName (hostName label)) := by
    apply dns_name_eq hostLabels hostDotless
    rw [List.length_append, numbers] at fits' ⊢
    omega
  have numbersFit : ¬cap < second.length + 6 := by
    rw [List.length_append, numbers] at fits'
    omega
  have textFits : ¬cap < third.length + s.txt.length + 1 := by
    rw [List.length_cons] at fits''
    omega
  rw [← List.append_assoc] at closed'
  simp only [writeService, named, hosted, heading, Option.bind_eq_bind, Option.bind_some, pointed,
    closed, heading', if_neg numbersFit, served, closed', heading'', if_neg textFits, closed'']
  rw [records_bytes, List.append_assoc, List.append_assoc]

theorem writeServices_eq (host : HostLabel label) {services : List Service}
    (fit : ∀ s ∈ services, s.Fit)
    (room : out.length +
      ((services.flatMap fun s => s.records label ttl).flatMap Record.bytes).length ≤ cap) :
    services.foldlM (writeService cap label (label ++ ascii ".local") ttl) out =
      some (out ++ (services.flatMap fun s => s.records label ttl).flatMap Record.bytes) := by
  induction services generalizing out with
  | nil => simp
  | cons s services inductionHypothesis =>
      rw [List.flatMap_cons, List.flatMap_append, List.length_append] at room
      have first := writeService_eq host (fit s List.mem_cons_self)
        (show out.length + ((s.records label ttl).flatMap Record.bytes).length ≤ cap by omega)
      have others := @inductionHypothesis (out ++ (s.records label ttl).flatMap Record.bytes)
        (fun other listed => fit other (List.mem_cons_of_mem _ listed)) (by
          rw [List.length_append]
          omega)
      rw [List.foldlM_cons, first, Option.bind_eq_bind, Option.bind_some, others,
        List.flatMap_cons, List.flatMap_append, List.append_assoc]

theorem length_records (s : Service) (label : Bytes) (ttl : UInt32) :
    ((s.records label ttl).flatMap Record.bytes).length =
      4 * (encodeName s.labels).length + 4 * label.length + s.txt.length + 48 := by
  have named := length_encodeName label s.labels
  have hosted := length_hostName label
  rw [records_bytes, List.length_append, List.length_append, length_record, length_record,
    length_record]
  simp only [pointerRecord, serviceRecord, textRecord, Data.bytes, encodeLabels, bytes16,
    List.length_append, List.length_cons, List.length_nil, List.flatMap_cons, List.flatMap_nil,
    named, hosted]
  omega

theorem length_svc (label : Bytes) (ttl : UInt32) :
    ((svc.flatMap fun s => s.records label ttl).flatMap Record.bytes).length =
      12 * label.length + 419 := by
  have http : (encodeName (Service.labels ⟨ascii "_http._tcp.local", 80, ascii "path=/"⟩)).length =
    18 := by decide
  have ssh : (encodeName (Service.labels
    ⟨ascii "_ssh._tcp.local", 22, ascii "auth=password"⟩)).length = 17 := by decide
  have camera : (encodeName (Service.labels
    ⟨ascii "_jooan-camera._tcp.local", 80, ascii "model=JA-A12"⟩)).length = 26 := by decide
  have texts : (ascii "path=/").length = 6 ∧ (ascii "auth=password").length = 13 ∧
    (ascii "model=JA-A12").length = 12 := by decide
  simp only [svc, List.flatMap_cons, List.flatMap_nil, List.flatMap_append, List.length_append,
    List.append_nil, length_records, http, ssh, camera, texts]
  omega

/-- The camera's own address. -/
def addressRecord (label : Bytes) (address : InAddr) (ttl : UInt32) : Record :=
  ⟨hostName label, 0x8001, ttl, .address address.a address.b address.c address.d⟩

theorem announcement_bytes (label : Bytes) (address : InAddr) (ttl : UInt32) :
    (announcement label address ttl).bytes =
      [0, 0, 0x84, 0, 0, 0, 0, 10, 0, 0, 0, 0] ++ (addressRecord label address ttl).bytes ++
        (svc.flatMap fun s => s.records label ttl).flatMap Record.bytes := by
  have header : bytes16 0 ++ bytes16 0x8400 ++ bytes16 (UInt16.ofNat 0) ++ bytes16 (UInt16.ofNat 10) ++
      bytes16 (UInt16.ofNat 0) ++ bytes16 (UInt16.ofNat 0) =
    [0, 0, 0x84, 0, 0, 0, 0, 10, 0, 0, 0, 0] := by decide
  rw [← header]
  simp only [announcement, Message.bytes, List.length_nil, List.flatMap_nil, List.flatMap_cons,
    List.nil_append, List.append_nil, addressRecord, List.append_assoc]
  rfl

theorem length_announcement (label : Bytes) (address : InAddr) (ttl : UInt32) :
    (announcement label address ttl).bytes.length = 13 * label.length + 453 := by
  have hosted := length_hostName label
  rw [announcement_bytes, List.length_append, List.length_append, length_svc, length_record]
  simp only [addressRecord, Data.bytes, List.length_cons, List.length_nil, hosted]
  omega

/-- The packet is the announcement, and fits the buffer whatever the label. -/
theorem build_discovery_eq (host : HostLabel label) (address : InAddr) :
    build_discovery 1400 label address ttl = some (announcement label address ttl).bytes := by
  have size := host.size.2
  have whole := length_announcement label address ttl
  rw [announcement_bytes, List.length_append, List.length_append] at whole
  have named : (label ++ ascii ".local").take 79 = label ++ ascii ".local" := by
    apply List.take_of_length_le
    rw [List.length_append, show (ascii ".local").length = 6 by decide]
    omega
  have classed : Classed (addressRecord label address ttl) := by
    have written : bytes16 0x8001 = [if (1 : UInt16) = 12 then 0 else 0x80, 1] := by decide
    exact written
  have counted : [0, 0, 0x84, 0, 0, 0, UInt8.ofNat ((1 + svc.length * 3) / 256),
      UInt8.ofNat (1 + svc.length * 3), 0, 0, 0, 0] =
      ([0, 0, 0x84, 0, 0, 0, 0, 10, 0, 0, 0, 0] : Bytes) := by decide
  obtain ⟨first, mark, opened, fits, closed⟩ :=
    @rr_written 1400 [0, 0, 0x84, 0, 0, 0, 0, 10, 0, 0, 0, 0] (addressRecord label address ttl)
      (host.labels local_labels.1) (host.dotlessAll local_labels.2) classed
      (show 4 < 65536 by decide) (by omega)
  have heading : rr_head 1400 [0, 0, 0x84, 0, 0, 0, 0, 10, 0, 0, 0, 0] (label ++ ascii ".local") 1
      ttl = some (first, mark) := opened
  have addressed : rr_end (first ++ [address.a, address.b, address.c, address.d]) mark =
      [0, 0, 0x84, 0, 0, 0, 0, 10, 0, 0, 0, 0] ++ (addressRecord label address ttl).bytes := closed
  have addressFits : ¬1400 < first.length + 4 := Nat.not_lt_of_le fits
  have services := @writeServices_eq 1400 label ttl
    ([0, 0, 0x84, 0, 0, 0, 0, 10, 0, 0, 0, 0] ++ (addressRecord label address ttl).bytes) host svc
    svc_fit (by rw [List.length_append]; omega)
  rw [announcement_bytes, ← services]
  simp only [build_discovery, named, counted, heading, Option.bind_eq_bind, Option.bind_some,
    if_neg addressFits, addressed]

/-! ### What it parses to -/

theorem Service.Fit.valid (host : HostLabel label) {s : Service} (fit : s.Fit) :
    ∀ record ∈ s.records label ttl, record.Valid := by
  have named := length_encodeName label s.labels
  have hosted := length_hostName label
  have short := fit.sized
  have size := host.size
  have text := fit.txt
  have serviceName : Name s.labels := ⟨fit.labels, by omega⟩
  have instanceName : Name (label :: s.labels) := ⟨host.labels fit.labels, by omega⟩
  have target : Name (hostName label) := ⟨host.labels local_labels.1, by omega⟩
  have strings : [s.txt] ≠ [] ∧ ∀ string ∈ [s.txt], string.length ≤ 255 :=
    ⟨List.cons_ne_nil _ _, fun string listed => by
      rw [List.mem_singleton.mp listed]
      exact text.1⟩
  intro record listed
  simp only [Service.records, List.mem_cons, List.not_mem_nil, or_false] at listed
  rcases listed with rfl | rfl | rfl
  · exact ⟨serviceName, instanceName, show (encodeName (label :: s.labels)).length < 65536 by omega⟩
  · refine ⟨instanceName, target, ?_⟩
    simp only [Data.bytes, bytes16, List.length_append, List.length_cons, List.length_nil]
    omega
  · refine ⟨instanceName, strings, ?_⟩
    simp only [Data.bytes, encodeLabels, List.flatMap_cons, List.flatMap_nil, List.length_append,
      List.length_cons, List.length_nil]
    omega

theorem announcement_valid (host : HostLabel label) (address : InAddr) :
    (announcement label address ttl).Valid where
  questions := by simp [announcement]
  answers := by
    have hosted := length_hostName label
    have size := host.size
    have target : Name (hostName label) := ⟨host.labels local_labels.1, by omega⟩
    intro record listed
    rcases List.mem_cons.mp listed with rfl | later
    · exact ⟨target, trivial, show 4 < 65536 by decide⟩
    · obtain ⟨s, member, its⟩ := List.mem_flatMap.mp later
      exact (svc_fit s member).valid host record its
  authority := by simp [announcement]
  additional := by simp [announcement]
  counts := ⟨show 0 < 65536 by decide, show 10 < 65536 by decide, show 0 < 65536 by decide,
    show 0 < 65536 by decide⟩

end Written

/-! ### Questions -/

theorem reads_eq {packet : Bytes} {start len : Nat} (inside : start + len ≤ packet.length) :
    (List.range len).mapM (fun i => packet[start + i]?) = some ((packet.drop start).take len) := by
  induction len with
  | zero => rfl
  | succ len inductionHypothesis =>
      have earlier := inductionHypothesis (by omega)
      have present : start + len < packet.length := by omega
      have next : packet[start + len]? = some packet[start + len] := List.getElem?_eq_getElem present
      rw [List.range_succ, List.mapM_append, earlier]
      simp [next, List.take_add_one]

/-- The loop ends, and reads nothing outside the packet. -/
theorem decodeLabels_inside {packet : Bytes} {cap fuel p : Nat} (text : Bytes)
    (within : p ≤ packet.length) (enough : packet.length < p + fuel) :
    decodeLabels packet cap fuel p text ≠ .outside ∧
      decodeLabels packet cap fuel p text ≠ .endless := by
  induction fuel generalizing p text with
  | zero => omega
  | succ fuel inductionHypothesis =>
      unfold decodeLabels
      split
      · exact ⟨Decoded.noConfusion, Decoded.noConfusion⟩
      · next more =>
          have present : p < packet.length := Nat.lt_of_not_le more
          rw [List.getElem?_eq_getElem present]
          simp only
          split
          · split <;> exact ⟨Decoded.noConfusion, Decoded.noConfusion⟩
          · split
            · exact ⟨Decoded.noConfusion, Decoded.noConfusion⟩
            · next refused =>
                have inside : p + 1 + packet[p].toNat ≤ packet.length := by omega
                rw [reads_eq inside]
                exact inductionHypothesis _ inside (by omega)

theorem decode_question_inside (packet : Bytes) (cap : Nat) :
    decode_question packet cap ≠ .outside ∧ decode_question packet cap ≠ .endless := by
  unfold decode_question
  split
  · exact ⟨Decoded.noConfusion, Decoded.noConfusion⟩
  · exact decodeLabels_inside [] (by omega) (by omega)

/-- The text with one more label. -/
def withLabel (text label : Bytes) : Bytes :=
  (if text = [] then [] else text ++ [DOT]) ++ label.map tolower

theorem length_withLabel {text : Bytes} (begun : text ≠ []) (label : Bytes) :
    (withLabel text label).length = text.length + 1 + label.length := by
  rw [withLabel, if_neg begun, List.length_append, List.length_append, List.length_map,
    List.length_singleton]

theorem withLabel_ne_nil {label : Bytes} (some_label : 0 < label.length) (text : Bytes) :
    withLabel text label ≠ [] := by
  apply List.ne_nil_of_length_pos
  rw [withLabel, List.length_append, List.length_map]
  omega

theorem length_le_foldl_withLabel (text : Bytes) (labels : List Bytes) :
    text.length ≤ (labels.foldl withLabel text).length := by
  induction labels generalizing text with
  | nil => exact Nat.le_refl _
  | cons label labels inductionHypothesis =>
      have first : text.length ≤ (withLabel text label).length := by
        unfold withLabel
        split
        · next empty => simp [empty]
        · simp only [List.length_append]
          omega
      exact Nat.le_trans first (inductionHypothesis _)

theorem foldl_withLabel {labels : List Bytes} (valid : Labels labels) {text : Bytes}
    (begun : text ≠ []) (more : labels ≠ []) :
    labels.foldl withLabel text = text ++ DOT :: (dotted labels).map tolower := by
  induction labels generalizing text with
  | nil => exact absurd rfl more
  | cons label labels inductionHypothesis =>
      have size := valid label List.mem_cons_self
      by_cases last : labels = []
      · rw [last, dotted]
        simp [withLabel, begun]
      · rw [List.foldl_cons, inductionHypothesis valid.tail (withLabel_ne_nil size.1 text) last,
          dotted_cons last]
        have dot : tolower DOT = DOT := rfl
        simp [withLabel, begun, dot]

/-- The labels one after another make the name. -/
theorem foldl_withLabel_nil {labels : List Bytes} (valid : Labels labels) :
    labels.foldl withLabel [] = (dotted labels).map tolower := by
  cases labels with
  | nil => rfl
  | cons label labels =>
      have size := valid label List.mem_cons_self
      have first : withLabel [] label = label.map tolower := rfl
      by_cases last : labels = []
      · rw [last]
        exact first
      · have dot : tolower DOT = DOT := rfl
        rw [List.foldl_cons, foldl_withLabel valid.tail (withLabel_ne_nil size.1 []) last,
          dotted_cons last, first]
        simp [dot]

theorem plain_length : ∀ n < 64, UInt8.ofNat n &&& 0xc0 = 0 := by decide

/-- The loop's turn on a label. -/
theorem decodeLabels_label {front label behind text : Bytes} {cap fuel : Nat}
    (bounds : 0 < label.length ∧ label.length ≤ 63)
    (room : text.length + label.length + 2 ≤ cap) :
    decodeLabels (front ++ UInt8.ofNat label.length :: label ++ behind) cap (fuel + 1)
        front.length text =
      decodeLabels (front ++ UInt8.ofNat label.length :: label ++ behind) cap fuel
        (front ++ UInt8.ofNat label.length :: label).length (withLabel text label) := by
  generalize packet_eq : front ++ UInt8.ofNat label.length :: label ++ behind = packet
  have length : (UInt8.ofNat label.length).toNat = label.length := by
    rw [UInt8.toNat_ofNat']
    omega
  have present : ¬UInt8.ofNat label.length = 0 := by
    intro empty
    rw [empty] at length
    exact absurd length (Nat.ne_of_lt bounds.1)
  have forward : (front ++ UInt8.ofNat label.length :: label).length =
      front.length + 1 + label.length := by
    rw [List.length_append, List.length_cons]
    omega
  have size : packet.length = front.length + 1 + label.length + behind.length := by
    rw [← packet_eq, List.length_append, forward]
  have more : ¬packet.length ≤ front.length := by omega
  have begins : packet[front.length]? = some (UInt8.ofNat label.length) := by
    rw [← packet_eq]
    simp
  have taken : ¬(UInt8.ofNat label.length &&& 0xc0 ≠ 0 ∨
      packet.length < front.length + 1 + label.length ∨
        cap < text.length + label.length + 2) := by
    rintro (referring | short | full)
    · exact referring (plain_length _ (Nat.lt_succ_of_le bounds.2))
    · omega
    · omega
  have read : (List.range label.length).mapM (fun i => packet[front.length + 1 + i]?) =
      some label := by
    have dropped : packet.drop (front.length + 1) = label ++ behind := by
      rw [← packet_eq, List.append_assoc, ← List.drop_drop, List.drop_left]
      rfl
    rw [reads_eq (by omega), dropped, List.take_left]
  rw [forward]
  simp only [decodeLabels, if_neg more, begins, if_neg present, length, if_neg taken, read, withLabel]

/-- The loop on a name that is written out. -/
theorem decodeLabels_name {labels : List Bytes} (valid : Labels labels) {front rest : Bytes}
    {cap fuel : Nat} {text : Bytes} (enough : labels.length < fuel) (wide : 65 ≤ cap)
    (fits : (labels.foldl withLabel text).length < cap) (behind : 4 ≤ rest.length) :
    decodeLabels (front ++ (encodeName labels ++ rest)) cap fuel front.length text =
      .name (labels.foldl withLabel text) := by
  induction labels generalizing front fuel text with
  | nil =>
      cases fuel with
      | zero => exact absurd enough (Nat.not_lt_zero _)
      | succ fuel =>
          have size : (front ++ (encodeName [] ++ rest)).length = front.length + 1 + rest.length := by
            simp [encodeName_nil]
            omega
          have stops : (front ++ (encodeName [] ++ rest))[front.length]? = some 0 := by
            simp [encodeName_nil]
          have more : ¬(front ++ (encodeName [] ++ rest)).length ≤ front.length := by omega
          have whole : ¬(front ++ (encodeName [] ++ rest)).length < front.length + 5 := by omega
          simp only [decodeLabels, if_neg more, stops, if_true, if_neg whole, List.foldl_nil]
  | cons label labels inductionHypothesis =>
      cases fuel with
      | zero => exact absurd enough (Nat.not_lt_zero _)
      | succ fuel =>
          have bounds := valid label List.mem_cons_self
          have split : front ++ (encodeName (label :: labels) ++ rest) =
              front ++ UInt8.ofNat label.length :: label ++ (encodeName labels ++ rest) := by
            simp [encodeName_cons]
          have room : text.length + label.length + 2 ≤ cap := by
            by_cases begun : text = []
            · rw [begun, List.length_nil]
              omega
            · have grown := length_le_foldl_withLabel (withLabel text label) labels
              rw [length_withLabel begun] at grown
              rw [List.foldl_cons] at fits
              omega
          rw [split, decodeLabels_label bounds room]
          exact inductionHypothesis valid.tail (Nat.lt_of_succ_lt_succ enough) fits

/-- A query that carries a name. -/
theorem decode_question_name {labels : List Bytes} (valid : Labels labels) {front rest : Bytes}
    (header : front.length = 12) {cap : Nat} (wide : 65 ≤ cap)
    (fits : (dotted labels).length < cap) (behind : 4 ≤ rest.length) :
    decode_question (front ++ (encodeName labels ++ rest)) cap =
      .name ((dotted labels).map tolower) := by
  have whole := foldl_withLabel_nil valid
  have named := length_le_encodeName labels
  have long : ¬(front ++ (encodeName labels ++ rest)).length < 17 := by
    rw [List.length_append, List.length_append]
    omega
  rw [decode_question, if_neg long, ← header, decodeLabels_name valid ?_ wide ?_ behind, whole]
  · rw [List.length_append, List.length_append]
    omega
  · rw [whole, List.length_map]
    exact fits

/-! ### What `dns_name` writes -/

/-- A name without the dot that may end it. -/
def bare (name : Bytes) : Bytes := if name.getLast? = some DOT then name.dropLast else name

theorem bare_cons {rest : Bytes} (more : rest ≠ []) (front : Bytes) :
    bare (front ++ rest) = front ++ bare rest := by
  have last : (front ++ rest).getLast? = rest.getLast? := by
    rw [List.getLast?_append]
    cases end_ : rest.getLast? with
    | none => exact absurd (List.getLast?_eq_none_iff.mp end_) more
    | some c => rfl
  unfold bare
  rw [last]
  split
  · rw [List.dropLast_append_of_ne_nil more]
  · rfl

theorem bare_label {label : Bytes} (dotless : DOT ∉ label) : bare label = label := by
  apply if_neg
  intro ends
  exact dotless (List.mem_of_getLast? ends)

/-- A name is its first label, or that and a dot and the rest. -/
theorem split_label (s : Bytes) :
    DOT ∉ s.takeWhile (· ≠ DOT) ∧
      ((s.drop (s.takeWhile (· ≠ DOT)).length = [] ∧ s = s.takeWhile (· ≠ DOT)) ∨
        ∃ rest, s.drop (s.takeWhile (· ≠ DOT)).length = DOT :: rest ∧
          s = s.takeWhile (· ≠ DOT) ++ DOT :: rest) := by
  have whole : s.takeWhile (· ≠ DOT) ++ s.dropWhile (· ≠ DOT) = s :=
    List.takeWhile_append_dropWhile
  have stops := List.head?_dropWhile_not (fun c => decide (c ≠ DOT)) s
  have plain : DOT ∉ s.takeWhile (· ≠ DOT) := by
    intro listed
    have other := List.mem_takeWhile_imp listed
    simp at other
  refine ⟨plain, ?_⟩
  generalize s.takeWhile (· ≠ DOT) = label at whole plain ⊢
  cases behind : s.dropWhile (· ≠ DOT) with
  | nil =>
      rw [behind, List.append_nil] at whole
      rw [← whole]
      exact Or.inl ⟨List.drop_length, rfl⟩
  | cons c rest =>
      rw [behind] at whole stops
      have dot : c = DOT := by simpa using stops
      rw [dot] at whole
      rw [← whole]
      exact Or.inr ⟨rest, List.drop_left, rfl⟩

/-- Whatever `dns_name` writes are the labels of its name. -/
theorem writeLabels_some {cap fuel : Nat} {out s packet : Bytes}
    (written : writeLabels cap fuel out s = some packet) :
    ∃ labels, Labels labels ∧ packet = out ++ encodeLabels labels ∧ bare s = dotted labels ∧
      (s ≠ [] → labels ≠ []) := by
  induction fuel generalizing out s with
  | zero => contradiction
  | succ fuel inductionHypothesis =>
      simp only [writeLabels] at written
      split at written
      · next empty =>
          refine ⟨[], by simp [Labels], ?_, by rw [empty]; rfl, fun more => absurd empty more⟩
          simp [encodeLabels, Option.some.inj written]
      · obtain ⟨plain, shape⟩ := split_label s
        generalize s.takeWhile (· ≠ DOT) = label at written plain shape
        split at written
        · contradiction
        · next bounds =>
            have size : 0 < label.length ∧ label.length ≤ 63 := by
              have some_label : label ≠ [] := fun empty => bounds (Or.inl empty)
              have positive := List.length_pos_of_ne_nil some_label
              omega
            have single : Labels [label] := by
              intro other listed
              rw [List.mem_singleton.mp listed]
              exact size
            rcases shape with ⟨nothing, rfl⟩ | ⟨rest, behind, rfl⟩
            · rw [nothing] at written
              refine ⟨[s], single, ?_, bare_label plain, fun _ => List.cons_ne_nil _ _⟩
              simp [encodeLabels, ← Option.some.inj written]
            · rw [behind] at written
              obtain ⟨labels, valid, packet_eq, named, more⟩ := inductionHypothesis written
              refine ⟨label :: labels, ?_, ?_, ?_, fun _ => List.cons_ne_nil _ _⟩
              · intro other listed
                rcases List.mem_cons.mp listed with rfl | later
                · exact size
                · exact valid other later
              · rw [packet_eq, encodeLabels_cons, List.append_assoc, List.cons_append]
              · by_cases last : rest = []
                · have nothing : labels = [] := by
                    have count := length_le_dotted valid
                    rw [← named, last] at count
                    exact List.eq_nil_of_length_eq_zero (Nat.le_zero.mp count)
                  rw [last, nothing, bare_cons (List.cons_ne_nil DOT [])]
                  exact List.append_nil label
                · rw [bare_cons (List.cons_ne_nil DOT rest), ← List.singleton_append,
                    bare_cons last, named, dotted_cons (more last), List.singleton_append]

theorem dns_name_some {cap : Nat} {out name packet : Bytes}
    (written : dns_name cap out name = some packet) :
    ∃ labels, Labels labels ∧ packet = out ++ encodeName labels ∧ bare name = dotted labels := by
  unfold dns_name at written
  split at written
  · contradiction
  · next front labelled =>
      obtain ⟨labels, valid, front_eq, named, -⟩ := writeLabels_some labelled
      split at written
      · contradiction
      · refine ⟨labels, valid, ?_, named⟩
        rw [← Option.some.inj written, front_eq, List.append_assoc, encodeName]

/-- Whatever label is set, its announcement fits the buffer and parses to the records
announced; a question's name is read back but for a dot that ends it; no packet is read
outside or without end. -/
theorem discovery :
    (∀ input label, valid_label input = some label → ∀ address ttl,
      ∃ packet, build_discovery 1400 label address ttl = some packet ∧ packet.length ≤ 1400 ∧
        Message.parse packet = some (announcement label address ttl)) ∧
    (∀ front cap name packet, front.length = 12 → dns_name cap front name = some packet →
      ∀ rest room, 4 ≤ rest.length → 65 ≤ room → (bare name).length < room →
        decode_question (packet ++ rest) room = .name ((bare name).map tolower)) ∧
    ∀ packet room,
      decode_question packet room ≠ .outside ∧ decode_question packet room ≠ .endless := by
  refine ⟨?_, ?_, decode_question_inside⟩
  · intro input label valid address ttl
    have host := valid_label_host valid
    have size := host.size.2
    refine ⟨_, build_discovery_eq host address, ?_, Message.parse_bytes (announcement_valid host address)⟩
    rw [length_announcement]
    omega
  · intro front cap name packet header written rest room behind wide fits
    obtain ⟨labels, valid, packet_eq, named⟩ := dns_name_some written
    rw [packet_eq, named, List.append_assoc]
    rw [named] at fits
    exact decode_question_name valid header wide fits behind

theorem discovery_sample :
    (∃ packet, build_discovery 1400 (ascii "front-door") ⟨192, 168, 1, 2⟩ 120 = some packet ∧
      packet.length ≤ 1400 ∧
        Message.parse packet = some (announcement (ascii "front-door") ⟨192, 168, 1, 2⟩ 120)) ∧
    decode_question ([0, 0, 0, 0, 0, 1, 0, 0, 0, 0, 0, 0] ++ [1, 65, 1, 98, 0] ++ [0, 1, 0, 1]) 128 =
      .name (ascii "a.b") :=
  ⟨discovery.1 (some (ascii "Front-Door.local")) _ (by decide) _ _,
    discovery.2.1 [0, 0, 0, 0, 0, 1, 0, 0, 0, 0, 0, 0] 300 (ascii "A.b") _ (by decide) (by decide)
      [0, 1, 0, 1] 128 (by decide) (by decide) (by decide)⟩

/-- The dot that ends a name is not read back, and a single label is asked to leave room
for a dot. -/
theorem names_not_returned :
    dns_name 300 [0, 0, 0, 0, 0, 1, 0, 0, 0, 0, 0, 0] (ascii "a.") =
        some [0, 0, 0, 0, 0, 1, 0, 0, 0, 0, 0, 0, 1, 97, 0] ∧
      decode_question ([0, 0, 0, 0, 0, 1, 0, 0, 0, 0, 0, 0, 1, 97, 0] ++ [0, 1, 0, 1]) 128 =
        .name (ascii "a") ∧
      (ascii "a.").map tolower ≠ ascii "a" ∧
      decode_question ([0, 0, 0, 0, 0, 1, 0, 0, 0, 0, 0, 0, 1, 97, 0] ++ [0, 1, 0, 1]) 2 =
        .refused := by
  decide

end JooanW3U.Daemon.Mdns
