import JooanW3U.Library.Sha1

/-!
Owns hashing in blocks of 64 bytes over a message that comes in pieces: the chaining
value of a message, the buffer that collects a block, the padding written into it, and
the law that the pieces do not matter.

Does not own any compression function.
-/

namespace JooanW3U.Library.BlockHash

open Sha1 (bigEndian padded)

universe u

abbrev Bytes := List UInt8

variable {State : Type u} (compress : State → Bytes → State)

/-- The chaining value after `count` blocks. -/
def chain : Nat → State → Bytes → State
  | 0, state, _ => state
  | count + 1, state, bytes => chain count (compress state (bytes.take 64)) (bytes.drop 64)

/-- The chaining value of the padded message. -/
def digest (initial : State) (message : Bytes) : State :=
  chain compress ((padded message).length / 64) initial (padded message)

/-- The chaining value so far, the bits taken in, and the bytes of a block begun. -/
structure Context (State : Type u) where
  state : State
  bits : Nat
  pending : Bytes
  deriving Repr, DecidableEq

def Context.init (initial : State) : Context State := ⟨initial, 0, []⟩

/-- Filling the block and compressing it when full, with fuel: a turn takes a byte or more. -/
def absorb : Nat → Context State → Bytes → Context State
  | 0, context, _ => context
  | fuel + 1, context, bytes =>
      if bytes = [] then context
      else
        let room := min (64 - context.pending.length) bytes.length
        let pending := context.pending ++ bytes.take room
        if pending.length = 64 then
          absorb fuel { context with state := compress context.state pending, pending := [] }
            (bytes.drop room)
        else absorb fuel { context with pending } (bytes.drop room)

def update (context : Context State) (bytes : Bytes) : Context State :=
  absorb compress bytes.length
    { context with bits := (context.bits + 8 * bytes.length) % 2 ^ 64 } bytes

/-- The end of the message: the bit `1`, zeros, into a second block if need be, and the
bits taken in. -/
def finish (context : Context State) : State :=
  let pending := context.pending ++ [0x80]
  let (state, pending) :=
    if 56 < pending.length then
      (compress context.state (pending ++ List.replicate (64 - pending.length) 0), [])
    else (context.state, pending)
  compress state (pending ++ List.replicate (56 - pending.length) 0 ++ bigEndian 8 context.bits)

variable {compress}

theorem chain_append {left right : Nat} {first : Bytes} (whole : first.length = 64 * left)
    (state : State) (second : Bytes) :
    chain compress (left + right) state (first ++ second) =
      chain compress right (chain compress left state first) second := by
  induction left generalizing first state with
  | zero =>
      have empty : first = [] := List.eq_nil_of_length_eq_zero whole
      rw [empty, Nat.zero_add]
      rfl
  | succ left inductionHypothesis =>
      have block : 64 ≤ first.length := by omega
      have rest : (first.drop 64).length = 64 * left := by
        rw [List.length_drop]
        omega
      have next : left + 1 + right = left + right + 1 := Nat.add_right_comm left 1 right
      rw [next]
      simp only [chain]
      rw [List.take_append_of_le_length block, List.drop_append_of_le_length block,
        inductionHypothesis rest]

/-- One more block. -/
theorem chain_block {count : Nat} {first block : Bytes} (whole : first.length = 64 * count)
    (filled : block.length = 64) (state : State) :
    chain compress (count + 1) state (first ++ block) =
      compress (chain compress count state first) block := by
  have taken : block.take 64 = block := List.take_of_length_le (Nat.le_of_eq filled)
  rw [chain_append whole]
  simp only [chain, taken]

/-- Only what a compression does to whole blocks matters. -/
theorem chain_congr {other : State → Bytes → State}
    (same : ∀ state block, block.length = 64 → compress state block = other state block)
    {count : Nat} {bytes : Bytes} (enough : 64 * count ≤ bytes.length) (state : State) :
    chain compress count state bytes = chain other count state bytes := by
  induction count generalizing bytes state with
  | zero => rfl
  | succ count inductionHypothesis =>
      have block : (bytes.take 64).length = 64 := List.length_take_of_le (by omega)
      have rest : 64 * count ≤ (bytes.drop 64).length := by
        rw [List.length_drop]
        omega
      simp only [chain, same state _ block, inductionHypothesis rest]

theorem digest_congr {other : State → Bytes → State}
    (same : ∀ state block, block.length = 64 → compress state block = other state block)
    {initial : State} {message : Bytes} :
    digest compress initial message = digest other initial message :=
  chain_congr same (Nat.mul_div_le _ 64) initial

variable (compress)

/-- The context has compressed whole blocks of the message, and holds what is left over. -/
def Begun (initial : State) (message : Bytes) (context : Context State) : Prop :=
  ∃ count blocks, message = blocks ++ context.pending ∧ blocks.length = 64 * count ∧
    context.pending.length < 64 ∧ context.state = chain compress count initial blocks

/-- And has counted its bits. -/
def Behind (initial : State) (message : Bytes) (context : Context State) : Prop :=
  context.bits = 8 * message.length % 2 ^ 64 ∧ Begun compress initial message context

variable {compress}

theorem behind_init (initial : State) : Behind compress initial [] (Context.init initial) :=
  ⟨rfl, 0, [], rfl, rfl, Nat.succ_pos 63, rfl⟩

/-- A block is filled up by the next bytes. -/
theorem Begun.filled {initial : State} {message bytes : Bytes} {state : State} {bits : Nat}
    {pending : Bytes} (begun : Begun compress initial message ⟨state, bits, pending⟩)
    (full : (pending ++ bytes).length = 64) :
    Begun compress initial (message ++ bytes) ⟨compress state (pending ++ bytes), bits, []⟩ := by
  obtain ⟨count, blocks, split, whole, -, chained⟩ := begun
  simp only at split chained
  refine ⟨count + 1, blocks ++ (pending ++ bytes), ?_, ?_, Nat.succ_pos 63, ?_⟩
  · rw [split, List.append_assoc, List.append_nil]
  · rw [List.length_append, whole, full, Nat.mul_add]
  · rw [chain_block whole full, chained]

/-- Or they do not fill it. -/
theorem Begun.longer {initial : State} {message bytes : Bytes} {state : State} {bits : Nat}
    {pending : Bytes} (begun : Begun compress initial message ⟨state, bits, pending⟩)
    (short : (pending ++ bytes).length < 64) :
    Begun compress initial (message ++ bytes) ⟨state, bits, pending ++ bytes⟩ := by
  obtain ⟨count, blocks, split, whole, -, chained⟩ := begun
  exact ⟨count, blocks, by rw [split, List.append_assoc], whole, short, chained⟩

theorem Begun.absorb {initial : State} {fuel : Nat} {message bytes : Bytes}
    {context : Context State} (begun : Begun compress initial message context)
    (enough : bytes.length ≤ fuel) :
    Begun compress initial (message ++ bytes) (absorb compress fuel context bytes) := by
  induction fuel generalizing message bytes context with
  | zero =>
      have empty : bytes = [] := List.eq_nil_of_length_eq_zero (Nat.le_zero.mp enough)
      rw [empty, List.append_nil]
      exact begun
  | succ fuel inductionHypothesis =>
      by_cases empty : bytes = []
      · simp only [BlockHash.absorb, if_pos empty]
        rw [empty, List.append_nil]
        exact begun
      have some_bytes : 0 < bytes.length := List.length_pos_of_ne_nil empty
      have short : context.pending.length < 64 := begun.choose_spec.choose_spec.2.2.1
      simp only [BlockHash.absorb, if_neg empty]
      generalize room_eq : min (64 - context.pending.length) bytes.length = room
      have later : (bytes.drop room).length ≤ fuel := by
        rw [List.length_drop]
        omega
      have taken : (context.pending ++ bytes.take room).length = context.pending.length + room := by
        rw [List.length_append, List.length_take_of_le (room_eq ▸ Nat.min_le_right _ _)]
      rw [← List.take_append_drop room bytes, ← List.append_assoc, List.take_append_drop]
      by_cases full : (context.pending ++ bytes.take room).length = 64
      · rw [if_pos full]
        exact inductionHypothesis (begun.filled full) later
      · rw [if_neg full]
        exact inductionHypothesis (begun.longer (by omega)) later

theorem absorb_bits (fuel : Nat) (context : Context State) (bytes : Bytes) :
    (absorb compress fuel context bytes).bits = context.bits := by
  induction fuel generalizing context bytes with
  | zero => rfl
  | succ fuel inductionHypothesis =>
      simp only [absorb]
      split
      · rfl
      · split
        · rw [inductionHypothesis]
        · rw [inductionHypothesis]

theorem Behind.update {initial : State} {message : Bytes} {context : Context State}
    (behind : Behind compress initial message context) (bytes : Bytes) :
    Behind compress initial (message ++ bytes) (update compress context bytes) := by
  obtain ⟨bits, begun⟩ := behind
  refine ⟨?_, ?_⟩
  · rw [BlockHash.update, absorb_bits, bits, List.length_append, Nat.mul_add, Nat.mod_add_mod]
  · exact Begun.absorb begun (Nat.le_refl bytes.length)

theorem Behind.updates {initial : State} {message : Bytes} {context : Context State}
    (behind : Behind compress initial message context) (pieces : List Bytes) :
    Behind compress initial (message ++ pieces.flatten)
      (pieces.foldl (BlockHash.update compress) context) := by
  induction pieces generalizing message context with
  | nil =>
      rw [List.flatten_nil, List.append_nil]
      exact behind
  | cons piece pieces inductionHypothesis =>
      rw [List.flatten_cons, ← List.append_assoc]
      exact inductionHypothesis (behind.update piece)

/-! ### The end of the message -/

/-- Only so many low bits of a number are written. -/
theorem bigEndian_mod (count value : Nat) :
    bigEndian count (value % 2 ^ (8 * count)) = bigEndian count value := by
  apply List.map_congr_left
  intro index listed
  have inside : index < count := by simpa using listed
  apply UInt8.toNat_inj.mp
  rw [UInt8.toNat_ofNat', UInt8.toNat_ofNat']
  apply Nat.eq_of_testBit_eq
  intro bit
  by_cases low : bit < 8
  · have below : 8 * index + bit < 8 * count := by omega
    simp only [Nat.testBit_mod_two_pow, Nat.testBit_shiftRight, below, decide_true, Bool.true_and]
  · simp only [Nat.testBit_mod_two_pow, low, decide_false, Bool.false_and]

theorem length_bigEndian (count value : Nat) : (bigEndian count value).length = count := by
  rw [bigEndian, List.length_map, List.length_reverse, List.length_range]

/-- The padding of a message of which this is left over, when its block has room. -/
theorem padded_one {blocks pending : Bytes} {count : Nat} (whole : blocks.length = 64 * count)
    (short : pending.length < 56) :
    padded (blocks ++ pending) = blocks ++ (pending ++ [0x80] ++
      List.replicate (55 - pending.length) 0 ++
        bigEndian 8 (8 * (blocks ++ pending).length)) := by
  have zeros : (119 - (blocks ++ pending).length % 64) % 64 = 55 - pending.length := by
    rw [List.length_append, whole]
    omega
  rw [padded, zeros]
  simp only [List.append_assoc, List.cons_append, List.nil_append]

/-- And when it has not. -/
theorem padded_two {blocks pending : Bytes} {count : Nat} (whole : blocks.length = 64 * count)
    (long : 56 ≤ pending.length) (short : pending.length < 64) :
    padded (blocks ++ pending) = blocks ++ (pending ++ [0x80] ++
      List.replicate (63 - pending.length) 0) ++
        (List.replicate 56 0 ++ bigEndian 8 (8 * (blocks ++ pending).length)) := by
  have zeros : (119 - (blocks ++ pending).length % 64) % 64 = 63 - pending.length + 56 := by
    rw [List.length_append, whole]
    omega
  rw [padded, zeros, List.replicate_add]
  simp only [List.append_assoc, List.cons_append, List.nil_append]

theorem Behind.finish {initial : State} {message : Bytes} {context : Context State}
    (behind : Behind compress initial message context) :
    finish compress context = digest compress initial message := by
  obtain ⟨bits, count, blocks, split, whole, begun, chained⟩ := behind
  have written : bigEndian 8 context.bits = bigEndian 8 (8 * message.length) := by
    rw [bits]
    exact bigEndian_mod 8 _
  have one : (context.pending ++ [0x80]).length = context.pending.length + 1 := by
    rw [List.length_append, List.length_singleton]
  simp only [BlockHash.finish, one, written]
  by_cases room : context.pending.length < 56
  · have inside : ¬56 < context.pending.length + 1 := by omega
    have zeros : 56 - (context.pending.length + 1) = 55 - context.pending.length := by omega
    have pad := padded_one whole room
    rw [← split] at pad
    have full : (context.pending ++ [0x80] ++ List.replicate (55 - context.pending.length) 0 ++
        bigEndian 8 (8 * message.length)).length = 64 := by
      simp only [List.length_append, List.length_singleton, List.length_replicate,
        length_bigEndian]
      omega
    have blocks_count : (padded message).length / 64 = count + 1 := by
      rw [pad, List.length_append, whole, full]
      omega
    simp only [if_neg inside, one, zeros]
    rw [digest, blocks_count, pad, chain_block whole full, chained]
  · have outside : 56 < context.pending.length + 1 := by omega
    have zeros : 64 - (context.pending.length + 1) = 63 - context.pending.length := by omega
    have pad := padded_two whole (Nat.le_of_not_lt room) begun
    rw [← split] at pad
    have first : (context.pending ++ [0x80] ++
        List.replicate (63 - context.pending.length) 0).length = 64 := by
      simp only [List.length_append, List.length_singleton, List.length_replicate]
      omega
    have second : (List.replicate 56 0 ++ bigEndian 8 (8 * message.length)).length = 64 := by
      rw [List.length_append, List.length_replicate, length_bigEndian]
    have longer : (blocks ++ (context.pending ++ [0x80] ++
        List.replicate (63 - context.pending.length) 0)).length = 64 * (count + 1) := by
      rw [List.length_append, whole, first, Nat.mul_add]
    have blocks_count : (padded message).length / 64 = count + 1 + 1 := by
      rw [pad, List.length_append, longer, second]
      omega
    simp only [if_pos outside, zeros, List.length_nil, List.nil_append, Nat.sub_zero]
    rw [digest, blocks_count, pad, chain_block longer second, chain_block whole first, chained]

/-- However the message is cut, the hash is that of the message. -/
theorem finish_updates (initial : State) (pieces : List Bytes) :
    finish compress (pieces.foldl (update compress) (Context.init initial)) =
      digest compress initial pieces.flatten :=
  ((behind_init initial).updates pieces).finish

end JooanW3U.Library.BlockHash
