import Mathlib.Algebra.Order.Ring.Nat
import Mathlib.Tactic.Ring

/-!
Owns blocks of network addresses: the addresses of `width` bits that share the first
`length` bits of a base address. Main results: a longer prefix names a smaller block,
and a block is inside the one of a longer prefix only if it is not properly larger.

Does not own how addresses are written.
-/

namespace JooanW3U.Library.AddressBlock

/-- The first `length` bits of an address. -/
def top (width length address : Nat) : Nat := address / 2 ^ (width - length)

/-- The block of a base address and a prefix length. -/
def Contains (width base length address : Nat) : Prop :=
  top width length address = top width length base

theorem top_top {width short long : Nat} (order : short ≤ long) (fits : long ≤ width)
    (address : Nat) : top width short address = top width long address / 2 ^ (long - short) := by
  rw [top, top, Nat.div_div_eq_div_mul, ← Nat.pow_add,
    show width - long + (long - short) = width - short by omega]

/-- A longer prefix names a smaller block. -/
theorem Contains.shorter {width base short long address : Nat} (order : short ≤ long)
    (fits : long ≤ width) (contains : Contains width base long address) :
    Contains width base short address := by
  rw [Contains, top_top order fits, top_top order fits, contains]

theorem Contains.of_base {width base other length address : Nat}
    (contains : Contains width base length address) (same : Contains width other length base) :
    Contains width other length address :=
  contains.trans same

/-- A block reaches outside every block with a longer prefix. -/
theorem exists_outside {width base short long : Nat} (order : short < long) (fits : long ≤ width)
    (base_lt : base < 2 ^ width) :
    ∃ address < 2 ^ width, Contains width base short address ∧
      ¬ Contains width base long address := by
  obtain ⟨gap, rfl⟩ := Nat.exists_eq_add_of_lt order
  obtain ⟨rest, rfl⟩ := Nat.exists_eq_add_of_le fits
  have sizes : 2 ^ (short + gap + 1 + rest) = 2 ^ short * (2 ^ gap * 2 ^ rest * 2) := by ring
  have tail : short + gap + 1 + rest - short = gap + rest + 1 := by omega
  have cut : short + gap + 1 + rest - (short + gap + 1) = rest := by omega
  have width_pos := Nat.two_pow_pos rest
  have gap_pos := Nat.two_pow_pos gap
  -- The block's first address and its last one differ in the bit behind the shorter prefix.
  generalize head_eq : base / 2 ^ (gap + rest + 1) = head
  have block : 2 ^ (gap + rest + 1) = 2 * (2 ^ gap * 2 ^ rest) := by ring
  have head_lt : head < 2 ^ short := by
    rw [← head_eq, Nat.div_lt_iff_lt_mul (Nat.two_pow_pos _), ← Nat.pow_add,
      show short + (gap + rest + 1) = short + gap + 1 + rest by omega]
    exact base_lt
  have low_top : head * (2 * (2 ^ gap * 2 ^ rest)) / 2 ^ rest = head * (2 * 2 ^ gap) := by
    rw [show head * (2 * (2 ^ gap * 2 ^ rest)) = head * (2 * 2 ^ gap) * 2 ^ rest by ring,
      Nat.mul_div_cancel _ width_pos]
  have high_top : (head * (2 * (2 ^ gap * 2 ^ rest)) + 2 ^ gap * 2 ^ rest) / 2 ^ rest =
      head * (2 * 2 ^ gap) + 2 ^ gap := by
    rw [show head * (2 * (2 ^ gap * 2 ^ rest)) + 2 ^ gap * 2 ^ rest =
      (head * (2 * 2 ^ gap) + 2 ^ gap) * 2 ^ rest by ring, Nat.mul_div_cancel _ width_pos]
  have product_pos : 0 < 2 ^ gap * 2 ^ rest := Nat.mul_pos gap_pos width_pos
  have room : head * (2 * (2 ^ gap * 2 ^ rest)) + 2 * (2 ^ gap * 2 ^ rest) ≤
      2 ^ (short + gap + 1 + rest) := by
    have bound : (head + 1) * (2 ^ gap * 2 ^ rest * 2) ≤ 2 ^ short * (2 ^ gap * 2 ^ rest * 2) :=
      Nat.mul_le_mul_right _ head_lt
    rw [sizes]
    calc head * (2 * (2 ^ gap * 2 ^ rest)) + 2 * (2 ^ gap * 2 ^ rest)
        = (head + 1) * (2 ^ gap * 2 ^ rest * 2) := by ring
      _ ≤ _ := bound
  have low_in : head * (2 * (2 ^ gap * 2 ^ rest)) / (2 * (2 ^ gap * 2 ^ rest)) = head :=
    Nat.mul_div_cancel _ (by omega)
  have high_in : (head * (2 * (2 ^ gap * 2 ^ rest)) + 2 ^ gap * 2 ^ rest) /
      (2 * (2 ^ gap * 2 ^ rest)) = head := by
    rw [Nat.add_comm, Nat.add_mul_div_right _ _ (by omega), Nat.div_eq_of_lt (by omega),
      Nat.zero_add]
  by_cases low : Contains (short + gap + 1 + rest) base (short + gap + 1)
      (head * (2 * (2 ^ gap * 2 ^ rest)))
  · refine ⟨head * (2 * (2 ^ gap * 2 ^ rest)) + 2 ^ gap * 2 ^ rest, by omega, ?_, ?_⟩
    · rw [Contains, top, top, tail, head_eq, block, high_in]
    · intro high
      rw [Contains, top, top, cut, low_top] at low
      rw [Contains, top, top, cut, high_top] at high
      omega
  · refine ⟨head * (2 * (2 ^ gap * 2 ^ rest)), by omega, ?_, low⟩
    rw [Contains, top, top, tail, head_eq, block, low_in]

end JooanW3U.Library.AddressBlock
