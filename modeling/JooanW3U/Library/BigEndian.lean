import Mathlib.Algebra.Group.Nat.Defs
import Mathlib.Data.List.Basic
import Mathlib.Data.List.GetD

/-!
Owns numbers as bytes of a fixed width, the most significant first: a number that fits is
read back from its field, and bytes are the field of the number they are read as.

Does not own what the numbers mean.
-/

namespace JooanW3U.Library.BigEndian

/-- The number that bytes are read as. -/
def number (bytes : List UInt8) : Nat :=
  bytes.foldl (fun value byte => value * 256 + byte.toNat) 0

/-- The bytes a number is written as. -/
def field : Nat → Nat → List UInt8
  | 0, _ => []
  | width + 1, value => UInt8.ofNat (value / 256 ^ width) :: field width value

theorem length_field (width value : Nat) : (field width value).length = width := by
  induction width with
  | zero => rfl
  | succ width inductionHypothesis => rw [field, List.length_cons, inductionHypothesis]

theorem foldl_eq (bytes : List UInt8) (start : Nat) :
    bytes.foldl (fun value byte => value * 256 + byte.toNat) start =
      start * 256 ^ bytes.length + number bytes := by
  induction bytes generalizing start with
  | nil => simp [number]
  | cons byte bytes inductionHypothesis =>
      have first : number (byte :: bytes) = byte.toNat * 256 ^ bytes.length + number bytes := by
        rw [number, List.foldl_cons, inductionHypothesis, Nat.zero_mul, Nat.zero_add]
      rw [List.foldl_cons, inductionHypothesis, first, List.length_cons, Nat.pow_succ,
        Nat.add_mul, Nat.mul_assoc, Nat.mul_comm 256, Nat.add_assoc]

theorem number_cons (byte : UInt8) (bytes : List UInt8) :
    number (byte :: bytes) = byte.toNat * 256 ^ bytes.length + number bytes := by
  rw [number, List.foldl_cons, foldl_eq, Nat.zero_mul, Nat.zero_add]

theorem number_lt (bytes : List UInt8) : number bytes < 256 ^ bytes.length := by
  induction bytes with
  | nil => exact Nat.one_pos
  | cons byte bytes inductionHypothesis =>
      have small : byte.toNat + 1 ≤ 256 := byte.toNat_lt
      calc
        number (byte :: bytes) = byte.toNat * 256 ^ bytes.length + number bytes :=
          number_cons byte bytes
        _ < byte.toNat * 256 ^ bytes.length + 256 ^ bytes.length :=
          Nat.add_lt_add_left inductionHypothesis _
        _ = (byte.toNat + 1) * 256 ^ bytes.length := (Nat.succ_mul _ _).symm
        _ ≤ 256 * 256 ^ bytes.length := Nat.mul_le_mul_right _ small
        _ = 256 ^ (byte :: bytes).length := by rw [List.length_cons, Nat.pow_succ, Nat.mul_comm]

/-- Only so many low bytes of a number are written. -/
theorem number_field (width value : Nat) : number (field width value) = value % 256 ^ width := by
  induction width with
  | zero => rw [Nat.pow_zero, Nat.mod_one]; rfl
  | succ width inductionHypothesis =>
      have byte : (UInt8.ofNat (value / 256 ^ width)).toNat = value / 256 ^ width % 256 :=
        UInt8.toNat_ofNat'
      rw [field, number_cons, inductionHypothesis, length_field, byte, Nat.pow_succ,
        Nat.mod_mul, Nat.add_comm, Nat.mul_comm]

theorem number_field_of_lt {width value : Nat} (fits : value < 256 ^ width) :
    number (field width value) = value := by
  rw [number_field, Nat.mod_eq_of_lt fits]

theorem field_mod (width value high : Nat) :
    field width (high * 256 ^ width + value) = field width value := by
  induction width generalizing high with
  | zero => rfl
  | succ width inductionHypothesis =>
      have lower : high * 256 ^ (width + 1) = high * 256 * 256 ^ width := by
        rw [Nat.pow_succ, Nat.mul_assoc, Nat.mul_comm (256 ^ width)]
      have power : 0 < 256 ^ width := Nat.pow_pos (by decide)
      rw [field, field, lower, inductionHypothesis]
      congr 1
      apply UInt8.toNat_inj.mp
      rw [UInt8.toNat_ofNat', UInt8.toNat_ofNat', Nat.add_comm,
        Nat.add_mul_div_right _ _ power, Nat.add_mul_mod_self_right]

/-- Bytes are the field of their number. -/
theorem field_number (bytes : List UInt8) : field bytes.length (number bytes) = bytes := by
  induction bytes with
  | nil => rfl
  | cons byte bytes inductionHypothesis =>
      have power : 0 < 256 ^ bytes.length := Nat.pow_pos (by decide)
      have top : number (byte :: bytes) / 256 ^ bytes.length = byte.toNat := by
        rw [number_cons, Nat.add_comm, Nat.add_mul_div_right _ _ power,
          Nat.div_eq_of_lt (number_lt bytes), Nat.zero_add]
      rw [List.length_cons, field, top, number_cons, field_mod, inductionHypothesis,
        UInt8.ofNat_toNat]

/-! ### Fields within bytes -/

theorem take_field (width value : Nat) (rest : List UInt8) :
    (field width value ++ rest).take width = field width value :=
  List.take_left' (length_field width value)

theorem drop_field (width value : Nat) (rest : List UInt8) :
    (field width value ++ rest).drop width = rest :=
  List.drop_left' (length_field width value)

/-- What stands at a place is the field of the number read there, and what follows it. -/
theorem drop_eq_field {bytes : List UInt8} {place width : Nat}
    (inside : place + width ≤ bytes.length) :
    bytes.drop place =
      field width (number ((bytes.drop place).take width)) ++ bytes.drop (place + width) := by
  have taken : ((bytes.drop place).take width).length = width := by
    rw [List.length_take, List.length_drop]
    omega
  calc
    bytes.drop place = (bytes.drop place).take width ++ (bytes.drop place).drop width :=
      (List.take_append_drop width _).symm
    _ = field width (number ((bytes.drop place).take width)) ++ bytes.drop (place + width) := by
      rw [List.drop_drop]
      conv => lhs; rw [← field_number ((bytes.drop place).take width), taken]

theorem drop_eq_byte {bytes : List UInt8} {place : Nat} (inside : place < bytes.length) :
    bytes.drop place = UInt8.ofNat (bytes.getD place 0).toNat :: bytes.drop (place + 1) := by
  rw [UInt8.ofNat_toNat, List.getD_eq_getElem _ _ inside]
  exact List.drop_eq_getElem_cons inside

end JooanW3U.Library.BigEndian
