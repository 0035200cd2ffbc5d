import Mathlib.Algebra.Ring.Nat
import Mathlib.Order.Bounds.Defs

/-! Powers of two, and the least multiple of one that is not below a value, as machine
words compute them. -/

namespace RvEmulator.Library

/-- The least multiple of an alignment that is not below a value. -/
def roundUp (value alignment : Nat) : Nat := (value + alignment - 1) / alignment * alignment

theorem isLeast_roundUp (value : Nat) {alignment : Nat} (positive : 0 < alignment) :
    IsLeast { multiple | alignment ∣ multiple ∧ value ≤ multiple } (roundUp value alignment) := by
  have split := Nat.div_add_mod (value + alignment - 1) alignment
  have rest := Nat.mod_lt (value + alignment - 1) positive
  rw [Nat.mul_comm] at split
  refine ⟨⟨Nat.dvd_mul_left _ _, ?_⟩, ?_⟩
  · unfold roundUp
    omega
  · rintro _ ⟨⟨count, rfl⟩, above⟩
    have few : (value + alignment - 1) / alignment < count + 1 := by
      rw [Nat.div_lt_iff_lt_mul positive, Nat.succ_mul, Nat.mul_comm count]
      omega
    unfold roundUp
    rw [Nat.mul_comm alignment]
    exact Nat.mul_le_mul_right _ (Nat.le_of_lt_succ few)

theorem roundUp_lt (value : Nat) {alignment : Nat} (positive : 0 < alignment) :
    roundUp value alignment < value + alignment := by
  have floor := Nat.div_mul_le_self (value + alignment - 1) alignment
  unfold roundUp
  omega

/-- The test for a power of two. -/
theorem exists_two_pow {value : BitVec w} (nonzero : value ≠ 0)
    (single : value &&& (value - 1) = 0) : ∃ k, value.toNat = 2 ^ k := by
  have positive : value.toNat ≠ 0 := fun zero => nonzero (BitVec.eq_of_toNat_eq zero)
  have unit : (1 : BitVec w).toNat = 1 := by
    have wide := value.isLt
    exact (BitVec.toNat_ofNat 1 w).trans (Nat.mod_eq_of_lt (by omega))
  have bits := congrArg BitVec.toNat single
  rw [BitVec.toNat_and, BitVec.toNat_sub_of_le (BitVec.le_def.mpr (by omega)), unit] at bits
  exact (Nat.and_sub_one_eq_zero_iff_isPowerOfTwo positive).mp bits

/-- The bits below a power of two. -/
theorem toNat_and_mask (value : BitVec w) {mask : BitVec w} {k : Nat}
    (ones : mask.toNat = 2 ^ k - 1) : (value &&& mask).toNat = value.toNat % 2 ^ k := by
  rw [BitVec.toNat_and, ones, Nat.and_two_pow_sub_one_eq_mod]

/-- Clearing bits takes them away. -/
theorem and_not_eq_sub (value mask : BitVec w) : value &&& ~~~mask = value - (value &&& mask) := by
  rw [BitVec.eq_sub_iff_add_eq, BitVec.add_eq_or_of_and_eq_zero]
  · ext i inside
    simp only [BitVec.getElem_or, BitVec.getElem_and, BitVec.getElem_not]
    cases mask[i] <;> simp
  · ext i inside
    simp only [BitVec.getElem_and, BitVec.getElem_not, BitVec.getElem_zero]
    cases mask[i] <;> simp

/-- Clearing the bits below a power of two rounds down. -/
theorem toNat_and_not_mask (value : BitVec w) {mask : BitVec w} {k : Nat}
    (ones : mask.toNat = 2 ^ k - 1) :
    (value &&& ~~~mask).toNat = value.toNat / 2 ^ k * 2 ^ k := by
  have split := Nat.div_add_mod value.toNat (2 ^ k)
  have below : (value &&& mask).toNat ≤ value.toNat := by
    rw [BitVec.toNat_and]
    exact Nat.and_le_left
  rw [and_not_eq_sub, BitVec.toNat_sub_of_le (BitVec.le_def.mpr below), toNat_and_mask value ones,
    Nat.mul_comm]
  omega

end RvEmulator.Library
