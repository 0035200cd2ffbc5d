import RvEmulator.Library.LittleEndian

/-! Byte-addressed memory under accesses of several widths. -/

namespace RvEmulator.Library

theorem byteOf_of_le (value : BitVec 64) {index : Nat} (beyond : 8 ≤ index) :
    byteOf value index = 0 := by
  apply BitVec.eq_of_getLsbD_eq
  intro i small
  rw [getLsbD_byteOf value index small, BitVec.getLsbD_of_ge value _ (by omega)]
  simp

/-- The bytes that a value was assembled from; what is above them is zero. -/
theorem byteOf_assemble (byte : Nat → BitVec 8) {count : Nat} (short : count ≤ 8) (index : Nat) :
    byteOf (assemble byte count) index = if index < count then byte index else 0 := by
  by_cases beyond : 8 ≤ index
  · rw [byteOf_of_le _ beyond, if_neg (by omega)]
  apply BitVec.eq_of_getLsbD_eq
  intro i small
  have place : (index * 8 + i) / 8 = index := by omega
  have rest : (index * 8 + i) % 8 = i := by omega
  rw [getLsbD_byteOf _ _ small, getLsbD_assemble byte count (by omega), place, rest]
  by_cases inside : index < count
  · have below : index * 8 + i < count * 8 := by omega
    simp [inside, below]
  · have above : ¬index * 8 + i < count * 8 := by omega
    simp [inside, above]

/-- One byte in each cell. -/
abbrev Cells := Nat → BitVec 8

namespace Cells

def load (cells : Cells) (offset count : Nat) : BitVec 64 :=
  assemble (fun index => cells (offset + index)) count

def store (cells : Cells) (offset count : Nat) (value : BitVec 64) : Cells := fun place =>
  if offset ≤ place ∧ place < offset + count then byteOf value (place - offset) else cells place

theorem byteOf_load (cells : Cells) (offset : Nat) {count : Nat} (short : count ≤ 8)
    (index : Nat) :
    byteOf (cells.load offset count) index = if index < count then cells (offset + index) else 0 :=
  byteOf_assemble _ short index

/-- Stores of disjoint ranges commute. -/
theorem store_comm (cells : Cells) {offset count other length : Nat} (value word : BitVec 64)
    (apart : offset + count ≤ other ∨ other + length ≤ offset) :
    (cells.store offset count value).store other length word =
      (cells.store other length word).store offset count value := by
  funext place
  unfold store
  by_cases inside : offset ≤ place ∧ place < offset + count
  · have outside : ¬(other ≤ place ∧ place < other + length) := by omega
    simp only [if_pos inside, if_neg outside]
  · simp only [if_neg inside]

end Cells

end RvEmulator.Library
