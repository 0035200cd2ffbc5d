import RvEmulator.Core32.Mmu
import RvEmulator.Mmu.Transparency
import RvEmulator.Platform.RamBus

/-! Sv32 is a lawful paging scheme, and its TLB is transparent. -/

namespace RvEmulator.Core32

open Library

namespace Sv32

theorem ptePpn_of_marks {old new : Xlen} (marks : Marks old new) : ptePpn new = ptePpn old := by
  apply BitVec.eq_of_getLsbD_eq
  intro i _
  unfold ptePpn
  rw [BitVec.getLsbD_ushiftRight, BitVec.getLsbD_ushiftRight,
    marks.same (10 + i) (by omega) (by omega)]

theorem leafShift_toNat {level : Nat} (inside : level < 2) :
    (sv32.leafShift level).toNat = 12 + 10 * level := by
  match level, inside with
  | 0, _ | 1, _ => rfl

theorem vpn_eq_shift (virtualAddress : Xlen) {level : Nat} (inside : level < 2) :
    vpn virtualAddress level = (virtualAddress >>> (12 + 10 * level)) &&& 0x3FF := by
  match level, inside with
  | 0, _ | 1, _ => rfl

theorem getLsbD_offsetMask {level : Nat} (inside : level < 2) :
    ∀ i < 32, (sv32.offsetMask (sv32.leafShift level)).getLsbD i = decide (i < 12 + 10 * level) := by
  match level, inside with
  | 0, _ | 1, _ => decide

/-- A physical address, bit by bit: the page offset comes from the virtual
address, the rest from the entry. -/
theorem getLsbD_physicalAddress {level : Nat} (inside : level < 2) (pte virtualAddress : Xlen)
    {i : Nat} (small : i < 64) :
    (physicalAddress level pte virtualAddress).getLsbD i =
      if i < 12 + 10 * level then virtualAddress.getLsbD i else (ptePpn pte).getLsbD (i - 12) := by
  have offset : ∀ j, (0xFFF : Xlen).getLsbD j = decide (j < 12) := by
    intro j
    by_cases inside : j < 32
    · exact (by decide : ∀ j < 32, (0xFFF : Xlen).getLsbD j = decide (j < 12)) j inside
    · rw [BitVec.getLsbD_of_ge _ _ (by omega)]
      simp
      omega
  have index : ∀ j, (0x3FF : Xlen).getLsbD j = decide (j < 10) := by
    intro j
    by_cases inside : j < 32
    · exact (by decide : ∀ j < 32, (0x3FF : Xlen).getLsbD j = decide (j < 10)) j inside
    · rw [BitVec.getLsbD_of_ge _ _ (by omega)]
      simp
      omega
  have low : (((virtualAddress &&& 0xFFF).setWidth 64 : PhysAddr)).getLsbD i =
      (decide (i < 12) && virtualAddress.getLsbD i) := by
    rw [BitVec.getLsbD_setWidth, BitVec.getLsbD_and, offset]
    simp [-BitVec.getLsbD_eq_getElem, small, Bool.and_comm]
  unfold physicalAddress
  match level, inside with
  | 0, _ =>
    dsimp only
    rw [if_neg (by decide), BitVec.getLsbD_or, low, BitVec.getLsbD_shiftLeft,
      BitVec.getLsbD_setWidth]
    by_cases below : i < 12
    · simp [-BitVec.getLsbD_eq_getElem, below]
    · simp [-BitVec.getLsbD_eq_getElem, below, small, show i - 12 < 64 by omega]
  | 1, _ =>
    dsimp only
    unfold vpn
    rw [if_pos rfl, if_pos rfl, BitVec.getLsbD_or, BitVec.getLsbD_or, low,
      BitVec.getLsbD_shiftLeft, BitVec.getLsbD_shiftLeft, BitVec.getLsbD_setWidth,
      BitVec.getLsbD_setWidth, BitVec.getLsbD_and, BitVec.getLsbD_and, BitVec.getLsbD_not, index,
      BitVec.getLsbD_ushiftRight]
    by_cases below : i < 12
    · simp [-BitVec.getLsbD_eq_getElem, below, show i < 22 by omega]
    · rw [show 12 + (i - 12) = i by omega]
      by_cases inPage : i < 22
      · simp [-BitVec.getLsbD_eq_getElem, below, small, inPage, show i - 12 < 10 by omega,
          show i - 12 < 64 by omega]
      · by_cases within : i - 12 < 32
        · simp [-BitVec.getLsbD_eq_getElem, below, small, inPage, within,
            show ¬i - 12 < 10 by omega, show i - 12 < 64 by omega]
        · rw [BitVec.getLsbD_of_ge (ptePpn pte) _ (by omega)]
          simp [-BitVec.getLsbD_eq_getElem, below, inPage, show ¬i - 12 < 10 by omega]

end Sv32

open Sv32 in
theorem lawful_sv32 : LawfulPaging sv32 where
  narrow := by decide
  levels := by decide
  entries := by
    intro level upper virtualAddress other table below inside page
    have small : upper < 2 := inside
    rw [leafShift_toNat (by omega)] at page
    obtain ⟨extra, same⟩ :=
      Nat.exists_eq_add_of_le (show 12 + 10 * level ≤ 12 + 10 * upper by omega)
    simp only [sv32]
    rw [vpn_eq_shift _ small, vpn_eq_shift _ small, same,
      BitVec.shiftRight_add other (12 + 10 * level),
      BitVec.shiftRight_add virtualAddress (12 + 10 * level), page]
  page := by
    intro level pte virtualAddress other inside _
    have small : level < 2 := inside
    have offset := getLsbD_offsetMask small
    apply BitVec.eq_of_getLsbD_eq
    intro i bound
    rw [BitVec.getLsbD_or, BitVec.getLsbD_and, BitVec.getLsbD_not, BitVec.getLsbD_setWidth,
      BitVec.getLsbD_setWidth, BitVec.getLsbD_and]
    simp only [sv32] at offset ⊢
    rw [getLsbD_physicalAddress small pte virtualAddress bound,
      getLsbD_physicalAddress small pte other bound]
    by_cases narrow : i < 32
    · rw [offset i narrow]
      by_cases low : i < 12 + 10 * level <;> simp [-BitVec.getLsbD_eq_getElem, low, bound]
    · rw [BitVec.getLsbD_of_ge (addressMask _) i (by omega)]
      simp [-BitVec.getLsbD_eq_getElem, bound, show ¬i < 12 + 10 * level by omega]
  coarse := by
    intro level inside
    rw [leafShift_toNat inside]
    omega
  reserved := by decide
  nextTable := by
    intro old new marks
    simp only [sv32]
    rw [ptePpn_of_marks marks]
  misaligned := by
    intro old new level marks
    simp only [sv32]
    rw [ptePpn_of_marks marks]
  physicalAddress := by
    intro old new virtualAddress level marks
    simp only [sv32, physicalAddress]
    rw [ptePpn_of_marks marks]

end RvEmulator.Core32
