import RvEmulator.Mmu.Freshness

/-! Memory that nobody but the page walker has written to. -/

namespace RvEmulator

open Library

section

variable [CpuBus β] (ram : RamLike β) (paging : Paging w)

/-- Memory after some page walks under `satp`. Each of them found a leaf and set
the accessed bit in it, and for a store the dirty bit. -/
inductive RamLike.Marked (satp : BitVec w) (before : β) : β → Prop where
  | unchanged (same : ram.contents after = ram.contents before) : Marked satp before after
  | marked (earlier : Marked satp before middle) (memory : ram.same middle middle)
      (resolved : paging.resolve middle satp virtualAddress = .leaf found)
      (access : MemoryAccessType)
      (stored : ram.contents after = (ram.contents middle).put found.address paging.width.bytes
        ((updatedPte found.word access).setWidth 64)) : Marked satp before after

variable {ram paging}

theorem RamLike.Marked.congr {satp : BitVec w} {before middle after : β}
    (marked : ram.Marked paging satp before middle)
    (same : ram.contents after = ram.contents middle) : ram.Marked paging satp before after := by
  cases marked with
  | unchanged earlier => exact .unchanged (same.trans earlier)
  | marked earlier memory resolved access stored =>
    exact .marked earlier memory resolved access (same.trans stored)

/-- Every byte keeps its bits, but for some that were set at the positions of
the marks. -/
theorem RamLike.Marked.bytes (whole : paging.width.bytes * 8 = w) {satp : BitVec w}
    {before after : β} (marked : ram.Marked paging satp before after) (address : PhysAddr) :
    Marks (ram.contents before address) (ram.contents after address) := by
  induction marked with
  | unchanged same =>
    rw [same]
    exact .refl _
  | @marked middle virtualAddress found after _ memory resolved access stored ih =>
    refine ih.trans ?_
    rw [stored, Memory.put]
    by_cases near : (address - found.address).toNat < paging.width.bytes
    · have narrow := paging.width.bytes_le
      have held : ∀ i < 8, found.word.getLsbD ((address - found.address).toNat * 8 + i) =
          (ram.contents middle address).getLsbD i := by
        intro i small
        obtain ⟨_, word, _⟩ := paging.format.leaf_of_resolve resolved
        obtain ⟨readable, value⟩ := paging.read_of_wordAt word
        have place : found.address +
            BitVec.ofNat 64 (((address - found.address).toNat * 8 + i) / 8) = address := by
          rw [show ((address - found.address).toNat * 8 + i) / 8 = (address - found.address).toNat by
            omega, BitVec.ofNat_toNat, BitVec.setWidth_eq, BitVec.add_comm, BitVec.sub_add_cancel]
        rw [← value, ram.read_value memory readable, BitVec.getLsbD_setWidth,
          Memory.getLsbD_get _ _ _ (by omega), place,
          show ((address - found.address).toNat * 8 + i) % 8 = i by omega]
        simp only [show (address - found.address).toNat * 8 + i < w by omega,
          show (address - found.address).toNat * 8 + i < paging.width.bytes * 8 by omega,
          decide_true, Bool.true_and]
      have updated : ∀ i < 8,
          (byteOf ((updatedPte found.word access).setWidth 64)
            (address - found.address).toNat).getLsbD i =
          (updatedPte found.word access).getLsbD ((address - found.address).toNat * 8 + i) := by
        intro i small
        rw [getLsbD_byteOf _ _ small, BitVec.getLsbD_setWidth]
        simp only [show (address - found.address).toNat * 8 + i < 64 by omega, decide_true,
          Bool.true_and]
      have marks := marks_updatedPte found.word access
      rw [if_pos near]
      constructor
      · intro i accessed dirty
        by_cases small : i < 8
        · rw [updated i small, ← held i small]
          exact marks.same _ (by omega) (by omega)
        · rw [BitVec.getLsbD_of_ge _ _ (by omega), BitVec.getLsbD_of_ge _ _ (by omega)]
      · intro i set
        have small : i < 8 := BitVec.lt_of_getLsbD set
        rw [updated i small]
        exact marks.grown _ (by rw [held i small]; exact set)
    · rw [if_neg near]
      exact .refl _

/-- A page walk leaves memory as it was, or marks the leaf that it found. -/
theorem RamLike.Marked.walk {context : TranslationContext w} {before bus : β}
    (marked : ram.Marked paging context.satp before bus) (memory : ram.same bus bus)
    (virtualAddress : BitVec w) (access : MemoryAccessType) :
    ram.same (paging.walkAddress context virtualAddress access bus).2
        (paging.walkAddress context virtualAddress access bus).2 ∧
      ram.Marked paging context.satp before
        (paging.walkAddress context virtualAddress access bus).2 := by
  obtain ⟨reached, same, walked⟩ :=
    paging.walkAddress_eq ram.toQuietBus context virtualAddress access memory
  have self := ram.self_left same
  have kept := ram.contents_same same
  have ended := (paging.finish_same ram.toQuietBus context virtualAddress access
    (paging.resolve bus context.satp virtualAddress) self).2
  rw [walked]
  refine ⟨ended, ?_⟩
  cases resolved : paging.resolve bus context.satp virtualAddress with
  | fault reason => exact marked.congr kept
  | invalid => exact marked.congr kept
  | leaf found =>
    have finished := paging.finished context virtualAddress access found reached
    generalize paging.finish context virtualAddress access (.leaf found) reached = answer
      at finished
    cases finished with
    | refused | clean => exact marked.congr kept
    | marked aligned allowed needed stored =>
      refine .marked marked memory resolved access ?_
      rw [← kept]
      exact ram.written self stored
    | failed needed fault => exact marked.congr ((ram.refused self fault).trans kept)

/-- So does a translation, with or without the TLB. -/
theorem RamLike.Marked.translateAddress {context : TranslationContext w} {before bus : β}
    (marked : ram.Marked paging context.satp before bus) (memory : ram.same bus bus)
    (virtualAddress : BitVec w) (access : MemoryAccessType) :
    ram.same (paging.translateAddress context virtualAddress access bus).2
        (paging.translateAddress context virtualAddress access bus).2 ∧
      ram.Marked paging context.satp before
        (paging.translateAddress context virtualAddress access bus).2 := by
  unfold Paging.translateAddress
  split
  · exact ⟨memory, marked⟩
  split
  · exact ⟨memory, marked⟩
  · exact marked.walk memory virtualAddress access

theorem RamLike.Marked.tlbTranslate {context : TranslationContext w} {before bus : β}
    (marked : ram.Marked paging context.satp before bus) (memory : ram.same bus bus)
    (virtualAddress : BitVec w) (access : MemoryAccessType) (tlb : Tlb w) :
    ram.same (Tlb.translate paging context virtualAddress access (bus, tlb)).2.1
        (Tlb.translate paging context virtualAddress access (bus, tlb)).2.1 ∧
      ram.Marked paging context.satp before
        (Tlb.translate paging context virtualAddress access (bus, tlb)).2.1 := by
  have walked := marked.walk memory virtualAddress access
  unfold Tlb.translate
  dsimp only
  split
  · exact ⟨memory, marked⟩
  split
  · exact ⟨memory, marked⟩
  split
  · exact ⟨memory, marked⟩
  split <;> exact walked

variable (ram paging) in
/-- Nothing but walks from `satp` has changed memory. -/
def RamLike.Kept (satp : BitVec w) (before bus : β) : Prop :=
  ram.same bus bus ∧ ram.Marked paging satp before bus

theorem RamLike.Kept.read {satp : BitVec w} {before bus : β}
    (kept : ram.Kept paging satp before bus) (address : PhysAddr) (width : AccessWidth)
    (kind : AccessKind) :
    ram.Kept paging satp before (CpuBus.read address width kind bus).2 :=
  ⟨(ram.perform (.read address width kind) kept.1).2,
    kept.2.congr (ram.contents_read kept.1 address width kind)⟩

end

end RvEmulator
