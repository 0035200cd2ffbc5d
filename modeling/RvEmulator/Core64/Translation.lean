import RvEmulator.Core64.Mmu
import RvEmulator.Mmu.Transparency
import RvEmulator.Platform.RamBus

/-! Sv39 is a lawful paging scheme, and its TLB is transparent. -/

namespace RvEmulator.Core64

open Library

namespace Sv39

theorem ptePpn_of_marks {old new : Xlen} (marks : Marks old new) : ptePpn new = ptePpn old := by
  unfold ptePpn
  rw [marks.and_eq (by decide) (by decide)]

theorem leafShift_toNat {level : Nat} (inside : level < 3) :
    (sv39.leafShift level).toNat = 12 + 9 * level := by
  simp only [sv39, BitVec.toNat_ofNat]
  omega

/-- The masks of a level, bit by bit. -/
theorem getLsbD_masks {level : Nat} (inside : level < 3) :
    (∀ i < 64, (lowerPpnMask level).getLsbD i = decide (i < 9 * level)) ∧
      ∀ i < 64, (sv39.offsetMask (sv39.leafShift level)).getLsbD i =
        decide (i < 12 + 9 * level) := by
  match level, inside with
  | 0, _ | 1, _ | 2, _ => decide

/-- A physical address, bit by bit: the page offset comes from the virtual
address, the rest from the entry. -/
theorem getLsbD_physicalAddress {level : Nat} (inside : level < 3) (pte virtualAddress : Xlen)
    {i : Nat} (small : i < 64) :
    (physicalAddress level pte virtualAddress).getLsbD i =
      if i < 12 + 9 * level then virtualAddress.getLsbD i else (ptePpn pte).getLsbD (i - 12) := by
  obtain ⟨lower, _⟩ := getLsbD_masks inside
  have offset : ∀ j < 64, (0xFFF : Xlen).getLsbD j = decide (j < 12) := by decide
  unfold physicalAddress
  dsimp only
  rw [BitVec.getLsbD_or, BitVec.getLsbD_shiftLeft, BitVec.getLsbD_and, offset i small]
  by_cases low : i < 12
  · simp [low, show i < 12 + 9 * level by omega]
  · rw [BitVec.getLsbD_or, BitVec.getLsbD_and, BitVec.getLsbD_and, BitVec.getLsbD_not,
      BitVec.getLsbD_ushiftRight, lower (i - 12) (by omega), show 12 + (i - 12) = i by omega]
    by_cases inPage : i < 12 + 9 * level
    · simp [low, small, inPage, show i - 12 < 9 * level by omega]
    · simp [low, small, inPage, show ¬i - 12 < 9 * level by omega, show i - 12 < 64 by omega]

end Sv39

open Sv39 in
theorem lawful_sv39 : LawfulPaging sv39 where
  narrow := Nat.le_refl 64
  levels := by decide
  entries := by
    intro level upper virtualAddress other table below inside page
    have small : upper < 3 := inside
    rw [leafShift_toNat (by omega)] at page
    obtain ⟨extra, same⟩ := Nat.exists_eq_add_of_le (show 12 + 9 * level ≤ 12 + 9 * upper by omega)
    simp only [sv39, vpn]
    rw [same, BitVec.shiftRight_add other (12 + 9 * level),
      BitVec.shiftRight_add virtualAddress (12 + 9 * level), page]
  page := by
    intro level pte virtualAddress other inside _
    have small : level < 3 := inside
    obtain ⟨_, offset⟩ := getLsbD_masks small
    apply BitVec.eq_of_getLsbD_eq
    intro i bound
    rw [BitVec.getLsbD_or, BitVec.getLsbD_and, BitVec.getLsbD_not, BitVec.getLsbD_setWidth,
      BitVec.getLsbD_setWidth, BitVec.getLsbD_and, offset i bound]
    simp only [sv39]
    rw [getLsbD_physicalAddress small pte virtualAddress bound,
      getLsbD_physicalAddress small pte other bound]
    by_cases low : i < 12 + 9 * level <;> simp [low, bound]
  coarse := by
    intro level inside
    rw [leafShift_toNat inside]
    omega
  reserved := by decide
  nextTable := by
    intro old new marks
    simp only [sv39]
    rw [ptePpn_of_marks marks]
  misaligned := by
    intro old new level marks
    simp only [sv39]
    rw [ptePpn_of_marks marks]
  physicalAddress := by
    intro old new virtualAddress level marks
    simp only [sv39, physicalAddress]
    rw [ptePpn_of_marks marks]

/-- The Sv39 TLB is transparent: after any sequence of translations, fences and
stores, a translation gives the result and the memory of an uncached one, if
every change of an entry on the address's path was fenced and if the roots used
agree on globally mapped addresses. -/
theorem tlbTranslate_transparent [CpuBus β] (quiet : QuietBus β)
    (readsBack : sv39.ReadsBack quiet) (bus : β) (memory : quiet.same bus bus)
    (operations : List (TlbOperation 64)) (state : CpuSnapshot) (virtualAddress : Xlen)
    (access : MemoryAccessType) :
    let run := TlbRun.of sv39 bus operations
    let satp := (translationContext state access).satp
    let satps := satp :: usedSatps sv39 run.log
    Flushed sv39 run.log satps virtualAddress (sv39.asid satp) →
    GlobalsAgree sv39 run.bus satps virtualAddress →
    (tlbTranslate state virtualAddress access (run.bus, run.tlb)).1 =
        (translateAddress state virtualAddress access run.bus).1 ∧
      quiet.same (tlbTranslate state virtualAddress access (run.bus, run.tlb)).2.1
        (translateAddress state virtualAddress access run.bus).2 := by
  intro run satp satps flushed agree
  obtain ⟨self, accounted⟩ := TlbRun.accounted_of lawful_sv39 readsBack memory operations
  refine Tlb.translate_of_fresh lawful_sv39 self ?_
  intro _ _ entry cached
  exact accounted.fresh lawful_sv39 flushed agree cached

theorem readsBack_systemBus : sv39.ReadsBack (Platform.SystemBus.quiet Platform.Ram) :=
  Paging.readsBack_of_ramLike (by decide) Platform.SystemBus.ramLike

/-- A root table at the beginning of memory, which maps the lowest gigabyte to
the memory. -/
def sampleTables : Platform.SystemBus Platform.Ram :=
  .ofProgram 0x80000000 0x4000 [0x2000000F, 0]

/-- Supervisor mode, with the page tables above. -/
def sampleState : CpuSnapshot where
  privilege := .supervisor
  supervisorCsrs := { satp := 0x8000000000080000 }

/-- An address is translated, mapped elsewhere, and fenced. -/
def sampleRemapping : List (TlbOperation 64) :=
  [.translate (translationContext sampleState .load) 0x1000 .load,
    .store (.write 0x80000000 .doubleWord 0x1000000F .store), .sfenceVma none none]

def sampleFenced : TlbRun 64 (Platform.SystemBus Platform.Ram) :=
  .of sv39 sampleTables sampleRemapping

/-- It is translated again, which marks the leaf. -/
def sampleRetranslated : List (TlbOperation 64) :=
  sampleRemapping ++ [.translate (translationContext sampleState .load) 0x1000 .load]

/-- The mark is no change that had to be fenced. -/
theorem sampleMarked : sv39.Unchanged AdUpdate sampleFenced.bus
    (TlbRun.of sv39 sampleTables sampleRetranslated).bus 0x8000000000080000 0x1008 := by
  have path : sv39.path sampleFenced.bus 0x8000000000080000 0x1008 = [0x80000000] := by
    decide
  have before : sv39.wordAt sampleFenced.bus 0x80000000 = .ok 0x1000000F := rfl
  have after : sv39.wordAt (TlbRun.of sv39 sampleTables sampleRetranslated).bus 0x80000000 =
      .ok 0x1000004F := rfl
  intro address inside
  rw [path, List.mem_singleton] at inside
  rw [inside, before, after]
  exact .ok ⟨marks_updatedPte 0x1000000F .load, .inr (by decide)⟩

/-- The last translation finds in the TLB what the one after the fence left there. -/
theorem tlbTranslate_transparent_remapped :
    let run := TlbRun.of sv39 sampleTables sampleRetranslated
    (Tlb.lookup sv39 run.tlb (translationContext sampleState .load) 0x1008 .load).isSome = true ∧
      (tlbTranslate sampleState 0x1008 .load (run.bus, run.tlb)).1 =
        (translateAddress sampleState 0x1008 .load run.bus).1 ∧
      (Platform.SystemBus.quiet Platform.Ram).same
        (tlbTranslate sampleState 0x1008 .load (run.bus, run.tlb)).2.1
        (translateAddress sampleState 0x1008 .load run.bus).2 := by
  have layout : Platform.Layout sampleTables.ranges :=
    Platform.SystemBus.layout_ofProgram _ ⟨by decide, by decide⟩
  have root : ∀ satp ∈ (translationContext sampleState .load).satp ::
      usedSatps sv39 (TlbRun.of sv39 sampleTables sampleRetranslated).log,
      satp = 0x8000000000080000 := by
    intro satp member
    have walked : satp ∈ [(0x8000000000080000 : Xlen), 0x8000000000080000, 0x8000000000080000] :=
      member
    simpa using walked
  refine ⟨by decide, tlbTranslate_transparent (Platform.SystemBus.quiet Platform.Ram)
    readsBack_systemBus sampleTables (.self layout) sampleRetranslated sampleState 0x1008 .load ?_
    (globalsAgree_of_root root)⟩
  refine (flushed_of_sfenceVma sv39 _ _ _ _ _).cons fun satp member => not_not.mpr ?_
  rw [root satp member]
  exact sampleMarked

end RvEmulator.Core64
