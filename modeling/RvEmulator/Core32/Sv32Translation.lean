import RvEmulator.Core32.Sv32Algorithm

/-! `translate_address` computes the algorithm of the privileged architecture, and the
TLB in front of it goes unnoticed. -/

namespace RvEmulator.Core32

open Library

namespace Sv32Algorithm

/-! ### The walk -/

theorem classify_eq (level : Nat) (word : Xlen) :
    sv32.classify level word =
      if ¬(Entry.ofWord word).valid ∨
          (¬(Entry.ofWord word).readable ∧ (Entry.ofWord word).writable) then .invalid
      else if (Entry.ofWord word).readable ∨ (Entry.ofWord word).executable then
        .leaf (flag word PteBits.global)
      else if ((Entry.ofWord word).user ∨ (Entry.ofWord word).accessed ∨
          (Entry.ofWord word).dirty) ∨ level = 0 then .invalid
      else .table (((Entry.ofWord word).ppn.setWidth 32).setWidth 64 <<< 12)
        (flag word PteBits.global) := by
  have pointer : flag word (PteBits.user ||| PteBits.accessed ||| PteBits.dirty) = true ↔
      ((Entry.ofWord word).user ∨ (Entry.ofWord word).accessed ∨ (Entry.ofWord word).dirty) := by
    rw [flag_pointer, Bool.or_eq_true, Bool.or_eq_true, or_assoc]
    rfl
  have reserved : flag word sv32.reserved = false := by simp [flag, sv32]
  have next : sv32.nextTable word =
      ((Entry.ofWord word).ppn.setWidth 32).setWidth 64 <<< 12 := by
    dsimp only [sv32]
    rw [ptePpn_eq]
  unfold Paging.classify
  rw [next, reserved]
  simp only [Bool.or_eq_true, pointer, PteBits.valid, PteBits.read, PteBits.write,
    PteBits.execute, flag_shift]
  unfold Entry.ofWord
  cases word.getLsbD 1 <;> cases word.getLsbD 3 <;> cases word.getLsbD 0 <;>
    cases word.getLsbD 2 <;> simp

section

variable [CpuBus β]

/-- The word at an address, as a page walk reads it. -/
def load (bus : β) (address : BitVec 34) : Except BusFault Xlen :=
  let result := (CpuBus.read (address.setWidth 64) .word .pageTableWalk bus).1
  if result.ok then .ok (result.value.setWidth 32) else .error result.fault

/-- The answer to a page walk's write of a word. -/
def store (bus : β) (address : BitVec 34) (word : Xlen) : BusFault :=
  (CpuBus.write (address.setWidth 64) .word (word.setWidth 64) .pageTableWalk bus).1

/-- The algorithm on a bus: the result, and the memory after it. -/
def Computes (ram : RamLike β) (bus : β) (answer : TranslationResult × β)
    (outcome : TranslationResult × Option (BitVec 34 × Xlen)) : Prop :=
  answer.1 = outcome.1 ∧
    ram.contents answer.2 =
      match outcome.2 with
      | none => ram.contents bus
      | some (address, word) =>
        (ram.contents bus).put (address.setWidth 64) 4 (word.setWidth 64)

theorem computes_leaf (ram : RamLike β) {bus reached : β} (equal : ram.same reached bus)
    {context : TranslationContext 32} (below : context.privilege ≠ .machine)
    (virtualAddress : Xlen) (access : MemoryAccessType) {found : Leaf PhysAddr Xlen}
    (inside : found.level < 2) {address : BitVec 34} (same : found.address = address.setWidth 64) :
    let finished := sv32.finish context virtualAddress access (.leaf found) reached
    Computes ram bus (finished.1.1, finished.2)
      (atLeaf (store bus) context.privilege (context.mstatus.getLsbD 18)
        (context.mstatus.getLsbD 19) virtualAddress access found.level address found.word) := by
  have write := ram.perform (.write (address.setWidth 64) .word ((mark found.word access).setWidth 64)
    .pageTableWalk) equal
  have marking : sv32.markLeaf access found reached =
      CpuBus.write (address.setWidth 64) .word ((mark found.word access).setWidth 64) .pageTableWalk
        reached := by
    unfold Paging.markLeaf
    rw [updatedPte_eq, same]
    rfl
  have fault : (sv32.markLeaf access found reached).1 =
      store bus address (mark found.word access) := by
    rw [marking]
    exact write.1
  have after : ram.contents
        (sv32.markLeaf access found reached).2 =
      ram.contents (CpuBus.write (address.setWidth 64) .word ((mark found.word access).setWidth 64)
        .pageTableWalk bus).2 := by
    rw [marking]
    exact ram.contents_same write.2
  have self := ram.self_right equal
  have refused : (sv32.misaligned found.level found.word ||
      !privilegeAllows found.word context.privilege access context.mstatus) = true ↔
      ¬PageAllows (Entry.ofWord found.word) context.privilege (context.mstatus.getLsbD 18) access ∨
        ¬Permits (Entry.ofWord found.word) (context.mstatus.getLsbD 19) access ∨
        ¬Aligned (Entry.ofWord found.word) found.level := by
    rw [Bool.or_eq_true, misaligned_iff inside, Bool.not_eq_true', ← Bool.not_eq_true,
      privilegeAllows_iff below, not_and_or, or_comm, or_assoc]
  have clean : updatedPte found.word access = found.word ↔ (Entry.ofWord found.word).accessed = true ∧
      (access = .store → (Entry.ofWord found.word).dirty = true) :=
    updatedPte_eq_self_bits (by decide) found.word access
  intro finished
  have ended : finished = _ := sv32.finishWalk_written context virtualAddress access
    found reached
  rw [ended, physicalAddress_eq inside, fault]
  simp only [refused, ne_eq, clean]
  unfold atLeaf
  dsimp only
  split
  · exact ⟨rfl, ram.contents_same equal⟩
  split
  · split
    · rename_i failed
      have kept := after.trans (ram.refused self failed)
      cases refusal : store bus address (mark found.word access) with
      | none => exact absurd refusal failed
      | _ => exact ⟨rfl, kept⟩
    · rename_i stored
      rw [not_not] at stored
      rw [stored]
      exact ⟨rfl, after.trans (ram.written self stored)⟩
  · rename_i marked
    rw [if_pos (not_not.mp marked)]
    exact ⟨rfl, ram.contents_same equal⟩

end

end Sv32Algorithm

/-- A root table at the beginning of memory, which maps the lowest superpage to
the memory. -/
def sampleTables : Platform.SystemBus Platform.Ram :=
  .ofProgram 0x80000000 0x4000 [0x2000000F]

/-- Supervisor mode, with the page tables above. -/
def sampleState : CpuSnapshot where
  privilege := .supervisor
  supervisorCsrs := { satp := 0x80080000 }

/-- An address is translated, mapped elsewhere, and fenced. -/
def sampleRemapping : List (TlbOperation 32) :=
  [.translate (translationContext sampleState .load) 0x1000 .load,
    .store (.write 0x80000000 .word 0x2010000F .store), .sfenceVma none none]

def sampleFenced : TlbRun 32 (Platform.SystemBus Platform.Ram) :=
  .of sv32 sampleTables sampleRemapping

/-- It is translated again, which marks the leaf. -/
def sampleRetranslated : List (TlbOperation 32) :=
  sampleRemapping ++ [.translate (translationContext sampleState .load) 0x1000 .load]

/-- The mark is no change that had to be fenced. -/
theorem sampleMarked : sv32.Unchanged AdUpdate sampleFenced.bus
    (TlbRun.of sv32 sampleTables sampleRetranslated).bus 0x80080000 0x1008 := by
  have path : sv32.path sampleFenced.bus 0x80080000 0x1008 = [0x80000000] := by
    decide
  have before : sv32.wordAt sampleFenced.bus 0x80000000 = .ok 0x2010000F := rfl
  have after : sv32.wordAt (TlbRun.of sv32 sampleTables sampleRetranslated).bus 0x80000000 =
      .ok 0x2010004F := rfl
  intro address inside
  rw [path, List.mem_singleton] at inside
  rw [inside, before, after]
  exact .ok ⟨marks_updatedPte 0x2010000F .load, .inr (by decide)⟩

end RvEmulator.Core32
