import RvEmulator.Library.Keeping
import RvEmulator.Mmu.Fabric

/-! Facts about a bus that no command changes, and what of them survives a translation. Facts
about the bus and the instruction cache of a core, and the computations that keep them. -/

namespace RvEmulator

open Library

section

variable [CpuBus β] {known : β → Prop}

/-- Whatever command a bus takes, what is known of it stays known. -/
def CpuBus.Keeps (known : β → Prop) : Prop :=
  ∀ command bus, known bus → known (CpuBus.perform command bus).2

variable {paging : Paging w} {context : TranslationContext w} {virtualAddress : BitVec w}
  {access : MemoryAccessType}

theorem Paging.keeps_finishWalk (keeps : CpuBus.Keeps known) {bus : β} (before : known bus)
    (level : Nat) (pteAddress : PhysAddr) (pte : BitVec w) (inheritedGlobal : Bool) :
    known (paging.finishWalk context virtualAddress access level pteAddress pte inheritedGlobal
      bus).2 := by
  have written : known (CpuBus.write pteAddress paging.width ((updatedPte pte access).setWidth 64)
      .pageTableWalk bus).2 := keeps (.write ..) bus before
  unfold Paging.finishWalk
  split
  · exact before
  dsimp only
  split
  · simp only [bind, StateT.bind]
    generalize CpuBus.write _ _ _ _ bus = answer at written ⊢
    obtain ⟨fault, after⟩ := answer
    dsimp only
    split <;> exact written
  · exact before

theorem Paging.keeps_walkFrom (keeps : CpuBus.Keeps known) {bus : β} (before : known bus)
    (level : Nat) (tableAddress : PhysAddr) (inheritedGlobal : Bool) :
    known (paging.walkFrom context virtualAddress access level tableAddress inheritedGlobal
      bus).2 := by
  induction level generalizing bus tableAddress inheritedGlobal with
  | zero => exact before
  | succ level ih =>
    have walked : known (CpuBus.read (paging.entryAddress virtualAddress level tableAddress)
        paging.width .pageTableWalk bus).2 := keeps (.read ..) bus before
    unfold Paging.walkFrom
    simp only [bind, StateT.bind]
    generalize CpuBus.read _ _ _ bus = answer at walked ⊢
    obtain ⟨readResult, after⟩ := answer
    dsimp only
    split
    · exact walked
    split
    · exact walked
    split
    · split
      · exact walked
      · exact ih walked _ _
    · exact Paging.keeps_finishWalk keeps walked _ _ _ _

theorem Paging.keeps_translateAddress (keeps : CpuBus.Keeps known) {bus : β} (before : known bus) :
    known (paging.translateAddress context virtualAddress access bus).2 := by
  unfold Paging.translateAddress
  split
  · exact before
  split
  · exact before
  · exact Paging.keeps_walkFrom keeps before _ _ _

theorem Tlb.keeps_translate (keeps : CpuBus.Keeps known) {bus : β} (before : known bus)
    (tlb : Tlb w) :
    known (Tlb.translate paging context virtualAddress access (bus, tlb)).2.1 := by
  have walked : known (paging.walkAddress context virtualAddress access bus).2 :=
    Paging.keeps_walkFrom keeps before _ _ _
  unfold Tlb.translate
  dsimp only
  split
  · exact before
  split
  · exact before
  split
  · exact before
  split <;> exact walked

end

namespace CoreFabric

section

variable {known : β → InstructionCache w D → Prop}

/-- The computation keeps what is known of the bus and of the instruction cache. -/
abbrev Keeps (known : β → InstructionCache w D → Prop) (x : Exec (CoreFabric w D β) ε α) : Prop :=
  Exec.Keeps (fun fabric => known fabric.bus fabric.instructionCache) x

/-- Whatever is put into the instruction cache, what is known stays known. -/
def Inserts (indexing : CacheIndexing w) (known : β → InstructionCache w D → Prop) : Prop :=
  ∀ bus cache virtualAddress satp privilege instruction decoded, known bus cache →
    known bus (cache.insert indexing virtualAddress satp privilege instruction decoded)

/-- However the instruction cache is fenced, what is known stays known. -/
def Fences [Inhabited D] (indexing : CacheIndexing w) (known : β → InstructionCache w D → Prop) :
    Prop :=
  ∀ bus cache virtualAddress asid, known bus cache →
    known bus (cache.sfence indexing virtualAddress asid)

namespace Keeps

/-- A computation that leaves the bus and the instruction cache alone. -/
theorem aside {change : StateM (CoreFabric w D β) α}
    (same : ∀ fabric, (change fabric).2.bus = fabric.bus ∧
      (change fabric).2.instructionCache = fabric.instructionCache) :
    Keeps known (Exec.lift change : Exec (CoreFabric w D β) ε α) := by
  refine .lift fun fabric before => ?_
  rw [(same fabric).1, (same fabric).2]
  exact before

theorem onBus {method : StateM β α}
    (keeps : ∀ bus cache, known bus cache → known (method bus).2 cache) :
    Keeps known (RvEmulator.onBus method : Exec (CoreFabric w D β) ε α) :=
  .lift fun fabric before => keeps fabric.bus fabric.instructionCache before

end Keeps

end

end CoreFabric

end RvEmulator
