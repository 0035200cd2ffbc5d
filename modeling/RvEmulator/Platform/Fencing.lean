import RvEmulator.Core32.Keeping
import RvEmulator.Core64.Running
import RvEmulator.Platform.RamBus

/-! What an SFENCE.VMA of an address makes of the instruction caches of the two cores: it drops
what the cache holds of one page, also where the address lies in a larger one. -/

namespace RvEmulator

namespace InstructionCache

variable {indexing : CacheIndexing w}

/-- A fence moves an epoch that the lookups of an address in an address space compare. -/
def Covers (indexing : CacheIndexing w) (virtualAddress : BitVec w) (asid : Option (BitVec 16))
    (address satp : BitVec w) : Prop :=
  ∃ table : EpochTable, asid = table.fenced indexing satp ∧
    table.index indexing address satp = table.index indexing virtualAddress satp

/-- A fence covers every address of the leaf of `2 ^ bits` bytes that its address lies in, in every
address space or in the one it names. -/
def CoversLeaf (indexing : CacheIndexing w) (virtualAddress : BitVec w)
    (asid : Option (BitVec 16)) (bits : Nat) : Prop :=
  ∀ address satp : BitVec w, address >>> bits = virtualAddress >>> bits →
    (∀ named, asid = some named → indexing.asid satp = named) →
      Covers indexing virtualAddress asid address satp

theorem coversLeaf_page (virtualAddress : BitVec w) (asid : Option (BitVec 16)) :
    CoversLeaf indexing virtualAddress asid 12 := by
  intro address satp page space
  cases asid with
  | none => exact ⟨.page, rfl, congrArg indexing.pageIndex page⟩
  | some named =>
    exact ⟨.asidPage, congrArg some (space named rfl).symm,
      congrArg (indexing.asidPageIndex · (indexing.asid satp)) page⟩

/-- What a lookup that a fence covers is served from has been put into the cache after it. -/
theorem served_anew [Inhabited D] {cache later : InstructionCache w D} {moves more : Nat}
    {virtualAddress address satp : BitVec w} {asid : Option (BitVec 16)}
    (reached : (initial : InstructionCache w D).Evolves indexing moves cache)
    (evolves : (cache.sfence indexing (some virtualAddress) asid).Evolves indexing more later)
    (room : moves + more + 2 < 2 ^ 64)
    (covers : Covers indexing virtualAddress asid address satp) {privilege : PrivilegeMode}
    {entry : InstructionCacheEntry w D}
    (served : later.lookup indexing address satp privilege = some entry) (slot : Nat) :
    entry ≠ (cache.sfence indexing (some virtualAddress) asid).entries slot := by
  obtain ⟨table, rfl, covered⟩ := covers
  have recent (other : EpochTable) : Recent indexing other moves cache := by
    have evolved := (Recent.evolves (fun _ => Recent.initial) reached (by omega)).1 other
    rwa [Nat.zero_add] at evolved
  have forgotten := Recent.forgotten recent table evolves room covered served slot
  cases table with
  | page => exact forgotten
  | asidPage => exact forgotten

end InstructionCache

namespace Core32

open Library CoreFabric

section

variable [CpuBus β]

theorem evolves_runInstruction (mode : ExecutionMode) (state : CpuSnapshot) (fabric : Fabric β) :
    fabric.instructionCache.Evolves indexing 0
      (runInstruction mode state fabric).2.instructionCache := by
  have keeps : Keeps (fun (_ : β) cache => fabric.instructionCache.Evolves indexing 0 cache)
      (runInstruction mode state) :=
    keeps_runInstruction (fun _ _ _ evolves => evolves) mode state
      fun _ _ _ _ _ _ _ evolves => evolves.insert ..
  exact keeps.final .start

omit [CpuBus β] in
theorem evolves_applyFences (state : CpuSnapshot) (decoded : DecodedInstruction)
    (fabric : Fabric β) :
    fabric.instructionCache.Evolves indexing 1
      (applyFences state decoded fabric).instructionCache := by
  unfold applyFences
  split
  · exact .sfence _ _ .start
  · exact .clear .start
  · exact .rest .start

/-- A step puts what it fetches into the cache, and moves one counter at most. -/
theorem Core.evolves_step (core : Core β) (irqLines : IrqLines) :
    core.fabric.instructionCache.Evolves indexing 1
      (core.step irqLines).2.fabric.instructionCache := by
  have ran := evolves_runInstruction core.executionMode (awake core.state irqLines) core.fabric
  have stepped := core.stepped irqLines
  generalize core.step irqLines = ended at stepped ⊢
  cases stepped with
  | waited => exact .rest .start
  | interrupted => exact .rest .start
  | trapped trap fabric next stopped entered =>
    rw [stopped] at ran
    exact .rest ran
  | rejected instruction decoded pending fabric returned refused =>
    rw [returned] at ran
    exact .rest ran
  | retired instruction decoded pending fabric returned =>
    rw [returned] at ran
    exact ran.trans indexing (evolves_applyFences _ decoded fabric)

/-- The cores that come from a core when at most `moves` times it is reset, switched between
modes or stepped, while anything may happen to the bus and cycles may pass. -/
inductive Core.LeadsTo (core : Core β) : Nat → Core β → Prop
  | start : LeadsTo core 0 core
  | reset (config : ResetConfig 32) : LeadsTo core moves later →
      LeadsTo core (moves + 1) (later.reset config)
  | setExecutionMode (mode : ExecutionMode) : LeadsTo core moves later →
      LeadsTo core (moves + 1) (later.setExecutionMode mode)
  | advanceCycles (cycles : BitVec 64) : LeadsTo core moves later →
      LeadsTo core moves (later.advanceCycles cycles)
  | step (irqLines : IrqLines) : LeadsTo core moves later →
      LeadsTo core (moves + 1) (later.step irqLines).2
  | external (bus : β) : LeadsTo core moves later →
      LeadsTo core moves { later with fabric := { later.fabric with bus } }

theorem Core.LeadsTo.evolves {core later : Core β} {moves : Nat}
    (leads : core.LeadsTo moves later) :
    core.fabric.instructionCache.Evolves indexing moves later.fabric.instructionCache := by
  induction leads with
  | start => exact .start
  | reset config _ ih => exact ih.clear
  | setExecutionMode mode _ ih =>
    unfold Core.setExecutionMode
    split
    · exact ih.rest
    · exact ih.clear
  | advanceCycles cycles _ ih => exact ih
  | step irqLines _ ih => exact ih.trans indexing (evolves_step _ irqLines)
  | external bus _ ih => exact ih

/-- The step runs an SFENCE.VMA for an address, and for an address space if it names one. -/
structure Core.Fences (core : Core β) (irqLines : IrqLines) (virtualAddress : Xlen)
    (asid : Option (BitVec 16)) : Prop where
  retired : (core.step irqLines).1.status = .retired
  fetched : ∃ instruction decoded,
    (fetchDecode core.executionMode (awake core.state irqLines) core.fabric).1 =
        .ok (instruction, decoded) ∧
      decoded.kind = .sfenceVma ∧
      fenceOperands (awake core.state irqLines) decoded = (some virtualAddress, asid)

/-- The fence comes after the fetch of its step. -/
theorem Core.Fences.evolves {core : Core β} {irqLines : IrqLines} {virtualAddress : Xlen}
    {asid : Option (BitVec 16)} (fences : core.Fences irqLines virtualAddress asid) :
    ∃ cache, core.fabric.instructionCache.Evolves indexing 0 cache ∧
      (core.step irqLines).2.fabric.instructionCache =
        cache.sfence indexing (some virtualAddress) asid := by
  obtain ⟨instruction, decoded, fetched, kind, operands⟩ := fences.fetched
  have ran := evolves_runInstruction core.executionMode (awake core.state irqLines) core.fabric
  have retired := fences.retired
  have stepped := core.stepped irqLines
  generalize core.step irqLines = ended at stepped retired ⊢
  cases stepped with
  | waited => cases retired
  | interrupted => cases retired
  | trapped trap fabric next stopped entered => cases retired
  | rejected instruction decoded pending fabric returned refused => cases retired
  | retired _ other pending fabric returned =>
    rw [returned] at ran
    refine ⟨fabric.instructionCache, ran, ?_⟩
    obtain ⟨_, _, same, rest⟩ := Exec.bind_returned returned
    obtain ⟨_, _, _, ended⟩ := Exec.bind_returned rest
    rw [same] at fetched
    cases fetched
    cases ended
    unfold applyFences
    rw [kind]
    dsimp only
    rw [operands]

/-- A fetch of the core's next step is served from an entry of the instruction cache. -/
def Core.ServedFrom (core : Core β) (irqLines : IrqLines)
    (entry : InstructionCacheEntry 32 DecodedInstruction) : Prop :=
  let state := awake core.state irqLines
  (lookupInstructionCache (mayUseInstructionCache core.executionMode state.pc) state
    core.fabric).1 = .ok (some entry)

/-- Whatever the core fetches from the leaf of `2 ^ bits` bytes within `budget` moves after the
fence is not served from what the instruction cache held at the fence. -/
def Core.Refetches (core : Core β) (irqLines : IrqLines) (virtualAddress : Xlen)
    (asid : Option (BitVec 16)) (bits budget : Nat) : Prop :=
  ∀ later moves next entry, (core.step irqLines).2.LeadsTo moves later → moves < budget →
    (awake later.state next).pc >>> bits = virtualAddress >>> bits →
    (∀ named, asid = some named →
      indexing.asid (sanitizeSatp (awake later.state next).supervisorCsrs.satp) = named) →
    later.ServedFrom next entry →
      ∀ slot, entry ≠ (core.step irqLines).2.fabric.instructionCache.entries slot

theorem Core.refetches {bus : β} {core : Core β} {irqLines : IrqLines} {virtualAddress : Xlen}
    {asid : Option (BitVec 16)} {moves bits : Nat} (reached : (Core.new bus).LeadsTo moves core)
    (fences : core.Fences irqLines virtualAddress asid)
    (covers : InstructionCache.CoversLeaf indexing virtualAddress asid bits) :
    core.Refetches irqLines virtualAddress asid bits (2 ^ 64 - 3 - moves) := by
  intro later more next entry leads budget leaf space served slot
  have room : 1 + moves + 0 + more + 2 < 2 ^ 64 := by omega
  obtain ⟨cache, fetches, fenced⟩ := fences.evolves
  have fresh : (InstructionCache.initial : InstructionCache 32 DecodedInstruction).Evolves indexing
      1 (new bus).fabric.instructionCache := .clear .start
  have started := (fresh.trans indexing reached.evolves).trans indexing fetches
  have evolves := leads.evolves
  rw [fenced] at evolves ⊢
  unfold ServedFrom at served
  dsimp only [lookupInstructionCache, Exec.lift_apply] at served
  split at served
  · exact InstructionCache.served_anew started evolves room (covers _ _ leaf space)
      (Except.ok.inj served) slot
  · cases served

end

end Core32

namespace Core64

open Library CoreFabric

section

variable [CpuBus β]

theorem evolves_fetch (mode : ExecutionMode) (state : CpuSnapshot) (fabric : Fabric β) :
    fabric.instructionCache.Evolves indexing 0 (fetch mode state fabric).2.instructionCache := by
  have keeps : Keeps (fun (_ : β) cache => fabric.instructionCache.Evolves indexing 0 cache)
      (fetch mode state) :=
    keeps_fetch (keeps_translate (fun _ _ _ evolves => evolves) mode state)
      (fun _ _ _ _ _ evolves => evolves) fun _ _ _ _ _ _ _ evolves => evolves.insert ..
  exact keeps.final .start

variable [SoftFloat]

theorem evolves_execute (mode : ExecutionMode) (state : CpuSnapshot) (instruction : BitVec 32)
    (decoded : DecodedInstruction) (fabric : Fabric β) :
    fabric.instructionCache.Evolves indexing 1
      (execute mode state instruction decoded fabric).2.instructionCache := by
  by_cases fences : switchArm decoded.kind = .fenceI ∨ switchArm decoded.kind = .sfenceVma
  · unfold execute
    rcases fences with is | is
    · rw [is]
      exact .clear .start
    · rw [is]
      dsimp only
      split
      · exact .rest .start
      · exact .sfence _ _ .start
  · have keeps : Keeps (fun (_ : β) cache => fabric.instructionCache.Evolves indexing 0 cache)
        (execute mode state instruction decoded) :=
      keeps_execute (fun _ _ _ evolves => evolves) mode state instruction decoded
        fun is => absurd is fences
    exact .rest (keeps.final .start)

theorem evolves_runInstruction (mode : ExecutionMode) (state : CpuSnapshot) (fabric : Fabric β) :
    fabric.instructionCache.Evolves indexing 1
      (runInstruction mode state fabric).2.instructionCache := by
  unfold runInstruction
  split
  · exact .rest .start
  have fetches := evolves_fetch mode state fabric
  rcases fetched : fetch mode state fabric with ⟨trap | ⟨instruction, decoded⟩, after⟩
  · rw [fetched] at fetches
    rw [Exec.bind_error fetched]
    exact .rest fetches
  rw [fetched] at fetches
  rw [Exec.bind_ok fetched]
  dsimp only
  split
  · exact .rest fetches
  have executes := fetches.trans indexing (evolves_execute mode state instruction decoded after)
  rcases executed : execute mode state instruction decoded after with ⟨trap | outcome, last⟩
  · rw [executed] at executes
    rw [Exec.bind_error executed]
    exact executes
  · rw [executed] at executes
    rw [Exec.bind_ok executed]
    split <;> exact executes

/-- A step puts what it fetches into the cache, and moves one counter at most. -/
theorem Core.evolves_step (core : Core β) (irqLines : IrqLines) :
    core.fabric.instructionCache.Evolves indexing 1
      (core.step irqLines).2.fabric.instructionCache := by
  have ran := evolves_runInstruction core.executionMode (awake core.state irqLines) core.fabric
  have stepped := core.stepped irqLines
  generalize core.step irqLines = ended at stepped ⊢
  cases stepped with
  | waited => exact .rest .start
  | interrupted pending => exact .rest .start
  | trapped trap fabric stopped idle =>
    rw [stopped] at ran
    exact ran
  | retired instruction decoded outcome fabric returned =>
    rw [returned] at ran
    exact ran

/-- The cores that come from a core when at most `moves` times it is reset, switched between
modes or stepped, while anything may happen to the bus. -/
inductive Core.LeadsTo (core : Core β) : Nat → Core β → Prop
  | start : LeadsTo core 0 core
  | reset (config : ResetConfig 64) : LeadsTo core moves later →
      LeadsTo core (moves + 1) (later.reset config)
  | setExecutionMode (mode : ExecutionMode) : LeadsTo core moves later →
      LeadsTo core (moves + 1) (later.setExecutionMode mode)
  | step (irqLines : IrqLines) : LeadsTo core moves later →
      LeadsTo core (moves + 1) (later.step irqLines).2
  | external (bus : β) : LeadsTo core moves later →
      LeadsTo core moves { later with fabric := { later.fabric with bus } }

theorem Core.LeadsTo.evolves {core later : Core β} {moves : Nat}
    (leads : core.LeadsTo moves later) :
    core.fabric.instructionCache.Evolves indexing moves later.fabric.instructionCache := by
  induction leads with
  | start => exact .start
  | reset config _ ih => exact ih.clear
  | setExecutionMode mode _ ih =>
    unfold Core.setExecutionMode
    split
    · exact ih.rest
    · exact ih.clear
  | step irqLines _ ih => exact ih.trans indexing (evolves_step _ irqLines)
  | external bus _ ih => exact ih

/-- The step runs an SFENCE.VMA for an address, and for an address space if it names one. -/
structure Core.Fences (core : Core β) (irqLines : IrqLines) (virtualAddress : Xlen)
    (asid : Option (BitVec 16)) : Prop where
  retired : (core.step irqLines).1.status = .retired
  fetched : ∃ instruction decoded,
    (fetch core.executionMode (awake core.state irqLines) core.fabric).1 =
        .ok (instruction, decoded) ∧
      decoded.kind = .sfenceVma ∧
      fenceOperands (awake core.state irqLines) decoded = (some virtualAddress, asid)

theorem execute_sfenceVma {mode : ExecutionMode} {state : CpuSnapshot} {instruction : BitVec 32}
    {decoded : DecodedInstruction} {fabric after : Fabric β} {outcome : Outcome}
    (kind : decoded.kind = .sfenceVma)
    (executed : execute mode state instruction decoded fabric = (.ok outcome, after)) :
    after.instructionCache = fabric.instructionCache.sfence indexing
      (fenceOperands state decoded).1 (fenceOperands state decoded).2 := by
  unfold execute at executed
  rw [kind] at executed
  dsimp only [switchArm] at executed
  split at executed
  · cases executed
  · cases executed
    rfl

/-- The fence comes after the fetch of its step. -/
theorem Core.Fences.evolves {core : Core β} {irqLines : IrqLines} {virtualAddress : Xlen}
    {asid : Option (BitVec 16)} (fences : core.Fences irqLines virtualAddress asid) :
    ∃ cache, core.fabric.instructionCache.Evolves indexing 0 cache ∧
      (core.step irqLines).2.fabric.instructionCache =
        cache.sfence indexing (some virtualAddress) asid := by
  obtain ⟨instruction, decoded, fetched, kind, operands⟩ := fences.fetched
  have fetches := evolves_fetch core.executionMode (awake core.state irqLines) core.fabric
  have retired := fences.retired
  have stepped := core.stepped irqLines
  generalize core.step irqLines = ended at stepped retired ⊢
  cases stepped with
  | waited => cases retired
  | interrupted pending => cases retired
  | trapped trap fabric stopped idle => cases retired
  | retired _ _ outcome fabric returned =>
    obtain ⟨middle, same, _, executed⟩ := runInstruction_returned returned
    rw [same] at fetched fetches
    cases fetched
    refine ⟨middle.instructionCache, fetches, ?_⟩
    have fenced := execute_sfenceVma kind executed
    rw [operands] at fenced
    exact fenced

/-- A fetch of the core's next step is served from an entry of the instruction cache. -/
def Core.ServedFrom (core : Core β) (irqLines : IrqLines)
    (entry : InstructionCacheEntry 64 DecodedInstruction) : Prop :=
  let state := awake core.state irqLines
  (lookupInstructionCache (mayUseInstructionCache core.executionMode state.pc) state
    core.fabric).1 = .ok (some entry)

/-- Whatever the core fetches from the leaf of `2 ^ bits` bytes within `budget` moves after the
fence is not served from what the instruction cache held at the fence. -/
def Core.Refetches (core : Core β) (irqLines : IrqLines) (virtualAddress : Xlen)
    (asid : Option (BitVec 16)) (bits budget : Nat) : Prop :=
  ∀ later moves next entry, (core.step irqLines).2.LeadsTo moves later → moves < budget →
    (awake later.state next).pc >>> bits = virtualAddress >>> bits →
    (∀ named, asid = some named →
      indexing.asid (sanitizeSatp (awake later.state next).supervisorCsrs.satp) = named) →
    later.ServedFrom next entry →
      ∀ slot, entry ≠ (core.step irqLines).2.fabric.instructionCache.entries slot

theorem Core.refetches {bus : β} {core : Core β} {irqLines : IrqLines} {virtualAddress : Xlen}
    {asid : Option (BitVec 16)} {moves bits : Nat} (reached : (Core.new bus).LeadsTo moves core)
    (fences : core.Fences irqLines virtualAddress asid)
    (covers : InstructionCache.CoversLeaf indexing virtualAddress asid bits) :
    core.Refetches irqLines virtualAddress asid bits (2 ^ 64 - 3 - moves) := by
  intro later more next entry leads budget leaf space served slot
  have room : 1 + moves + 0 + more + 2 < 2 ^ 64 := by omega
  obtain ⟨cache, fetches, fenced⟩ := fences.evolves
  have fresh : (InstructionCache.initial : InstructionCache 64 DecodedInstruction).Evolves indexing
      1 (new bus).fabric.instructionCache := .clear .start
  have started := (fresh.trans indexing reached.evolves).trans indexing fetches
  have evolves := leads.evolves
  rw [fenced] at evolves ⊢
  unfold ServedFrom at served
  dsimp only [lookupInstructionCache, Exec.lift_apply] at served
  split at served
  · exact InstructionCache.served_anew started evolves room (covers _ _ leaf space)
      (Except.ok.inj served) slot
  · cases served

end

end Core64

/-- After an SFENCE.VMA of an address, neither core is served what its instruction cache held
at the fence for a leaf that the fence covers, as long as no counter of the cache wraps; and a fence
covers a leaf that is one page. -/
theorem fenced_leaf_refetched (irqLines : IrqLines) (asid : Option (BitVec 16)) (moves bits : Nat) :
    (∀ {β : Type} [Core64.SoftFloat] [CpuBus β] {bus : β} {core : Core64.Core β}
        {virtualAddress : BitVec 64},
      (Core64.Core.new bus).LeadsTo moves core → core.Fences irqLines virtualAddress asid →
      InstructionCache.CoversLeaf Core64.indexing virtualAddress asid bits →
        core.Refetches irqLines virtualAddress asid bits (2 ^ 64 - 3 - moves)) ∧
    (∀ {β : Type} [CpuBus β] {bus : β} {core : Core32.Core β} {virtualAddress : BitVec 32},
      (Core32.Core.new bus).LeadsTo moves core → core.Fences irqLines virtualAddress asid →
      InstructionCache.CoversLeaf Core32.indexing virtualAddress asid bits →
        core.Refetches irqLines virtualAddress asid bits (2 ^ 64 - 3 - moves)) ∧
    (∀ virtualAddress, InstructionCache.CoversLeaf Core64.indexing virtualAddress asid 12) ∧
    ∀ virtualAddress, InstructionCache.CoversLeaf Core32.indexing virtualAddress asid 12 :=
  ⟨Core64.Core.refetches, Core32.Core.refetches,
    fun virtualAddress => InstructionCache.coversLeaf_page virtualAddress asid,
    fun virtualAddress => InstructionCache.coversLeaf_page virtualAddress asid⟩

deriving instance DecidableEq for InstructionCacheEntry, Core32.Trap, Core64.Trap

namespace Fencing

/-- `auipc t0, 1; sfence.vma t0, zero; j -8` -/
def sampleFar : List (BitVec 32) := [0x00001297, 0x12028073, 0xFF9FF06F]

/-- `auipc t0, 0; sfence.vma t0, zero; j 0` -/
def sampleNear : List (BitVec 32) := [0x00000297, 0x12028073, 0x0000006F]

end Fencing

namespace Core32

open Platform

/-- A page table with a leaf of four megabytes, `csrw satp, a1`, and more instructions. -/
def Core.sampleTable (program : List (BitVec 32)) : SystemBus Ram :=
  .ofProgram 0 0x1000 ([0xF, 0x18059073] ++ program)

/-- A supervisor that is about to run the second of the instructions. -/
def Core.sampleFence (program : List (BitVec 32)) : Core (SystemBus Ram) :=
  let start := (Core.new (Core.sampleTable program)).reset
    { resetPc := 4, initialPrivilege := .supervisor, bootArgument := 0x80000000 }
  ((start.step {}).2.step {}).2

theorem Core.leadsTo_sampleFence (program : List (BitVec 32)) :
    (Core.new (Core.sampleTable program)).LeadsTo 3 (Core.sampleFence program) :=
  .step {} (.step {} (.reset _ .start))

/-- The leaf that a walk for a fetch finds. -/
def Core.leafOf (core : Core (SystemBus Ram)) (virtualAddress : Xlen) : WalkMetadata 32 :=
  (sv32.walkAddress (translationContext core.state .instructionFetch) virtualAddress
    .instructionFetch core.fabric.bus).1.2

/-- The loop is fetched again from the entry that it was put into before the fence. -/
theorem Core.sampleFar_stale :
    (Core.sampleFence Fencing.sampleFar).Fences {} 0x1008 none ∧
      ((Core.sampleFence Fencing.sampleFar).leafOf 0x1008).pageShift = 22 ∧
      ¬(Core.sampleFence Fencing.sampleFar).Refetches {} 0x1008 none 22 (2 ^ 64 - 3 - 3) := by
  have fences : (Core.sampleFence Fencing.sampleFar).Fences {} 0x1008 none :=
    ⟨by decide +kernel, 0x12028073, decodeInstruction 0x12028073, by decide +kernel, by decide,
      by decide +kernel⟩
  refine ⟨fences, by decide +kernel, fun refetches => ?_⟩
  have leads : ((Core.sampleFence Fencing.sampleFar).step {}).2.LeadsTo 1
      (((Core.sampleFence Fencing.sampleFar).step {}).2.step {}).2 := .step {} .start
  have leaf : (awake (((Core.sampleFence Fencing.sampleFar).step {}).2.step {}).2.state
      {}).pc >>> 22 = (0x1008 : Xlen) >>> 22 := by decide +kernel
  have served : (((Core.sampleFence Fencing.sampleFar).step {}).2.step {}).2.ServedFrom {}
      (((Core.sampleFence Fencing.sampleFar).step {}).2.fabric.instructionCache.entries
        (indexing.entryIndex 8 0x80000000 .supervisor)) := by
    unfold Core.ServedFrom
    decide +kernel
  have budget : 1 < 2 ^ 64 - 3 - 3 := by omega
  have other := refetches _ 1 {} _ leads budget leaf nofun served
  exact other _ rfl

/-- The instruction after the fence is fetched once, and then served from the cache. -/
theorem Core.sampleNear_served :
    (Core.sampleFence Fencing.sampleNear).Fences {} 8 none ∧
      (awake (((Core.sampleFence Fencing.sampleNear).step {}).2.step {}).2.state {}).pc >>> 12 =
        (8 : Xlen) >>> 12 ∧
      (((Core.sampleFence Fencing.sampleNear).step {}).2.step {}).2.ServedFrom {}
        ((((Core.sampleFence Fencing.sampleNear).step {}).2.step
          {}).2.fabric.instructionCache.entries
            (indexing.entryIndex 0x10 0x80000000 .supervisor)) := by
  have fences : (Core.sampleFence Fencing.sampleNear).Fences {} 8 none :=
    ⟨by decide +kernel, 0x12028073, decodeInstruction 0x12028073, by decide +kernel, by decide,
      by decide +kernel⟩
  refine ⟨fences, by decide +kernel, ?_⟩
  unfold Core.ServedFrom
  decide +kernel

end Core32

namespace Core64

open Platform

attribute [local instance] SoftFloat.unused

/-- A page table with the gigabyte leaf at 0x80000000, `csrw satp, a1`, and more instructions. -/
def Core.sampleTable (program : List (BitVec 32)) : SystemBus Ram :=
  .ofProgram 0x80000000 0x80 ([0, 0, 0, 0, 0x2000000F, 0, 0x18059073] ++ program)

/-- A supervisor that is about to run the second of the instructions. -/
def Core.sampleFence (program : List (BitVec 32)) : Core (SystemBus Ram) :=
  let start := (Core.new (Core.sampleTable program)).reset
    { resetPc := 0x80000018, initialPrivilege := .supervisor, bootArgument := 0x8000000000080000 }
  ((start.step {}).2.step {}).2

theorem Core.leadsTo_sampleFence (program : List (BitVec 32)) :
    (Core.new (Core.sampleTable program)).LeadsTo 3 (Core.sampleFence program) :=
  .step {} (.step {} (.reset _ .start))

/-- The leaf that a walk for a fetch finds. -/
def Core.leafOf (core : Core (SystemBus Ram)) (virtualAddress : Xlen) : WalkMetadata 64 :=
  (sv39.walkAddress (translationContext core.state .instructionFetch) virtualAddress
    .instructionFetch core.fabric.bus).1.2

/-- The loop is fetched again from the entry that it was put into before the fence. -/
theorem Core.sampleFar_stale :
    (Core.sampleFence Fencing.sampleFar).Fences {} 0x8000101C none ∧
      ((Core.sampleFence Fencing.sampleFar).leafOf 0x8000101C).pageShift = 30 ∧
      ¬(Core.sampleFence Fencing.sampleFar).Refetches {} 0x8000101C none 30 (2 ^ 64 - 3 - 3) := by
  have fences : (Core.sampleFence Fencing.sampleFar).Fences {} 0x8000101C none :=
    ⟨by decide +kernel, 0x12028073, decodeInstruction 0x12028073, by decide +kernel, by decide,
      by decide +kernel⟩
  refine ⟨fences, by decide +kernel, fun refetches => ?_⟩
  have leads : ((Core.sampleFence Fencing.sampleFar).step {}).2.LeadsTo 1
      (((Core.sampleFence Fencing.sampleFar).step {}).2.step {}).2 := .step {} .start
  have leaf : (Core.awake (((Core.sampleFence Fencing.sampleFar).step {}).2.step {}).2.state
      {}).pc >>> 30 = (0x8000101C : Xlen) >>> 30 := by decide +kernel
  have served : (((Core.sampleFence Fencing.sampleFar).step {}).2.step {}).2.ServedFrom {}
      (((Core.sampleFence Fencing.sampleFar).step {}).2.fabric.instructionCache.entries
        (indexing.entryIndex 0x8000001C 0x8000000000080000 .supervisor)) := by
    unfold Core.ServedFrom
    decide +kernel
  have budget : 1 < 2 ^ 64 - 3 - 3 := by omega
  have other := refetches _ 1 {} _ leads budget leaf nofun served
  exact other _ rfl

/-- The instruction after the fence is fetched once, and then served from the cache. -/
theorem Core.sampleNear_served :
    (Core.sampleFence Fencing.sampleNear).Fences {} 0x8000001C none ∧
      (Core.awake (((Core.sampleFence Fencing.sampleNear).step {}).2.step {}).2.state {}).pc >>> 12 =
        (0x8000001C : Xlen) >>> 12 ∧
      (((Core.sampleFence Fencing.sampleNear).step {}).2.step {}).2.ServedFrom {}
        ((((Core.sampleFence Fencing.sampleNear).step {}).2.step
          {}).2.fabric.instructionCache.entries
            (indexing.entryIndex 0x80000024 0x8000000000080000 .supervisor)) := by
  have fences : (Core.sampleFence Fencing.sampleNear).Fences {} 0x8000001C none :=
    ⟨by decide +kernel, 0x12028073, decodeInstruction 0x12028073, by decide +kernel, by decide,
      by decide +kernel⟩
  refine ⟨fences, by decide +kernel, ?_⟩
  unfold Core.ServedFrom
  decide +kernel

end Core64

section

attribute [local instance] Core64.SoftFloat.unused

/-- After the fence of a page, the instruction that follows it is fetched again and then served
from what this has put into the cache. -/
theorem fenced_leaf_refetched_sample :
    (∃ entry, (((Core64.Core.sampleFence Fencing.sampleNear).step {}).2.step {}).2.ServedFrom {}
        entry ∧
      ∀ slot, entry ≠
        ((Core64.Core.sampleFence Fencing.sampleNear).step {}).2.fabric.instructionCache.entries
          slot) ∧
      ∃ entry, (((Core32.Core.sampleFence Fencing.sampleNear).step {}).2.step {}).2.ServedFrom {}
          entry ∧
        ∀ slot, entry ≠
          ((Core32.Core.sampleFence Fencing.sampleNear).step {}).2.fabric.instructionCache.entries
            slot := by
  obtain ⟨wideFences, wideLeaf, wide⟩ := Core64.Core.sampleNear_served
  obtain ⟨narrowFences, narrowLeaf, narrow⟩ := Core32.Core.sampleNear_served
  obtain ⟨wideRefetches, narrowRefetches, widePage, narrowPage⟩ :=
    fenced_leaf_refetched {} none 3 12
  have budget : 1 < 2 ^ 64 - 3 - 3 := by omega
  exact ⟨⟨_, wide, wideRefetches (Core64.Core.leadsTo_sampleFence _) wideFences (widePage _) _ 1 {} _
      (.step {} .start) budget wideLeaf nofun wide⟩,
    _, narrow, narrowRefetches (Core32.Core.leadsTo_sampleFence _) narrowFences (narrowPage _) _ 1
      {} _ (.step {} .start) budget narrowLeaf nofun narrow⟩

/-- A superpage is fenced at an address of another page than the one that is executed: the next
instruction fetch from it is served from an entry that the instruction cache held at the fence. -/
theorem superpage_served_stale :
    let wide := Core64.Core.sampleFence Fencing.sampleFar
    let narrow := Core32.Core.sampleFence Fencing.sampleFar
    ((Core64.Core.new (Core64.Core.sampleTable Fencing.sampleFar)).LeadsTo 3 wide ∧
      wide.Fences {} 0x8000101C none ∧ (wide.leafOf 0x8000101C).pageShift = 30 ∧
      ¬wide.Refetches {} 0x8000101C none 30 (2 ^ 64 - 3 - 3)) ∧
    (Core32.Core.new (Core32.Core.sampleTable Fencing.sampleFar)).LeadsTo 3 narrow ∧
      narrow.Fences {} 0x1008 none ∧ (narrow.leafOf 0x1008).pageShift = 22 ∧
      ¬narrow.Refetches {} 0x1008 none 22 (2 ^ 64 - 3 - 3) :=
  ⟨⟨Core64.Core.leadsTo_sampleFence _, Core64.Core.sampleFar_stale⟩,
    Core32.Core.leadsTo_sampleFence _, Core32.Core.sampleFar_stale⟩

end

end RvEmulator
