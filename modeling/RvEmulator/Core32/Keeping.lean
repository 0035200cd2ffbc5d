import RvEmulator.Core32.Core
import RvEmulator.Mmu.Keeping

/-! A step of the 32-bit core reaches the bus by its commands alone, also through the units
that are tried in vain, and its instruction cache by insertions and fences. -/

namespace RvEmulator.Core32

open Library CoreFabric

section

variable {known : β → InstructionCache 32 DecodedInstruction → Prop}

section

variable (mode : ExecutionMode) (state : CpuSnapshot) (instruction : BitVec 32)
  (decoded : DecodedInstruction)

theorem keeps_decode (length : BitVec 8) : Keeps known (decode mode instruction length) := by
  cases mode with
  | fast => exact Keeps.aside fun _ => ⟨rfl, rfl⟩
  | reference => exact .pure

theorem keeps_attempt {wanted : ExecutionUnit} {run : Instr β UnitResult} (runs : Keeps known run)
    (pending : PendingCommit) :
    Keeps known (attempt mode decoded wanted instruction run pending) := by
  refine .ite (.bind runs fun result => ?_) .pure
  cases result with
  | ready => exact .pure
  | declined => exact .pure
  | raise => exact .stop

theorem keeps_attemptInteger : Keeps known (attemptInteger mode decoded state instruction) := by
  unfold attemptInteger
  dsimp only
  split
  · exact .stop
  · exact .stop
  all_goals exact .pure

end

theorem keeps_translate [CpuBus β] (keeps : ∀ cache, CpuBus.Keeps (known · cache))
    (mode : ExecutionMode) (state : CpuSnapshot) (virtualAddress : Xlen)
    (access : MemoryAccessType) :
    Keeps known (translate mode state virtualAddress access) := by
  cases mode with
  | fast => exact .lift fun fabric before => Tlb.keeps_translate (keeps _) before fabric.tlb
  | reference =>
    exact Keeps.onBus fun _ cache before => Paging.keeps_translateAddress (keeps cache) before

/-! ### Reads alone -/

section

variable [CpuBus β] {mode : ExecutionMode} {state : CpuSnapshot}
  (walks : ∀ virtualAddress access, Keeps known (translate mode state virtualAddress access))
  (reads : ∀ address width kind bus cache, known bus cache →
    known (CpuBus.read address width kind bus).2 cache)

include walks reads

theorem keeps_fetchHalfword (virtualAddress : Xlen) (fetched : BitVec 32) :
    Keeps known (fetchHalfword mode state virtualAddress fetched) := by
  refine .bind (walks virtualAddress _) fun translation => ?_
  exact .ite .stop (.bind (Keeps.onBus (reads _ _ _)) fun read => .ite .stop .pure)

theorem keeps_fetchInstruction (mayUse : Bool) :
    Keeps known (fetchInstruction mode mayUse state) := by
  refine .bind (keeps_fetchHalfword walks reads _ _) fun first => ?_
  refine .bind (Keeps.aside fun _ => ⟨rfl, rfl⟩) fun enabled => .ite ?_ ?_
  · exact .bind (keeps_decode mode _ _) fun _ => .pure
  · refine .bind (keeps_fetchHalfword walks reads _ _) fun second => ?_
    exact .bind (keeps_decode mode _ _) fun _ => .pure

theorem keeps_fetchDecode (inserts : Inserts indexing known) :
    Keeps known (fetchDecode mode state) := by
  refine .ite .stop (.bind (Keeps.aside fun _ => ⟨rfl, rfl⟩) fun cached => ?_)
  cases cached with
  | some entry => exact .pure
  | none =>
    refine .bind (keeps_fetchInstruction walks reads _) fun fetched => .ite .stop ?_
    exact .ite (.bind (.lift fun _ before => inserts _ _ _ _ _ _ _ before) fun _ => .pure) .pure

end

/-! ### Any command -/

section

variable [CpuBus β] (keeps : ∀ cache, CpuBus.Keeps (known · cache)) (mode : ExecutionMode)
  (state : CpuSnapshot) (instruction : BitVec 32) (decoded : DecodedInstruction)

include keeps

theorem keeps_dataAccess (address : Xlen) (width : AccessWidth) (loads : Bool)
    {access : PhysAddr → Instr β UnitResult} (accesses : ∀ place, Keeps known (access place)) :
    Keeps known (dataAccess mode state address width loads access) := by
  refine .ite .pure (.bind (keeps_translate keeps mode state address _) fun translation => ?_)
  exact .ite .pure (accesses _)

theorem keeps_executeMemory (rs1 rs2 : Xlen) :
    Keeps known (executeMemory mode state decoded rs1 rs2) := by
  unfold executeMemory
  dsimp only
  split
  · exact .pure
  · refine keeps_dataAccess keeps mode state _ _ _ fun place => ?_
    exact .bind (Keeps.onBus fun bus cache => keeps cache (.read ..) bus) fun read =>
      .ite .pure .pure
  · refine keeps_dataAccess keeps mode state _ _ _ fun place => ?_
    exact .bind (Keeps.onBus fun bus cache => keeps cache (.write ..) bus) fun fault =>
      .ite .pure .pure

theorem keeps_atomicAccess (kind : AtomicKind) (hart : BitVec 32) (address : PhysAddr)
    (rs2 : Xlen) {bus : β} {cache : InstructionCache 32 DecodedInstruction}
    (before : known bus cache) : known (atomicAccess kind hart address rs2 bus).2 cache := by
  cases kind with
  | loadReserved => exact keeps cache (.loadReservedWord ..) bus before
  | storeConditional => exact keeps cache (.storeConditionalWord ..) bus before
  | amo operation => exact keeps cache (.atomicWord ..) bus before

theorem keeps_executeAtomic (rs1 rs2 : Xlen) :
    Keeps known (executeAtomic mode state decoded rs1 rs2) := by
  unfold executeAtomic
  split
  · exact .pure
  · refine keeps_dataAccess keeps mode state _ _ _ fun place => ?_
    exact .bind (Keeps.onBus fun _ _ before => keeps_atomicAccess keeps _ _ _ _ before)
      fun result => .ite .pure .pure

theorem keeps_dispatch : Keeps known (dispatch mode state instruction decoded) := by
  refine .bind (keeps_attemptInteger mode state instruction decoded) fun pending => ?_
  refine .bind (keeps_attempt mode instruction decoded .pure pending) fun pending => ?_
  refine .bind (keeps_attempt mode instruction decoded .pure pending) fun pending => ?_
  refine .bind (keeps_attempt mode instruction decoded
    (keeps_executeAtomic keeps mode state decoded _ _) pending) fun pending => ?_
  refine .bind (keeps_attempt mode instruction decoded (Keeps.aside fun _ => ⟨rfl, rfl⟩) pending)
    fun pending => keeps_attempt mode instruction decoded ?_ pending
  exact .bind (keeps_executeMemory keeps mode state decoded _ _) fun result => .pure

theorem keeps_runInstruction (inserts : Inserts indexing known) :
    Keeps known (runInstruction mode state) := by
  refine .bind (keeps_fetchDecode (keeps_translate keeps mode state) ?_ inserts)
    fun fetched => ?_
  · exact fun address width kind bus cache => keeps cache (.read address width kind) bus
  · exact .bind (keeps_dispatch keeps mode state _ _) fun pending => .pure

end

/-- What no command changes of the bus, no step changes. -/
theorem Core.keeps_step [CpuBus β] {known : β → Prop} (keeps : CpuBus.Keeps known)
    {core : Core β} (before : known core.fabric.bus) (irqLines : IrqLines) :
    known (core.step irqLines).2.fabric.bus := by
  have runs : Keeps (fun bus _ => known bus)
      (runInstruction core.executionMode (awake core.state irqLines)) :=
    keeps_runInstruction (fun _ => keeps) _ _ fun _ _ _ _ _ _ _ kept => kept
  have ran := runs.final before
  have stepped := core.stepped irqLines
  generalize core.step irqLines = ended at stepped ⊢
  cases stepped with
  | waited => exact before
  | interrupted => exact before
  | trapped trap fabric next stopped entered =>
    rw [stopped] at ran
    exact ran
  | rejected instruction decoded pending fabric returned refused =>
    rw [returned] at ran
    exact ran
  | retired instruction decoded pending fabric returned =>
    rw [returned] at ran
    unfold applyFences
    split <;> exact ran

end

end RvEmulator.Core32
