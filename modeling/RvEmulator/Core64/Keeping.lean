import RvEmulator.Core64.Core
import RvEmulator.Mmu.Keeping

/-! A step of the 64-bit core reaches the bus by its commands alone, and its instruction cache
by insertions and fences. -/

namespace RvEmulator.Core64

open Library CoreFabric

section

variable {known : β → InstructionCache 64 DecodedInstruction → Prop}

theorem keeps_decode (mode : ExecutionMode) (instruction : BitVec 32) (length : BitVec 8) :
    Keeps known (decode mode instruction length) := by
  cases mode with
  | fast => exact Keeps.aside fun _ => ⟨rfl, rfl⟩
  | reference => exact .pure

theorem keeps_translate [CpuBus β] (keeps : ∀ cache, CpuBus.Keeps (known · cache))
    (mode : ExecutionMode) (state : CpuSnapshot) (virtualAddress : Xlen)
    (access : MemoryAccessType) :
    Keeps known (translate mode state virtualAddress access) := by
  cases mode with
  | fast => exact .lift fun fabric before => Tlb.keeps_translate (keeps _) before fabric.tlb
  | reference =>
    exact Keeps.onBus fun _ cache before => Paging.keeps_translateAddress (keeps cache) before

/-! ### Reads alone -/

section

variable [CpuBus β] {mode : ExecutionMode} {state : CpuSnapshot} (instruction : BitVec 32)
  (walks : ∀ virtualAddress access, Keeps known (translate mode state virtualAddress access))
  (reads : ∀ address width kind bus cache, known bus cache →
    known (CpuBus.read address width kind bus).2 cache)

include walks

theorem keeps_dataAddress (address : Xlen) (width : AccessWidth) (loads : Bool) :
    Keeps known (dataAddress mode state instruction address width loads) :=
  .ite .stop (.bind (walks address _) fun _ => .ite .stop .pure)

include reads

theorem keeps_fetchHalfword (virtualAddress : Xlen) (fetched : BitVec 32) :
    Keeps known (fetchHalfword mode state virtualAddress fetched) := by
  refine .bind (walks virtualAddress _) fun translation => ?_
  exact .ite .stop (.bind (Keeps.onBus (reads _ _ _)) fun read => .ite .stop .pure)

theorem keeps_fetchInstruction (mayUse : Bool) :
    Keeps known (fetchInstruction mode mayUse state) := by
  refine .bind (keeps_fetchHalfword walks reads _ _) fun first => ?_
  refine .bind (Keeps.aside fun _ => ⟨rfl, rfl⟩) fun cacheable => .ite ?_ ?_
  · exact .bind (keeps_decode mode _ _) fun _ => .pure
  · refine .bind (keeps_fetchHalfword walks reads _ _) fun second => ?_
    exact .bind (Keeps.aside fun _ => ⟨rfl, rfl⟩) fun _ =>
      .bind (keeps_decode mode _ _) fun _ => .pure

theorem keeps_fetch (inserts : Inserts indexing known) :
    Keeps known (fetch mode state) := by
  refine .bind (Keeps.aside fun _ => ⟨rfl, rfl⟩) fun cached => ?_
  cases cached with
  | some entry => exact .pure
  | none =>
    refine .bind (keeps_fetchInstruction walks reads _) fun fetched => .ite ?_ .pure
    exact .bind (.lift fun _ before => inserts _ _ _ _ _ _ _ before) fun _ => .pure

theorem keeps_loadValue (address : Xlen) (width : AccessWidth) :
    Keeps known (loadValue mode state instruction address width) := by
  refine .bind (keeps_dataAddress instruction walks address width true) fun physical => ?_
  exact .bind (Keeps.onBus (reads _ _ _)) fun loaded => .ite .stop .pure

end

theorem keeps_executeCsr [CpuBus β] (state : CpuSnapshot)
    (instruction : BitVec 32) (decoded : DecodedInstruction) :
    Keeps known (executeCsr state instruction decoded) :=
  .bind (Keeps.aside fun _ => ⟨rfl, rfl⟩) fun _ => .ite .stop (.ite .stop .pure)

/-! ### Any command -/

section

variable [CpuBus β] (keeps : ∀ cache, CpuBus.Keeps (known · cache)) (mode : ExecutionMode)
  (state : CpuSnapshot) (instruction : BitVec 32)

include keeps

theorem keeps_storeValue (address : Xlen) (width : AccessWidth) (value : BitVec 64) :
    Keeps known (storeValue mode state instruction address width value) := by
  refine .bind (keeps_dataAddress instruction (keeps_translate keeps mode state) address width
    false) fun physical => ?_
  exact .bind (Keeps.onBus fun bus cache => keeps cache (.write ..) bus) fun fault =>
    .ite .stop .pure

theorem keeps_atomicAccess (kind : InstructionKind) (doubleword : Bool) (hart : BitVec 32)
    (address : PhysAddr) (rs2 : Xlen) {bus : β} {cache : InstructionCache 64 DecodedInstruction}
    (before : known bus cache) :
    known (atomicAccess kind doubleword hart address rs2 bus).2 cache := by
  unfold atomicAccess
  split
  case h_1 | h_2 =>
    cases doubleword with
    | true => exact keeps cache (.loadReservedDoubleword ..) bus before
    | false => exact keeps cache (.loadReservedWord ..) bus before
  case h_3 | h_4 =>
    cases doubleword with
    | true => exact keeps cache (.storeConditionalDoubleword ..) bus before
    | false => exact keeps cache (.storeConditionalWord ..) bus before
  case h_5 =>
    cases doubleword with
    | true => exact keeps cache (.atomicDoubleword ..) bus before
    | false => exact keeps cache (.atomicWord ..) bus before

theorem keeps_executeAtomic (decoded : DecodedInstruction) :
    Keeps known (executeAtomic mode state instruction decoded) := by
  refine .bind (keeps_dataAddress instruction (keeps_translate keeps mode state) _ _ _)
    fun physical => ?_
  exact .bind (Keeps.onBus fun _ _ before => keeps_atomicAccess keeps _ _ _ _ _ before)
    fun result => .ite .stop .pure

theorem keeps_execute [SoftFloat] (decoded : DecodedInstruction)
    (fences : switchArm decoded.kind = .fenceI ∨ switchArm decoded.kind = .sfenceVma →
      Fences indexing known) :
    Keeps known (execute mode state instruction decoded) := by
  unfold execute
  dsimp only
  split
  case h_1 | h_7 => exact .pure
  case h_2 => exact .bind (keeps_executeAtomic keeps mode state instruction decoded) fun _ => .pure
  case h_3 =>
    refine .bind (.bind (keeps_loadValue instruction (keeps_translate keeps mode state) ?_ _ _)
      ?_) ?_
    · exact fun address width kind bus cache => keeps cache (.read address width kind) bus
    · exact fun _ => .pure
    · exact fun _ => .pure
  case h_4 =>
    refine .bind (.ite .stop (.bind (keeps_loadValue instruction (keeps_translate keeps mode state)
      ?_ _ _) ?_)) ?_
    · exact fun address width kind bus cache => keeps cache (.read address width kind) bus
    · exact fun _ => .pure
    · exact fun _ => .pure
  case h_5 => exact .bind (keeps_storeValue keeps mode state instruction _ _ _) fun _ => .pure
  case h_6 =>
    exact .bind (.ite .stop (keeps_storeValue keeps mode state instruction _ _ _)) fun _ => .pure
  case h_8 is => exact .lift fun _ before => fences (.inl is) _ _ none none before
  case h_9 =>
    exact .bind (keeps_executeCsr state instruction decoded) fun _ => .pure
  case h_10 | h_11 | h_16 => exact .stop
  case h_12 | h_13 | h_17 =>
    split
    · exact .stop
    · exact .pure
  case h_14 => exact .ite .stop .pure
  case h_15 is => exact .ite .stop (.lift fun _ before => fences (.inr is) _ _ _ _ before)

theorem keeps_runInstruction [SoftFloat] (inserts : Inserts indexing known)
    (fences : Fences indexing known) : Keeps known (runInstruction mode state) := by
  refine .ite .stop (.bind (keeps_fetch (keeps_translate keeps mode state) ?_ inserts)
    fun fetched => .ite .stop ?_)
  · exact fun address width kind bus cache => keeps cache (.read address width kind) bus
  · exact .bind (keeps_execute keeps mode state _ _ fun _ => fences) fun outcome => .ite .stop .pure

end

/-- What no command changes of the bus, no step changes. -/
theorem Core.keeps_step [SoftFloat] [CpuBus β] {known : β → Prop} (keeps : CpuBus.Keeps known)
    {core : Core β} (before : known core.fabric.bus) (irqLines : IrqLines) :
    known (core.step irqLines).2.fabric.bus := by
  have runs : Keeps (fun bus _ => known bus)
      (runInstruction core.executionMode (awake core.state irqLines)) :=
    keeps_runInstruction (fun _ => keeps) _ _ (fun _ _ _ _ _ _ _ kept => kept)
      fun _ _ _ _ kept => kept
  have ran := runs.final before
  have stepped := core.stepped irqLines
  generalize core.step irqLines = ended at stepped ⊢
  cases stepped with
  | waited => exact before
  | interrupted pending => exact before
  | trapped trap fabric stopped idle =>
    rw [stopped] at ran
    exact ran
  | retired instruction decoded outcome fabric returned =>
    rw [returned] at ran
    exact ran

end

end RvEmulator.Core64
