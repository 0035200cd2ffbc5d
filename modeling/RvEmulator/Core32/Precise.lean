import RvEmulator.Common.TrapEntry
import RvEmulator.Core32.Keeping
import RvEmulator.Core32.OwnUnit
import RvEmulator.Core32.WellFormed
import RvEmulator.Mmu.Marking
import RvEmulator.Platform.RamBus

/-! Precise traps of the 32-bit core. A unit that raises a trap has stored nothing, in either
mode, and what a trapping instruction has pending is never committed. -/

namespace RvEmulator.Core32

open Library

section

variable [CpuBus β] (ram : RamLike β) (satp : Xlen) (before : β)

/-- The computation stores nothing. -/
abbrev Storeless (x : Instr β α) : Prop :=
  CoreFabric.Keeps (fun bus _ => ram.Kept sv32 satp before bus) x

/-- The computation stores nothing unless its result is accepted. -/
def Precise (accepted : α → Prop) (x : Instr β α) : Prop :=
  Exec.Ensures (fun fabric => ram.Kept sv32 satp before fabric.bus) x
    (fun result fabric => ¬accepted result → ram.Kept sv32 satp before fabric.bus)
    (fun _ fabric => ram.Kept sv32 satp before fabric.bus)

variable {ram satp before}

theorem Storeless.precise {accepted : α → Prop} {x : Instr β α}
    (storeless : Storeless ram satp before x) : Precise ram satp before accepted x := by
  intro fabric kept
  obtain ⟨returned, failed⟩ := storeless fabric kept
  exact ⟨fun a answer _ => returned a answer, failed⟩

namespace Precise

theorem ite {accepted : α → Prop} {condition : Prop} [Decidable condition] {x y : Instr β α}
    (left : Precise ram satp before accepted x) (right : Precise ram satp before accepted y) :
    Precise ram satp before accepted (if condition then x else y) := by
  split
  · exact left
  · exact right

/-- What comes before the last access stores nothing. -/
theorem bind {accepted : γ → Prop} {x : Instr β α} {f : α → Instr β γ}
    (first : Storeless ram satp before x)
    (next : ∀ a, Precise ram satp before accepted (f a)) :
    Precise ram satp before accepted (x >>= f) :=
  Exec.Ensures.bind first next

end Precise

/-- The unit has finished the instruction. -/
def Finished : UnitResult → Prop
  | .ready _ => True
  | _ => False

/-- A last bus access of a unit: it raises a trap if the bus refuses, and finishes
otherwise. -/
theorem Precise.access {method : StateM β α} {refused : α → Prop} [DecidablePred refused]
    {cause : α → ExceptionCause} {trapValue : Xlen} {fault : α → BusFault}
    {result : α → PendingCommit}
    (kept : ∀ bus, ram.same bus bus → refused (method bus).1 →
      ram.same (method bus).2 (method bus).2 ∧
        ram.contents (method bus).2 = ram.contents bus) :
    Precise ram satp before Finished (do
      let answer ← onBus method
      if refused answer then Pure.pure (.raise (cause answer) trapValue (fault answer))
      else Pure.pure (.ready (result answer))) := by
  have accessed : Exec.Ensures (fun fabric => ram.Kept sv32 satp before fabric.bus)
      (onBus method : Instr β α)
      (fun answer fabric => refused answer → ram.Kept sv32 satp before fabric.bus)
      (fun _ fabric => ram.Kept sv32 satp before fabric.bus) := by
    refine Exec.Ensures.lift ?_
    rintro fabric ⟨memory, marked⟩ failed
    obtain ⟨same, contents⟩ := kept fabric.bus memory failed
    exact ⟨same, marked.congr contents⟩
  refine Exec.Ensures.bind accessed fun answer => ?_
  split
  · rename_i failed
    exact Exec.Ensures.pure fun _ after _ => after failed
  · exact Exec.Ensures.pure fun _ _ unfinished => absurd trivial unfinished

/-! Every part of an instruction, from the fetch on. -/

variable (mode : ExecutionMode) (state : CpuSnapshot) (instruction : BitVec 32)

theorem storeless_translate (virtualAddress : Xlen) (access : MemoryAccessType) :
    Storeless ram (sanitizeSatp state.supervisorCsrs.satp) before
      (translate mode state virtualAddress access) := by
  cases mode with
  | fast =>
    refine Exec.Ensures.lift ?_
    rintro fabric ⟨memory, marked⟩
    exact RamLike.Marked.tlbTranslate marked memory virtualAddress access fabric.tlb
  | reference =>
    refine Exec.Ensures.lift ?_
    rintro fabric ⟨memory, marked⟩
    exact RamLike.Marked.translateAddress marked memory virtualAddress access

theorem kept_read (address : PhysAddr) (width : AccessWidth) (kind : AccessKind) (bus : β)
    (_ : InstructionCache 32 DecodedInstruction)
    (kept : ram.Kept sv32 satp before bus) :
    ram.Kept sv32 satp before (CpuBus.read address width kind bus).2 :=
  kept.read address width kind

theorem storeless_fetchDecode :
    Storeless ram (sanitizeSatp state.supervisorCsrs.satp) before (fetchDecode mode state) :=
  keeps_fetchDecode (storeless_translate mode state) kept_read fun _ _ _ _ _ _ _ kept => kept

/-- The checks in front of an access raise before anything is stored. -/
theorem precise_dataAccess (address : Xlen) (width : AccessWidth) (loads : Bool)
    {access : PhysAddr → Instr β UnitResult}
    (accesses : ∀ place, Precise ram (sanitizeSatp state.supervisorCsrs.satp) before Finished
      (access place)) :
    Precise ram (sanitizeSatp state.supervisorCsrs.satp) before Finished
      (dataAccess mode state address width loads access) := by
  refine .ite (Storeless.precise .pure) (.bind (storeless_translate mode state address _) ?_)
  exact fun translation => .ite (Storeless.precise .pure) (accesses _)

theorem precise_executeMemory (decoded : DecodedInstruction) (rs1 rs2 : Xlen) :
    Precise ram (sanitizeSatp state.supervisorCsrs.satp) before Finished
      (executeMemory mode state decoded rs1 rs2) := by
  unfold executeMemory
  dsimp only
  split
  · exact (Storeless.precise .pure)
  · refine precise_dataAccess mode state _ _ _ fun place => ?_
    exact Storeless.precise (.bind (CoreFabric.Keeps.onBus (kept_read _ _ _)) fun read => .ite .pure .pure)
  · refine precise_dataAccess mode state _ _ _ fun place => Precise.access ?_
    intro bus memory failed
    exact ⟨(ram.perform (.write place _ (rs2.setWidth 64) .store) memory).2,
      ram.refused memory failed⟩

/-- An atomic access that the bus refuses leaves memory alone. -/
theorem kept_atomicAccess {bus : β} (memory : ram.same bus bus) (kind : AtomicKind)
    (hart : BitVec 32) (address : PhysAddr) (rs2 : Xlen)
    (failed : (atomicAccess kind hart address rs2 bus).1.1 ≠ .none) :
    ram.same (atomicAccess kind hart address rs2 bus).2
        (atomicAccess kind hart address rs2 bus).2 ∧
      ram.contents (atomicAccess kind hart address rs2 bus).2 = ram.contents bus := by
  cases kind with
  | loadReserved =>
    exact ⟨(ram.perform (.loadReservedWord hart address) memory).2, ram.loadReservedWord memory⟩
  | storeConditional =>
    exact ⟨(ram.perform (.storeConditionalWord hart address rs2) memory).2,
      ram.storeConditionalWord memory failed⟩
  | amo operation =>
    exact ⟨(ram.perform (.atomicWord hart address operation rs2) memory).2,
      ram.atomicWord memory failed⟩

theorem precise_executeAtomic (decoded : DecodedInstruction) (rs1 rs2 : Xlen) :
    Precise ram (sanitizeSatp state.supervisorCsrs.satp) before Finished
      (executeAtomic mode state decoded rs1 rs2) := by
  unfold executeAtomic
  split
  · exact (Storeless.precise .pure)
  · refine precise_dataAccess mode state _ _ _ fun place => Precise.access ?_
    intro bus memory failed
    exact kept_atomicAccess memory _ _ _ _ failed

/-- A computation that stores nothing if it stops. -/
def Stopless (ram : RamLike β) (satp : Xlen) (before : β) (x : Instr β α) : Prop :=
  Exec.Ensures (fun fabric => ram.Kept sv32 satp before fabric.bus) x (fun _ _ => True)
    (fun _ fabric => ram.Kept sv32 satp before fabric.bus)

theorem Storeless.stopless {x : Instr β α} (storeless : Storeless ram satp before x) :
    Stopless ram satp before x := by
  intro fabric kept
  exact ⟨fun _ _ => trivial, (storeless fabric kept).2⟩

/-- What a unit raises becomes the trap of the instruction. -/
theorem stopless_askUnit {run : Instr β UnitResult}
    (precise : Precise ram satp before Finished run) :
    Stopless ram satp before (askUnit instruction run) := by
  refine Exec.Ensures.bind precise fun result => ?_
  cases result with
  | ready next => exact Exec.Ensures.pure fun _ _ => trivial
  | declined => exact Exec.Ensures.stop fun _ kept => kept not_false
  | raise cause trapValue busFault => exact Exec.Ensures.stop fun _ kept => kept not_false

theorem stopless_attemptInteger (decoded : DecodedInstruction) :
    Stopless ram satp before (attemptInteger mode decoded state instruction) := by
  unfold attemptInteger
  dsimp only
  split
  · exact Storeless.stopless .stop
  · exact Storeless.stopless .stop
  all_goals exact Storeless.stopless .pure

theorem stopless_ownUnit (decoded : DecodedInstruction) (unit : ExecutionUnit) :
    Stopless ram (sanitizeSatp state.supervisorCsrs.satp) before
      (ownUnit mode state instruction decoded unit) := by
  cases unit with
  | integer => exact stopless_attemptInteger _ state instruction decoded
  | privileged => exact stopless_askUnit instruction (Storeless.precise .pure)
  | controlFlow => exact stopless_askUnit instruction (Storeless.precise .pure)
  | atomic => exact stopless_askUnit instruction (precise_executeAtomic mode state decoded _ _)
  | csr => exact stopless_askUnit instruction (Storeless.precise (.lift fun _ kept => kept))
  | memory => exact stopless_askUnit instruction (precise_executeMemory mode state decoded _ _)

/-- An instruction that traps has stored nothing. Only a valid one is dispatched, and of
the units that are tried only its own has any effect. -/
theorem kept_runInstruction {fabric after : Fabric β} {trap : Trap}
    (wellFormed : fabric.WellFormed)
    (kept : ram.Kept sv32 (sanitizeSatp state.supervisorCsrs.satp) before fabric.bus)
    (stopped : runInstruction mode state fabric = (.error trap, after)) :
    ram.Kept sv32 (sanitizeSatp state.supervisorCsrs.satp) before after.bus := by
  have storeless : Storeless ram (sanitizeSatp state.supervisorCsrs.satp) before
      (fetchDecode mode state) := storeless_fetchDecode mode state
  obtain ⟨returned, failed⟩ := storeless fabric kept
  obtain ⟨decodes, _⟩ := steady_fetchDecode mode state fabric wellFormed
  rw [runInstruction] at stopped
  rcases fetches : fetchDecode mode state fabric with ⟨early | fetched, middle⟩
  · rw [Exec.bind_error fetches] at stopped
    rw [fetches] at failed
    cases stopped
    exact failed _ rfl
  · rw [Exec.bind_ok fetches] at stopped
    rw [fetches] at returned decodes
    have valid := (decodes _ rfl).2.valid
    rw [dispatch_eq_ownUnit mode state fetched.1 valid] at stopped
    obtain ⟨_, stops⟩ := stopless_ownUnit mode state fetched.1 fetched.2
      (executionUnit fetched.2.kind) middle (returned _ rfl)
    rcases runs : ownUnit mode state fetched.1 fetched.2 (executionUnit fetched.2.kind) middle
      with ⟨late | pending, last⟩
    · rw [Exec.bind_error runs] at stopped
      rw [runs] at stops
      cases stopped
      exact stops _ rfl
    · rw [Exec.bind_ok runs] at stopped
      cases stopped

end

/-! What a trap does to the snapshot. -/

/-- The bookkeeping at the start of a step does not show in a trap entry. -/
theorem trapEntry_of_awake {interrupt : Bool} {code : Nat} {trapValue : Xlen}
    {state after : CpuSnapshot} {irqLines : IrqLines}
    (entry : Hart.TrapEntry interrupt code trapValue (awake state irqLines) after) :
    Hart.TrapEntry interrupt code trapValue state after where
  registers index other :=
    (entry.registers index other).trans (Function.update_of_ne other _ _)
  instructionsRetired := entry.instructionsRetired
  target := entry.target
  supervisor := entry.supervisor
  machine := entry.machine

/-! What a commit adds to the counter. -/

/-- The two halves of the counter that an instruction may write. -/
def CountsInstructions (address : CsrAddress) : Prop :=
  address = CsrAddress.minstret ∨ address = CsrAddress.minstreth

theorem instructionsRetired_writeValidated (state : CpuSnapshot) {address : CsrAddress}
    (other : ¬CountsInstructions address) (value : Xlen) :
    (CsrFile.writeValidated state address value).instructionsRetired =
      state.instructionsRetired := by
  unfold CsrFile.writeValidated
  split
  case h_26 => exact absurd (.inl rfl) other
  case h_28 => exact absurd (.inr rfl) other
  all_goals rfl

theorem instructionsRetired_applyCommit (state : CpuSnapshot) {pending : PendingCommit}
    (other : pending.csrWrite.enabled = true → ¬CountsInstructions pending.csrWrite.address) :
    (applyCommit pending state).instructionsRetired = state.instructionsRetired + 1 := by
  have register : (commitRegister pending.registerWrite state).instructionsRetired =
      state.instructionsRetired := by
    unfold commitRegister
    split <;> rfl
  have privilege (state : CpuSnapshot) :
      (commitPrivilege pending.privilegeWrite state).instructionsRetired =
        state.instructionsRetired := by
    unfold commitPrivilege
    split <;> rfl
  have csr (state : CpuSnapshot) : (commitCsr pending.csrWrite state).instructionsRetired =
      state.instructionsRetired := by
    unfold commitCsr
    split
    · rename_i enabled
      exact instructionsRetired_writeValidated state (other enabled) _
    · rfl
  have mprv (state : CpuSnapshot) : (commitMprv pending.privilegeWrite state).instructionsRetired =
      state.instructionsRetired := by
    unfold commitMprv
    split <;> rfl
  rw [applyCommit, mprv, csr, retire, privilege, register]

section

variable [CpuBus β]

/-- The trap that a step is to take: an interrupt, or the exception that stopped
the instruction. -/
inductive Core.Raises (core : Core β) (irqLines : IrqLines) : Bool → Nat → Xlen → Prop where
  | interrupt (pending : (awake core.state irqLines).selectPendingInterrupt.pending = true) :
      Raises core irqLines true (awake core.state irqLines).selectPendingInterrupt.cause.code 0
  | exception (trap : Trap) (fabric : Fabric β)
      (stopped : runInstruction core.executionMode (awake core.state irqLines) core.fabric =
        (.error trap, fabric)) :
      Raises core irqLines false trap.cause.code trap.trapValue

/-- The instruction of a step writes `minstret` or `minstreth`. -/
def Core.WritesCounter (core : Core β) (irqLines : IrqLines) : Prop :=
  ∃ instruction decoded pending fabric,
    runInstruction core.executionMode (awake core.state irqLines) core.fabric =
      (.ok (instruction, decoded, pending), fabric) ∧
    pending.csrWrite.enabled = true ∧ CountsInstructions pending.csrWrite.address

/-- Traps are precise in every reachable state: registers and counter stay, memory is only
marked by page walks, and the trap goes to the vector of the mode that delegation names.
A retired step counts one instruction. -/
theorem precise_of_reachable {core : Core β} (reachable : core.Reachable) (ram : RamLike β)
    (memory : ram.same core.fabric.bus core.fabric.bus) (irqLines : IrqLines) :
    ((core.step irqLines).1.status = .trapTaken →
      ∃ interrupt code, core.Raises irqLines interrupt code (core.step irqLines).1.trapValue ∧
        Hart.TrapEntry interrupt code (core.step irqLines).1.trapValue core.state
          (core.step irqLines).2.state ∧
        ram.Marked sv32 (sanitizeSatp core.state.supervisorCsrs.satp) core.fabric.bus
          (core.step irqLines).2.fabric.bus ∧
        ∀ address, Marks (ram.contents core.fabric.bus address)
          (ram.contents (core.step irqLines).2.fabric.bus address)) ∧
      ((core.step irqLines).1.status = .retired → ¬core.WritesCounter irqLines →
        (core.step irqLines).2.state.instructionsRetired =
          core.state.instructionsRetired + 1) := by
  have wellFormed := Core.WellFormed.of_reachable reachable
  have implemented := (step_implemented reachable).1 irqLines
  have kept : ram.Kept sv32 (sanitizeSatp core.state.supervisorCsrs.satp) core.fabric.bus
      core.fabric.bus := ⟨memory, .unchanged rfl⟩
  have stepped := core.stepped irqLines
  generalize core.step irqLines = ended at stepped implemented ⊢
  cases stepped with
  | waited => exact ⟨fun trapped => (nomatch trapped), fun retired => (nomatch retired)⟩
  | interrupted pending next entered =>
    subst entered
    refine ⟨fun _ => ?_, fun retired => (nomatch retired)⟩
    exact ⟨true, _, .interrupt pending, trapEntry_of_awake (Hart.trapEntry_takeInterruptTrap _ _ pending),
      .unchanged rfl, fun _ => .refl _⟩
  | trapped trap fabric next stopped entered =>
    subst entered
    refine ⟨fun _ => ?_, fun retired => (nomatch retired)⟩
    have marked := (kept_runInstruction core.executionMode (awake core.state irqLines)
      wellFormed.fabric kept stopped).2
    exact ⟨false, _, .exception trap fabric stopped, trapEntry_of_awake (Hart.trapEntry_takeTrap _ _ (by decide) _ _), marked,
      marked.bytes (by decide)⟩
  | rejected => exact absurd rfl implemented
  | retired instruction decoded pending fabric returned =>
    constructor
    · unfold Core.retirement
      dsimp only
      split
      · exact fun trapped => (nomatch trapped)
      · exact fun trapped => (nomatch trapped)
    · intro _ other
      refine instructionsRetired_applyCommit _ ?_
      intro enabled counts
      exact other ⟨instruction, decoded, pending, fabric, returned, enabled, counts⟩

end

/-- The store is a page fault that goes to supervisor mode. Its fetch has marked the leaf. -/
theorem precise_of_reachable_sample :
    (Core.sampleFaulting.step {}).1.status = .trapTaken ∧
      (Core.sampleFaulting.step {}).2.state.privilege = .supervisor ∧
      (∃ interrupt code, Core.sampleFaulting.Raises {} interrupt code 0x20 ∧
        Hart.TrapEntry interrupt code 0x20 Core.sampleFaulting.state
          (Core.sampleFaulting.step {}).2.state) ∧
      sv32.wordAt (Core.sampleFaulting.step {}).2.fabric.bus 0 = .ok 0x5B ∧
      Platform.SystemBus.ramLike.Marked sv32
        (sanitizeSatp Core.sampleFaulting.state.supervisorCsrs.satp)
        Core.sampleFaulting.fabric.bus (Core.sampleFaulting.step {}).2.fabric.bus := by
  have trapped : (Core.sampleFaulting.step {}).1.status = .trapTaken := by decide
  have value : (Core.sampleFaulting.step {}).1.trapValue = 0x20 := by decide
  have ranges : Core.sampleFaulting.fabric.bus.ranges = [⟨0, 0x1000⟩] := by decide
  have layout : Platform.Layout Core.sampleFaulting.fabric.bus.ranges :=
    ranges ▸ Platform.SystemBus.layout_ofProgram [] ⟨by decide, by decide⟩
  obtain ⟨interrupt, code, raises, entry, marked, _⟩ := (precise_of_reachable
    Core.reachable_sampleFaulting Platform.SystemBus.ramLike (.self layout) {}).1 trapped
  rw [value] at raises entry
  exact ⟨trapped, by decide, ⟨interrupt, code, raises, entry⟩, by decide, marked⟩

end RvEmulator.Core32
