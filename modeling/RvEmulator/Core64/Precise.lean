import RvEmulator.Common.TrapEntry
import RvEmulator.Core64.Keeping
import RvEmulator.Core64.WellFormed
import RvEmulator.Mmu.Marking
import RvEmulator.Platform.RamBus

/-! Precise traps. An instruction that traps has stored nothing, in either mode:
each of its stores comes after the last check that can fail. -/

namespace RvEmulator.Core64

open Library

section

variable [CpuBus β] (ram : RamLike β) (satp : Xlen) (before : β)

/-- The computation stores nothing. -/
abbrev Storeless (x : Instr β α) : Prop :=
  CoreFabric.Keeps (fun bus _ => ram.Kept sv39 satp before bus) x

/-- The computation stores nothing unless it returns. The misaligned program
counter that is found after the execution is ruled out elsewhere. -/
def Precise (x : Instr β α) : Prop :=
  Exec.Ensures (fun fabric => ram.Kept sv39 satp before fabric.bus) x (fun _ _ => True)
    (fun trap fabric => trap.cause ≠ .instructionAddressMisaligned →
      ram.Kept sv39 satp before fabric.bus)

variable {ram satp before}

theorem Storeless.precise {x : Instr β α} (storeless : Storeless ram satp before x) :
    Precise ram satp before x := by
  intro fabric kept
  obtain ⟨_, failed⟩ := storeless fabric kept
  exact ⟨fun _ _ => trivial, fun trap stopped _ => failed trap stopped⟩

namespace Precise

theorem ite {condition : Prop} [Decidable condition] {x y : Instr β α}
    (left : Precise ram satp before x) (right : Precise ram satp before y) :
    Precise ram satp before (if condition then x else y) := by
  split
  · exact left
  · exact right

/-- What comes before the last access stores nothing. -/
theorem bind {x : Instr β α} {f : α → Instr β γ} (first : Storeless ram satp before x)
    (next : ∀ a, Precise ram satp before (f a)) : Precise ram satp before (x >>= f) := by
  refine Exec.Ensures.bind ?_ next
  intro fabric kept
  obtain ⟨returned, failed⟩ := first fabric kept
  exact ⟨returned, fun trap stopped _ => failed trap stopped⟩

theorem map {x : Instr β α} (f : α → γ) (precise : Precise ram satp before x) :
    Precise ram satp before (x >>= fun a => pure (f a)) :=
  Exec.Ensures.bind precise fun _ => Exec.Ensures.pure fun _ _ => trivial

/-- A last bus access: the computation stops if the bus refuses, and returns
otherwise. -/
theorem access {method : StateM β α} {refused : α → Prop} [DecidablePred refused]
    {trap : α → Trap} {result : α → γ}
    (kept : ∀ bus, ram.same bus bus → refused (method bus).1 →
      ram.same (method bus).2 (method bus).2 ∧
        ram.contents (method bus).2 = ram.contents bus) :
    Precise ram satp before (do
      let answer ← onBus method
      if refused answer then Exec.stop (trap answer) else Pure.pure (result answer)) := by
  have accessed : Exec.Ensures (fun fabric => ram.Kept sv39 satp before fabric.bus)
      (onBus method : Instr β α)
      (fun answer fabric => refused answer → ram.Kept sv39 satp before fabric.bus)
      (fun trap fabric => trap.cause ≠ .instructionAddressMisaligned →
        ram.Kept sv39 satp before fabric.bus) := by
    refine Exec.Ensures.lift ?_
    rintro fabric ⟨memory, marked⟩ failed
    obtain ⟨same, contents⟩ := kept fabric.bus memory failed
    exact ⟨same, marked.congr contents⟩
  refine Exec.Ensures.bind accessed ?_
  intro answer
  split
  · rename_i failed
    exact Exec.Ensures.stop fun _ after _ => after failed
  · exact Exec.Ensures.pure fun _ _ => trivial

end Precise

/-! Every part of an instruction, from the fetch on. -/

variable (mode : ExecutionMode) (state : CpuSnapshot) (instruction : BitVec 32)

theorem storeless_translate (virtualAddress : Xlen) (access : MemoryAccessType) :
    Storeless ram (sanitizeSatp state.supervisorCsrs.satp) before
      (translate mode state virtualAddress access) := by
  cases mode with
  | fast =>
    refine Exec.Ensures.lift ?_
    rintro fabric ⟨memory, marked⟩
    exact RamLike.Marked.tlbTranslate marked memory virtualAddress access fabric.tlb
  | reference =>
    refine Exec.Ensures.lift ?_
    rintro fabric ⟨memory, marked⟩
    exact RamLike.Marked.translateAddress marked memory virtualAddress access

theorem kept_read (address : PhysAddr) (width : AccessWidth) (kind : AccessKind) (bus : β)
    (_ : InstructionCache 64 DecodedInstruction) (kept : ram.Kept sv39 satp before bus) :
    ram.Kept sv39 satp before (CpuBus.read address width kind bus).2 :=
  kept.read address width kind

theorem storeless_fetch :
    Storeless ram (sanitizeSatp state.supervisorCsrs.satp) before (fetch mode state) :=
  keeps_fetch (storeless_translate mode state) kept_read fun _ _ _ _ _ _ _ kept => kept

theorem storeless_dataAddress (address : Xlen) (width : AccessWidth) (loads : Bool) :
    Storeless ram (sanitizeSatp state.supervisorCsrs.satp) before
      (dataAddress mode state instruction address width loads) :=
  keeps_dataAddress instruction (storeless_translate mode state) address width loads

theorem storeless_loadValue (address : Xlen) (width : AccessWidth) :
    Storeless ram (sanitizeSatp state.supervisorCsrs.satp) before
      (loadValue mode state instruction address width) :=
  keeps_loadValue instruction (storeless_translate mode state) kept_read address width

theorem precise_storeValue (address : Xlen) (width : AccessWidth) (value : BitVec 64) :
    Precise ram (sanitizeSatp state.supervisorCsrs.satp) before
      (storeValue mode state instruction address width value) := by
  refine .bind (storeless_dataAddress mode state instruction address width false)
    fun physical => ?_
  refine Precise.access ?_
  intro bus memory failed
  exact ⟨(ram.perform (.write physical width value .store) memory).2, ram.refused memory failed⟩

/-- An atomic access that the bus refuses leaves memory alone. -/
theorem kept_atomicAccess {bus : β} (memory : ram.same bus bus) (kind : InstructionKind)
    (doubleword : Bool) (hart : BitVec 32) (address : PhysAddr) (rs2 : Xlen)
    (failed : (atomicAccess kind doubleword hart address rs2 bus).1.1 ≠ .none) :
    ram.same (atomicAccess kind doubleword hart address rs2 bus).2
        (atomicAccess kind doubleword hart address rs2 bus).2 ∧
      ram.contents (atomicAccess kind doubleword hart address rs2 bus).2 = ram.contents bus := by
  revert failed
  unfold atomicAccess
  split
  case h_1 | h_2 =>
    intro _
    cases doubleword with
    | true =>
      exact ⟨(ram.perform (.loadReservedDoubleword hart address) memory).2,
        ram.loadReservedDoubleword memory⟩
    | false =>
      exact ⟨(ram.perform (.loadReservedWord hart address) memory).2, ram.loadReservedWord memory⟩
  case h_3 | h_4 =>
    cases doubleword with
    | true =>
      intro failed
      exact ⟨(ram.perform (.storeConditionalDoubleword hart address rs2) memory).2,
        ram.storeConditionalDoubleword memory failed⟩
    | false =>
      intro failed
      exact ⟨(ram.perform (.storeConditionalWord hart address (rs2.setWidth 32)) memory).2,
        ram.storeConditionalWord memory failed⟩
  case h_5 =>
    cases doubleword with
    | true =>
      intro failed
      exact ⟨(ram.perform (.atomicDoubleword hart address (amoOperation kind) rs2) memory).2,
        ram.atomicDoubleword memory failed⟩
    | false =>
      intro failed
      exact ⟨(ram.perform (.atomicWord hart address (amoOperation kind) (rs2.setWidth 32)) memory).2,
        ram.atomicWord memory failed⟩

theorem precise_executeAtomic (decoded : DecodedInstruction) :
    Precise ram (sanitizeSatp state.supervisorCsrs.satp) before
      (executeAtomic mode state instruction decoded) := by
  refine .bind (storeless_dataAddress mode state instruction _ _ _) fun physical => ?_
  refine Precise.access ?_
  intro bus memory failed
  exact kept_atomicAccess memory _ _ _ _ _ failed

theorem precise_executeFloatingStore (decoded : DecodedInstruction) :
    Precise ram (sanitizeSatp state.supervisorCsrs.satp) before
      (executeFloatingStore mode state instruction decoded) :=
  .ite (Storeless.precise .stop) (precise_storeValue mode state instruction _ _ _)

variable [SoftFloat]

theorem precise_execute (decoded : DecodedInstruction) :
    Precise ram (sanitizeSatp state.supervisorCsrs.satp) before
      (execute mode state instruction decoded) := by
  have stops : ∀ {α : Type} (trap : Trap), Precise ram (sanitizeSatp state.supervisorCsrs.satp)
      before (Exec.stop trap : Instr β α) := fun trap => Storeless.precise .stop
  have returns : ∀ outcome : Outcome, Precise ram (sanitizeSatp state.supervisorCsrs.satp) before
      (pure outcome) := fun outcome => Storeless.precise .pure
  unfold execute
  dsimp only
  split
  case h_1 | h_7 => exact returns _
  case h_2 => exact (precise_executeAtomic mode state instruction decoded).map _
  case h_3 =>
    exact (Storeless.precise (.bind (storeless_loadValue mode state instruction _ _)
      fun _ => .pure)).map _
  case h_4 =>
    refine Precise.map _ (Precise.ite (stops _) ?_)
    exact Storeless.precise (.bind (storeless_loadValue mode state instruction _ _) fun _ => .pure)
  case h_5 => exact (precise_storeValue mode state instruction _ _ _).map _
  case h_6 => exact (precise_executeFloatingStore mode state instruction decoded).map _
  case h_8 => exact Storeless.precise (.lift fun _ kept => kept)
  case h_9 => exact (Storeless.precise (keeps_executeCsr state instruction decoded)).map _
  case h_10 | h_11 | h_16 => exact stops _
  case h_12 | h_13 | h_17 =>
    split
    · exact stops _
    · exact returns _
  case h_14 => exact .ite (stops _) (returns _)
  case h_15 => exact .ite (stops _) (Storeless.precise (.lift fun _ kept => kept))

theorem precise_runInstruction :
    Precise ram (sanitizeSatp state.supervisorCsrs.satp) before (runInstruction mode state) := by
  refine .ite (Storeless.precise .stop) (.bind (storeless_fetch mode state) fun fetched => ?_)
  refine .ite (Storeless.precise .stop) ?_
  refine Exec.Ensures.bind (precise_execute mode state fetched.1 fetched.2) ?_
  intro outcome
  split
  · exact Exec.Ensures.stop fun _ _ other => absurd rfl other
  · exact Exec.Ensures.pure fun _ _ => trivial

end

/-! What a trap does to the snapshot. -/

/-- A precise trap entry, which leaves the floating-point state alone. -/
structure TrapEntry (interrupt : Bool) (code : Nat) (trapValue : Xlen)
    (before after : CpuSnapshot) : Prop
    extends Hart.TrapEntry interrupt code trapValue before.toHart after.toHart where
  floatingPoint : after.floatingPoint = before.floatingPoint

theorem trapEntry_takeTrap (state : CpuSnapshot) (cause : ExceptionCause) (trapValue : Xlen) :
    TrapEntry false cause.code trapValue state
      (takeTrap state { cause, exceptionPc := state.pc, trapValue }) where
  toTrapEntry := Hart.trapEntry_takeTrap sanitizeMstatus state.toHart (by decide) cause trapValue
  floatingPoint := rfl

theorem trapEntry_takeInterruptTrap (state : CpuSnapshot)
    (pending : state.selectPendingInterrupt.pending = true) :
    TrapEntry true state.selectPendingInterrupt.cause.code 0 state
      (takeInterruptTrap state state.selectPendingInterrupt.cause state.pc
        state.selectPendingInterrupt.target) where
  toTrapEntry := Hart.trapEntry_takeInterruptTrap sanitizeMstatus state.toHart pending
  floatingPoint := rfl

/-- The bookkeeping at the start of a step does not show in a trap entry. -/
theorem TrapEntry.of_awake {interrupt : Bool} {code : Nat} {trapValue : Xlen}
    {state after : CpuSnapshot} {irqLines : IrqLines}
    (entry : TrapEntry interrupt code trapValue (Core.awake state irqLines) after) :
    TrapEntry interrupt code trapValue state after where
  registers index other :=
    (entry.registers index other).trans (Function.update_of_ne other _ _)
  floatingPoint := entry.floatingPoint
  instructionsRetired := entry.instructionsRetired
  target := entry.target
  supervisor := entry.supervisor
  machine := entry.machine

/-- Only a write of `minstret` sets the counter. -/
theorem instructionsRetired_writeValidated (state : CpuSnapshot) {address : CsrAddress}
    (other : address ≠ CsrAddress.minstret) (value : Xlen) :
    (CsrFile.writeValidated state address value).instructionsRetired =
      state.instructionsRetired := by
  unfold CsrFile.writeValidated
  split
  case h_13 =>
    dsimp only
    split <;> rfl
  case h_27 => exact absurd rfl other
  all_goals rfl

theorem instructionsRetired_of_return {state next : CpuSnapshot}
    (returned : executeMret state = some next ∨ executeSret state = some next) :
    next.instructionsRetired = state.instructionsRetired := by
  rcases returned with machine | supervisor
  · unfold executeMret at machine
    dsimp only at machine
    split at machine
    · cases machine
    split at machine
    · cases machine
    · cases machine
      rfl
  · unfold executeSret at supervisor
    dsimp only at supervisor
    split at supervisor
    · cases supervisor
    · cases supervisor
      rfl

theorem instructionsRetired_commitRegisters {state : CpuSnapshot} {decoded : DecodedInstruction}
    {outcome : Outcome} (allowed : outcome.Allowed state decoded) :
    (commitRegisters state decoded outcome).instructionsRetired =
      state.instructionsRetired + 1 := by
  have started : (outcome.privilegedState.getD state).instructionsRetired =
      state.instructionsRetired := by
    cases returns : outcome.privilegedState with
    | none => rfl
    | some next => exact instructionsRetired_of_return (allowed.returns next returns).1
  have written : ∀ (rd : RegisterIndex) (value : Option Xlen) (state : CpuSnapshot),
      (commitRegister rd value state).instructionsRetired = state.instructionsRetired := by
    intro rd value state
    unfold commitRegister
    split
    · split <;> rfl
    · rfl
  have floating : ∀ (rd : RegisterIndex) (value : Option Xlen) (state : CpuSnapshot),
      (commitFloatingRegister rd value state).instructionsRetired =
        state.instructionsRetired := by
    intro rd value state
    unfold commitFloatingRegister
    split <;> rfl
  have flags : ∀ (flags : BitVec 8) (state : CpuSnapshot),
      (commitFloatingFlags flags state).instructionsRetired = state.instructionsRetired := by
    intro flags state
    unfold commitFloatingFlags
    split <;> rfl
  simp only [commitRegisters, retire, flags, floating, written, started]

theorem instructionsRetired_commit {state : CpuSnapshot} {decoded : DecodedInstruction}
    {outcome : Outcome} (allowed : outcome.Allowed state decoded)
    (other : ∀ value, outcome.csrWrite ≠ some (CsrAddress.minstret, value)) :
    (commit state decoded outcome).instructionsRetired = state.instructionsRetired + 1 := by
  have counted := instructionsRetired_commitRegisters allowed
  unfold commit commitCsr
  split
  · rename_i address value written
    rw [instructionsRetired_writeValidated _ ?_ value, counted]
    rintro rfl
    exact other value written
  · exact counted

section

variable [SoftFloat] [CpuBus β]

/-- The trap that a step is to take: an interrupt, or the exception that stopped
the instruction. -/
inductive Core.Raises (core : Core β) (irqLines : IrqLines) : Bool → Nat → Xlen → Prop where
  | interrupt (pending : (awake core.state irqLines).selectPendingInterrupt.pending = true) :
      Raises core irqLines true (awake core.state irqLines).selectPendingInterrupt.cause.code 0
  | exception (trap : Trap) (fabric : Fabric β)
      (stopped : runInstruction core.executionMode (awake core.state irqLines) core.fabric =
        (.error trap, fabric))
      (idle : (awake core.state irqLines).selectPendingInterrupt.pending = false) :
      Raises core irqLines false trap.cause.code trap.trapValue

/-- The instruction of a step writes `minstret`. -/
def Core.WritesMinstret (core : Core β) (irqLines : IrqLines) : Prop :=
  ∃ instruction decoded outcome fabric value,
    runInstruction core.executionMode (awake core.state irqLines) core.fabric =
      (.ok (instruction, decoded, outcome), fabric) ∧
    outcome.csrWrite = some (CsrAddress.minstret, value)

/-- Traps are precise in every reachable state: registers, floating-point state
and counter stay, memory is only marked by page walks, and the trap goes where
delegation says. A retired step counts one instruction. -/
theorem reachable_precise {core : Core β} (reachable : core.Reachable) (ram : RamLike β)
    (memory : ram.same core.fabric.bus core.fabric.bus) (irqLines : IrqLines) :
    ((core.step irqLines).1.status = .trapTaken →
      ∃ interrupt code, core.Raises irqLines interrupt code (core.step irqLines).1.trapValue ∧
        TrapEntry interrupt code (core.step irqLines).1.trapValue core.state
          (core.step irqLines).2.state ∧
        ram.Marked sv39 (sanitizeSatp core.state.supervisorCsrs.satp) core.fabric.bus
          (core.step irqLines).2.fabric.bus ∧
        ∀ address, Marks (ram.contents core.fabric.bus address)
          (ram.contents (core.step irqLines).2.fabric.bus address)) ∧
      ((core.step irqLines).1.status = .retired → ¬core.WritesMinstret irqLines →
        (core.step irqLines).2.state.instructionsRetired =
          core.state.instructionsRetired + 1) := by
  have wellFormed := Core.WellFormed.of_reachable reachable
  have awake := wellFormed_awake wellFormed.state irqLines
  obtain ⟨allowed, aligned⟩ :=
    ensures_runInstruction awake core.executionMode core.fabric wellFormed.fabric
  have kept : ram.Kept sv39 (sanitizeSatp core.state.supervisorCsrs.satp) core.fabric.bus
      core.fabric.bus := ⟨memory, .unchanged rfl⟩
  obtain ⟨_, precise⟩ :=
    precise_runInstruction core.executionMode (Core.awake core.state irqLines) core.fabric kept
  have stepped := core.stepped irqLines
  generalize core.step irqLines = ended at stepped ⊢
  cases stepped with
  | waited => exact ⟨fun trapped => (nomatch trapped), fun retired => (nomatch retired)⟩
  | interrupted pending =>
    refine ⟨fun _ => ?_, fun retired => (nomatch retired)⟩
    exact ⟨true, _, .interrupt pending, (trapEntry_takeInterruptTrap _ pending).of_awake,
      .unchanged rfl, fun _ => .refl _⟩
  | trapped trap fabric stopped idle =>
    refine ⟨fun _ => ?_, fun retired => (nomatch retired)⟩
    rw [stopped] at aligned precise
    have marked := (precise trap rfl (aligned trap rfl).2).2
    exact ⟨false, _, .exception trap fabric stopped idle, (trapEntry_takeTrap _ _ _).of_awake, marked,
      marked.bytes (by decide)⟩
  | retired instruction decoded outcome fabric returned =>
    refine ⟨fun trapped => (nomatch trapped), ?_⟩
    intro _ other
    rw [returned] at allowed
    obtain ⟨_, _, allowed⟩ := allowed _ rfl
    refine instructionsRetired_commit allowed ?_
    intro value written
    exact other ⟨instruction, decoded, outcome, fabric, value, returned, written⟩

end

section

attribute [local instance] SoftFloat.unused

/-- The store is a page fault that goes to supervisor mode. Its fetch has marked the leaf. -/
theorem reachable_precise_sample :
    (Core.sampleFaulting.step {}).1.status = .trapTaken ∧
      (Core.sampleFaulting.step {}).2.state.privilege = .supervisor ∧
      (∃ interrupt code, Core.sampleFaulting.Raises {} interrupt code 0x80000034 ∧
        TrapEntry interrupt code 0x80000034 Core.sampleFaulting.state
          (Core.sampleFaulting.step {}).2.state) ∧
      sv39.wordAt (Core.sampleFaulting.step {}).2.fabric.bus 0x80000010 = .ok 0x2000005B ∧
      Platform.SystemBus.ramLike.Marked sv39
        (sanitizeSatp Core.sampleFaulting.state.supervisorCsrs.satp)
        Core.sampleFaulting.fabric.bus (Core.sampleFaulting.step {}).2.fabric.bus := by
  have trapped : (Core.sampleFaulting.step {}).1.status = .trapTaken := by decide +kernel
  have value : (Core.sampleFaulting.step {}).1.trapValue = 0x80000034 := by decide +kernel
  have ranges : Core.sampleFaulting.fabric.bus.ranges = [⟨0x80000000, 0x1000⟩] := by
    decide +kernel
  have layout : Platform.Layout Core.sampleFaulting.fabric.bus.ranges :=
    ranges ▸ Platform.SystemBus.layout_ofProgram [] ⟨by decide, by decide⟩
  obtain ⟨interrupt, code, raises, entry, marked, _⟩ := (reachable_precise
    Core.reachable_sampleFaulting Platform.SystemBus.ramLike (.self layout) {}).1 trapped
  rw [value] at raises entry
  exact ⟨trapped, by decide +kernel, ⟨interrupt, code, raises, entry⟩, by decide +kernel, marked⟩

end

end RvEmulator.Core64
