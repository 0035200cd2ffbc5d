import RvEmulator.Core64.Outcome
import RvEmulator.Platform.SystemBus

/-! Well-formedness of every reachable state of the 64-bit core. -/

namespace RvEmulator.Core64

open Library

namespace CpuSnapshot.WellFormed

variable {state : CpuSnapshot}

/-- A sanitized `mstatus` with the MPRV bit of the old one. -/
theorem setMstatus (wellFormed : state.WellFormed) {value : Xlen}
    (mprv : state.privilege ≠ .machine → value.getLsbD 17 = false) :
    (state.setMstatus (sanitizeMstatus value)).WellFormed :=
  { wellFormed with
    mstatus := lawfulStatus.idempotent value
    mprv := fun below => (lawfulStatus.mprv value).trans (mprv below) }

theorem markFloatingPointDirty (wellFormed : state.WellFormed) :
    (markFloatingPointDirty state).WellFormed := by
  refine wellFormed.setMstatus ?_
  intro below
  rw [BitVec.getLsbD_or, BitVec.getLsbD_and, wellFormed.mprv below]
  decide

theorem setFcsr (wellFormed : state.WellFormed) (fcsr : BitVec 8) :
    (state.setFcsr fcsr).WellFormed := by
  have same : CpuSnapshot.WellFormed
      { state with floatingPoint := { state.floatingPoint with fcsr } } := wellFormed
  exact same.markFloatingPointDirty

end CpuSnapshot.WellFormed

/-- Only machine mode may write `mstatus` itself. -/
theorem machine_of_validateWrite {state : CpuSnapshot} {privilege : PrivilegeMode}
    (ready : CsrFile.validateWrite state CsrAddress.mstatus privilege = .ready) :
    privilege = .machine := by
  cases privilege with
  | machine => rfl
  | user | supervisor => cases ready

theorem supportedMasks :
    Within (supportedInterruptDelegation : Xlen) InterruptBits.supported ∧
      Within (InterruptBits.supervisor : Xlen) InterruptBits.supported ∧
      Within (InterruptBits.supervisorWritablePending : Xlen) InterruptBits.supported := by
  decide

/-- Every CSR write goes through a sanitizer or a mask. -/
theorem wellFormed_writeValidated {state : CpuSnapshot} (wellFormed : state.WellFormed)
    (address : CsrAddress) (value : Xlen)
    (permitted : address = CsrAddress.mstatus → state.privilege = .machine) :
    (CsrFile.writeValidated state address value).WellFormed := by
  have even : BitEven (value &&& ~~~1) := Hart.even_clearBit (by decide) value
  unfold CsrFile.writeValidated
  split
  case h_1 | h_2 | h_3 => exact wellFormed.setFcsr _
  case h_4 =>
    refine wellFormed.setMstatus ?_
    intro below
    rw [BitVec.getLsbD_or, BitVec.getLsbD_and, BitVec.getLsbD_and, wellFormed.mprv below,
      show MstatusBits.supervisorView.getLsbD 17 = false by decide, Bool.false_and, Bool.and_false,
      Bool.or_false]
  case h_5 =>
    exact { wellFormed with
      mie := wellFormed.mie.replace ((Within.and _ _).trans supportedMasks.2.1) }
  case h_6 => exact { wellFormed with stvec := sanitizeTvec_mode value }
  case h_9 => exact { wellFormed with sepc := even }
  case h_12 =>
    exact { wellFormed with
      mipSoftware :=
        wellFormed.mipSoftware.replace ((Within.and _ _).trans supportedMasks.2.2) }
  case h_13 =>
    dsimp only
    split
    · exact { wellFormed with satp := sanitizeSatp_idempotent value }
    · exact wellFormed
  case h_14 =>
    refine wellFormed.setMstatus ?_
    intro below
    exact absurd (permitted rfl) below
  case h_16 => exact { wellFormed with medeleg := Within.and _ _ }
  case h_17 => exact { wellFormed with mideleg := Within.and _ _ }
  case h_18 => exact { wellFormed with mie := Within.and _ _ }
  case h_19 => exact { wellFormed with mtvec := sanitizeTvec_mode value }
  case h_22 => exact { wellFormed with mepc := even }
  case h_25 =>
    exact { wellFormed with mipSoftware := (Within.and _ _).trans supportedMasks.2.1 }
  all_goals exact { wellFormed with }

theorem machineReturnStatus_mprv (old : Xlen) {target : PrivilegeMode}
    (below : target ≠ .machine) : (machineReturnStatus old target).getLsbD 17 = false := by
  unfold machineReturnStatus
  dsimp only
  rw [if_pos below, BitVec.getLsbD_and]
  simp [MstatusBits.mprv]

theorem supervisorReturnStatus_mprv (old : Xlen) :
    (supervisorReturnStatus old).getLsbD 17 = false := by
  unfold supervisorReturnStatus
  rw [BitVec.getLsbD_and]
  simp [MstatusBits.mprv]

theorem wellFormed_executeMret {state next : CpuSnapshot} (wellFormed : state.WellFormed)
    (returned : executeMret state = some next) : next.WellFormed := by
  unfold executeMret at returned
  dsimp only at returned
  split at returned
  · cases returned
  split at returned
  · cases returned
  · rename_i target _
    cases returned
    exact { wellFormed with
      pc := wellFormed.mepc
      mstatus := lawfulStatus.idempotent _
      mprv := fun below => (lawfulStatus.mprv _).trans (machineReturnStatus_mprv _ below) }

theorem wellFormed_executeSret {state next : CpuSnapshot} (wellFormed : state.WellFormed)
    (returned : executeSret state = some next) : next.WellFormed := by
  unfold executeSret at returned
  dsimp only at returned
  split at returned
  · cases returned
  · cases returned
    exact { wellFormed with
      pc := wellFormed.sepc
      mstatus := lawfulStatus.idempotent _
      mprv := fun _ => (lawfulStatus.mprv _).trans (supervisorReturnStatus_mprv _) }

/-- MPP is never the reserved encoding, so machine mode can always return. -/
theorem isSome_executeMret {state : CpuSnapshot} (machine : state.privilege = .machine) :
    (executeMret state).isSome = true := by
  have unreserved :=
    (Status.of_fixed (Status.sanitizeMstatus_idempotent state.machineCsrs.mstatus)).1
  have encoded := twoBits (sanitizeMstatus state.machineCsrs.mstatus) MstatusBits.mppShift
  unfold executeMret
  dsimp only
  rw [if_neg (by simp [machine])]
  unfold MstatusBits.mpp at unreserved ⊢
  rw [encoded] at unreserved ⊢
  revert unreserved
  generalize (sanitizeMstatus state.machineCsrs.mstatus).getLsbD (MstatusBits.mppShift + 1) = high
  generalize (sanitizeMstatus state.machineCsrs.mstatus).getLsbD MstatusBits.mppShift = low
  cases high <;> cases low <;> simp [PrivilegeMode.ofCode?]

section

variable {state : CpuSnapshot}

theorem wellFormed_commitRegister (wellFormed : state.WellFormed) (rd : RegisterIndex)
    (value : Option Xlen) : (commitRegister rd value state).WellFormed := by
  unfold commitRegister
  split
  · split
    · rename_i target
      exact wellFormed.setRegister fun zero => absurd zero target
    · exact wellFormed
  · exact wellFormed

theorem wellFormed_commitFloatingRegister (wellFormed : state.WellFormed) (rd : RegisterIndex)
    (value : Option Xlen) : (commitFloatingRegister rd value state).WellFormed := by
  unfold commitFloatingRegister
  split
  · rename_i value
    have same : (state.setFloatingRegister rd value).WellFormed := wellFormed
    exact same.markFloatingPointDirty
  · exact wellFormed

theorem wellFormed_commitFloatingFlags (wellFormed : state.WellFormed) (flags : BitVec 8) :
    (commitFloatingFlags flags state).WellFormed := by
  unfold commitFloatingFlags
  split
  · exact wellFormed.setFcsr _
  · exact wellFormed

theorem wellFormed_retire (wellFormed : state.WellFormed) {outcome : Outcome}
    (even : BitEven outcome.nextPc) : (retire outcome state).WellFormed := by
  have cleared : (state.toHart.setRegister 0 0).WellFormed sanitizeMstatus sanitizeSatp :=
    wellFormed.setRegister fun _ => rfl
  exact { cleared with pc := even }

end

theorem privilege_commitRegister (rd : RegisterIndex) (value : Option Xlen) (state : CpuSnapshot) :
    (commitRegister rd value state).privilege = state.privilege := by
  unfold commitRegister
  split
  · split <;> rfl
  · rfl

theorem privilege_commitFloatingRegister (rd : RegisterIndex) (value : Option Xlen)
    (state : CpuSnapshot) : (commitFloatingRegister rd value state).privilege = state.privilege := by
  unfold commitFloatingRegister
  split <;> rfl

theorem privilege_commitFloatingFlags (flags : BitVec 8) (state : CpuSnapshot) :
    (commitFloatingFlags flags state).privilege = state.privilege := by
  unfold commitFloatingFlags
  split <;> rfl

theorem privilege_commitRegisters (state : CpuSnapshot) (decoded : DecodedInstruction)
    (outcome : Outcome) :
    (commitRegisters state decoded outcome).privilege =
      (outcome.privilegedState.getD state).privilege := by
  have retired : ∀ (other : CpuSnapshot), (retire outcome other).privilege = other.privilege :=
    fun _ => rfl
  unfold commitRegisters
  rw [retired, privilege_commitFloatingFlags, privilege_commitFloatingRegister,
    privilege_commitRegister]

theorem wellFormed_commitRegisters {state : CpuSnapshot} {decoded : DecodedInstruction}
    {outcome : Outcome} (wellFormed : state.WellFormed) (wellformed : decoded.Wellformed)
    (allowed : outcome.Allowed state decoded) :
    (commitRegisters state decoded outcome).WellFormed := by
  have base : (outcome.privilegedState.getD state).WellFormed := by
    cases returned : outcome.privilegedState with
    | none => exact wellFormed
    | some next =>
      obtain ⟨machine | supervisor, _⟩ := allowed.returns next returned
      · exact wellFormed_executeMret wellFormed machine
      · exact wellFormed_executeSret wellFormed supervisor
  exact wellFormed_retire
    (wellFormed_commitFloatingFlags
      (wellFormed_commitFloatingRegister (wellFormed_commitRegister base _ _) _ _) _)
    (allowed.even wellFormed wellformed)

theorem wellFormed_commit {state : CpuSnapshot} {decoded : DecodedInstruction} {outcome : Outcome}
    (wellFormed : state.WellFormed) (wellformed : decoded.Wellformed)
    (allowed : outcome.Allowed state decoded) : (commit state decoded outcome).WellFormed := by
  have registers := wellFormed_commitRegisters wellFormed wellformed allowed
  unfold commit commitCsr
  split
  · rename_i address value written
    obtain ⟨ready, alone⟩ := allowed.writes address value written
    refine wellFormed_writeValidated registers address value ?_
    intro status
    rw [privilege_commitRegisters, alone]
    exact machine_of_validateWrite (status ▸ ready)
  · exact registers

theorem wellFormed_beginStep {state : CpuSnapshot} (wellFormed : state.WellFormed)
    (irqLines : IrqLines) : (beginStep state irqLines).WellFormed := by
  have counted : CpuSnapshot.WellFormed { state with cycle := state.cycle + 1 } :=
    { wellFormed with }
  exact (counted.setRegister fun _ => rfl).sampleInterruptLines irqLines

theorem wellFormed_awake {state : CpuSnapshot} (wellFormed : state.WellFormed)
    (irqLines : IrqLines) : (Core.awake state irqLines).WellFormed :=
  { wellFormed_beginStep wellFormed irqLines with }

theorem wellFormed_resetState {config : ResetConfig 64} (even : BitEven config.resetPc) :
    (Core.resetState config).WellFormed where
  x0 := by
    simp only [Core.resetState]
    rw [Function.update_of_ne (by decide), Function.update_of_ne (by decide)]
  pc := even
  mepc := BitEven.zero
  sepc := BitEven.zero
  mstatus := lawfulStatus.idempotent 0
  mtvec := show (0 : Xlen) &&& 3 ≤ 1 by decide
  stvec := show (0 : Xlen) &&& 3 ≤ 1 by decide
  medeleg := Within.zero
  mideleg := Within.zero
  mie := Within.zero
  mipSoftware := Within.zero
  satp := show sanitizeSatp 0 = 0 by decide
  mprv := fun _ => by simp only [Core.resetState]; decide

section

variable [SoftFloat] [CpuBus β]

/-- In a well-formed state an instruction never finds a misaligned program
counter, and what it returns to the commit is allowed. -/
theorem ensures_runInstruction {state : CpuSnapshot} (wellFormed : state.WellFormed)
    (mode : ExecutionMode) :
    Steady (runInstruction (β := β) mode state)
      (fun result => result.2.1.Wellformed ∧ result.2.2.Allowed state result.2.1) := by
  have aligned : ∀ {pc : Xlen}, BitEven pc → ¬(pc &&& 0x1) ≠ 0 := by
    intro pc even odd
    exact odd ((BitEven.mask_one (by decide)).mp even)
  refine Steady.ite (fun odd => absurd odd (aligned wellFormed.pc)) (fun _ => ?_)
  refine Steady.bind _ (steady_fetch mode state) ?_
  rintro ⟨instruction, decoded⟩ decodes
  have same : decoded = decodeFetched instruction := decodes
  have wellformed : decoded.Wellformed := same ▸ wellformed_decodeFetched instruction
  refine Steady.ite (fun _ => Steady.stop (by grind)) (fun _ => ?_)
  refine Steady.bind _ (steady_execute mode state instruction decoded) ?_
  intro outcome allowed
  exact Steady.ite (fun odd => absurd odd (aligned (allowed.even wellFormed wellformed)))
    (fun _ => Steady.pure ⟨wellformed, allowed⟩)

/-- The invariant of the whole core. -/
structure Core.WellFormed (core : Core β) : Prop where
  state : core.state.WellFormed
  fabric : core.fabric.WellFormed

theorem Core.WellFormed.step {core : Core β} (wellFormed : core.WellFormed)
    (irqLines : IrqLines) : (core.step irqLines).2.WellFormed := by
  have awake := wellFormed_awake wellFormed.state irqLines
  obtain ⟨allowed, stopping⟩ :=
    ensures_runInstruction awake core.executionMode core.fabric wellFormed.fabric
  have stepped := core.stepped irqLines
  generalize core.step irqLines = ended at stepped ⊢
  cases stepped with
  | waited => exact ⟨wellFormed_beginStep wellFormed.state irqLines, wellFormed.fabric⟩
  | interrupted pending =>
    exact ⟨awake.takeInterruptTrap lawfulStatus (by decide) pending _, wellFormed.fabric⟩
  | trapped trap fabric stopped =>
    rw [stopped] at stopping
    exact ⟨awake.takeTrap lawfulStatus (by decide) _, (stopping trap rfl).1⟩
  | retired instruction decoded outcome fabric returned =>
    rw [returned] at allowed
    obtain ⟨kept, wellformed, allowed⟩ := allowed _ rfl
    exact ⟨wellFormed_commit awake wellformed allowed, kept⟩

/-- Cores that can come about: constructed, reset at an even address, switched
between modes and stepped, while anything may happen to the bus. -/
inductive Core.Reachable : Core β → Prop where
  | new (bus : β) : Reachable (.new bus)
  | reset (config : ResetConfig 64) : Reachable core → BitEven config.resetPc →
      Reachable (core.reset config)
  | setExecutionMode (mode : ExecutionMode) : Reachable core →
      Reachable (core.setExecutionMode mode)
  | step (irqLines : IrqLines) : Reachable core → Reachable (core.step irqLines).2
  | external (bus : β) : Reachable core →
      Reachable { core with fabric := { core.fabric with bus } }

theorem Core.WellFormed.of_reachable {core : Core β} (reachable : core.Reachable) :
    core.WellFormed := by
  induction reachable with
  | new bus =>
    exact ⟨wellFormed_resetState (by decide), DecodeCache.faithful_clear _,
      InstructionCache.Faithful.initial.clear⟩
  | reset config _ even ih =>
    exact ⟨wellFormed_resetState even, DecodeCache.faithful_clear _,
      ih.fabric.instructionCache.clear⟩
  | setExecutionMode mode _ ih =>
    unfold Core.setExecutionMode
    split
    · exact ih
    · exact ⟨ih.state, DecodeCache.faithful_clear _,
        ih.fabric.instructionCache.clear⟩
  | step irqLines _ ih => exact ih.step irqLines
  | external bus _ ih => exact ⟨ih.state, ih.fabric.decodeCache, ih.fabric.instructionCache⟩

/-- Every reachable core is well-formed. So no step raises a misaligned
instruction address, and no MRET of machine mode is rejected. -/
theorem reachable_wellFormed {core : Core β} (reachable : core.Reachable) :
    core.state.WellFormed ∧
      ((core.state.machineCsrs.mstatus &&& MstatusBits.mpp) >>> MstatusBits.mppShift ≠ 2 ∧
        (flag core.state.machineCsrs.mstatus MstatusBits.sd = true ↔
          (core.state.machineCsrs.mstatus &&& MstatusBits.fs) = MstatusBits.fsDirty) ∧
        Within core.state.machineCsrs.mstatus
          (MstatusBits.writable ||| MstatusBits.fixed ||| MstatusBits.sd)) ∧
      (∀ irqLines trap fabric,
        runInstruction core.executionMode (Core.awake core.state irqLines) core.fabric =
          (.error trap, fabric) → trap.cause ≠ .instructionAddressMisaligned) ∧
      (∀ irqLines, (Core.awake core.state irqLines).privilege = .machine →
        (executeMret (Core.awake core.state irqLines)).isSome = true) := by
  have wellFormed := Core.WellFormed.of_reachable reachable
  refine ⟨wellFormed.state, Status.of_fixed wellFormed.state.mstatus, ?_, ?_⟩
  · intro irqLines trap fabric stopped
    have awake := wellFormed_awake wellFormed.state irqLines
    obtain ⟨_, failed⟩ :=
      ensures_runInstruction awake core.executionMode core.fabric wellFormed.fabric
    rw [stopped] at failed
    exact (failed trap rfl).2
  · intro irqLines machine
    exact isSome_executeMret machine

end

section

attribute [local instance] SoftFloat.unused

/-- `addi x1, x0, 5`, then a jump to itself. -/
def Core.sampleBus : Platform.SystemBus Platform.Ram :=
  .ofProgram 0x80000000 0x1000 [0x00500093, 0x0000006F]

/-- A program that delegates store page faults, maps its page without the right to write,
and returns to user mode, where it stores to this page. -/
def Core.sampleFaulting : Core (Platform.SystemBus Platform.Ram) :=
  (fun core => (core.step {}).2)^[7] ((Core.new (.ofProgram 0x80000000 0x1000
    [0, 0, 0, 0, 0x2000001B, 0, 0x000080B7, 0x30209073, 0x18059073, 0x00000297, 0x01028293,
      0x34129073, 0x30200073, 0x0002A023])).reset
    { resetPc := 0x80000018, bootArgument := 0x8000000000080000 })

theorem Core.reachable_sampleFaulting : Core.sampleFaulting.Reachable :=
  .step {} <| .step {} <| .step {} <| .step {} <| .step {} <| .step {} <| .step {} <|
    .reset _ (.new _) (by decide)

theorem reachable_wellFormed_sample :
    ((Core.new Core.sampleBus).step {}).2.state.WellFormed :=
  (reachable_wellFormed (.step {} (.new Core.sampleBus))).1

end

end RvEmulator.Core64
