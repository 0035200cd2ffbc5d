import RvEmulator.Common.PendingBits
import RvEmulator.Core64.Running
import RvEmulator.Core64.WellFormed

/-! Read-modify-writes of `mip` and `sip` on the 64-bit core. -/

namespace RvEmulator.Core64

open Library

/-- The update that CSRRS, CSRRC, CSRRSI and CSRRCI make of a pending register. -/
def pendingUpdate? (state : CpuSnapshot) (decoded : DecodedInstruction) :
    Option (PendingUpdate 64) :=
  (PendingRegister.of? decoded.csr).bind fun register =>
    match decoded.kind with
    | .csrrs => some { register, clears := false, mask := state.registers decoded.rs1 }
    | .csrrsi => some { register, clears := false, mask := decoded.immediate }
    | .csrrc => some { register, clears := true, mask := state.registers decoded.rs1 }
    | .csrrci => some { register, clears := true, mask := decoded.immediate }
    | _ => none

section

variable {state : CpuSnapshot} {address : CsrAddress} {register : PendingRegister}

theorem read_pending (known : PendingRegister.of? address = some register) (time : BitVec 64)
    {privilege : PrivilegeMode} (ready : (CsrFile.read state time address privilege).ready = true) :
    (CsrFile.read state time address privilege).value = state.visiblePending register := by
  obtain ⟨rfl, rfl⟩ | ⟨rfl, rfl⟩ := PendingRegister.mip_or_sip known
  · cases privilege with
    | machine => rfl
    | user | supervisor => cases ready
  · cases privilege with
    | supervisor | machine => rfl
    | user => cases ready

theorem readForWrite_pending (known : PendingRegister.of? address = some register)
    (readValue : Xlen) :
    CsrFile.readForWrite state address readValue = state.modificationBase register readValue := by
  obtain ⟨rfl, rfl⟩ | ⟨rfl, rfl⟩ := PendingRegister.mip_or_sip known
  · rfl
  · rfl

variable (state) in
theorem writeValidated_pending (known : PendingRegister.of? address = some register)
    (value : Xlen) :
    (CsrFile.writeValidated state address value).machineCsrs.mipSoftware =
        state.writtenPending register value ∧
      (CsrFile.writeValidated state address value).registers = state.registers := by
  obtain ⟨rfl, rfl⟩ | ⟨rfl, rfl⟩ := PendingRegister.mip_or_sip known
  · exact ⟨rfl, rfl⟩
  · exact ⟨rfl, rfl⟩

/-- How `execute_csr` sees the instruction of an update. -/
structure Modifies (state : CpuSnapshot) (decoded : DecodedInstruction)
    (update : PendingUpdate 64) : Prop where
  register : PendingRegister.of? decoded.csr = some update.register
  arm : switchArm decoded.kind = .csr
  setOrClear : (decoded.kind == .csrrs || decoded.kind == .csrrc || decoded.kind == .csrrsi ||
    decoded.kind == .csrrci) = true
  sets : update.clears = false → decoded.kind = .csrrs ∨ decoded.kind = .csrrsi
  clears : update.clears = true → ¬(decoded.kind = .csrrs ∨ decoded.kind = .csrrsi) ∧
    (decoded.kind = .csrrc ∨ decoded.kind = .csrrci)
  source : update.mask = if (decoded.kind == .csrrwi || decoded.kind == .csrrsi ||
      decoded.kind == .csrrci) = true then decoded.immediate else state.registers decoded.rs1

theorem modifies_of_pendingUpdate {decoded : DecodedInstruction} {update : PendingUpdate 64}
    (updates : pendingUpdate? state decoded = some update) : Modifies state decoded update := by
  unfold pendingUpdate? at updates
  obtain ⟨register, known, chosen⟩ := Option.bind_eq_some_iff.mp updates
  cases kind : decoded.kind
  case csrrs | csrrc | csrrsi | csrrci =>
    rw [kind] at chosen
    cases chosen
    exact ⟨known, by rw [kind]; rfl, by rw [kind]; rfl, by rw [kind]; simp, by rw [kind]; simp,
      by rw [kind]; rfl⟩
  all_goals
    rw [kind] at chosen
    cases chosen

/-- An operand that is spelled as zero has no bits. -/
theorem Modifies.mask_zero {decoded : DecodedInstruction} {update : PendingUpdate 64}
    (modifies : Modifies state decoded update) (x0 : state.registers 0 = 0)
    (zero : (if (decoded.kind == .csrrwi || decoded.kind == .csrrsi ||
      decoded.kind == .csrrci) = true then decoded.immediate != 0 else decoded.rs1 != 0) = false) :
    update.mask = 0 := by
  rw [modifies.source]
  split at zero
  · rename_i immediate
    rw [if_pos immediate]
    simpa using zero
  · rename_i register
    rw [if_neg register, show decoded.rs1 = 0 by simpa using zero, x0]

theorem Modifies.newValue {decoded : DecodedInstruction} {update : PendingUpdate 64}
    (modifies : Modifies state decoded update) (base : Xlen) :
    (if decoded.kind = .csrrs ∨ decoded.kind = .csrrsi then base ||| update.mask
      else if decoded.kind = .csrrc ∨ decoded.kind = .csrrci then base &&& ~~~update.mask
      else update.mask) = Hart.modifiedPending update base := by
  unfold Hart.modifiedPending
  cases direction : update.clears with
  | false => exact if_pos (modifies.sets direction)
  | true =>
    obtain ⟨other, clears⟩ := modifies.clears direction
    exact (if_neg other).trans (if_pos clears)

/-- What such an instruction asks of the commit. The write is left out only where the
mask has no bits. -/
structure Outcome.Updates (state : CpuSnapshot) (decoded : DecodedInstruction)
    (update : PendingUpdate 64) (outcome : Outcome) : Prop where
  noReturn : outcome.privilegedState = none
  noFloating : outcome.floatingRegisterValue = none ∧ outcome.floatingExceptionFlags = 0
  result : outcome.registerValue = some (state.visiblePending update.register)
  written : (outcome.csrWrite = none ∧ update.mask = 0) ∨
    outcome.csrWrite = some (decoded.csr, Hart.modifiedPending update
      (state.modificationBase update.register (state.visiblePending update.register)))

variable [CpuBus β]

theorem steady_executeCsr_pending {decoded : DecodedInstruction} {update : PendingUpdate 64}
    (modifies : Modifies state decoded update) (x0 : state.registers 0 = 0)
    (instruction : BitVec 32) :
    Steady (executeCsr (β := β) state instruction decoded) fun answer =>
      answer.1 = state.visiblePending update.register ∧
        ((answer.2 = none ∧ update.mask = 0) ∨
          answer.2 = some (decoded.csr, Hart.modifiedPending update
            (state.modificationBase update.register
              (state.visiblePending update.register)))) := by
  refine Steady.bind (fun _ => True) (Steady.peek _ fun _ _ => trivial) ?_
  intro time _
  dsimp only
  rw [modifies.setOrClear, ← modifies.source]
  refine Steady.ite (fun _ => Steady.stop (by grind)) (fun _ => ?_)
  refine Steady.ite (fun _ => Steady.stop (by grind)) (fun unread => Steady.pure ?_)
  have ready : (CsrFile.read state time decoded.csr state.privilege).ready = true := by
    simpa using unread
  rw [Bool.true_or, if_pos rfl, if_pos rfl, read_pending modifies.register time ready,
    readForWrite_pending modifies.register, modifies.newValue, Bool.not_true, Bool.false_or]
  refine ⟨rfl, ?_⟩
  cases required : (if (decoded.kind == .csrrwi || decoded.kind == .csrrsi ||
      decoded.kind == .csrrci) = true then decoded.immediate != 0 else decoded.rs1 != 0) with
  | false => exact .inl ⟨rfl, modifies.mask_zero x0 required⟩
  | true => exact .inr rfl

variable [SoftFloat]

theorem steady_execute_pending {decoded : DecodedInstruction} {update : PendingUpdate 64}
    (modifies : Modifies state decoded update) (x0 : state.registers 0 = 0) (mode : ExecutionMode)
    (instruction : BitVec 32) :
    Steady (execute (β := β) mode state instruction decoded)
      (Outcome.Updates state decoded update) := by
  unfold execute
  dsimp only
  rw [modifies.arm]
  refine Steady.bind _ (steady_executeCsr_pending modifies x0 instruction) ?_
  rintro ⟨oldValue, csrWrite⟩ ⟨seen, written⟩
  exact Steady.pure ⟨rfl, ⟨rfl, rfl⟩, congrArg some seen, written⟩

/-- What an instruction that runs to its commit was, and what it asks for if that is an
update. -/
theorem runInstruction_pending (wellFormed : state.WellFormed) {mode : ExecutionMode}
    {fabric after : Fabric β} (faithful : fabric.WellFormed) {instruction : BitVec 32}
    {decoded : DecodedInstruction} {outcome : Outcome}
    (returned : runInstruction mode state fabric = (.ok (instruction, decoded, outcome), after)) :
    decoded = decodeFetched instruction ∧
      ∀ update, pendingUpdate? state decoded = some update →
        outcome.Updates state decoded update := by
  obtain ⟨middle, fetches, _, executes⟩ := runInstruction_returned returned
  obtain ⟨fetched, _⟩ := steady_fetch mode state fabric faithful
  rw [fetches] at fetched
  obtain ⟨kept, decodes⟩ := fetched _ rfl
  refine ⟨decodes, ?_⟩
  intro update updates
  obtain ⟨executed, _⟩ := steady_execute_pending (modifies_of_pendingUpdate updates) wellFormed.x0
    mode instruction middle kept
  rw [executes] at executed
  exact (executed _ rfl).2

end

/-! ### The commit -/

section

variable {state : CpuSnapshot}

theorem commitRegisters_pending {decoded : DecodedInstruction} {update : PendingUpdate 64}
    {outcome : Outcome} (asked : outcome.Updates state decoded update) :
    (commitRegisters state decoded outcome).machineCsrs = state.machineCsrs ∧
      (decoded.rd ≠ 0 → (commitRegisters state decoded outcome).registers decoded.rd =
        state.visiblePending update.register) := by
  have only : commitRegisters state decoded outcome =
      retire outcome (commitRegister decoded.rd (some (state.visiblePending update.register))
        state) := by
    unfold commitRegisters
    rw [asked.noReturn, asked.noFloating.1, asked.noFloating.2, asked.result]
    rfl
  rw [only]
  unfold commitRegister
  refine ⟨by dsimp only; split <;> rfl, ?_⟩
  intro written
  dsimp only
  rw [if_pos written]
  simp only [retire, CpuSnapshot.onHart, Hart.setRegister]
  rw [Function.update_of_ne written, Function.update_self]

theorem commit_pending {decoded : DecodedInstruction} {update : PendingUpdate 64}
    {outcome : Outcome} (known : PendingRegister.of? decoded.csr = some update.register)
    (software : state.SoftwarePending) (asked : outcome.Updates state decoded update) :
    (commit state decoded outcome).machineCsrs.mipSoftware = state.updatedPending update ∧
      (decoded.rd ≠ 0 → (commit state decoded outcome).registers decoded.rd =
        state.visiblePending update.register) := by
  obtain ⟨csrs, result⟩ := commitRegisters_pending asked
  unfold commit
  obtain ⟨unwritten, masked⟩ | written := asked.written
  · rw [unwritten]
    refine ⟨?_, result⟩
    obtain ⟨register, clears, mask⟩ := update
    cases masked
    exact (congrArg _ csrs).trans (Hart.updatedPending_zero register clears).symm
  · rw [written]
    obtain ⟨kept, registers⟩ := writeValidated_pending
      (commitRegisters state decoded outcome) known (Hart.modifiedPending update
        (state.modificationBase update.register (state.visiblePending update.register)))
    refine ⟨kept.trans ?_, fun rd => (congrFun registers decoded.rd).trans (result rd)⟩
    rw [← Hart.writtenPending_modified software update (state.visiblePending update.register)]
    unfold Hart.writtenPending Hart.writablePending
    rw [csrs]

theorem softwarePending_writeValidated (software : state.SoftwarePending) (address : CsrAddress)
    (value : Xlen) : (CsrFile.writeValidated state address value).SoftwarePending := by
  cases known : PendingRegister.of? address with
  | some register =>
    unfold Hart.SoftwarePending
    rw [(writeValidated_pending state known value).1]
    exact Hart.within_writtenPending software register value
  | none =>
    unfold CsrFile.writeValidated
    split
    case h_12 | h_25 => cases known
    case h_1 | h_2 | h_3 | h_4 | h_14 => exact software
    case h_13 =>
      dsimp only
      split <;> exact software
    all_goals exact software

theorem mipSoftware_commitRegister (rd : RegisterIndex) (value : Option Xlen)
    (state : CpuSnapshot) :
    (commitRegister rd value state).machineCsrs.mipSoftware = state.machineCsrs.mipSoftware := by
  unfold commitRegister
  split
  · split <;> rfl
  · rfl

theorem mipSoftware_commitFloatingRegister (rd : RegisterIndex) (value : Option Xlen)
    (state : CpuSnapshot) :
    (commitFloatingRegister rd value state).machineCsrs.mipSoftware =
      state.machineCsrs.mipSoftware := by
  unfold commitFloatingRegister
  split <;> rfl

theorem mipSoftware_commitFloatingFlags (flags : BitVec 8) (state : CpuSnapshot) :
    (commitFloatingFlags flags state).machineCsrs.mipSoftware =
      state.machineCsrs.mipSoftware := by
  unfold commitFloatingFlags
  split <;> rfl

theorem mipSoftware_executeMret {next : CpuSnapshot} (returned : executeMret state = some next) :
    next.machineCsrs.mipSoftware = state.machineCsrs.mipSoftware := by
  unfold executeMret at returned
  dsimp only at returned
  split at returned
  · cases returned
  split at returned
  · cases returned
  · cases returned
    rfl

theorem mipSoftware_executeSret {next : CpuSnapshot} (returned : executeSret state = some next) :
    next.machineCsrs.mipSoftware = state.machineCsrs.mipSoftware := by
  unfold executeSret at returned
  dsimp only at returned
  split at returned
  · cases returned
  · cases returned
    rfl

theorem softwarePending_commit (software : state.SoftwarePending) {decoded : DecodedInstruction}
    {outcome : Outcome} (allowed : outcome.Allowed state decoded) :
    (commit state decoded outcome).SoftwarePending := by
  have base : (outcome.privilegedState.getD state).machineCsrs.mipSoftware =
      state.machineCsrs.mipSoftware := by
    cases returned : outcome.privilegedState with
    | none => rfl
    | some next =>
      obtain ⟨machine | supervisor, _⟩ := allowed.returns next returned
      · exact mipSoftware_executeMret machine
      · exact mipSoftware_executeSret supervisor
  have registers : (commitRegisters state decoded outcome).machineCsrs.mipSoftware =
      state.machineCsrs.mipSoftware := by
    have retired : ∀ other, (retire outcome other).machineCsrs.mipSoftware =
        other.machineCsrs.mipSoftware := fun _ => rfl
    unfold commitRegisters
    rw [retired, mipSoftware_commitFloatingFlags, mipSoftware_commitFloatingRegister,
      mipSoftware_commitRegister, base]
  have kept : (commitRegisters state decoded outcome).SoftwarePending := by
    unfold Hart.SoftwarePending
    rw [registers]
    exact software
  unfold commit commitCsr
  split
  · exact softwarePending_writeValidated kept _ _
  · exact kept

end

/-! ### Whole runs -/

/-- The same core with other lines sampled by its last step. -/
def Core.withLines (core : Core β) (lines : Xlen) : Core β :=
  { core with state := core.state.onHart (·.withLines lines) }

theorem registers_awake {state : CpuSnapshot} (wellFormed : state.WellFormed)
    (irqLines : IrqLines) : (Core.awake state irqLines).registers = state.registers := by
  change Function.update state.registers 0 0 = state.registers
  rw [← wellFormed.x0]
  exact Function.update_eq_self 0 state.registers

section

variable [SoftFloat] [CpuBus β]

theorem softwarePending_step {core : Core β} (wellFormed : core.WellFormed)
    (software : core.state.SoftwarePending) (irqLines : IrqLines) :
    (core.step irqLines).2.state.SoftwarePending := by
  have awake := wellFormed_awake wellFormed.state irqLines
  obtain ⟨allowed, _⟩ :=
    ensures_runInstruction awake core.executionMode core.fabric wellFormed.fabric
  have stepped := core.stepped irqLines
  generalize core.step irqLines = ended at stepped ⊢
  cases stepped with
  | waited => exact software
  | interrupted pending =>
    unfold Hart.SoftwarePending takeInterruptTrap CpuSnapshot.onHart
    rw [Hart.takeInterruptTrap_mipSoftware]
    exact software
  | trapped trap fabric stopped =>
    unfold Hart.SoftwarePending takeTrap CpuSnapshot.onHart
    rw [Hart.takeTrap_mipSoftware]
    exact software
  | retired instruction decoded outcome fabric returned =>
    rw [returned] at allowed
    have awakened : (Core.awake core.state irqLines).SoftwarePending := software
    exact softwarePending_commit awakened (allowed _ rfl).2.2

theorem softwarePending_of_reachable {core : Core β} (reachable : core.Reachable) :
    core.state.SoftwarePending := by
  induction reachable with
  | new | reset => exact Within.zero
  | setExecutionMode mode _ ih =>
    unfold Core.setExecutionMode
    split <;> exact ih
  | step irqLines before ih =>
    exact softwarePending_step (Core.WellFormed.of_reachable before) ih irqLines
  | external bus _ ih => exact ih

/-- One step that retires an update. -/
theorem step_pending {core : Core β} (reachable : core.Reachable) (irqLines : IrqLines)
    {update : PendingUpdate 64}
    (updates : pendingUpdate? core.state
      (decodeFetched (core.step irqLines).1.instruction) = some update)
    (retires : (core.step irqLines).1.status = .retired) :
    PendingUpdated core.state.toHart irqLines update
      (decodeFetched (core.step irqLines).1.instruction).rd
      (core.step irqLines).2.state.toHart := by
  have wellFormed := Core.WellFormed.of_reachable reachable
  have software := softwarePending_of_reachable reachable
  have after := softwarePending_step wellFormed software irqLines
  have awake := wellFormed_awake wellFormed.state irqLines
  have stepped := core.stepped irqLines
  generalize core.step irqLines = ended at stepped updates retires after ⊢
  cases stepped with
  | waited | interrupted | trapped => cases retires
  | retired instruction decoded outcome fabric returned =>
    obtain ⟨decodes, asks⟩ := runInstruction_pending awake wellFormed.fabric returned
    subst decodes
    have same : pendingUpdate? (Core.awake core.state irqLines) (decodeFetched instruction) =
        some update := by
      rw [← updates]
      unfold pendingUpdate?
      rw [registers_awake wellFormed.state]
    have awakened : (Core.awake core.state irqLines).SoftwarePending := software
    obtain ⟨written, result⟩ := commit_pending (modifies_of_pendingUpdate same).register awakened
      (asks update same)
    exact ⟨written, result, Hart.pendingInterrupts_low after⟩

/-- The instruction that retires does not depend on the lines. -/
theorem step_instruction (core : Core β) (first second : IrqLines)
    (left : (core.step first).1.status = .retired) (right : (core.step second).1.status = .retired) :
    (core.step first).1.instruction = (core.step second).1.instruction := by
  have stepped := core.stepped first
  have steppedAgain := core.stepped second
  generalize core.step first = ended at stepped left ⊢
  generalize core.step second = endedAgain at steppedAgain right ⊢
  cases stepped with
  | waited | interrupted | trapped => cases left
  | retired instruction decoded outcome fabric returned =>
    cases steppedAgain with
    | waited | interrupted | trapped => cases right
    | retired instructionAgain decodedAgain outcomeAgain fabricAgain returnedAgain =>
      obtain ⟨_, fetches, _⟩ := runInstruction_returned returned
      obtain ⟨_, fetchesAgain, _⟩ := runInstruction_returned returnedAgain
      have same : fetch core.executionMode (Core.awake core.state first) core.fabric =
          fetch core.executionMode (Core.awake core.state second) core.fabric := rfl
      rw [fetches, fetchesAgain] at same
      cases same
      rfl

/-- Two runs of one update from states that differ in the lines only. -/
theorem steps_pending {core : Core β} (reachable : core.Reachable) (lines linesAgain : Xlen)
    (irqLines irqLinesAgain : IrqLines) {update : PendingUpdate 64}
    (retires : ((core.withLines lines).step irqLines).1.status = .retired)
    (retiresAgain : ((core.withLines linesAgain).step irqLinesAgain).1.status = .retired)
    (updates : pendingUpdate? core.state
      (decodeFetched ((core.withLines lines).step irqLines).1.instruction) = some update) :
    let decoded := decodeFetched ((core.withLines lines).step irqLines).1.instruction
    let ended := ((core.withLines lines).step irqLines).2.state.toHart
    let endedAgain := ((core.withLines linesAgain).step irqLinesAgain).2.state.toHart
    PendingUpdated core.state.toHart irqLines update decoded.rd ended ∧
      PendingUpdated core.state.toHart irqLinesAgain update decoded.rd endedAgain ∧
      ended.machineCsrs.mipSoftware = endedAgain.machineCsrs.mipSoftware := by
  have resampled : ∀ other otherLines,
      (core.withLines other).step otherLines = core.step otherLines := fun _ _ => rfl
  rw [resampled] at retires retiresAgain updates
  dsimp only
  rw [resampled, resampled]
  have same := step_instruction core irqLinesAgain irqLines retiresAgain retires
  have first := step_pending reachable irqLines updates retires
  rw [← same] at updates
  have second := step_pending reachable irqLinesAgain updates retiresAgain
  rw [same] at second
  exact ⟨first, second, first.software.trans second.software.symm⟩

end

end RvEmulator.Core64
