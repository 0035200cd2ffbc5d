import RvEmulator.Common.PendingBits
import RvEmulator.Core32.WellFormed

/-! Read-modify-writes of `mip` and `sip` on the 32-bit core. -/

namespace RvEmulator.Core32

open Library

/-- The update that CSRRS, CSRRC, CSRRSI and CSRRCI make of a pending register. -/
def pendingUpdate? (state : CpuSnapshot) (decoded : DecodedInstruction) :
    Option (PendingUpdate 32) :=
  (PendingRegister.of? decoded.csr).bind fun register =>
    match decoded.kind with
    | .csrrs => some { register, clears := false, mask := state.registers decoded.rs1 }
    | .csrrsi => some { register, clears := false, mask := decoded.immediate }
    | .csrrc => some { register, clears := true, mask := state.registers decoded.rs1 }
    | .csrrci => some { register, clears := true, mask := decoded.immediate }
    | _ => none

section

variable {state : CpuSnapshot} {address : CsrAddress} {register : PendingRegister}

theorem read_pending (known : PendingRegister.of? address = some register) (time : BitVec 64)
    {privilege : PrivilegeMode} (ready : (CsrFile.read state time address privilege).ready = true) :
    (CsrFile.read state time address privilege).value = state.visiblePending register := by
  obtain ⟨rfl, rfl⟩ | ⟨rfl, rfl⟩ := PendingRegister.mip_or_sip known
  · cases privilege with
    | machine => rfl
    | user | supervisor => cases ready
  · cases privilege with
    | supervisor | machine => rfl
    | user => cases ready

theorem readForWrite_pending (known : PendingRegister.of? address = some register)
    (readValue : Xlen) :
    CsrFile.readForWrite state address readValue = state.modificationBase register readValue := by
  obtain ⟨rfl, rfl⟩ | ⟨rfl, rfl⟩ := PendingRegister.mip_or_sip known
  · rfl
  · rfl

variable (state) in
theorem writeValidated_pending (known : PendingRegister.of? address = some register)
    (value : Xlen) :
    (CsrFile.writeValidated state address value).machineCsrs.mipSoftware =
        state.writtenPending register value ∧
      (CsrFile.writeValidated state address value).registers = state.registers := by
  obtain ⟨rfl, rfl⟩ | ⟨rfl, rfl⟩ := PendingRegister.mip_or_sip known
  · exact ⟨rfl, rfl⟩
  · exact ⟨rfl, rfl⟩

theorem softwarePending_writeValidated (software : state.SoftwarePending) (address : CsrAddress)
    (value : Xlen) : (CsrFile.writeValidated state address value).SoftwarePending := by
  cases known : PendingRegister.of? address with
  | some register =>
    unfold Hart.SoftwarePending
    rw [(writeValidated_pending state known value).1]
    exact Hart.within_writtenPending software register value
  | none =>
    unfold CsrFile.writeValidated
    split
    case h_9 | h_24 => cases known
    all_goals exact software

/-- How `execute_csr` sees the instruction of an update. -/
structure Modifies (state : CpuSnapshot) (decoded : DecodedInstruction)
    (update : PendingUpdate 32) : Prop where
  register : PendingRegister.of? decoded.csr = some update.register
  unit : executionUnit decoded.kind = .csr
  keeps : csrReplaces decoded.kind = false
  sets : csrSets decoded.kind = !update.clears
  clears : csrClears decoded.kind = update.clears
  source : update.mask = csrSource decoded (state.registers decoded.rs1)

theorem modifies_of_pendingUpdate {decoded : DecodedInstruction} {update : PendingUpdate 32}
    (updates : pendingUpdate? state decoded = some update) : Modifies state decoded update := by
  unfold pendingUpdate? at updates
  obtain ⟨register, known, chosen⟩ := Option.bind_eq_some_iff.mp updates
  cases kind : decoded.kind
  case csrrs | csrrc | csrrsi | csrrci =>
    rw [kind] at chosen
    cases chosen
    exact ⟨known, by rw [kind]; rfl, by rw [kind]; rfl, by rw [kind]; rfl, by rw [kind]; rfl,
      by unfold csrSource; rw [kind]; rfl⟩
  all_goals
    rw [kind] at chosen
    cases chosen

/-- An operand that is spelled as zero has no bits. -/
theorem Modifies.mask_zero {decoded : DecodedInstruction} {update : PendingUpdate 32}
    (modifies : Modifies state decoded update) (x0 : state.registers 0 = 0)
    (unwritten : csrWriteRequired decoded = false) : update.mask = 0 := by
  rw [modifies.source]
  unfold csrWriteRequired at unwritten
  unfold csrSource
  rw [modifies.keeps, if_neg (by decide)] at unwritten
  split at unwritten
  · rename_i immediate
    rw [if_pos immediate]
    simpa using unwritten
  · rename_i register
    rw [if_neg register, show decoded.rs1 = 0 by simpa using unwritten, x0]

theorem Modifies.newValue {decoded : DecodedInstruction} {update : PendingUpdate 32}
    (modifies : Modifies state decoded update) (written : csrWriteRequired decoded = true)
    (oldValue : Xlen) :
    csrNewValue decoded state oldValue (csrSource decoded (state.registers decoded.rs1)) =
      Hart.modifiedPending update (state.modificationBase update.register oldValue) := by
  unfold csrNewValue Hart.modifiedPending
  rw [written, modifies.sets, modifies.clears, readForWrite_pending modifies.register,
    modifies.source]
  cases update.clears <;> rfl

/-- Only the CSR unit makes a commit for the instruction. -/
theorem csr_of_dispatched {decoded : DecodedInstruction} {pending : PendingCommit}
    (dispatched : Dispatched state decoded pending)
    (unit : executionUnit decoded.kind = .csr) :
    ∃ time, executeCsr decoded state time (state.registers decoded.rs1) = .ready pending := by
  cases dispatched with
  | csr time answered => exact ⟨time, answered⟩
  | loaded value other =>
    rw [unit] at other
    rcases other with other | other <;> cases other
  | stored other =>
    rw [unit] at other
    cases other
  | integer ready =>
    exfalso
    unfold executeDecoded integerValue at ready
    cases kind : decoded.kind
    all_goals
      rw [kind] at unit ready
      first
      | cases unit
        done
      | split at ready <;> cases ready
  | privileged answered =>
    exfalso
    unfold executePrivileged at answered
    cases kind : decoded.kind
    all_goals
      rw [kind] at unit answered
      first
      | cases unit
        done
      | cases answered
  | controlFlow answered =>
    exfalso
    unfold executeControlFlow at answered
    cases kind : decoded.kind
    all_goals
      rw [kind] at unit answered
      first
      | cases unit
        done
      | cases answered

/-- The commit that the CSR unit makes of an update. The write is left out only where
the mask has no bits. -/
theorem executeCsr_pending {decoded : DecodedInstruction} {update : PendingUpdate 32}
    {pending : PendingCommit} {time : BitVec 64} (modifies : Modifies state decoded update)
    (answered : executeCsr decoded state time (state.registers decoded.rs1) = .ready pending) :
    pending = csrPending decoded state (state.visiblePending update.register)
      (csrSource decoded (state.registers decoded.rs1)) := by
  have required : csrReadRequired decoded = true := by
    unfold csrReadRequired
    rw [modifies.keeps]
    rfl
  unfold executeCsr at answered
  dsimp only at answered
  rw [required] at answered
  split at answered
  · cases answered
  split at answered
  · cases answered
  split at answered
  · cases answered
  · rename_i unread
    cases answered
    rw [if_pos rfl, read_pending modifies.register time (by simpa using unread)]

/-! ### The commit -/

theorem commitRegister_pending (decoded : DecodedInstruction) (value : Xlen)
    (state : CpuSnapshot) :
    commitRegister { enabled := decoded.rd != 0, index := decoded.rd.setWidth 32, value } state =
      if decoded.rd ≠ 0 then state.setRegister decoded.rd value else state := by
  have index : (decoded.rd.setWidth 32).setWidth 5 = decoded.rd :=
    BitVec.setWidth_setWidth_of_le _ (by decide)
  unfold commitRegister
  dsimp only
  rw [index]
  by_cases zero : decoded.rd = 0
  · rw [zero]
    rfl
  · have nonzero : decoded.rd.setWidth 32 ≠ 0 := by
      intro same
      apply zero
      rw [← index, same]
      rfl
    rw [if_pos zero, if_pos (Bool.and_eq_true_iff.mpr ⟨bne_iff_ne.mpr zero, bne_iff_ne.mpr nonzero⟩)]

theorem applyCommit_pending {decoded : DecodedInstruction} {update : PendingUpdate 32}
    {pending : PendingCommit} (modifies : Modifies state decoded update)
    (x0 : state.registers 0 = 0) (software : state.SoftwarePending)
    (asked : pending = csrPending decoded state (state.visiblePending update.register)
      (csrSource decoded (state.registers decoded.rs1))) :
    (applyCommit pending state).machineCsrs.mipSoftware = state.updatedPending update ∧
      (decoded.rd ≠ 0 → (applyCommit pending state).registers decoded.rd =
        state.visiblePending update.register) := by
  subst asked
  unfold applyCommit csrPending
  dsimp only [sequential]
  rw [commitRegister_pending]
  generalize moved : retire _ _ = retired
  have csrs : retired.machineCsrs = state.machineCsrs := by
    rw [← moved]
    by_cases written : decoded.rd ≠ 0
    · rw [if_pos written]
      rfl
    · rw [if_neg written]
      rfl
  have result : decoded.rd ≠ 0 →
      retired.registers decoded.rd = state.visiblePending update.register := by
    intro written
    rw [← moved, if_pos written]
    simp only [retire, commitPrivilege, Hart.setRegister, Bool.false_eq_true, if_false]
    rw [Function.update_of_ne written, Function.update_self]
  change (commitCsr _ retired).machineCsrs.mipSoftware = _ ∧
    (_ → (commitCsr _ retired).registers decoded.rd = _)
  unfold commitCsr
  cases written : csrWriteRequired decoded with
  | false =>
    refine ⟨?_, result⟩
    have masked := modifies.mask_zero x0 written
    obtain ⟨register, clears, mask⟩ := update
    cases masked
    exact (congrArg _ csrs).trans (Hart.updatedPending_zero register clears).symm
  | true =>
    dsimp only
    rw [modifies.newValue written, if_pos rfl]
    obtain ⟨kept, registers⟩ := writeValidated_pending retired modifies.register
      (Hart.modifiedPending update
        (state.modificationBase update.register (state.visiblePending update.register)))
    refine ⟨kept.trans ?_, fun rd => (congrFun registers decoded.rd).trans (result rd)⟩
    rw [← Hart.writtenPending_modified software update (state.visiblePending update.register)]
    unfold Hart.writtenPending Hart.writablePending
    rw [csrs]

/-- Every commit keeps to the writable bits. -/
theorem softwarePending_applyCommit (software : state.SoftwarePending) (pending : PendingCommit) :
    (applyCommit pending state).SoftwarePending := by
  have registers : (commitRegister pending.registerWrite state).SoftwarePending := by
    unfold commitRegister
    split <;> exact software
  have privilege (other : CpuSnapshot) (kept : other.SoftwarePending) :
      (commitPrivilege pending.privilegeWrite other).SoftwarePending := by
    unfold commitPrivilege
    split <;> exact kept
  have csr (other : CpuSnapshot) (kept : other.SoftwarePending) :
      (commitCsr pending.csrWrite other).SoftwarePending := by
    unfold commitCsr
    split
    · exact softwarePending_writeValidated kept _ _
    · exact kept
  have mprv (other : CpuSnapshot) (kept : other.SoftwarePending) :
      (commitMprv pending.privilegeWrite other).SoftwarePending := by
    unfold commitMprv
    split <;> exact kept
  have retired (other : CpuSnapshot) (kept : other.SoftwarePending) :
      (retire pending other).SoftwarePending := kept
  exact mprv _ (csr _ (retired _ (privilege _ registers)))

end

/-! ### Whole runs -/

/-- The same core with other lines sampled by its last step. -/
def Core.withLines (core : Core β) (lines : Xlen) : Core β :=
  { core with state := core.state.withLines lines }

theorem registers_awake {state : CpuSnapshot} (wellFormed : WellFormedState state)
    (irqLines : IrqLines) : (awake state irqLines).registers = state.registers := by
  change Function.update state.registers 0 0 = state.registers
  rw [← wellFormed.x0]
  exact Function.update_eq_self 0 state.registers

section

variable [CpuBus β]

theorem softwarePending_step {core : Core β} (software : core.state.SoftwarePending)
    (irqLines : IrqLines) : (core.step irqLines).2.state.SoftwarePending := by
  have stepped := core.stepped irqLines
  generalize core.step irqLines = ended at stepped ⊢
  cases stepped with
  | waited | rejected => exact software
  | interrupted pending next entered =>
    subst entered
    unfold Hart.SoftwarePending takeInterruptTrap
    rw [Hart.takeInterruptTrap_mipSoftware]
    exact software
  | trapped trap fabric next stopped entered =>
    subst entered
    unfold Hart.SoftwarePending takeTrap
    rw [Hart.takeTrap_mipSoftware]
    exact software
  | retired instruction decoded pending fabric returned =>
    have awakened : (awake core.state irqLines).SoftwarePending := software
    exact softwarePending_applyCommit awakened pending

theorem softwarePending_of_reachable {core : Core β} (reachable : core.Reachable) :
    core.state.SoftwarePending := by
  induction reachable with
  | new | reset => exact Within.zero
  | setExecutionMode mode _ ih =>
    unfold Core.setExecutionMode
    split <;> exact ih
  | step irqLines _ ih => exact softwarePending_step ih irqLines
  | advanceCycles | external => assumption

/-- One step that retires an update. -/
theorem step_pending {core : Core β} (reachable : core.Reachable) (irqLines : IrqLines)
    {update : PendingUpdate 32}
    (updates : pendingUpdate? core.state
      (decodeFetched (core.step irqLines).1.instruction) = some update)
    (retires : (core.step irqLines).1.status = .retired) :
    PendingUpdated core.state irqLines update
      (decodeFetched (core.step irqLines).1.instruction).rd (core.step irqLines).2.state := by
  have wellFormed := Core.WellFormed.of_reachable reachable
  have software := softwarePending_of_reachable reachable
  have after := softwarePending_step software irqLines
  have awake := wellFormed_awake wellFormed.state irqLines
  obtain ⟨returns, _⟩ := steady_runInstruction core.executionMode
    (Core32.awake core.state irqLines) core.fabric wellFormed.fabric
  have stepped := core.stepped irqLines
  generalize core.step irqLines = ended at stepped updates retires after ⊢
  cases stepped with
  | waited | interrupted | trapped | rejected => cases retires
  | retired instruction decoded pending fabric returned =>
    rw [returned] at returns
    obtain ⟨_, fetched, dispatched⟩ := returns _ rfl
    have decodes : decoded = decodeFetched instruction := fetched.decodes
    subst decodes
    have same : pendingUpdate? (Core32.awake core.state irqLines) (decodeFetched instruction) =
        some update := by
      rw [← updates]
      unfold pendingUpdate?
      rw [registers_awake wellFormed.state]
      rfl
    have modifies := modifies_of_pendingUpdate same
    obtain ⟨time, answered⟩ := csr_of_dispatched dispatched modifies.unit
    have awakened : (Core32.awake core.state irqLines).SoftwarePending := software
    obtain ⟨written, result⟩ := applyCommit_pending modifies awake.x0 awakened
      (executeCsr_pending modifies answered)
    exact ⟨written, result, Hart.pendingInterrupts_low after⟩

/-- The instruction that retires does not depend on the lines. -/
theorem step_instruction (core : Core β) (first second : IrqLines)
    (left : (core.step first).1.status = .retired) (right : (core.step second).1.status = .retired) :
    (core.step first).1.instruction = (core.step second).1.instruction := by
  have stepped := core.stepped first
  have steppedAgain := core.stepped second
  generalize core.step first = ended at stepped left ⊢
  generalize core.step second = endedAgain at steppedAgain right ⊢
  cases stepped with
  | waited | interrupted | trapped | rejected => cases left
  | retired instruction decoded pending fabric returned =>
    cases steppedAgain with
    | waited | interrupted | trapped | rejected => cases right
    | retired instructionAgain decodedAgain pendingAgain fabricAgain returnedAgain =>
      obtain ⟨fetched, middle, fetches, rest⟩ := Exec.bind_returned returned
      obtain ⟨fetchedAgain, middleAgain, fetchesAgain, restAgain⟩ :=
        Exec.bind_returned returnedAgain
      obtain ⟨_, _, _, ends⟩ := Exec.bind_returned rest
      obtain ⟨_, _, _, endsAgain⟩ := Exec.bind_returned restAgain
      have same : fetchDecode core.executionMode (awake core.state first) core.fabric =
          fetchDecode core.executionMode (awake core.state second) core.fabric := rfl
      rw [fetches, fetchesAgain] at same
      cases same
      cases ends
      cases endsAgain
      rfl

/-- Two runs of one update from states that differ in the lines only. -/
theorem steps_pending {core : Core β} (reachable : core.Reachable) (lines linesAgain : Xlen)
    (irqLines irqLinesAgain : IrqLines) {update : PendingUpdate 32}
    (retires : ((core.withLines lines).step irqLines).1.status = .retired)
    (retiresAgain : ((core.withLines linesAgain).step irqLinesAgain).1.status = .retired)
    (updates : pendingUpdate? core.state
      (decodeFetched ((core.withLines lines).step irqLines).1.instruction) = some update) :
    let decoded := decodeFetched ((core.withLines lines).step irqLines).1.instruction
    let ended := ((core.withLines lines).step irqLines).2.state
    let endedAgain := ((core.withLines linesAgain).step irqLinesAgain).2.state
    PendingUpdated core.state irqLines update decoded.rd ended ∧
      PendingUpdated core.state irqLinesAgain update decoded.rd endedAgain ∧
      ended.machineCsrs.mipSoftware = endedAgain.machineCsrs.mipSoftware := by
  have resampled : ∀ other otherLines,
      (core.withLines other).step otherLines = core.step otherLines := fun _ _ => rfl
  rw [resampled] at retires retiresAgain updates
  dsimp only
  rw [resampled, resampled]
  have same := step_instruction core irqLinesAgain irqLines retiresAgain retires
  have first := step_pending reachable irqLines updates retires
  rw [← same] at updates
  have second := step_pending reachable irqLinesAgain updates retiresAgain
  rw [same] at second
  exact ⟨first, second, first.software.trans second.software.symm⟩

end

end RvEmulator.Core32
