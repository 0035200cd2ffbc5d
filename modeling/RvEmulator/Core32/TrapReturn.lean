import RvEmulator.Common.StatusBits
import RvEmulator.Core32.WellFormed

/-! On the 32-bit core too a trap and the return from it leave the state as it was, although
its returns go through the commit: MRET writes `mstatus` there, SRET only `sstatus`. -/

namespace RvEmulator.Core32

open Library StatusBits

namespace Status

/-- A value is sanitized if it has implemented bits only and no reserved MPP. -/
theorem sanitized_of_bits {value : Xlen}
    (within : ∀ i, value.getLsbD i = true → MstatusBits.implemented.getLsbD i = true)
    (unreserved : reserved value = false) : sanitizeMstatus value = value := by
  apply BitVec.eq_of_getLsbD_eq
  intro i _
  rw [getLsbD_sanitizeMstatus, unreserved]
  cases set : value.getLsbD i with
  | false => rfl
  | true => rw [within i set]; rfl

/-- The bits that traps and returns change are implemented. -/
theorem implemented_stacked :
    ∀ i ∈ [1, 3, 5, 7, 8, 11, 12, 17], MstatusBits.implemented.getLsbD i = true := by decide

variable {mstatus : Xlen} (sanitized : sanitizeMstatus mstatus = mstatus)

include sanitized

/-- A change of those bits alone needs no repair, unless it makes MPP the reserved one. -/
theorem sanitized_of_stacked {changed : Xlen} (unreserved : reserved changed = false)
    (same : ∀ i < 32, i ∉ [1, 3, 5, 7, 8, 11, 12, 17] →
      changed.getLsbD i = mstatus.getLsbD i) : sanitizeMstatus changed = changed := by
  refine sanitized_of_bits (fun i set => ?_) unreserved
  by_cases member : i ∈ [1, 3, 5, 7, 8, 11, 12, 17]
  · exact implemented_stacked i member
  · rw [same i (BitVec.lt_of_getLsbD set) member] at set
    exact within_iff.mp (of_sanitized sanitized).1 i set

theorem unreserved : reserved mstatus = false := by
  rw [← sanitized]
  exact reserved_sanitizeMstatus mstatus

theorem sanitize_machineTrapStatus (privilege : PrivilegeMode) :
    sanitizeMstatus (machineTrapStatus mstatus privilege) =
      machineTrapStatus mstatus privilege := by
  refine sanitized_of_stacked sanitized ?_ fun i inside outside => ?_
  · unfold reserved
    rw [getLsbD_machineTrapStatus _ _ (by decide), getLsbD_machineTrapStatus _ _ (by decide)]
    cases privilege <;> rfl
  · rw [getLsbD_machineTrapStatus _ _ inside]
    simp only [List.mem_cons, List.not_mem_nil, or_false, not_or] at outside
    grind

theorem sanitize_supervisorTrapStatus (privilege : PrivilegeMode) :
    sanitizeMstatus (supervisorTrapStatus mstatus privilege) =
      supervisorTrapStatus mstatus privilege := by
  have free := unreserved sanitized
  refine sanitized_of_stacked sanitized ?_ fun i inside outside => ?_
  · unfold reserved at free ⊢
    rw [getLsbD_supervisorTrapStatus _ _ (by decide), getLsbD_supervisorTrapStatus _ _ (by decide)]
    exact free
  · rw [getLsbD_supervisorTrapStatus _ _ inside]
    simp only [List.mem_cons, List.not_mem_nil, or_false, not_or] at outside
    grind

theorem sanitize_machineReturned :
    sanitizeMstatus (machineReturned mstatus) = machineReturned mstatus := by
  refine sanitized_of_stacked sanitized ?_ fun i inside outside => ?_
  · unfold reserved
    rw [getLsbD_machineReturned _ (by decide)]
    simp
  · rw [getLsbD_machineReturned _ inside]
    simp only [List.mem_cons, List.not_mem_nil, or_false, not_or] at outside
    grind

theorem sanitize_supervisorReturned :
    sanitizeMstatus (supervisorReturned mstatus) = supervisorReturned mstatus := by
  have free := unreserved sanitized
  refine sanitized_of_stacked sanitized ?_ fun i inside outside => ?_
  · unfold reserved at free ⊢
    rw [getLsbD_supervisorReturned _ (by decide), getLsbD_supervisorReturned _ (by decide)]
    simpa using free
  · rw [getLsbD_supervisorReturned _ inside]
    simp only [List.mem_cons, List.not_mem_nil, or_false, not_or] at outside
    grind

end Status

/-! ### Traps and returns -/

/-- A return instruction as a step runs it, by its unit and then by the commit; `none` where
it does not retire. -/
def executeReturn (decoded : DecodedInstruction) (state : CpuSnapshot) : Option CpuSnapshot :=
  match executePrivileged decoded state with
  | .ready pending =>
    if (commitPending state pending).1 then some (commitPending state pending).2 else none
  | _ => none

/-- The state after a trap to machine mode, with its records, and the return from it. -/
def machineResumed (state : CpuSnapshot) (pc : Xlen) (records : MachineCsrState 32) :
    CpuSnapshot :=
  { state with
    pc := pc &&& ~~~1#32
    instructionsRetired := state.instructionsRetired + 1
    waitingForInterrupt := false
    machineCsrs := { state.machineCsrs with
      mstatus := machineReturned state.machineCsrs.mstatus
      mepc := records.mepc
      mcause := records.mcause
      mtval := records.mtval } }

def supervisorResumed (state : CpuSnapshot) (pc : Xlen) (records : SupervisorCsrState 32) :
    CpuSnapshot :=
  { state with
    pc := pc &&& ~~~1#32
    instructionsRetired := state.instructionsRetired + 1
    waitingForInterrupt := false
    machineCsrs := { state.machineCsrs with
      mstatus := supervisorReturned state.machineCsrs.mstatus }
    supervisorCsrs := { state.supervisorCsrs with
      sepc := records.sepc
      scause := records.scause
      stval := records.stval } }

variable {state : CpuSnapshot}

theorem registers_zeroed (wellFormed : WellFormedState state) :
    Function.update state.registers 0 0 = state.registers := by
  rw [← wellFormed.x0]
  exact Function.update_eq_self 0 state.registers

/-- The state that a return commits before it is left to `MPRV`. -/
def returning (state : CpuSnapshot) (pc : Xlen) (target : PrivilegeMode) (mstatus : Xlen) :
    CpuSnapshot :=
  { state.setRegister 0 0 with
    pc
    privilege := target
    instructionsRetired := state.instructionsRetired + 1
    waitingForInterrupt := false
    machineCsrs := { state.machineCsrs with mstatus } }

theorem writeValidated_mstatus (state : CpuSnapshot) (value : Xlen) :
    CsrFile.writeValidated state CsrAddress.mstatus value =
      CsrFile.onMachine state ({ · with mstatus := sanitizeMstatus value }) := rfl

theorem writeValidated_sstatus (state : CpuSnapshot) (value : Xlen) :
    CsrFile.writeValidated state CsrAddress.sstatus value =
      CsrFile.onMachine state fun csrs =>
        { csrs with
          mstatus := sanitizeMstatus
            ((csrs.mstatus &&& ~~~MstatusBits.supervisorView) |||
              (value &&& MstatusBits.supervisorView)) } := rfl

/-- What the unit and the commit make of MRET. -/
theorem executeReturn_mret {decoded : DecodedInstruction} (kind : decoded.kind = .mret)
    (machine : state.privilege = .machine) {target : PrivilegeMode}
    (previous : PrivilegeMode.ofCode?
      (previousPrivilege (sanitizeMstatus state.machineCsrs.mstatus)) = some target) :
    executeReturn decoded state =
      some (commitMprv { enabled := true, value := target.code 8 }
        (returning state state.machineCsrs.mepc target (sanitizeMstatus
          (machineReturnStatus (sanitizeMstatus state.machineCsrs.mstatus) target)))) := by
  have writable : CsrFile.validateWrite state CsrAddress.mstatus state.privilege = .ready := by
    rw [machine]
    rfl
  unfold executeReturn executePrivileged
  dsimp only
  rw [kind]
  dsimp only
  rw [if_neg (not_not.mpr machine), previous]
  dsimp only
  unfold commitPending acceptable
  simp [PendingCommit.ready, sequential, PrivilegeMode.ofCode_code, writable, applyCommit,
    commitRegister, commitPrivilege, retire, commitCsr, writeValidated_mstatus, CsrFile.onMachine, returning,
    Hart.setRegister]

/-- What they make of SRET. -/
theorem executeReturn_sret {decoded : DecodedInstruction} (kind : decoded.kind = .sret)
    (supervisor : state.privilege = .supervisor) :
    executeReturn decoded state =
      if flag (sanitizeMstatus state.machineCsrs.mstatus) MstatusBits.tsr then none
      else
        let old := sanitizeMstatus state.machineCsrs.mstatus
        let target := supervisorPreviousPrivilege old
        some (commitMprv { enabled := true, value := target.code 8 }
          (returning state state.supervisorCsrs.sepc target (sanitizeMstatus
            ((state.machineCsrs.mstatus &&& ~~~MstatusBits.supervisorView) |||
              (supervisorReturnStatus old &&& MstatusBits.supervisorView))))) := by
  have writable : CsrFile.validateWrite state CsrAddress.sstatus state.privilege = .ready :=
    validateWrite_sstatus (by rw [supervisor]; decide)
  have trapped : supervisorTrapped state MstatusBits.tsr =
      flag (sanitizeMstatus state.machineCsrs.mstatus) MstatusBits.tsr := by
    unfold supervisorTrapped
    rw [supervisor]
    rfl
  unfold executeReturn executePrivileged
  dsimp only
  rw [kind]
  dsimp only
  rw [trapped]
  cases flag (sanitizeMstatus state.machineCsrs.mstatus) MstatusBits.tsr with
  | true => rfl
  | false =>
    unfold commitPending acceptable
    simp [PendingCommit.ready, sequential, PrivilegeMode.ofCode_code, writable, applyCommit,
      commitRegister, commitPrivilege, retire, commitCsr, writeValidated_sstatus, CsrFile.onMachine, returning,
      Hart.setRegister]

/-- Where MPRV is clear below machine mode, the commit finds nothing to clear. -/
theorem commitMprv_returning {pc mstatus : Xlen} {target : PrivilegeMode}
    (modify : target ≠ .machine → mstatus.getLsbD 17 = false) :
    commitMprv { enabled := true, value := target.code 8 } (returning state pc target mstatus) =
      returning state pc target mstatus := by
  have machine : (target.code 8 != PrivilegeMode.machine.code 8) = true ↔ target ≠ .machine := by
    cases target <;> decide
  unfold commitMprv
  simp only [Bool.true_and, machine]
  split
  · rename_i below
    have clear : mstatus &&& ~~~MstatusBits.mprv = mstatus := by
      apply BitVec.eq_of_getLsbD_eq
      intro i inside
      unfold MstatusBits.mprv
      rw [BitVec.getLsbD_and, BitVec.getLsbD_not, getLsbD_oneBit 17 inside]
      by_cases bit : i = 17
      · rw [bit, modify below, Bool.false_and]
      · simp [bit, inside]
    simp [returning, CsrFile.onMachine, clear]
  · rfl

theorem returning_machineResumed (wellFormed : WellFormedState state)
    (epc cause tval target : Xlen) :
    let trapped : CpuSnapshot := state.enterMachine sanitizeMstatus epc cause tval target
    returning trapped trapped.machineCsrs.mepc state.privilege
        (machineReturned state.machineCsrs.mstatus) =
      machineResumed state epc trapped.machineCsrs := by
  intro trapped
  simp only [trapped, returning, machineResumed, Hart.enterMachine, Hart.setRegister,
    registers_zeroed wellFormed]

theorem returning_supervisorResumed (wellFormed : WellFormedState state)
    (epc cause tval target : Xlen) :
    let trapped : CpuSnapshot := state.enterSupervisor sanitizeMstatus epc cause tval target
    returning trapped trapped.supervisorCsrs.sepc state.privilege
        (supervisorReturned state.machineCsrs.mstatus) =
      supervisorResumed state epc trapped.supervisorCsrs := by
  intro trapped
  simp only [trapped, returning, supervisorResumed, Hart.enterSupervisor, Hart.setRegister,
    registers_zeroed wellFormed]

theorem executeReturn_enterMachine (wellFormed : WellFormedState state)
    {decoded : DecodedInstruction} (kind : decoded.kind = .mret) (epc cause tval target : Xlen) :
    let trapped : CpuSnapshot := state.enterMachine sanitizeMstatus epc cause tval target
    executeReturn decoded trapped = some (machineResumed state epc trapped.machineCsrs) := by
  intro trapped
  have saved : sanitizeMstatus trapped.machineCsrs.mstatus =
      machineTrapStatus state.machineCsrs.mstatus state.privilege := by
    change sanitizeMstatus (sanitizeMstatus (machineTrapStatus
      (sanitizeMstatus state.machineCsrs.mstatus) state.privilege)) = _
    rw [Status.sanitizeMstatus_idempotent, wellFormed.mstatus,
      Status.sanitize_machineTrapStatus wellFormed.mstatus]
  have previous : PrivilegeMode.ofCode?
      (previousPrivilege (sanitizeMstatus trapped.machineCsrs.mstatus)) =
        some state.privilege := by
    rw [saved, previousPrivilege, savedPrivilege (by decide)]
    cases state.privilege <;> rfl
  have returned : sanitizeMstatus (machineReturnStatus
      (sanitizeMstatus trapped.machineCsrs.mstatus) state.privilege) =
        machineReturned state.machineCsrs.mstatus := by
    rw [saved, machine_round (by decide) wellFormed.mprv,
      Status.sanitize_machineReturned wellFormed.mstatus]
  have modify (below : state.privilege ≠ .machine) :
      (machineReturned state.machineCsrs.mstatus).getLsbD 17 = false := by
    rw [getLsbD_machineReturned _ (by decide), wellFormed.mprv below]
    rfl
  rw [executeReturn_mret kind rfl previous, returned, commitMprv_returning modify,
    returning_machineResumed wellFormed]

/-- SRET writes `sstatus` only, which is enough to undo what the trap has changed. -/
theorem supervisorView_round (mstatus : Xlen) (privilege : PrivilegeMode) :
    (supervisorTrapStatus mstatus privilege &&& ~~~MstatusBits.supervisorView) |||
        (supervisorReturned mstatus &&& MstatusBits.supervisorView) =
      supervisorReturned mstatus := by
  have seen : ∀ i ∈ [1, 5, 8], MstatusBits.supervisorView.getLsbD i = true := by decide
  apply BitVec.eq_of_getLsbD_eq
  intro i inside
  rw [BitVec.getLsbD_or, BitVec.getLsbD_and, BitVec.getLsbD_and, BitVec.getLsbD_not,
    getLsbD_supervisorTrapStatus _ _ inside, getLsbD_supervisorReturned _ inside]
  cases view : MstatusBits.supervisorView.getLsbD i with
  | true => simp
  | false =>
    have apart : i ≠ 1 ∧ i ≠ 5 ∧ i ≠ 8 := by
      refine ⟨?_, ?_, ?_⟩ <;>
        · rintro rfl
          rw [seen _ (by decide)] at view
          cases view
    simp [apart, inside]

theorem executeReturn_enterSupervisor (wellFormed : WellFormedState state)
    (below : state.privilege ≠ .machine) {decoded : DecodedInstruction}
    (kind : decoded.kind = .sret) (epc cause tval target : Xlen) :
    let trapped : CpuSnapshot := state.enterSupervisor sanitizeMstatus epc cause tval target
    executeReturn decoded trapped =
      if flag state.machineCsrs.mstatus MstatusBits.tsr then none
      else some (supervisorResumed state epc trapped.supervisorCsrs) := by
  intro trapped
  have status : trapped.machineCsrs.mstatus =
      supervisorTrapStatus state.machineCsrs.mstatus state.privilege := by
    change sanitizeMstatus (supervisorTrapStatus (sanitizeMstatus state.machineCsrs.mstatus)
      state.privilege) = _
    rw [wellFormed.mstatus, Status.sanitize_supervisorTrapStatus wellFormed.mstatus]
  have saved : sanitizeMstatus trapped.machineCsrs.mstatus =
      supervisorTrapStatus state.machineCsrs.mstatus state.privilege := by
    rw [status, Status.sanitize_supervisorTrapStatus wellFormed.mstatus]
  have bits (i : Nat) (inside : i < 32) := getLsbD_supervisorTrapStatus
    state.machineCsrs.mstatus state.privilege inside
  have tsr : flag (supervisorTrapStatus state.machineCsrs.mstatus state.privilege)
      MstatusBits.tsr = flag state.machineCsrs.mstatus MstatusBits.tsr := by
    unfold MstatusBits.tsr
    rw [flag_shift, flag_shift, bits 22 (by decide)]
    rfl
  have previous : supervisorPreviousPrivilege
      (supervisorTrapStatus state.machineCsrs.mstatus state.privilege) = state.privilege := by
    unfold supervisorPreviousPrivilege MstatusBits.spp
    rw [flag_shift, bits 8 (by decide)]
    cases mode : state.privilege with
    | machine => exact absurd mode below
    | supervisor | user => rfl
  have returned := supervisor_round (by decide) state.privilege (wellFormed.mprv below)
  have modify (_ : state.privilege ≠ .machine) :
      (supervisorReturned state.machineCsrs.mstatus).getLsbD 17 = false := by
    rw [getLsbD_supervisorReturned _ (by decide), wellFormed.mprv below]
    rfl
  rw [executeReturn_sret kind rfl, saved, tsr]
  dsimp only
  rw [previous, returned, status, supervisorView_round, Status.sanitize_supervisorReturned wellFormed.mstatus,
    commitMprv_returning modify,
    returning_supervisorResumed wellFormed]

/-- A trap, with the mode that it goes to and the program counter that it saves. -/
inductive Trapped (state : CpuSnapshot) : TrapTarget → Xlen → CpuSnapshot → Prop where
  | exception (request : TrapRequest 32) :
      Trapped state (if state.delegated request.cause then .supervisor else .machine)
        request.exceptionPc (takeTrap state request)
  | interrupt (interruptedPc : Xlen) : state.selectPendingInterrupt.pending = true →
      Trapped state state.selectPendingInterrupt.target interruptedPc
        (takeInterruptTrap state state.selectPendingInterrupt.cause interruptedPc
          state.selectPendingInterrupt.target)

/-- How a trap enters its mode. -/
theorem Trapped.entered {target : TrapTarget} {pc : Xlen} {trapped : CpuSnapshot}
    (trap : Trapped state target pc trapped) :
    state.Entered sanitizeMstatus pc target trapped := by
  cases trap with
  | exception request => exact Hart.entered_takeTrap sanitizeMstatus state request
  | interrupt pc pending => exact Hart.entered_takeInterruptTrap sanitizeMstatus pending pc

theorem Trapped.wellFormed {target : TrapTarget} {pc : Xlen} {trapped : CpuSnapshot}
    (trap : Trapped state target pc trapped) (wellFormed : WellFormedState state) :
    WellFormedState trapped :=
  wellFormed.entered lawfulStatus (by decide) trap.entered

section

variable {decoded : DecodedInstruction}

theorem Trapped.mret {pc : Xlen} {trapped : CpuSnapshot} (kind : decoded.kind = .mret)
    (trap : Trapped state .machine pc trapped) (wellFormed : WellFormedState state) :
    executeReturn decoded trapped = some (machineResumed state pc trapped.machineCsrs) := by
  cases trap.entered with
  | machine cause tval => exact executeReturn_enterMachine wellFormed kind pc cause tval _

theorem Trapped.sret {pc : Xlen} {trapped : CpuSnapshot} (kind : decoded.kind = .sret)
    (trap : Trapped state .supervisor pc trapped) (wellFormed : WellFormedState state) :
    executeReturn decoded trapped =
      if flag state.machineCsrs.mstatus MstatusBits.tsr then none
      else some (supervisorResumed state pc trapped.supervisorCsrs) := by
  cases trap.entered with
  | supervisor below cause tval =>
    exact executeReturn_enterSupervisor wellFormed below kind pc cause tval _

end

/-! ### Nesting -/

/-- What is compared of two returns from supervisor mode: the registers, where they go, the
status register but for the bits of the machine's stack, and the supervisor's registers. -/
structure SameReturn (one other : CpuSnapshot) : Prop where
  registers : one.registers = other.registers
  privilege : one.privilege = other.privilege
  pc : one.pc = other.pc
  status : ∀ i < 32, i ≠ 7 → i ≠ 11 → i ≠ 12 →
    one.machineCsrs.mstatus.getLsbD i = other.machineCsrs.mstatus.getLsbD i
  supervisorCsrs : one.supervisorCsrs = other.supervisorCsrs

/-- The status register that SRET leaves, by way of `sstatus`. -/
def returnedStatus (mstatus : Xlen) : Xlen :=
  sanitizeMstatus ((mstatus &&& ~~~MstatusBits.supervisorView) |||
    (supervisorReturnStatus mstatus &&& MstatusBits.supervisorView))

theorem getLsbD_returnedStatus (mstatus : Xlen) {i : Nat} (inside : i < 32)
    (other : i ≠ 11 ∧ i ≠ 12) :
    (returnedStatus mstatus).getLsbD i =
      (MstatusBits.implemented.getLsbD i &&
        if MstatusBits.supervisorView.getLsbD i then (supervisorReturnStatus mstatus).getLsbD i
        else mstatus.getLsbD i) := by
  unfold returnedStatus
  rw [Status.getLsbD_sanitizeMstatus, BitVec.getLsbD_or, BitVec.getLsbD_and, BitVec.getLsbD_and,
    BitVec.getLsbD_not]
  cases MstatusBits.supervisorView.getLsbD i <;> simp [other, inside, Bool.and_comm]

/-- A handler that is interrupted by a trap to machine mode returns as if it had not been. -/
theorem sret_machineResumed {decoded : DecodedInstruction} (kind : decoded.kind = .sret)
    (wellFormed : WellFormedState state) (supervisor : state.privilege = .supervisor) (pc : Xlen)
    (records : MachineCsrState 32) :
    Option.Rel SameReturn (executeReturn decoded (machineResumed state pc records))
      (executeReturn decoded state) := by
  have below : state.privilege ≠ .machine := by
    rw [supervisor]
    decide
  have old : sanitizeMstatus (machineResumed state pc records).machineCsrs.mstatus =
      machineReturned state.machineCsrs.mstatus :=
    Status.sanitize_machineReturned wellFormed.mstatus
  have kept {i : Nat} (inside : i < 32) (stack : i ≠ 7 ∧ i ≠ 11 ∧ i ≠ 12) :
      (machineReturned state.machineCsrs.mstatus).getLsbD i =
        state.machineCsrs.mstatus.getLsbD i := by
    rw [getLsbD_machineReturned _ inside]
    simp [stack]
  have tsr : flag (machineReturned state.machineCsrs.mstatus) MstatusBits.tsr =
      flag state.machineCsrs.mstatus MstatusBits.tsr := by
    unfold MstatusBits.tsr
    rw [flag_shift, flag_shift, kept (by decide) (by decide)]
  have previous : supervisorPreviousPrivilege (machineReturned state.machineCsrs.mstatus) =
      supervisorPreviousPrivilege state.machineCsrs.mstatus := by
    unfold supervisorPreviousPrivilege MstatusBits.spp
    rw [flag_shift, flag_shift, kept (by decide) (by decide)]
  have modify {mstatus : Xlen} (clear : mstatus.getLsbD 17 = false) :
      (returnedStatus mstatus).getLsbD 17 = false := by
    have hidden : MstatusBits.supervisorView.getLsbD 17 = false := by decide
    rw [getLsbD_returnedStatus _ (by decide) (by decide), hidden, clear]
    rfl
  have clear := wellFormed.mprv below
  have alike : ∀ i < 32, i ≠ 7 → i ≠ 11 → i ≠ 12 →
      (returnedStatus (machineReturned state.machineCsrs.mstatus)).getLsbD i =
        (returnedStatus state.machineCsrs.mstatus).getLsbD i := by
    intro i inside mpie low high
    rw [getLsbD_returnedStatus _ inside ⟨low, high⟩, getLsbD_returnedStatus _ inside ⟨low, high⟩,
      getLsbD_supervisorReturnStatus _ inside, getLsbD_supervisorReturnStatus _ inside,
      kept inside ⟨mpie, low, high⟩, kept (show 5 < 32 by decide) (by decide)]
  have interrupted := executeReturn_sret kind
    (show (machineResumed state pc records).privilege = .supervisor from supervisor)
  rw [executeReturn_sret kind supervisor, interrupted, old, tsr, wellFormed.mstatus]
  split
  · exact .none
  · dsimp only
    rw [previous]
    refine .some ?_
    change SameReturn
      (commitMprv _ (returning _ _ _ (returnedStatus (machineReturned state.machineCsrs.mstatus))))
      (commitMprv _ (returning _ _ _ (returnedStatus _)))
    rw [commitMprv_returning fun _ => modify clear, commitMprv_returning fun _ =>
      modify ((kept (by decide) (by decide)).trans clear)]
    exact ⟨rfl, rfl, rfl, alike, rfl⟩

section

variable [CpuBus β]

/-- Traps and returns are inverse, and nest, on the 32-bit core. The state is that of a core,
at the start of a step or within it; a supervisor handler that is interrupted by a trap to
machine mode, when it was just entered or later, returns as if it had not been. -/
theorem return_inverts_trap {core : Core β} (reachable : core.Reachable)
    (here : state = core.state ∨ ∃ irqLines, state = awake core.state irqLines)
    {mret sret : DecodedInstruction} (machine : mret.kind = .mret)
    (supervisor : sret.kind = .sret) :
    (∀ pc trapped, Trapped state .machine pc trapped →
      executeReturn mret trapped = some (machineResumed state pc trapped.machineCsrs)) ∧
    (∀ pc trapped, Trapped state .supervisor pc trapped →
      executeReturn sret trapped =
        if flag state.machineCsrs.mstatus MstatusBits.tsr then none
        else some (supervisorResumed state pc trapped.supervisorCsrs)) ∧
    (∀ pc trapped, Trapped state .supervisor pc trapped →
      ∀ inner nested, Trapped trapped .machine inner nested →
        ∃ resumed, executeReturn mret nested = some resumed ∧
          Option.Rel SameReturn (executeReturn sret resumed) (executeReturn sret trapped)) ∧
    (state.privilege = .supervisor → ∀ inner nested, Trapped state .machine inner nested →
      ∃ resumed, executeReturn mret nested = some resumed ∧
        Option.Rel SameReturn (executeReturn sret resumed) (executeReturn sret state)) := by
  have wellFormed : WellFormedState state := by
    have whole := (Core.WellFormed.of_reachable reachable).state
    obtain rfl | ⟨irqLines, rfl⟩ := here
    · exact whole
    · exact wellFormed_awake whole irqLines
  have nests {handler : CpuSnapshot} (whole : WellFormedState handler)
      (mode : handler.privilege = .supervisor) (inner : Xlen) (nested : CpuSnapshot)
      (interrupted : Trapped handler .machine inner nested) :
      ∃ resumed, executeReturn mret nested = some resumed ∧
        Option.Rel SameReturn (executeReturn sret resumed) (executeReturn sret handler) :=
    ⟨_, interrupted.mret machine whole,
      sret_machineResumed supervisor whole mode inner nested.machineCsrs⟩
  refine ⟨fun pc trapped trap => trap.mret machine wellFormed,
    fun pc trapped trap => trap.sret supervisor wellFormed,
    fun pc trapped trap => nests (trap.wellFormed wellFormed) ?_, nests wellFormed⟩
  cases trap.entered
  rfl

end

/-- A store page fault in user mode, the return from its handler, and an exception in this
handler. -/
theorem return_inverts_trap_sample :
    let handler := takeTrap Core.sampleFaulting.state
      { cause := .storePageFault, exceptionPc := 0x20 }
    let nested := takeTrap handler { exceptionPc := 0x10 }
    let place (state : CpuSnapshot) := (state.pc, state.privilege)
    (executeReturn { kind := .sret } handler).map place = some (0x20, .user) ∧
      ∃ resumed, executeReturn { kind := .mret } nested = some resumed ∧
        place resumed = (0x10, .supervisor) ∧
        (executeReturn { kind := .sret } resumed).map place = some (0x20, .user) := by
  intro handler nested place
  have user : Core.sampleFaulting.state.privilege = .user := by decide
  have untrapped : flag Core.sampleFaulting.state.machineCsrs.mstatus MstatusBits.tsr = false := by
    decide
  have delegated : Core.sampleFaulting.state.delegated .storePageFault = true := by decide
  have kept : handler.delegated .illegalInstruction = false := by decide
  have trap : Trapped Core.sampleFaulting.state .supervisor 0x20 handler := by
    have taken := @Trapped.exception Core.sampleFaulting.state
      { cause := .storePageFault, exceptionPc := 0x20 }
    rw [if_pos delegated] at taken
    exact taken
  have interrupted : Trapped handler .machine 0x10 nested := by
    have taken := @Trapped.exception handler { exceptionPc := 0x10 }
    rw [if_neg (by rw [kept]; decide)] at taken
    exact taken
  have resumes : (executeReturn { kind := .mret } nested).map place = some (0x10, .supervisor) := by
    decide
  obtain ⟨_, sret, nests, _⟩ := @return_inverts_trap _ _ _ _ Core.reachable_sampleFaulting
    (.inl rfl) { kind := .mret } { kind := .sret } rfl rfl
  have returned := sret _ _ trap
  rw [untrapped, if_neg (by decide)] at returned
  have back : (executeReturn { kind := .sret } handler).map place = some (0x20, .user) := by
    have place (state : CpuSnapshot) (pc : Xlen) (records : SupervisorCsrState 32) :
        ((supervisorResumed state pc records).pc, (supervisorResumed state pc records).privilege) =
          (pc &&& ~~~1#32, state.privilege) := rfl
    rw [returned]
    exact congrArg some ((place _ _ _).trans (by rw [user]; rfl))
  obtain ⟨resumed, mret, same⟩ := nests _ _ trap _ _ interrupted
  rw [mret] at resumes
  refine ⟨back, resumed, mret, Option.some.inj resumes, ?_⟩
  rw [← back]
  generalize executeReturn { kind := .sret } resumed = again at same ⊢
  generalize executeReturn { kind := .sret } handler = once at same ⊢
  cases same with
  | none => rfl
  | some alike => exact congrArg some (Prod.ext alike.pc alike.privilege)

end RvEmulator.Core32
