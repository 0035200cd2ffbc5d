import RvEmulator.Common.StatusBits
import RvEmulator.Core64.WellFormed

/-! A trap and the return from it leave the state as it was, but for the registers that
record the trap. -/

namespace RvEmulator.Core64

open Library StatusBits

namespace Status

/-- The bits that traps and returns change. -/
def stacked : List Nat := [1, 3, 5, 7, 8, 11, 12, 17]

/-- A change of these bits needs no repair, if the previous privilege is not reserved. -/
theorem sanitize_stacked {mstatus changed : Xlen} (sanitized : sanitizeMstatus mstatus = mstatus)
    (unreserved : reserved changed = false)
    (same : ∀ i, i ∉ stacked → changed.getLsbD i = mstatus.getLsbD i) :
    sanitizeMstatus changed = changed := by
  have plain : ∀ i < 64, i ∈ stacked → i ≠ 63 ∧ MstatusBits.writable.getLsbD i = true ∧
      MstatusBits.fixed.getLsbD i = false := by decide
  apply BitVec.eq_of_getLsbD_eq
  intro i inside
  have old := getLsbD_sanitizeMstatus mstatus inside
  rw [sanitized] at old
  rw [getLsbD_sanitizeMstatus changed inside, unreserved, Bool.not_false, Bool.and_true]
  by_cases member : i ∈ stacked
  · obtain ⟨notLast, writable, fixed⟩ := plain i inside member
    rw [if_neg notLast, writable, fixed, Bool.and_true, Bool.or_false, ite_self]
  · rw [same i member, same 13 (by decide), same 14 (by decide)]
    by_cases last : i = 63
    · rw [if_pos last] at old ⊢
      exact old.symm
    rw [if_neg last] at old ⊢
    by_cases previous : i = 11 ∨ i = 12
    · rw [if_pos previous]
    · rw [if_neg previous] at old ⊢
      exact old.symm

theorem not_stacked {i : Nat} (outside : i ∉ stacked) :
    i ≠ 1 ∧ i ≠ 3 ∧ i ≠ 5 ∧ i ≠ 7 ∧ i ≠ 8 ∧ i ≠ 11 ∧ i ≠ 12 ∧ i ≠ 17 := by
  simpa [stacked] using outside

variable {mstatus : Xlen} (sanitized : sanitizeMstatus mstatus = mstatus)

include sanitized

theorem sanitize_machineTrapStatus (privilege : PrivilegeMode) :
    sanitizeMstatus (machineTrapStatus mstatus privilege) = machineTrapStatus mstatus privilege := by
  refine sanitize_stacked sanitized ?_ fun i outside => ?_
  · unfold reserved
    rw [getLsbD_machineTrapStatus _ _ (by decide), getLsbD_machineTrapStatus _ _ (by decide)]
    cases privilege <;> rfl
  · by_cases inside : i < 64
    · rw [getLsbD_machineTrapStatus _ _ inside]
      have := not_stacked outside
      grind
    · rw [BitVec.getLsbD_of_ge _ _ (by omega), BitVec.getLsbD_of_ge _ _ (by omega)]

theorem sanitize_supervisorTrapStatus (privilege : PrivilegeMode) :
    sanitizeMstatus (supervisorTrapStatus mstatus privilege) =
      supervisorTrapStatus mstatus privilege := by
  have free := reserved_sanitizeMstatus mstatus
  rw [sanitized] at free
  refine sanitize_stacked sanitized ?_ fun i outside => ?_
  · unfold reserved at free ⊢
    rw [getLsbD_supervisorTrapStatus _ _ (by decide), getLsbD_supervisorTrapStatus _ _ (by decide)]
    simpa using free
  · by_cases inside : i < 64
    · rw [getLsbD_supervisorTrapStatus _ _ inside]
      have := not_stacked outside
      grind
    · rw [BitVec.getLsbD_of_ge _ _ (by omega), BitVec.getLsbD_of_ge _ _ (by omega)]

theorem sanitize_machineReturned :
    sanitizeMstatus (machineReturned mstatus) = machineReturned mstatus := by
  refine sanitize_stacked sanitized ?_ fun i outside => ?_
  · unfold reserved
    rw [getLsbD_machineReturned _ (show 12 < 64 by decide)]
    simp
  · by_cases inside : i < 64
    · rw [getLsbD_machineReturned _ inside]
      have := not_stacked outside
      grind
    · rw [BitVec.getLsbD_of_ge _ _ (by omega), BitVec.getLsbD_of_ge _ _ (by omega)]

theorem sanitize_supervisorReturned :
    sanitizeMstatus (supervisorReturned mstatus) = supervisorReturned mstatus := by
  have free := reserved_sanitizeMstatus mstatus
  rw [sanitized] at free
  refine sanitize_stacked sanitized ?_ fun i outside => ?_
  · unfold reserved at free ⊢
    rw [getLsbD_supervisorReturned _ (by decide), getLsbD_supervisorReturned _ (by decide)]
    simpa using free
  · by_cases inside : i < 64
    · rw [getLsbD_supervisorReturned _ inside]
      have := not_stacked outside
      grind
    · rw [BitVec.getLsbD_of_ge _ _ (by omega), BitVec.getLsbD_of_ge _ _ (by omega)]

end Status

/-! ### Traps and returns -/

/-- The state after a trap to machine mode, with its records, and the return from it. -/
def machineResumed (state : CpuSnapshot) (pc : Xlen) (records : MachineCsrState 64) :
    CpuSnapshot :=
  { state with
    pc := pc &&& ~~~1#64
    waitingForInterrupt := false
    machineCsrs := { state.machineCsrs with
      mstatus := machineReturned state.machineCsrs.mstatus
      mepc := records.mepc
      mcause := records.mcause
      mtval := records.mtval } }

def supervisorResumed (state : CpuSnapshot) (pc : Xlen) (records : SupervisorCsrState 64) :
    CpuSnapshot :=
  { state with
    pc := pc &&& ~~~1#64
    waitingForInterrupt := false
    machineCsrs := { state.machineCsrs with
      mstatus := supervisorReturned state.machineCsrs.mstatus }
    supervisorCsrs := { state.supervisorCsrs with
      sepc := records.sepc
      scause := records.scause
      stval := records.stval } }

variable {state : CpuSnapshot}

theorem registers_zeroed (wellFormed : state.WellFormed) :
    Function.update state.registers 0 0 = state.registers := by
  rw [← wellFormed.x0]
  exact Function.update_eq_self 0 state.registers

theorem executeMret_enterMachine (wellFormed : state.WellFormed) (epc cause tval target : Xlen) :
    let trapped := state.onHart fun hart =>
      hart.enterMachine sanitizeMstatus epc cause tval target
    executeMret trapped = some (machineResumed state epc trapped.machineCsrs) := by
  intro trapped
  have saved : sanitizeMstatus trapped.machineCsrs.mstatus =
      machineTrapStatus state.machineCsrs.mstatus state.privilege := by
    change sanitizeMstatus (sanitizeMstatus (machineTrapStatus
      (sanitizeMstatus state.machineCsrs.mstatus) state.privilege)) = _
    rw [Status.sanitizeMstatus_idempotent, wellFormed.mstatus,
      Status.sanitize_machineTrapStatus wellFormed.mstatus]
  have returned : sanitizeMstatus (machineReturnStatus
      (machineTrapStatus state.machineCsrs.mstatus state.privilege) state.privilege) =
      machineReturned state.machineCsrs.mstatus := by
    rw [machine_round (by decide) wellFormed.mprv, Status.sanitize_machineReturned wellFormed.mstatus]
  have machine : ¬trapped.privilege ≠ .machine := not_not.mpr rfl
  unfold executeMret
  rw [if_neg machine]
  dsimp only
  rw [saved, savedPrivilege (by decide), PrivilegeMode.ofCode_code (by decide)]
  dsimp only
  rw [returned]
  simp only [trapped, machineResumed, CpuSnapshot.onHart, CpuSnapshot.setMstatus,
    Hart.enterMachine, registers_zeroed wellFormed]

theorem executeSret_enterSupervisor (wellFormed : state.WellFormed)
    (below : state.privilege ≠ .machine) (epc cause tval target : Xlen) :
    let trapped := state.onHart fun hart =>
      hart.enterSupervisor sanitizeMstatus epc cause tval target
    executeSret trapped =
      if flag state.machineCsrs.mstatus MstatusBits.tsr then none
      else some (supervisorResumed state epc trapped.supervisorCsrs) := by
  intro trapped
  have saved : sanitizeMstatus trapped.machineCsrs.mstatus =
      supervisorTrapStatus state.machineCsrs.mstatus state.privilege := by
    change sanitizeMstatus (sanitizeMstatus (supervisorTrapStatus
      (sanitizeMstatus state.machineCsrs.mstatus) state.privilege)) = _
    rw [Status.sanitizeMstatus_idempotent, wellFormed.mstatus,
      Status.sanitize_supervisorTrapStatus wellFormed.mstatus]
  have returned : sanitizeMstatus (supervisorReturnStatus
      (supervisorTrapStatus state.machineCsrs.mstatus state.privilege)) =
      supervisorReturned state.machineCsrs.mstatus := by
    rw [supervisor_round (by decide) _ (wellFormed.mprv below),
      Status.sanitize_supervisorReturned wellFormed.mstatus]
  have tsr : flag (supervisorTrapStatus state.machineCsrs.mstatus state.privilege)
      MstatusBits.tsr = flag state.machineCsrs.mstatus MstatusBits.tsr := by
    unfold MstatusBits.tsr
    rw [flag_shift, flag_shift, getLsbD_supervisorTrapStatus _ _ (by decide)]
    rfl
  have spp : flag (supervisorTrapStatus state.machineCsrs.mstatus state.privilege)
      MstatusBits.spp = (state.privilege == .supervisor) := by
    unfold MstatusBits.spp
    rw [flag_shift, getLsbD_supervisorTrapStatus _ _ (by decide)]
    rfl
  have supervisor : trapped.privilege = .supervisor := rfl
  have target : (if (state.privilege == .supervisor) = true then PrivilegeMode.supervisor
      else .user) = state.privilege := by
    cases mode : state.privilege with
    | machine => exact absurd mode below
    | supervisor | user => rfl
  unfold executeSret
  dsimp only
  rw [saved, tsr, spp, returned, supervisor, target]
  split
  · rename_i forbidden
    obtain user | ⟨_, trapped⟩ := forbidden
    · cases user
    · rw [if_pos trapped]
  · rename_i permitted
    rw [if_neg fun trapped => permitted (.inr ⟨rfl, trapped⟩)]
    simp only [trapped, supervisorResumed, CpuSnapshot.onHart, CpuSnapshot.setMstatus,
      Hart.enterSupervisor, registers_zeroed wellFormed]

/-- A trap, with the mode that it goes to and the program counter that it saves. -/
inductive Trapped (state : CpuSnapshot) : TrapTarget → Xlen → CpuSnapshot → Prop where
  | exception (request : TrapRequest 64) :
      Trapped state (if state.delegated request.cause then .supervisor else .machine)
        request.exceptionPc (takeTrap state request)
  | interrupt (interruptedPc : Xlen) : state.selectPendingInterrupt.pending = true →
      Trapped state state.selectPendingInterrupt.target interruptedPc
        (takeInterruptTrap state state.selectPendingInterrupt.cause interruptedPc
          state.selectPendingInterrupt.target)

/-- How a trap enters its mode. -/
theorem Trapped.entered {target : TrapTarget} {pc : Xlen} {trapped : CpuSnapshot}
    (trap : Trapped state target pc trapped) :
    state.toHart.Entered sanitizeMstatus pc target trapped.toHart ∧
      trapped = { state with toHart := trapped.toHart } := by
  cases trap with
  | exception request => exact ⟨Hart.entered_takeTrap sanitizeMstatus state.toHart request, rfl⟩
  | interrupt pc pending =>
    exact ⟨Hart.entered_takeInterruptTrap sanitizeMstatus pending pc, rfl⟩

theorem Trapped.wellFormed {target : TrapTarget} {pc : Xlen} {trapped : CpuSnapshot}
    (trap : Trapped state target pc trapped) (wellFormed : state.WellFormed) :
    trapped.WellFormed :=
  Hart.WellFormed.entered wellFormed lawfulStatus (by decide) trap.entered.1

theorem Trapped.mret {pc : Xlen} {trapped : CpuSnapshot} (trap : Trapped state .machine pc trapped)
    (wellFormed : state.WellFormed) :
    executeMret trapped = some (machineResumed state pc trapped.machineCsrs) := by
  obtain ⟨entered, same⟩ := trap.entered
  generalize trapped.toHart = hart at entered same
  subst same
  cases entered with
  | machine cause tval => exact executeMret_enterMachine wellFormed pc cause tval _

theorem Trapped.sret {pc : Xlen} {trapped : CpuSnapshot}
    (trap : Trapped state .supervisor pc trapped) (wellFormed : state.WellFormed) :
    executeSret trapped =
      if flag state.machineCsrs.mstatus MstatusBits.tsr then none
      else some (supervisorResumed state pc trapped.supervisorCsrs) := by
  obtain ⟨entered, same⟩ := trap.entered
  generalize trapped.toHart = hart at entered same
  subst same
  cases entered with
  | supervisor below cause tval => exact executeSret_enterSupervisor wellFormed below pc cause tval _

/-! ### Nesting -/

/-- What the supervisor sees of a return. -/
structure SameReturn (one other : CpuSnapshot) : Prop where
  privilege : one.privilege = other.privilege
  pc : one.pc = other.pc
  status : ∀ mask ∈ [MstatusBits.sie, MstatusBits.spie, MstatusBits.spp],
    flag one.machineCsrs.mstatus mask = flag other.machineCsrs.mstatus mask
  sepc : one.supervisorCsrs.sepc = other.supervisorCsrs.sepc
  scause : one.supervisorCsrs.scause = other.supervisorCsrs.scause
  stval : one.supervisorCsrs.stval = other.supervisorCsrs.stval

omit state in
/-- What a return from machine mode restores of the supervisor's stack. -/
theorem flag_machineReturned (mstatus : Xlen) {i : Nat}
    (kept : i < 64 ∧ i ≠ 7 ∧ i ≠ 11 ∧ i ≠ 12) :
    flag (machineReturned mstatus) (1#64 <<< i) = flag mstatus (1#64 <<< i) := by
  rw [flag_shift, flag_shift, getLsbD_machineReturned _ kept.1]
  simp [kept]

omit state in
theorem supervisorReturned_same (mstatus : Xlen) :
    ∀ mask ∈ [MstatusBits.sie, MstatusBits.spie, MstatusBits.spp],
      flag (sanitizeMstatus (supervisorReturnStatus (machineReturned mstatus))) mask =
        flag (sanitizeMstatus (supervisorReturnStatus mstatus)) mask := by
  have bit : ∀ i ∈ [1, 5, 8],
      flag (sanitizeMstatus (supervisorReturnStatus (machineReturned mstatus)))
        (1#64 <<< i) = flag (sanitizeMstatus (supervisorReturnStatus mstatus)) (1#64 <<< i) := by
    intro i member
    have plain : ∀ i ∈ [1, 5, 8], i < 64 ∧ i ≠ 63 ∧ ¬(i = 11 ∨ i = 12) ∧
        MstatusBits.writable.getLsbD i = true ∧ MstatusBits.fixed.getLsbD i = false := by decide
    have inside := (plain i member).1
    rw [flag_shift, flag_shift, Status.getLsbD_sanitizeMstatus_kept _ (plain i member),
      Status.getLsbD_sanitizeMstatus_kept _ (plain i member),
      getLsbD_supervisorReturnStatus _ inside,
      getLsbD_supervisorReturnStatus _ inside,
      getLsbD_machineReturned _ (show 5 < 64 by decide),
      getLsbD_machineReturned _ inside]
    simp only [List.mem_cons, List.not_mem_nil, or_false] at member
    obtain rfl | rfl | rfl := member <;> simp
  intro mask member
  simp only [List.mem_cons, List.not_mem_nil, or_false] at member
  obtain rfl | rfl | rfl := member
  · exact bit 1 (by decide)
  · exact bit 5 (by decide)
  · exact bit 8 (by decide)

/-- A trap to machine mode and the return from it do not change what a return from
supervisor mode does. -/
theorem sret_machineResumed (wellFormed : state.WellFormed) (pc : Xlen)
    (records : MachineCsrState 64) :
    Option.Rel SameReturn (executeSret (machineResumed state pc records)) (executeSret state) := by
  have old : sanitizeMstatus (machineResumed state pc records).machineCsrs.mstatus =
      machineReturned state.machineCsrs.mstatus :=
    Status.sanitize_machineReturned wellFormed.mstatus
  have same : (machineResumed state pc records).privilege = state.privilege := rfl
  have tsr : flag (machineReturned state.machineCsrs.mstatus) MstatusBits.tsr =
      flag state.machineCsrs.mstatus MstatusBits.tsr := flag_machineReturned _ (by decide)
  have spp : flag (machineReturned state.machineCsrs.mstatus) MstatusBits.spp =
      flag state.machineCsrs.mstatus MstatusBits.spp := flag_machineReturned _ (by decide)
  have status := supervisorReturned_same state.machineCsrs.mstatus
  unfold executeSret
  dsimp only
  rw [old, wellFormed.mstatus, same, tsr, spp]
  split
  · exact .none
  · exact .some ⟨rfl, rfl, status, rfl, rfl, rfl⟩

section

variable [SoftFloat] [CpuBus β]

/-- Traps and returns are inverse, and nest. The state is that of a core, at the start of a
step or within it; a supervisor handler that is interrupted by a trap to machine mode, when
it was just entered or later, returns as if it had not been. -/
theorem trap_return {core : Core β} (reachable : core.Reachable)
    (here : state = core.state ∨ ∃ irqLines, state = Core.awake core.state irqLines) :
    (∀ pc trapped, Trapped state .machine pc trapped →
      executeMret trapped = some (machineResumed state pc trapped.machineCsrs)) ∧
    (∀ pc trapped, Trapped state .supervisor pc trapped →
      executeSret trapped =
        if flag state.machineCsrs.mstatus MstatusBits.tsr then none
        else some (supervisorResumed state pc trapped.supervisorCsrs)) ∧
    (∀ pc trapped, Trapped state .supervisor pc trapped →
      ∀ inner nested, Trapped trapped .machine inner nested →
        ∃ resumed, executeMret nested = some resumed ∧
          Option.Rel SameReturn (executeSret resumed) (executeSret trapped)) ∧
    ∀ inner nested, Trapped state .machine inner nested →
      ∃ resumed, executeMret nested = some resumed ∧
        Option.Rel SameReturn (executeSret resumed) (executeSret state) := by
  have wellFormed : state.WellFormed := by
    have whole := (Core.WellFormed.of_reachable reachable).state
    obtain rfl | ⟨irqLines, rfl⟩ := here
    · exact whole
    · exact wellFormed_awake whole irqLines
  have nests {handler : CpuSnapshot} (whole : handler.WellFormed) (inner : Xlen)
      (nested : CpuSnapshot) (interrupted : Trapped handler .machine inner nested) :
      ∃ resumed, executeMret nested = some resumed ∧
        Option.Rel SameReturn (executeSret resumed) (executeSret handler) :=
    ⟨_, interrupted.mret whole, sret_machineResumed whole inner nested.machineCsrs⟩
  exact ⟨fun pc trapped trap => trap.mret wellFormed, fun pc trapped trap => trap.sret wellFormed,
    fun pc trapped trap => nests (trap.wellFormed wellFormed), nests wellFormed⟩

end

section

attribute [local instance] SoftFloat.unused

/-- A store page fault in user mode, the return from its handler, and an exception in this
handler. -/
theorem trap_return_sample :
    let handler := takeTrap Core.sampleFaulting.state
      { cause := .storePageFault, exceptionPc := 0x80000034 }
    let nested := takeTrap handler { exceptionPc := 0x80000010 }
    let place (state : CpuSnapshot) := (state.pc, state.privilege)
    (executeSret handler).map place = some (0x80000034, .user) ∧
      ∃ resumed, executeMret nested = some resumed ∧ place resumed = (0x80000010, .supervisor) ∧
        (executeSret resumed).map place = some (0x80000034, .user) := by
  intro handler nested place
  have user : Core.sampleFaulting.state.privilege = .user := by decide +kernel
  have untrapped : flag Core.sampleFaulting.state.machineCsrs.mstatus MstatusBits.tsr = false := by
    decide +kernel
  have delegated : Core.sampleFaulting.state.delegated .storePageFault = true := by decide +kernel
  have kept : handler.delegated .illegalInstruction = false := by decide +kernel
  have trap : Trapped Core.sampleFaulting.state .supervisor 0x80000034 handler := by
    have taken := @Trapped.exception Core.sampleFaulting.state { cause := .storePageFault, exceptionPc := 0x80000034 }
    rw [if_pos delegated] at taken
    exact taken
  have interrupted : Trapped handler .machine 0x80000010 nested := by
    have taken := @Trapped.exception handler { exceptionPc := 0x80000010 }
    rw [if_neg (by rw [kept]; decide)] at taken
    exact taken
  have resumes : (executeMret nested).map place = some (0x80000010, .supervisor) := by
    decide +kernel
  obtain ⟨_, sret, nests, _⟩ := trap_return Core.reachable_sampleFaulting (.inl rfl)
  have returned := sret _ _ trap
  rw [untrapped, if_neg (by decide)] at returned
  have back : (executeSret handler).map place = some (0x80000034, .user) := by
    have place (state : CpuSnapshot) (pc : Xlen) (records : SupervisorCsrState 64) :
        ((supervisorResumed state pc records).pc, (supervisorResumed state pc records).privilege) =
          (pc &&& ~~~1#64, state.privilege) := rfl
    rw [returned]
    exact congrArg some ((place _ _ _).trans (by rw [user]; rfl))
  obtain ⟨resumed, mret, same⟩ := nests _ _ trap _ _ interrupted
  rw [mret] at resumes
  refine ⟨back, resumed, mret, Option.some.inj resumes, ?_⟩
  rw [← back]
  generalize executeSret resumed = again at same ⊢
  generalize executeSret handler = once at same ⊢
  cases same with
  | none => rfl
  | some alike => exact congrArg some (Prod.ext alike.pc alike.privilege)

end

end RvEmulator.Core64
