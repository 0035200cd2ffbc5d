import RvEmulator.Common.Hart
import RvEmulator.Library.Bits

/-! Well-formedness of the architectural state, and its preservation by the
operations that both cores share. -/

namespace RvEmulator

open Library

/-- What trap entry and the returns rely on in an `mstatus` sanitizer. -/
structure LawfulStatus (sanitizeMstatus : BitVec w → BitVec w) : Prop where
  idempotent : ∀ value, sanitizeMstatus (sanitizeMstatus value) = sanitizeMstatus value
  mprv : ∀ value, (sanitizeMstatus value).getLsbD 17 = value.getLsbD 17

namespace Hart

/-- The invariant of every reachable state. `sanitizeMstatus` and `sanitizeSatp`
are the core's own. -/
structure WellFormed (sanitizeMstatus sanitizeSatp : BitVec w → BitVec w) (hart : Hart w) :
    Prop where
  x0 : hart.registers 0 = 0
  pc : BitEven hart.pc
  mepc : BitEven hart.machineCsrs.mepc
  sepc : BitEven hart.supervisorCsrs.sepc
  mstatus : sanitizeMstatus hart.machineCsrs.mstatus = hart.machineCsrs.mstatus
  mtvec : hart.machineCsrs.mtvec &&& 3 ≤ 1
  stvec : hart.supervisorCsrs.stvec &&& 3 ≤ 1
  medeleg : Within hart.machineCsrs.medeleg supportedExceptionDelegation
  mideleg : Within hart.machineCsrs.mideleg supportedInterruptDelegation
  mie : Within hart.machineCsrs.mie InterruptBits.supported
  mipSoftware : Within hart.machineCsrs.mipSoftware InterruptBits.supported
  satp : sanitizeSatp hart.supervisorCsrs.satp = hart.supervisorCsrs.satp
  mprv : hart.privilege ≠ .machine → hart.machineCsrs.mstatus.getLsbD 17 = false

section

variable {sanitizeMstatus sanitizeSatp : BitVec w → BitVec w} {hart : Hart w}

theorem WellFormed.setRegister (wellFormed : hart.WellFormed sanitizeMstatus sanitizeSatp)
    {index : RegisterIndex} {value : BitVec w} (zero : index = 0 → value = 0) :
    (hart.setRegister index value).WellFormed sanitizeMstatus sanitizeSatp := by
  refine { wellFormed with x0 := ?_ }
  by_cases first : index = 0
  · simp only [Hart.setRegister, first, Function.update_self, zero first]
  · simp only [Hart.setRegister, Function.update_of_ne (Ne.symm first), wellFormed.x0]

theorem WellFormed.sampleInterruptLines
    (wellFormed : hart.WellFormed sanitizeMstatus sanitizeSatp) (lines : IrqLines) :
    (hart.sampleInterruptLines lines).WellFormed sanitizeMstatus sanitizeSatp :=
  { wellFormed with }

theorem even_clearBit (wide : 0 < w) (value : BitVec w) : BitEven (value &&& ~~~1#w) := by
  apply BitEven.and_right
  unfold BitEven
  rw [BitVec.getLsbD_not, BitVec.getLsbD_one]
  simp [wide]

theorem even_trapVectorAddress (wide : 1 < w) (tvec : BitVec w) (interrupt : Bool)
    (cause : BitVec w) : BitEven (trapVectorAddress tvec interrupt cause) := by
  have base : BitEven (tvec &&& ~~~3#w) := by
    apply BitEven.and_right
    unfold BitEven
    rw [BitVec.getLsbD_not, getLsbD_three]
    simp [show 0 < w by omega]
  have offset : BitEven (4#w * cause) := by
    have quadruple : 4#w * cause = cause <<< 2 := by
      apply BitVec.eq_of_toNat_eq
      simp [BitVec.toNat_mul, BitVec.toNat_shiftLeft, Nat.shiftLeft_eq, Nat.mul_comm]
    rw [quadruple]
    exact BitEven.shiftLeft _ (by decide)
  unfold trapVectorAddress
  dsimp only
  split
  · exact base.add offset
  · exact base

theorem supervisorTrapStatus_mprv (status : BitVec w) (privilege : PrivilegeMode) :
    (supervisorTrapStatus status privilege).getLsbD 17 = status.getLsbD 17 := by
  by_cases wide : 17 < w
  · unfold supervisorTrapStatus
    dsimp only
    split <;> split <;> simp [MstatusBits.sie, MstatusBits.spie, MstatusBits.spp, wide]
  · rw [BitVec.getLsbD_of_ge _ _ (by omega), BitVec.getLsbD_of_ge _ _ (by omega)]

theorem WellFormed.enterMachine (wellFormed : hart.WellFormed sanitizeMstatus sanitizeSatp)
    (lawful : LawfulStatus sanitizeMstatus) (wide : 0 < w) {target : BitVec w}
    (even : BitEven target) (epc cause tval : BitVec w) :
    (hart.enterMachine sanitizeMstatus epc cause tval target).WellFormed sanitizeMstatus
      sanitizeSatp :=
  { wellFormed with
    x0 := by simp only [Hart.enterMachine, Function.update_self]
    pc := even
    mepc := even_clearBit wide epc
    mstatus := lawful.idempotent _
    mprv := fun other => absurd rfl other }

theorem WellFormed.enterSupervisor (wellFormed : hart.WellFormed sanitizeMstatus sanitizeSatp)
    (lawful : LawfulStatus sanitizeMstatus) (wide : 0 < w) {target : BitVec w}
    (even : BitEven target) (below : hart.privilege ≠ .machine) (epc cause tval : BitVec w) :
    (hart.enterSupervisor sanitizeMstatus epc cause tval target).WellFormed sanitizeMstatus
      sanitizeSatp :=
  { wellFormed with
    x0 := by simp only [Hart.enterSupervisor, Function.update_self]
    pc := even
    sepc := even_clearBit wide epc
    mstatus := lawful.idempotent _
    mprv := fun _ => by
      simp only [Hart.enterSupervisor]
      rw [lawful.mprv, supervisorTrapStatus_mprv, lawful.mprv]
      exact wellFormed.mprv below }

/-- How a trap enters the mode that it goes to, from the program counter that it saves. -/
inductive Entered (sanitizeMstatus : BitVec w → BitVec w) (hart : Hart w) (pc : BitVec w) :
    TrapTarget → Hart w → Prop where
  | machine (cause tval : BitVec w) (interrupt : Bool) (code : BitVec w) :
      Entered sanitizeMstatus hart pc .machine (hart.enterMachine sanitizeMstatus pc cause tval
        (trapVectorAddress hart.machineCsrs.mtvec interrupt code))
  | supervisor (below : hart.privilege ≠ .machine) (cause tval : BitVec w) (interrupt : Bool)
      (code : BitVec w) :
      Entered sanitizeMstatus hart pc .supervisor (hart.enterSupervisor sanitizeMstatus pc cause
        tval (trapVectorAddress hart.supervisorCsrs.stvec interrupt code))

theorem WellFormed.entered (wellFormed : hart.WellFormed sanitizeMstatus sanitizeSatp)
    (lawful : LawfulStatus sanitizeMstatus) (wide : 1 < w) {target : TrapTarget} {pc : BitVec w}
    {trapped : Hart w} (entered : Entered sanitizeMstatus hart pc target trapped) :
    trapped.WellFormed sanitizeMstatus sanitizeSatp := by
  cases entered with
  | machine =>
    exact wellFormed.enterMachine lawful (by omega) (even_trapVectorAddress wide _ _ _) _ _ _
  | supervisor below =>
    exact wellFormed.enterSupervisor lawful (by omega) (even_trapVectorAddress wide _ _ _) below
      _ _ _

theorem entered_takeTrap (sanitizeMstatus : BitVec w → BitVec w) (hart : Hart w)
    (request : TrapRequest w) :
    Entered sanitizeMstatus hart request.exceptionPc
      (if hart.delegated request.cause then .supervisor else .machine)
      (hart.takeTrap sanitizeMstatus request) := by
  unfold Hart.takeTrap
  split
  · rename_i delegated
    refine .supervisor (fun machine => ?_) _ _ _ _
    simp [Hart.delegated, machine] at delegated
  · exact .machine _ _ _ _

theorem WellFormed.takeTrap (wellFormed : hart.WellFormed sanitizeMstatus sanitizeSatp)
    (lawful : LawfulStatus sanitizeMstatus) (wide : 1 < w) (request : TrapRequest w) :
    (hart.takeTrap sanitizeMstatus request).WellFormed sanitizeMstatus sanitizeSatp :=
  wellFormed.entered lawful wide (entered_takeTrap sanitizeMstatus hart request)

/-- What a selected interrupt tells about the state. -/
theorem selectPendingInterrupt_pending (hart : Hart w)
    (pending : hart.selectPendingInterrupt.pending = true) :
    ∃ cause, (hart.selectPendingInterrupt =
        { pending := true, cause, target := .supervisor } ∧ hart.privilege ≠ .machine ∧
        flag hart.machineCsrs.mideleg (interruptBit cause) = true) ∨
      (hart.selectPendingInterrupt = { pending := true, cause, target := .machine } ∧
        flag hart.machineCsrs.mideleg (interruptBit cause) = false) := by
  unfold selectPendingInterrupt at pending ⊢
  dsimp only at pending ⊢
  generalize search : priorityOrder.findSome? _ = found at pending ⊢
  cases found with
  | none => cases pending
  | some selection =>
    obtain ⟨cause, _, selected⟩ := List.exists_of_findSome?_eq_some search
    refine ⟨cause, ?_⟩
    simp only [selectAt] at selected
    split at selected
    · cases selected
    split at selected
    · rename_i delegated
      split at selected
      · rename_i enabled
        cases selected
        left
        refine ⟨rfl, ?_, delegated⟩
        intro machine
        simp [supervisorGloballyEnabled, machine] at enabled
      · cases selected
    · rename_i kept
      split at selected
      · cases selected
        right
        exact ⟨rfl, by simpa using kept⟩
      · cases selected

theorem entered_takeInterruptTrap (sanitizeMstatus : BitVec w → BitVec w)
    (pending : hart.selectPendingInterrupt.pending = true) (interruptedPc : BitVec w) :
    Entered sanitizeMstatus hart interruptedPc hart.selectPendingInterrupt.target
      (hart.takeInterruptTrap sanitizeMstatus hart.selectPendingInterrupt.cause interruptedPc
        hart.selectPendingInterrupt.target) := by
  obtain ⟨cause, ⟨selected, below, _⟩ | ⟨selected, _⟩⟩ := hart.selectPendingInterrupt_pending pending
  · rw [selected]
    exact .supervisor below _ _ _ _
  · rw [selected]
    exact .machine _ _ _ _

theorem WellFormed.takeInterruptTrap (wellFormed : hart.WellFormed sanitizeMstatus sanitizeSatp)
    (lawful : LawfulStatus sanitizeMstatus) (wide : 1 < w)
    (pending : hart.selectPendingInterrupt.pending = true) (interruptedPc : BitVec w) :
    (hart.takeInterruptTrap sanitizeMstatus hart.selectPendingInterrupt.cause interruptedPc
      hart.selectPendingInterrupt.target).WellFormed sanitizeMstatus sanitizeSatp :=
  wellFormed.entered lawful wide (entered_takeInterruptTrap sanitizeMstatus pending interruptedPc)

end

end Hart

end RvEmulator
