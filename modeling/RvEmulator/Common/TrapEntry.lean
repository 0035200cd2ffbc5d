import RvEmulator.Common.HartInvariant

/-! What a trap does to the state of a hart, at either register width. -/

namespace RvEmulator.Hart

variable {w : Nat}

/-- The value of `mcause` or `scause` after a trap. -/
def recordedCause (w : Nat) (interrupt : Bool) (code : Nat) : BitVec w :=
  if interrupt then (1#w <<< (w - 1)) ||| BitVec.ofNat w code else BitVec.ofNat w code

/-- The trap is the supervisor's: it comes from below machine mode, and its bit
in `mideleg` or `medeleg` is set. -/
def Delegates (before : Hart w) (interrupt : Bool) (code : Nat) : Prop :=
  before.privilege ≠ .machine ∧
    flag (if interrupt then before.machineCsrs.mideleg else before.machineCsrs.medeleg)
      (1#w <<< code) = true

/-- A precise trap entry. Besides the sampled lines and the status, only the trap registers
of the mode it goes to change, and they describe the instruction that did not complete. -/
structure TrapEntry (interrupt : Bool) (code : Nat) (trapValue : BitVec w)
    (before after : Hart w) : Prop where
  registers : ∀ index, index ≠ 0 → after.registers index = before.registers index
  instructionsRetired : after.instructionsRetired = before.instructionsRetired
  target : (before.Delegates interrupt code ∧ after.privilege = .supervisor) ∨
    (¬before.Delegates interrupt code ∧ after.privilege = .machine)
  supervisor : after.privilege = .supervisor →
    after.supervisorCsrs =
        { before.supervisorCsrs with
          sepc := before.pc &&& ~~~1
          scause := recordedCause w interrupt code
          stval := trapValue } ∧
      after.machineCsrs =
        { before.machineCsrs with
          mstatus := after.machineCsrs.mstatus
          mipLines := after.machineCsrs.mipLines } ∧
      after.pc = trapVectorAddress before.supervisorCsrs.stvec interrupt (BitVec.ofNat w code)
  machine : after.privilege = .machine →
    after.supervisorCsrs = before.supervisorCsrs ∧
      after.machineCsrs =
        { before.machineCsrs with
          mstatus := after.machineCsrs.mstatus
          mipLines := after.machineCsrs.mipLines
          mepc := before.pc &&& ~~~1
          mcause := recordedCause w interrupt code
          mtval := trapValue } ∧
      after.pc = trapVectorAddress before.machineCsrs.mtvec interrupt (BitVec.ofNat w code)

variable (sanitizeMstatus : BitVec w → BitVec w) (hart : Hart w)

theorem trapEntry_takeTrap (wide : 16 ≤ w) (cause : ExceptionCause) (trapValue : BitVec w) :
    TrapEntry false cause.code trapValue hart
      (hart.takeTrap sanitizeMstatus { cause, exceptionPc := hart.pc, trapValue }) := by
  have bounded : cause.code < w := by
    have small : cause.code < 16 := by cases cause <;> decide
    omega
  have delegation : hart.delegated cause = true ↔ hart.Delegates false cause.code := by
    simp [delegated, Delegates, bounded]
  unfold takeTrap
  split
  · rename_i delegated
    refine ⟨fun index other => Function.update_of_ne other _ _, rfl,
      .inl ⟨delegation.mp delegated, rfl⟩, fun _ => ⟨rfl, rfl, rfl⟩, ?_⟩
    intro machine
    cases machine
  · rename_i kept
    refine ⟨fun index other => Function.update_of_ne other _ _, rfl,
      .inr ⟨fun delegated => kept (delegation.mpr delegated), rfl⟩, ?_, fun _ => ⟨rfl, rfl, rfl⟩⟩
    intro supervisor
    cases supervisor

theorem trapEntry_takeInterruptTrap (pending : hart.selectPendingInterrupt.pending = true) :
    TrapEntry true hart.selectPendingInterrupt.cause.code 0 hart
      (hart.takeInterruptTrap sanitizeMstatus hart.selectPendingInterrupt.cause hart.pc
        hart.selectPendingInterrupt.target) := by
  obtain ⟨cause, ⟨selected, below, delegated⟩ | ⟨selected, kept⟩⟩ :=
    hart.selectPendingInterrupt_pending pending
  · rw [selected]
    refine ⟨fun index other => Function.update_of_ne other _ _, rfl,
      .inl ⟨⟨below, delegated⟩, rfl⟩, fun _ => ⟨rfl, rfl, rfl⟩, ?_⟩
    intro machine
    cases machine
  · rw [selected]
    have notDelegated : ¬hart.Delegates true cause.code := by
      rintro ⟨_, delegated⟩
      exact absurd (kept.symm.trans delegated) (by decide)
    refine ⟨fun index other => Function.update_of_ne other _ _, rfl,
      .inr ⟨notDelegated, rfl⟩, ?_, fun _ => ⟨rfl, rfl, rfl⟩⟩
    intro supervisor
    cases supervisor

end RvEmulator.Hart
