import RvEmulator.Common.Bus

/-! Enumerations that `rv32` and `rv64` declare alike, and the mask test that
both write as `(value & mask) != 0`. -/

namespace RvEmulator

inductive PrivilegeMode where
  | user | supervisor | machine
deriving DecidableEq, Repr

namespace PrivilegeMode

/-- The enumerator's value, as `static_cast` gives it. -/
def code (w : Nat) : PrivilegeMode → BitVec w
  | .user => 0
  | .supervisor => 1
  | .machine => 3

/-- The enumerator of an encoded privilege, if there is one. -/
def ofCode? (encoded : BitVec w) : Option PrivilegeMode :=
  if encoded = 0 then some .user
  else if encoded = 1 then some .supervisor
  else if encoded = 3 then some .machine
  else none

theorem ofCode_code (wide : 2 ≤ w) (mode : PrivilegeMode) : ofCode? (mode.code w) = some mode := by
  have room : 2 ^ 2 ≤ 2 ^ w := Nat.pow_le_pow_right (by decide) wide
  have one : (1 : BitVec w).toNat = 1 := show 1 % 2 ^ w = 1 from Nat.mod_eq_of_lt (by omega)
  have three : (3 : BitVec w).toNat = 3 := show 3 % 2 ^ w = 3 from Nat.mod_eq_of_lt (by omega)
  unfold ofCode?
  cases mode with
  | user => exact if_pos rfl
  | supervisor =>
    have nonzero : (1 : BitVec w) ≠ 0 := fun same =>
      absurd (one.symm.trans (congrArg _ same)) (by simp)
    rw [code, if_neg nonzero, if_pos rfl]
  | machine =>
    have nonzero : (3 : BitVec w) ≠ 0 := fun same =>
      absurd (three.symm.trans (congrArg _ same)) (by simp)
    have other : (3 : BitVec w) ≠ 1 := fun same =>
      absurd (three.symm.trans ((congrArg _ same).trans one)) (by decide)
    rw [code, if_neg nonzero, if_neg other, if_pos rfl]

/-- Privileges are ordered by their codes. -/
def rank : PrivilegeMode → Nat
  | .user => 0
  | .supervisor => 1
  | .machine => 3

end PrivilegeMode

structure IrqLines where
  machineSoftware : Bool := false
  machineTimer : Bool := false
  machineExternal : Bool := false
  supervisorSoftware : Bool := false
  supervisorTimer : Bool := false
  supervisorExternal : Bool := false
deriving DecidableEq, Repr

inductive ExecutionMode where
  | reference | fast
deriving DecidableEq, Repr

inductive ExceptionCause where
  | instructionAddressMisaligned | instructionAccessFault | illegalInstruction | breakpoint
  | loadAddressMisaligned | loadAccessFault | storeAddressMisaligned | storeAccessFault
  | environmentCallFromUser | environmentCallFromSupervisor | environmentCallFromMachine
  | instructionPageFault | loadPageFault | storePageFault
deriving DecidableEq, Repr

def ExceptionCause.code : ExceptionCause → Nat
  | .instructionAddressMisaligned => 0
  | .instructionAccessFault => 1
  | .illegalInstruction => 2
  | .breakpoint => 3
  | .loadAddressMisaligned => 4
  | .loadAccessFault => 5
  | .storeAddressMisaligned => 6
  | .storeAccessFault => 7
  | .environmentCallFromUser => 8
  | .environmentCallFromSupervisor => 9
  | .environmentCallFromMachine => 11
  | .instructionPageFault => 12
  | .loadPageFault => 13
  | .storePageFault => 15

inductive InterruptCause where
  | supervisorSoftware | machineSoftware | supervisorTimer | machineTimer
  | supervisorExternal | machineExternal
deriving DecidableEq, Repr

def InterruptCause.code : InterruptCause → Nat
  | .supervisorSoftware => 1
  | .machineSoftware => 3
  | .supervisorTimer => 5
  | .machineTimer => 7
  | .supervisorExternal => 9
  | .machineExternal => 11

inductive TrapTarget where
  | machine | supervisor
deriving DecidableEq, Repr

structure InterruptSelection where
  pending : Bool := false
  cause : InterruptCause := .machineExternal
  target : TrapTarget := .machine
deriving DecidableEq, Repr

inductive CsrAccessStatus where
  | ready | notFound | privilegeViolation | readOnly
deriving DecidableEq, Repr

abbrev CsrAddress := BitVec 16

/-- The cause of an environment call depends on the calling privilege only. -/
def environmentCallCause : PrivilegeMode → ExceptionCause
  | .user => .environmentCallFromUser
  | .supervisor => .environmentCallFromSupervisor
  | .machine => .environmentCallFromMachine

/-- `(value & mask) != 0`. -/
def flag (value mask : BitVec w) : Bool := (value &&& mask) != 0

theorem flag_shift (value : BitVec w) (i : Nat) :
    flag value (1#w <<< i) = value.getLsbD i := by
  by_cases inside : i < w
  · have only : ∀ j, (value &&& 1#w <<< i).getLsbD j = (value.getLsbD i && decide (j = i)) := by
      intro j
      simp only [BitVec.getLsbD_and, BitVec.getLsbD_shiftLeft, BitVec.getLsbD_one]
      by_cases same : j = i
      · subst j
        simp [inside, show 0 < w by omega]
      · by_cases below : j < i
        · simp [below, same]
        · have apart : j - i ≠ 0 := by omega
          simp [same, apart]
    cases set : value.getLsbD i with
    | true =>
      have nonzero : value &&& 1#w <<< i ≠ 0#w := by
        intro zero
        have bit := only i
        rw [zero, set] at bit
        simp at bit
      simpa [flag] using nonzero
    | false =>
      have zero : value &&& 1#w <<< i = 0#w := by
        apply BitVec.eq_of_getLsbD_eq
        intro j _
        rw [only j, set]
        simp
      simp [flag, zero]
  · have zero : 1#w <<< i = 0#w := by
      apply BitVec.eq_of_getLsbD_eq
      intro j small
      simp only [BitVec.getLsbD_shiftLeft, BitVec.getLsbD_zero]
      simp [show j < i by omega]
    rw [flag, zero, BitVec.getLsbD_of_ge value i (by omega)]
    simp

end RvEmulator
