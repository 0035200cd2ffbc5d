import Mathlib.Logic.Function.Basic
import RvEmulator.Common.Types

/-! The architectural state that `rv32` and `rv64` declare alike, and the
interrupt and trap logic that both implement over it. What differs is the
register width and the `mstatus` sanitizer, which are parameters here. -/

namespace RvEmulator

/-! Bits of `mstatus` that both register widths have at one position. -/
namespace MstatusBits

def sie : BitVec w := 1#w <<< 1
def mie : BitVec w := 1#w <<< 3
def spie : BitVec w := 1#w <<< 5
def mpie : BitVec w := 1#w <<< 7
def spp : BitVec w := 1#w <<< 8
def mppShift : Nat := 11
def mpp : BitVec w := 3#w <<< mppShift
def mprv : BitVec w := 1#w <<< 17
def sum : BitVec w := 1#w <<< 18
def mxr : BitVec w := 1#w <<< 19
def tvm : BitVec w := 1#w <<< 20
def tw : BitVec w := 1#w <<< 21
def tsr : BitVec w := 1#w <<< 22

end MstatusBits

namespace InterruptBits

def supervisorSoftware : BitVec w := 1#w <<< 1
def machineSoftware : BitVec w := 1#w <<< 3
def supervisorTimer : BitVec w := 1#w <<< 5
def machineTimer : BitVec w := 1#w <<< 7
def supervisorExternal : BitVec w := 1#w <<< 9
def machineExternal : BitVec w := 1#w <<< 11
def supervisor : BitVec w := supervisorSoftware ||| supervisorTimer ||| supervisorExternal
def machine : BitVec w := machineSoftware ||| machineTimer ||| machineExternal
def supported : BitVec w := supervisor ||| machine
def machineWritablePending : BitVec w := supervisor
def supervisorWritablePending : BitVec w := supervisorSoftware

end InterruptBits

def supportedExceptionDelegation : BitVec w := 0x3FF#w ||| 1#w <<< 12 ||| 1#w <<< 13 ||| 1#w <<< 15
def supportedInterruptDelegation : BitVec w := 1#w <<< 1 ||| 1#w <<< 5 ||| 1#w <<< 9
def supportedCounterEnable : BitVec w := 0x7#w

/-- Register numbers are masked to five bits wherever they are decoded. -/
abbrev RegisterIndex := BitVec 5

structure MachineCsrState (w : Nat) where
  mstatus : BitVec w := 0
  medeleg : BitVec w := 0
  mideleg : BitVec w := 0
  mie : BitVec w := 0
  mipSoftware : BitVec w := 0
  mipLines : BitVec w := 0
  mcounteren : BitVec w := 0x7#w
  mtvec : BitVec w := 0
  mscratch : BitVec w := 0
  mepc : BitVec w := 0
  mcause : BitVec w := 0
  mtval : BitVec w := 0
deriving DecidableEq

structure SupervisorCsrState (w : Nat) where
  scounteren : BitVec w := 0x7#w
  stvec : BitVec w := 0
  sscratch : BitVec w := 0
  sepc : BitVec w := 0
  scause : BitVec w := 0
  stval : BitVec w := 0
  satp : BitVec w := 0
deriving DecidableEq

/-- The fields of `CpuSnapshot` that both register widths have. -/
structure Hart (w : Nat) where
  registers : RegisterIndex → BitVec w := fun _ => 0
  pc : BitVec w := 0
  hartId : BitVec w := 0
  privilege : PrivilegeMode := .machine
  machineCsrs : MachineCsrState w := {}
  supervisorCsrs : SupervisorCsrState w := {}
  cycle : BitVec 64 := 0
  instructionsRetired : BitVec 64 := 0
  waitingForInterrupt : Bool := false

structure ResetConfig (w : Nat) where
  resetPc : BitVec w := 0x80000000
  hartId : BitVec w := 0
  initialPrivilege : PrivilegeMode := .machine
  bootArgument : BitVec w := 0
deriving DecidableEq

namespace Hart

/-- `state.registers[index] = value`. -/
def setRegister (hart : Hart w) (index : RegisterIndex) (value : BitVec w) : Hart w :=
  { hart with registers := Function.update hart.registers index value }

def sampleInterruptLines (hart : Hart w) (lines : IrqLines) : Hart w :=
  let line (asserted : Bool) (bit : BitVec w) : BitVec w := if asserted then bit else 0
  let pending :=
    line lines.machineSoftware InterruptBits.machineSoftware |||
      line lines.machineTimer InterruptBits.machineTimer |||
      line lines.machineExternal InterruptBits.machineExternal |||
      line lines.supervisorSoftware InterruptBits.supervisorSoftware |||
      line lines.supervisorTimer InterruptBits.supervisorTimer |||
      line lines.supervisorExternal InterruptBits.supervisorExternal
  { hart with
    machineCsrs := { hart.machineCsrs with mipLines := pending &&& InterruptBits.supported } }

def pendingInterrupts (hart : Hart w) : BitVec w :=
  (hart.machineCsrs.mipLines ||| hart.machineCsrs.mipSoftware) &&& InterruptBits.supported

def interruptWakeRequested (hart : Hart w) : Bool :=
  flag hart.pendingInterrupts hart.machineCsrs.mie

def machineGloballyEnabled (hart : Hart w) : Bool :=
  hart.privilege != .machine || flag hart.machineCsrs.mstatus MstatusBits.mie

def supervisorGloballyEnabled (hart : Hart w) : Bool :=
  if hart.privilege == .machine then false
  else hart.privilege == .user || flag hart.machineCsrs.mstatus MstatusBits.sie

/-- Base privileged ISA priority: MEI, MSI, MTI, SEI, SSI, STI. -/
def priorityOrder : List InterruptCause :=
  [.machineExternal, .machineSoftware, .machineTimer, .supervisorExternal, .supervisorSoftware,
    .supervisorTimer]

/-- The bit of `mip` that a cause is pending in. -/
def interruptBit (cause : InterruptCause) : BitVec w := 1#w <<< cause.code

/-- What the selection loop returns at one cause, if it returns there. -/
def selectAt (hart : Hart w) (enabled : BitVec w) (cause : InterruptCause) :
    Option InterruptSelection :=
  if !flag enabled (interruptBit cause) then none
  else if flag hart.machineCsrs.mideleg (interruptBit cause) then
    if hart.supervisorGloballyEnabled then
      some { pending := true, cause, target := .supervisor }
    else none
  else if hart.machineGloballyEnabled then
    some { pending := true, cause, target := .machine }
  else none

def selectPendingInterrupt (hart : Hart w) : InterruptSelection :=
  let enabled := hart.pendingInterrupts &&& hart.machineCsrs.mie &&& InterruptBits.supported
  (priorityOrder.findSome? (hart.selectAt enabled)).getD {}

end Hart

structure TrapRequest (w : Nat) where
  cause : ExceptionCause := .illegalInstruction
  exceptionPc : BitVec w := 0
  trapValue : BitVec w := 0

def trapVectorAddress (tvec : BitVec w) (interrupt : Bool) (cause : BitVec w) : BitVec w :=
  let base := tvec &&& ~~~3#w
  if interrupt && (tvec &&& 3#w) == 1#w then base + 4#w * cause else base

/-- The `mstatus` that a trap to machine mode installs, before sanitizing. -/
def machineTrapStatus (status : BitVec w) (privilege : PrivilegeMode) : BitVec w :=
  let cleared := status &&& ~~~(MstatusBits.mie ||| MstatusBits.mpie ||| MstatusBits.mpp)
  let saved := if flag status MstatusBits.mie then cleared ||| MstatusBits.mpie else cleared
  saved ||| (privilege.code w <<< MstatusBits.mppShift)

/-- The `mstatus` that a trap to supervisor mode installs, before sanitizing. -/
def supervisorTrapStatus (status : BitVec w) (privilege : PrivilegeMode) : BitVec w :=
  let cleared := status &&& ~~~(MstatusBits.sie ||| MstatusBits.spie ||| MstatusBits.spp)
  let saved := if flag status MstatusBits.sie then cleared ||| MstatusBits.spie else cleared
  if privilege = .supervisor then saved ||| MstatusBits.spp else saved

/-- The `mstatus` that MRET installs, before sanitizing. -/
def machineReturnStatus (old : BitVec w) (target : PrivilegeMode) : BitVec w :=
  let cleared := old &&& ~~~(MstatusBits.mie ||| MstatusBits.mpie ||| MstatusBits.mpp)
  let restored := if flag old MstatusBits.mpie then cleared ||| MstatusBits.mie else cleared
  let next := restored ||| MstatusBits.mpie
  if target ≠ .machine then next &&& ~~~MstatusBits.mprv else next

/-- The `mstatus` that SRET installs, before sanitizing. -/
def supervisorReturnStatus (old : BitVec w) : BitVec w :=
  let cleared := old &&& ~~~(MstatusBits.sie ||| MstatusBits.spie ||| MstatusBits.spp)
  let restored := if flag old MstatusBits.spie then cleared ||| MstatusBits.sie else cleared
  (restored ||| MstatusBits.spie) &&& ~~~MstatusBits.mprv

namespace Hart

variable (sanitizeMstatus : BitVec w → BitVec w)

/-- Enter machine mode: `take_machine_trap`, and the machine branch of
`take_interrupt_trap`. -/
def enterMachine (hart : Hart w) (epc cause tval target : BitVec w) : Hart w :=
  { hart with
    machineCsrs :=
      { hart.machineCsrs with
        mstatus := sanitizeMstatus
          (machineTrapStatus (sanitizeMstatus hart.machineCsrs.mstatus) hart.privilege)
        mepc := epc &&& ~~~1#w
        mcause := cause
        mtval := tval }
    pc := target
    privilege := .machine
    waitingForInterrupt := false
    registers := Function.update hart.registers 0 0 }

/-- Enter supervisor mode: `take_supervisor_trap`, and the supervisor branch of
`take_interrupt_trap`. -/
def enterSupervisor (hart : Hart w) (epc cause tval target : BitVec w) : Hart w :=
  { hart with
    machineCsrs :=
      { hart.machineCsrs with
        mstatus := sanitizeMstatus
          (supervisorTrapStatus (sanitizeMstatus hart.machineCsrs.mstatus) hart.privilege) }
    supervisorCsrs :=
      { hart.supervisorCsrs with
        sepc := epc &&& ~~~1#w
        scause := cause
        stval := tval }
    pc := target
    privilege := .supervisor
    waitingForInterrupt := false
    registers := Function.update hart.registers 0 0 }

def takeMachineTrap (hart : Hart w) (request : TrapRequest w) : Hart w :=
  let cause := BitVec.ofNat w request.cause.code
  hart.enterMachine sanitizeMstatus request.exceptionPc cause request.trapValue
    (trapVectorAddress hart.machineCsrs.mtvec false cause)

def takeSupervisorTrap (hart : Hart w) (request : TrapRequest w) : Hart w :=
  let cause := BitVec.ofNat w request.cause.code
  hart.enterSupervisor sanitizeMstatus request.exceptionPc cause request.trapValue
    (trapVectorAddress hart.supervisorCsrs.stvec false cause)

/-- Whether a synchronous exception goes to supervisor mode. -/
def delegated (hart : Hart w) (cause : ExceptionCause) : Bool :=
  hart.privilege != .machine && decide (cause.code < w) &&
    flag hart.machineCsrs.medeleg (1#w <<< cause.code)

def takeTrap (hart : Hart w) (request : TrapRequest w) : Hart w :=
  if hart.delegated request.cause then hart.takeSupervisorTrap sanitizeMstatus request
  else hart.takeMachineTrap sanitizeMstatus request

def takeInterruptTrap (hart : Hart w) (cause : InterruptCause) (interruptedPc : BitVec w)
    (target : TrapTarget) : Hart w :=
  let code := BitVec.ofNat w cause.code
  let recorded := (1#w <<< (w - 1)) ||| code
  match target with
  | .supervisor =>
    hart.enterSupervisor sanitizeMstatus interruptedPc recorded 0
      (trapVectorAddress hart.supervisorCsrs.stvec true code)
  | .machine =>
    hart.enterMachine sanitizeMstatus interruptedPc recorded 0
      (trapVectorAddress hart.machineCsrs.mtvec true code)

end Hart

end RvEmulator
