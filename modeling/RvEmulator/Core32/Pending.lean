import RvEmulator.Core32.Compressed
import RvEmulator.Core32.Csr

/-! What an instruction of the 32-bit core wants to change is collected in a
`PendingCommit` and applied by `commit_pending` (`core32/src/execute.cpp`,
`core32/src/trap.cpp`). Here are the commit and the routines that build one from
the snapshot alone. -/

namespace RvEmulator.Core32

inductive ExecuteStatus where
  | ready | unsupportedInstruction | environmentCall | breakpoint
deriving DecidableEq, Repr

structure RegisterWrite where
  enabled : Bool := false
  index : BitVec 32 := 0
  value : Xlen := 0
deriving DecidableEq, Repr

structure CsrWrite where
  enabled : Bool := false
  address : CsrAddress := 0
  value : Xlen := 0
deriving DecidableEq, Repr

/-- `value` is the enumerator's underlying value, which a cast can make any byte. -/
structure PrivilegeWrite where
  enabled : Bool := false
  value : BitVec 8 := PrivilegeMode.machine.code 8
deriving DecidableEq, Repr

structure PendingCommit where
  status : ExecuteStatus := .unsupportedInstruction
  pc : Xlen := 0
  instruction : BitVec 32 := 0
  nextPc : Xlen := 0
  registerWrite : RegisterWrite := {}
  csrWrite : CsrWrite := {}
  privilegeWrite : PrivilegeWrite := {}
  waitForInterrupt : Bool := false
deriving DecidableEq, Repr

def PendingCommit.ready (pending : PendingCommit) : Bool := pending.status == .ready

/-! ### Registers only -/

/-- A word as a 64-bit signed number. -/
def asSignedWord (value : Xlen) : BitVec 64 :=
  if (value &&& 0x80000000) = 0 then value.setWidth 64 else value.setWidth 64 - (1#64 <<< 32)

def highWord (value : BitVec 64) : Xlen := (value >>> 32).setWidth 32

def multiplyHighSigned (lhs rhs : Xlen) : Xlen := highWord (asSignedWord lhs * asSignedWord rhs)

def multiplyHighSignedUnsigned (lhs rhs : Xlen) : Xlen :=
  highWord (asSignedWord lhs * rhs.setWidth 64)

def divideSigned (dividend divisor : Xlen) : Xlen :=
  if divisor = 0 then 0xFFFFFFFF
  else if dividend = 0x80000000 ∧ divisor = 0xFFFFFFFF then dividend
  else ((asSignedWord dividend).sdiv (asSignedWord divisor)).setWidth 32

def remainderSigned (dividend divisor : Xlen) : Xlen :=
  if divisor = 0 then dividend
  else if dividend = 0x80000000 ∧ divisor = 0xFFFFFFFF then 0
  else ((asSignedWord dividend).srem (asSignedWord divisor)).setWidth 32

/-- `1` or `0`. -/
def truth (condition : Bool) : Xlen := if condition then 1 else 0

/-- The register value of an arm of `execute_decoded` that sets one; `none` for every
other kind. -/
def integerValue (decoded : DecodedInstruction) (rs1 rs2 : Xlen) : Option Xlen :=
  let immediate := decoded.immediate
  let immediateShift := (immediate &&& 0x1F).toNat
  let registerShift := (rs2 &&& 0x1F).toNat
  match decoded.kind with
  | .lui => some immediate
  | .addi => some (rs1 + immediate)
  | .slti => some (truth (rs1.slt immediate))
  | .sltiu => some (truth (rs1.ult immediate))
  | .xori => some (rs1 ^^^ immediate)
  | .ori => some (rs1 ||| immediate)
  | .andi => some (rs1 &&& immediate)
  | .slli => some (rs1 <<< immediateShift)
  | .srli => some (rs1 >>> immediateShift)
  | .srai => some (rs1.sshiftRight immediateShift)
  | .add => some (rs1 + rs2)
  | .sub => some (rs1 - rs2)
  | .sll => some (rs1 <<< registerShift)
  | .slt => some (truth (rs1.slt rs2))
  | .sltu => some (truth (rs1.ult rs2))
  | .xor => some (rs1 ^^^ rs2)
  | .srl => some (rs1 >>> registerShift)
  | .sra => some (rs1.sshiftRight registerShift)
  | .or => some (rs1 ||| rs2)
  | .and => some (rs1 &&& rs2)
  | .mul => some ((rs1.setWidth 64 * rs2.setWidth 64).setWidth 32)
  | .mulh => some (multiplyHighSigned rs1 rs2)
  | .mulhsu => some (multiplyHighSignedUnsigned rs1 rs2)
  | .mulhu => some (highWord (rs1.setWidth 64 * rs2.setWidth 64))
  | .div => some (divideSigned rs1 rs2)
  | .divu => some (if rs2 = 0 then 0xFFFFFFFF else rs1.udiv rs2)
  | .rem => some (remainderSigned rs1 rs2)
  | .remu => some (if rs2 = 0 then rs1 else rs1.umod rs2)
  | _ => none

/-- The commit of an instruction that falls through to the next one. -/
def sequential (decoded : DecodedInstruction) (pc : Xlen) : PendingCommit :=
  { status := .ready, pc, instruction := decoded.raw, nextPc := pc + decoded.length.setWidth 32 }

def notReady (decoded : DecodedInstruction) (pc : Xlen) (status : ExecuteStatus) : PendingCommit :=
  { status, pc, instruction := decoded.raw, nextPc := pc }

/-- A write of `rd`, which `commit_pending` drops for `x0`. -/
def writeRd (decoded : DecodedInstruction) (value : Xlen) : RegisterWrite :=
  { enabled := true, index := decoded.rd.setWidth 32, value }

def executeDecoded (decoded : DecodedInstruction) (pc rs1 rs2 : Xlen) : PendingCommit :=
  if !decoded.valid then notReady decoded pc .unsupportedInstruction
  else
    match integerValue decoded rs1 rs2 with
    | some value => { sequential decoded pc with registerWrite := writeRd decoded value }
    | none =>
      match decoded.kind with
      | .fence | .fenceI => sequential decoded pc
      | .ecall => notReady decoded pc .environmentCall
      | .ebreak => notReady decoded pc .breakpoint
      | _ => notReady decoded pc .unsupportedInstruction

/-! ### The other units -/

/-- How a unit of `Core::step` answers. Each status of its own result type that is
neither `Ready` nor `Not...Instruction` is raised as the cause it is named after. -/
inductive UnitResult where
  | declined
  | ready (pending : PendingCommit)
  | raise (cause : ExceptionCause) (trapValue : Xlen) (busFault : BusFault)
deriving DecidableEq, Repr

/-- Whether a branch is taken. -/
def branchTaken (kind : InstructionKind) (rs1 rs2 : Xlen) : Bool :=
  match kind with
  | .beq => rs1 == rs2
  | .bne => rs1 != rs2
  | .blt => rs1.slt rs2
  | .bge => !rs1.slt rs2
  | .bltu => rs1.ult rs2
  | .bgeu => !rs1.ult rs2
  | _ => false

def executeControlFlow (decoded : DecodedInstruction) (pc rs1 rs2 : Xlen) : UnitResult :=
  let next := sequential decoded pc
  let finishTarget (target : Xlen) (registerWrite : RegisterWrite) : UnitResult :=
    if (target &&& 0x1) ≠ 0 then .raise .instructionAddressMisaligned target .none
    else .ready { next with nextPc := target, registerWrite }
  match decoded.kind with
  | .auipc => .ready { next with registerWrite := writeRd decoded (pc + decoded.immediate) }
  | .jal => finishTarget (pc + decoded.immediate) (writeRd decoded next.nextPc)
  | .jalr => finishTarget ((rs1 + decoded.immediate) &&& ~~~1) (writeRd decoded next.nextPc)
  | .beq | .bne | .blt | .bge | .bltu | .bgeu =>
    if branchTaken decoded.kind rs1 rs2 then
      finishTarget (pc + decoded.immediate) { index := decoded.rd.setWidth 32 }
    else .ready { next with registerWrite := { index := decoded.rd.setWidth 32 } }
  | _ => .declined

/-- The byte that `previous_privilege` casts to an enumerator. -/
def previousPrivilege (mstatus : Xlen) : BitVec 8 :=
  ((mstatus &&& MstatusBits.mpp) >>> MstatusBits.mppShift).setWidth 8

def supervisorPreviousPrivilege (mstatus : Xlen) : PrivilegeMode :=
  if flag mstatus MstatusBits.spp then .supervisor else .user

/-- Whether S-mode execution of an instruction is trapped by a bit of `mstatus`; in
U-mode it is always illegal. -/
def supervisorTrapped (state : CpuSnapshot) (trapBit : Xlen) : Bool :=
  state.privilege == .user ||
    (state.privilege == .supervisor && flag (sanitizeMstatus state.machineCsrs.mstatus) trapBit)

def executePrivileged (decoded : DecodedInstruction) (state : CpuSnapshot) : UnitResult :=
  let oldMstatus := sanitizeMstatus state.machineCsrs.mstatus
  let illegal : UnitResult := .raise .illegalInstruction decoded.raw .none
  let next := sequential decoded state.pc
  match decoded.kind with
  | .sfenceVma => if supervisorTrapped state MstatusBits.tvm then illegal else .ready next
  | .wfi =>
    if supervisorTrapped state MstatusBits.tw then illegal
    else .ready { next with waitForInterrupt := true }
  | .mret =>
    if state.privilege ≠ .machine then illegal
    else
      match PrivilegeMode.ofCode? (previousPrivilege oldMstatus) with
      | none => illegal
      | some target =>
        .ready
          { next with
            nextPc := state.machineCsrs.mepc
            csrWrite :=
              { enabled := true
                address := CsrAddress.mstatus
                value := machineReturnStatus oldMstatus target }
            privilegeWrite := { enabled := true, value := target.code 8 } }
  | .sret =>
    if supervisorTrapped state MstatusBits.tsr then illegal
    else
      .ready
        { next with
          nextPc := state.supervisorCsrs.sepc
          csrWrite :=
            { enabled := true
              address := CsrAddress.sstatus
              value := supervisorReturnStatus oldMstatus }
          privilegeWrite :=
            { enabled := true, value := (supervisorPreviousPrivilege oldMstatus).code 8 } }
  | _ => .declined

/-! The case labels of `execute_csr`. -/

def csrReplaces (kind : InstructionKind) : Bool := kind == .csrrw || kind == .csrrwi

def csrSets (kind : InstructionKind) : Bool := kind == .csrrs || kind == .csrrsi

def csrClears (kind : InstructionKind) : Bool := kind == .csrrc || kind == .csrrci

def csrImmediate (kind : InstructionKind) : Bool :=
  kind == .csrrwi || kind == .csrrsi || kind == .csrrci

def csrReadRequired (decoded : DecodedInstruction) : Bool :=
  if csrReplaces decoded.kind then decoded.rd != 0 else true

def csrWriteRequired (decoded : DecodedInstruction) : Bool :=
  if csrReplaces decoded.kind then true
  else if csrImmediate decoded.kind then decoded.immediate != 0
  else decoded.rs1 != 0

def csrSource (decoded : DecodedInstruction) (rs1 : Xlen) : Xlen :=
  if csrImmediate decoded.kind then decoded.immediate else rs1

/-- The value to write. What is set or cleared is not always what was read. -/
def csrNewValue (decoded : DecodedInstruction) (state : CpuSnapshot) (oldValue source : Xlen) :
    Xlen :=
  let modifies := csrSets decoded.kind || csrClears decoded.kind
  let modificationBase :=
    if csrWriteRequired decoded && modifies then CsrFile.readForWrite state decoded.csr oldValue
    else oldValue
  if csrSets decoded.kind then modificationBase ||| source
  else if csrClears decoded.kind then modificationBase &&& ~~~source
  else source

def csrPending (decoded : DecodedInstruction) (state : CpuSnapshot) (oldValue source : Xlen) :
    PendingCommit :=
  { sequential decoded state.pc with
    registerWrite :=
      { enabled := decoded.rd != 0, index := decoded.rd.setWidth 32, value := oldValue }
    csrWrite :=
      { enabled := csrWriteRequired decoded
        address := decoded.csr
        value := csrNewValue decoded state oldValue source } }

/-- The CSR instructions, with the bus's `read_time` as an argument. -/
def executeCsr (decoded : DecodedInstruction) (state : CpuSnapshot) (time : BitVec 64)
    (rs1 : Xlen) : UnitResult :=
  let read := CsrFile.read state time decoded.csr state.privilege
  let oldValue := if csrReadRequired decoded then read.value else 0
  if !(csrReplaces decoded.kind || csrSets decoded.kind || csrClears decoded.kind) then .declined
  else if csrWriteRequired decoded &&
      CsrFile.validateWrite state decoded.csr state.privilege != .ready then
    .raise .illegalInstruction decoded.raw .none
  else if csrReadRequired decoded && !read.ready then
    .raise .illegalInstruction decoded.raw .none
  else .ready (csrPending decoded state oldValue (csrSource decoded rs1))

/-! ### The commit -/

/-- The checks of `commit_pending`. -/
def acceptable (state : CpuSnapshot) (pending : PendingCommit) : Bool :=
  pending.ready && pending.pc == state.pc &&
    !(pending.registerWrite.enabled && decide (32 ≤ pending.registerWrite.index.toNat)) &&
    !(pending.privilegeWrite.enabled &&
      (PrivilegeMode.ofCode? pending.privilegeWrite.value).isNone) &&
    !(pending.csrWrite.enabled &&
      CsrFile.validateWrite state pending.csrWrite.address state.privilege != .ready)

/-! The assignments of an accepted commit, in order. -/

def commitRegister (write : RegisterWrite) (state : CpuSnapshot) : CpuSnapshot :=
  if write.enabled && write.index != 0 then state.setRegister (write.index.setWidth 5) write.value
  else state

def commitPrivilege (write : PrivilegeWrite) (state : CpuSnapshot) : CpuSnapshot :=
  if write.enabled then
    { state with privilege := (PrivilegeMode.ofCode? write.value).getD state.privilege }
  else state

def retire (pending : PendingCommit) (state : CpuSnapshot) : CpuSnapshot :=
  { state.setRegister 0 0 with
    pc := pending.nextPc
    instructionsRetired := state.instructionsRetired + 1
    waitingForInterrupt := pending.waitForInterrupt }

def commitCsr (write : CsrWrite) (state : CpuSnapshot) : CpuSnapshot :=
  if write.enabled then CsrFile.writeValidated state write.address write.value else state

/-- Leaving machine mode clears MPRV. -/
def commitMprv (write : PrivilegeWrite) (state : CpuSnapshot) : CpuSnapshot :=
  if write.enabled && write.value != PrivilegeMode.machine.code 8 then
    CsrFile.onMachine state fun csrs => { csrs with mstatus := csrs.mstatus &&& ~~~MstatusBits.mprv }
  else state

def applyCommit (pending : PendingCommit) (state : CpuSnapshot) : CpuSnapshot :=
  commitMprv pending.privilegeWrite
    (commitCsr pending.csrWrite
      (retire pending
        (commitPrivilege pending.privilegeWrite (commitRegister pending.registerWrite state))))

/-- The boolean that `commit_pending` returns, and the snapshot that it leaves. -/
def commitPending (state : CpuSnapshot) (pending : PendingCommit) : Bool × CpuSnapshot :=
  if acceptable state pending then (true, applyCommit pending state) else (false, state)

end RvEmulator.Core32
