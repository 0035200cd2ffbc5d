import RvEmulator.Core64.Execute

/-! The 64-bit core: the execution switch, the commit, and `Core::step` with
`Core::reset` and `Core::set_execution_mode`. -/

namespace RvEmulator.Core64

open Library

/-- The arms of the switch, by the case labels that share a body. -/
inductive SwitchArm where
  | integer | atomic | load | floatingLoad | store | floatingStore | floatingMove
  | floatingArithmetic | floatingSign | floatingMinMax | floatingCompare | floatingClassify
  | floatingConvertFormat | floatingToInteger | integerToFloating | fence | fenceI | csr
  | ecall | ebreak | mret | sret | wfi | sfenceVma | illegal
deriving DecidableEq

def switchArm : InstructionKind → SwitchArm
  | .illegal => .illegal
  | .lrW | .scW | .amoSwapW | .amoAddW | .amoXorW | .amoAndW | .amoOrW | .amoMinW | .amoMaxW
  | .amoMinuW | .amoMaxuW | .lrD | .scD | .amoSwapD | .amoAddD | .amoXorD | .amoAndD | .amoOrD
  | .amoMinD | .amoMaxD | .amoMinuD | .amoMaxuD => .atomic
  | .lb | .lh | .lw | .ld | .lbu | .lhu | .lwu => .load
  | .flw | .fld => .floatingLoad
  | .sb | .sh | .sw | .sd => .store
  | .fsw | .fsd => .floatingStore
  | .fmvXW | .fmvWX | .fmvXD | .fmvDX => .floatingMove
  | .faddS | .fsubS | .fmulS | .fdivS | .fsqrtS | .fmaddS | .fmsubS | .fnmsubS | .fnmaddS
  | .faddD | .fsubD | .fmulD | .fdivD | .fsqrtD | .fmaddD | .fmsubD | .fnmsubD | .fnmaddD =>
    .floatingArithmetic
  | .fsgnjS | .fsgnjnS | .fsgnjxS | .fsgnjD | .fsgnjnD | .fsgnjxD => .floatingSign
  | .fminS | .fmaxS | .fminD | .fmaxD => .floatingMinMax
  | .feqS | .fltS | .fleS | .feqD | .fltD | .fleD => .floatingCompare
  | .fclassS | .fclassD => .floatingClassify
  | .fcvtSD | .fcvtDS => .floatingConvertFormat
  | .fcvtWS | .fcvtWuS | .fcvtLS | .fcvtLuS | .fcvtWD | .fcvtWuD | .fcvtLD | .fcvtLuD =>
    .floatingToInteger
  | .fcvtSW | .fcvtSWu | .fcvtSL | .fcvtSLu | .fcvtDW | .fcvtDWu | .fcvtDL | .fcvtDLu =>
    .integerToFloating
  | .fence => .fence
  | .fenceI => .fenceI
  | .csrrw | .csrrs | .csrrc | .csrrwi | .csrrsi | .csrrci => .csr
  | .ecall => .ecall
  | .ebreak => .ebreak
  | .mret => .mret
  | .sret => .sret
  | .wfi => .wfi
  | .sfenceVma => .sfenceVma
  | _ => .integer

namespace InstructionKind

/-- `double_precision` of the arms that compute it from the case label. -/
def format : InstructionKind → FloatingFormat
  | .faddD | .fsubD | .fmulD | .fdivD | .fsqrtD | .fmaddD | .fmsubD | .fnmsubD | .fnmaddD
  | .fsgnjD | .fsgnjnD | .fsgnjxD | .fminD | .fmaxD | .feqD | .fltD | .fleD | .fclassD
  | .fcvtWD | .fcvtWuD | .fcvtLD | .fcvtLuD | .fcvtDW | .fcvtDWu | .fcvtDL | .fcvtDLu
  | .fcvtDS => .double
  | _ => .single

def arithmeticOperation : InstructionKind → FloatingArithmeticOperation
  | .fsubS | .fsubD => .subtract
  | .fmulS | .fmulD => .multiply
  | .fdivS | .fdivD => .divide
  | .fsqrtS | .fsqrtD => .squareRoot
  | .fmaddS | .fmaddD => .multiplyAdd
  | .fmsubS | .fmsubD => .multiplySubtract
  | .fnmsubS | .fnmsubD => .negatedMultiplyAdd
  | .fnmaddS | .fnmaddD => .negatedMultiplySubtract
  | _ => .add

def signOperation : InstructionKind → FloatingSignOperation
  | .fsgnjnS | .fsgnjnD => .negate
  | .fsgnjxS | .fsgnjxD => .exclusiveOr
  | _ => .copy

def minMaxOperation : InstructionKind → FloatingMinMaxOperation
  | .fmaxS | .fmaxD => .maximum
  | _ => .minimum

def comparisonOperation : InstructionKind → FloatingComparisonOperation
  | .fltS | .fltD => .lessThan
  | .fleS | .fleD => .lessOrEqual
  | _ => .equal

def integerWidth : InstructionKind → FloatingIntegerWidth
  | .fcvtLS | .fcvtLuS | .fcvtLD | .fcvtLuD | .fcvtSL | .fcvtSLu | .fcvtDL | .fcvtDLu => .long
  | _ => .word

def unsignedInteger : InstructionKind → Bool
  | .fcvtWuS | .fcvtLuS | .fcvtWuD | .fcvtLuD | .fcvtSWu | .fcvtSLu | .fcvtDWu | .fcvtDLu => true
  | _ => false

end InstructionKind

section

variable [SoftFloat]

/-- The arms that compute on floating-point registers. They trap as illegal if
the unit is off, or if the arm rounds and its rounding mode is reserved. -/
def floatingOutcome (state : CpuSnapshot) (decoded : DecodedInstruction) (nextPc : Xlen)
    (arm : SwitchArm) : Option Outcome :=
  let kind := decoded.kind
  let rs1 := state.registers decoded.rs1
  let first := state.floatingPoint.registers decoded.rs1
  let second := state.floatingPoint.registers decoded.rs2
  let third := state.floatingPoint.registers decoded.rs3
  let floating (result : FloatingResult) : Outcome :=
    { nextPc, floatingRegisterValue := some result.value,
      floatingExceptionFlags := result.exceptionFlags }
  let integer (result : FloatingResult) : Outcome :=
    { nextPc, registerValue := some result.value,
      floatingExceptionFlags := result.exceptionFlags }
  let rounded := resolveRoundingMode decoded.roundingMode state.floatingPoint.fcsr
  if !floatingPointEnabled state then none
  else
    match arm with
    | .floatingMove =>
      match kind with
      | .fmvXW => some { nextPc, registerValue := some (signExtendWord first) }
      | .fmvWX =>
        some { nextPc,
               floatingRegisterValue :=
                some (0xFFFFFFFF00000000 ||| (rs1.setWidth 32).setWidth 64) }
      | .fmvXD => some { nextPc, registerValue := some first }
      | _ => some { nextPc, floatingRegisterValue := some rs1 }
    | .floatingArithmetic =>
      rounded.map fun mode =>
        floating (floatingArithmetic kind.format kind.arithmeticOperation mode first second third)
    | .floatingSign =>
      some { nextPc,
             floatingRegisterValue :=
              some (floatingSignInjection kind.format kind.signOperation first second) }
    | .floatingMinMax =>
      some (floating (floatingMinMax kind.format kind.minMaxOperation first second))
    | .floatingCompare =>
      some (integer (floatingCompare kind.format kind.comparisonOperation first second))
    | .floatingClassify =>
      some { nextPc, registerValue := some ((floatingClassify kind.format first).setWidth 64) }
    | .floatingConvertFormat =>
      rounded.map fun mode => floating (floatingConvertFormat kind.format mode first)
    | .floatingToInteger =>
      rounded.map fun mode =>
        integer (floatingToInteger kind.format kind.integerWidth kind.unsignedInteger mode first)
    | .integerToFloating =>
      rounded.map fun mode =>
        floating (integerToFloating kind.format kind.integerWidth kind.unsignedInteger mode rs1)
    | _ => none

variable [CpuBus β]

/-- The optional operands of SFENCE.VMA. -/
def fenceOperands (state : CpuSnapshot) (decoded : DecodedInstruction) :
    Option Xlen × Option (BitVec 16) :=
  (if decoded.rs1 = 0 then none else some (state.registers decoded.rs1),
    if decoded.rs2 = 0 then none else some ((state.registers decoded.rs2).setWidth 16))

/-- The switch of `Core::step`. -/
def execute (mode : ExecutionMode) (state : CpuSnapshot) (instruction : BitVec 32)
    (decoded : DecodedInstruction) : Instr β Outcome :=
  let pc := state.pc
  let rs1 := state.registers decoded.rs1
  let rs2 := state.registers decoded.rs2
  let nextPc := pc + decoded.length.setWidth 64
  match switchArm decoded.kind with
  | .integer =>
    pure { nextPc := integerNextPc decoded.kind pc nextPc rs1 rs2 decoded.immediate
           registerValue := integerValue decoded.kind pc nextPc rs1 rs2 decoded.immediate }
  | .atomic => do
    let value ← executeAtomic mode state instruction decoded
    pure { nextPc, registerValue := some value }
  | .load => do
    let value ← executeLoad mode state instruction decoded
    pure { nextPc, registerValue := some value }
  | .floatingLoad => do
    let value ← executeFloatingLoad mode state instruction decoded
    pure { nextPc, floatingRegisterValue := some value }
  | .store => do
    executeStore mode state instruction decoded
    pure { nextPc }
  | .floatingStore => do
    executeFloatingStore mode state instruction decoded
    pure { nextPc }
  | .fence => pure { nextPc }
  | .fenceI =>
    Exec.lift fun fabric =>
      ({ nextPc }, { fabric with
        decodeCache := .clear
        instructionCache := fabric.instructionCache.clear })
  | .csr => do
    let (oldValue, csrWrite) ← executeCsr state instruction decoded
    pure { nextPc, registerValue := some oldValue, csrWrite }
  | .ecall => Exec.stop ⟨environmentCallCause state.privilege, instruction, 0, .none⟩
  | .ebreak => Exec.stop ⟨.breakpoint, instruction, pc, .none⟩
  | .mret =>
    match executeMret state with
    | none => illegal instruction
    | some next => pure { nextPc := next.pc, privilegedState := some next }
  | .sret =>
    match executeSret state with
    | none => illegal instruction
    | some next => pure { nextPc := next.pc, privilegedState := some next }
  | .wfi =>
    if !wfiAllowed state then illegal instruction
    else pure { nextPc, waitForInterrupt := true }
  | .sfenceVma =>
    if !sfenceVmaAllowed state then illegal instruction
    else
      Exec.lift fun fabric =>
        let (virtualAddress, asid) := fenceOperands state decoded
        ({ nextPc }, { fabric with
          tlb := fabric.tlb.sfenceVma virtualAddress asid
          instructionCache := fabric.instructionCache.sfence indexing virtualAddress asid })
  | .illegal => illegal instruction
  | arm =>
    match floatingOutcome state decoded nextPc arm with
    | none => illegal instruction
    | some outcome => pure outcome

/-- Everything between the interrupt check and the commit. -/
def runInstruction (mode : ExecutionMode) (state : CpuSnapshot) :
    Instr β (BitVec 32 × DecodedInstruction × Outcome) :=
  if (state.pc &&& 0x1) ≠ 0 then
    Exec.stop ⟨.instructionAddressMisaligned, 0, state.pc, .misaligned⟩
  else do
    let (instruction, decoded) ← fetch mode state
    if !decoded.valid then illegal instruction
    else do
      let outcome ← execute mode state instruction decoded
      if (outcome.nextPc &&& 0x1) ≠ 0 then
        Exec.stop ⟨.instructionAddressMisaligned, instruction, outcome.nextPc, .misaligned⟩
      else pure (instruction, decoded, outcome)

end

/-! The assignments to the snapshot at the end of a retiring step, in order. -/

def commitRegister (rd : RegisterIndex) (value : Option Xlen) (state : CpuSnapshot) :
    CpuSnapshot :=
  match value with
  | some value => if rd ≠ 0 then state.onHart (·.setRegister rd value) else state
  | none => state

def commitFloatingRegister (rd : RegisterIndex) (value : Option Xlen) (state : CpuSnapshot) :
    CpuSnapshot :=
  match value with
  | some value => markFloatingPointDirty (state.setFloatingRegister rd value)
  | none => state

def commitFloatingFlags (flags : BitVec 8) (state : CpuSnapshot) : CpuSnapshot :=
  if flags ≠ 0 then state.setFcsr (state.floatingPoint.fcsr ||| flags) else state

def retire (outcome : Outcome) (state : CpuSnapshot) : CpuSnapshot :=
  { state.onHart (·.setRegister 0 0) with
    pc := outcome.nextPc
    instructionsRetired := state.instructionsRetired + 1
    waitingForInterrupt := outcome.waitForInterrupt }

def commitCsr (write : Option (CsrAddress × Xlen)) (state : CpuSnapshot) : CpuSnapshot :=
  match write with
  | some (address, value) => CsrFile.writeValidated state address value
  | none => state

/-- The snapshot just before the CSR write. -/
def commitRegisters (state : CpuSnapshot) (decoded : DecodedInstruction) (outcome : Outcome) :
    CpuSnapshot :=
  let state := outcome.privilegedState.getD state
  let state := commitRegister decoded.rd outcome.registerValue state
  let state := commitFloatingRegister decoded.rd outcome.floatingRegisterValue state
  let state := commitFloatingFlags outcome.floatingExceptionFlags state
  retire outcome state

def commit (state : CpuSnapshot) (decoded : DecodedInstruction) (outcome : Outcome) :
    CpuSnapshot :=
  commitCsr outcome.csrWrite (commitRegisters state decoded outcome)

def registerWrite (decoded : DecodedInstruction) (outcome : Outcome) : RegisterCommit :=
  match outcome.registerValue with
  | some value => if decoded.rd ≠ 0 then { enabled := true, index := decoded.rd, value } else {}
  | none => {}

def floatingRegisterWrite (decoded : DecodedInstruction) (outcome : Outcome) : RegisterCommit :=
  match outcome.floatingRegisterValue with
  | some value => { enabled := true, index := decoded.rd, value }
  | none => {}

/-- The start of a step: count the cycle, clear `x0`, sample the lines. -/
def beginStep (state : CpuSnapshot) (irqLines : IrqLines) : CpuSnapshot :=
  { state with cycle := state.cycle + 1 }.onHart fun hart =>
    (hart.setRegister 0 0).sampleInterruptLines irqLines

structure Core (β : Type) where
  state : CpuSnapshot
  fabric : Fabric β
  executionMode : ExecutionMode

namespace Core

/-- The snapshot that `reset` installs. -/
def resetState (config : ResetConfig 64) : CpuSnapshot :=
  { pc := config.resetPc
    hartId := config.hartId
    privilege := config.initialPrivilege
    machineCsrs := { mstatus := sanitizeMstatus 0 }
    registers := Function.update (Function.update (fun _ => 0) 10 config.hartId) 11
      config.bootArgument }

def reset (core : Core β) (config : ResetConfig 64) : Core β :=
  { core with
    state := resetState config
    fabric :=
      { core.fabric with
        tlb := .clear
        decodeCache := .clear
        instructionCache := core.fabric.instructionCache.clear } }

/-- A constructed core, which starts in fast mode and resets itself. -/
def new (bus : β) : Core β :=
  reset
    { state := {}
      fabric := { bus, tlb := {}, decodeCache := .clear, instructionCache := .initial }
      executionMode := .fast } {}

def setExecutionMode (core : Core β) (mode : ExecutionMode) : Core β :=
  if core.executionMode = mode then core
  else
    { core with
      executionMode := mode
      fabric :=
        { core.fabric with
          tlb := .clear
          decodeCache := .clear
          instructionCache := core.fabric.instructionCache.clear } }

variable [SoftFloat] [CpuBus β]

/-- The snapshot that a step runs an instruction in, unless it waits. -/
def awake (state : CpuSnapshot) (irqLines : IrqLines) : CpuSnapshot :=
  { beginStep state irqLines with waitingForInterrupt := false }

def step (core : Core β) (irqLines : IrqLines) : StepResult × Core β :=
  let sampled := beginStep core.state irqLines
  if sampled.waitingForInterrupt && !sampled.interruptWakeRequested then
    ({ status := .waitingForInterrupt, privilege := sampled.privilege, pc := sampled.pc },
      { core with state := sampled })
  else
    let state := awake core.state irqLines
    let interrupt := state.selectPendingInterrupt
    if interrupt.pending then
      ({ status := .trapTaken, privilege := state.privilege, pc := state.pc },
        { core with
          state := takeInterruptTrap state interrupt.cause state.pc interrupt.target })
    else
      match runInstruction core.executionMode state core.fabric with
      | (.error trap, fabric) =>
        ({ status := .trapTaken
           privilege := state.privilege
           pc := state.pc
           instruction := trap.instruction
           trapValue := trap.trapValue
           busFault := trap.busFault },
          { core with
            state := takeTrap state
              { cause := trap.cause, exceptionPc := state.pc, trapValue := trap.trapValue }
            fabric })
      | (.ok (instruction, decoded, outcome), fabric) =>
        ({ status := .retired
           privilege := state.privilege
           pc := state.pc
           instruction
           registerWrite := registerWrite decoded outcome
           floatingRegisterWrite := floatingRegisterWrite decoded outcome },
          { core with state := commit state decoded outcome, fabric })

/-- The four ways a step can end, each with all it was decided on. -/
inductive Stepped (core : Core β) (irqLines : IrqLines) : StepResult × Core β → Prop where
  | waited :
      Stepped core irqLines
        ({ status := .waitingForInterrupt
           privilege := (beginStep core.state irqLines).privilege
           pc := (beginStep core.state irqLines).pc },
          { core with state := beginStep core.state irqLines })
  | interrupted (pending : (awake core.state irqLines).selectPendingInterrupt.pending = true) :
      Stepped core irqLines
        ({ status := .trapTaken
           privilege := (awake core.state irqLines).privilege
           pc := (awake core.state irqLines).pc },
          { core with
            state := takeInterruptTrap (awake core.state irqLines)
              (awake core.state irqLines).selectPendingInterrupt.cause
              (awake core.state irqLines).pc
              (awake core.state irqLines).selectPendingInterrupt.target })
  | trapped (trap : Trap) (fabric : Fabric β)
      (stopped : runInstruction core.executionMode (awake core.state irqLines) core.fabric =
        (.error trap, fabric))
      (idle : (awake core.state irqLines).selectPendingInterrupt.pending = false) :
      Stepped core irqLines
        ({ status := .trapTaken
           privilege := (awake core.state irqLines).privilege
           pc := (awake core.state irqLines).pc
           instruction := trap.instruction
           trapValue := trap.trapValue
           busFault := trap.busFault },
          { core with
            state := takeTrap (awake core.state irqLines)
              { cause := trap.cause
                exceptionPc := (awake core.state irqLines).pc
                trapValue := trap.trapValue }
            fabric })
  | retired (instruction : BitVec 32) (decoded : DecodedInstruction) (outcome : Outcome)
      (fabric : Fabric β)
      (returned : runInstruction core.executionMode (awake core.state irqLines) core.fabric =
        (.ok (instruction, decoded, outcome), fabric)) :
      Stepped core irqLines
        ({ status := .retired
           privilege := (awake core.state irqLines).privilege
           pc := (awake core.state irqLines).pc
           instruction
           registerWrite := registerWrite decoded outcome
           floatingRegisterWrite := floatingRegisterWrite decoded outcome },
          { core with state := commit (awake core.state irqLines) decoded outcome, fabric })

theorem stepped (core : Core β) (irqLines : IrqLines) :
    core.Stepped irqLines (core.step irqLines) := by
  unfold step
  dsimp only
  split
  · exact .waited
  split
  · rename_i pending
    exact .interrupted pending
  rename_i idle
  split
  · rename_i trap fabric stopped
    exact .trapped trap fabric stopped (by simpa using idle)
  · rename_i instruction decoded outcome fabric returned
    exact .retired instruction decoded outcome fabric returned

end Core

end RvEmulator.Core64
