import RvEmulator.Core32.Execute

/-! The 32-bit core: the dispatch to the execution units, and `Core::step` with
`Core::reset` and `Core::set_execution_mode`. -/

namespace RvEmulator.Core32

open Library

inductive ExecutionUnit where
  | integer | privileged | controlFlow | atomic | csr | memory
deriving DecidableEq, Repr

def executionUnit : InstructionKind → ExecutionUnit
  | .mret | .sret | .wfi | .sfenceVma => .privileged
  | .auipc | .jal | .jalr | .beq | .bne | .blt | .bge | .bltu | .bgeu => .controlFlow
  | .lrW | .scW | .amoSwapW | .amoAddW | .amoXorW | .amoAndW | .amoOrW | .amoMinW | .amoMaxW
  | .amoMinuW | .amoMaxuW => .atomic
  | .csrrw | .csrrs | .csrrc | .csrrwi | .csrrsi | .csrrci => .csr
  | .lb | .lh | .lw | .lbu | .lhu | .sb | .sh | .sw => .memory
  | _ => .integer

inductive StepStatus where
  | retired | instructionAddressMisaligned | instructionAccessFault | illegalInstruction
  | unsupportedInstruction | environmentCall | breakpoint | loadAddressMisaligned
  | loadAccessFault | storeAddressMisaligned | storeAccessFault | instructionPageFault
  | loadPageFault | storePageFault | trapTaken | waitingForInterrupt | coreNotImplemented
deriving DecidableEq, Repr

structure CommitTrace where
  valid : Bool := false
  privilege : PrivilegeMode := .machine
  pc : Xlen := 0
  instruction : BitVec 32 := 0
  nextPc : Xlen := 0
  instructionLength : BitVec 8 := 0
  registerWrite : RegisterWrite := {}
deriving DecidableEq, Repr

structure StepResult where
  status : StepStatus := .coreNotImplemented
  pc : Xlen := 0
  instruction : BitVec 32 := 0
  trapValue : Xlen := 0
  busFault : BusFault := .none
  cycle : BitVec 64 := 0
  commit : CommitTrace := {}
deriving DecidableEq, Repr

section

variable [CpuBus β]

/-- Ask a unit, unless an instruction is already pending. In fast mode only the unit
of the instruction is asked, in reference mode each one in turn. -/
def attempt (mode : ExecutionMode) (decoded : DecodedInstruction) (wanted : ExecutionUnit)
    (instruction : BitVec 32) (run : Instr β UnitResult) (pending : PendingCommit) :
    Instr β PendingCommit :=
  if !pending.ready && (mode == .reference || executionUnit decoded.kind == wanted) then do
    match ← run with
    | .ready next => pure next
    | .declined => pure pending
    | .raise cause trapValue busFault => Exec.stop ⟨cause, instruction, trapValue, busFault⟩
  else pure pending

/-- What `Core::step` does of `execute_decoded` before the other units. -/
def attemptInteger (mode : ExecutionMode) (decoded : DecodedInstruction) (state : CpuSnapshot)
    (instruction : BitVec 32) : Instr β PendingCommit :=
  let pending : PendingCommit :=
    if mode == .reference || executionUnit decoded.kind == .integer then
      executeDecoded decoded state.pc (state.registers decoded.rs1) (state.registers decoded.rs2)
    else
      { status := .unsupportedInstruction, pc := state.pc, instruction, nextPc := state.pc }
  match pending.status with
  | .environmentCall =>
    Exec.stop ⟨environmentCallCause state.privilege, instruction, 0, .none⟩
  | .breakpoint => Exec.stop ⟨.breakpoint, instruction, state.pc, .none⟩
  | .ready | .unsupportedInstruction => pure pending

/-- The memory unit is the last one, so an instruction that it declines is illegal. -/
def lastResort (instruction : BitVec 32) : UnitResult → UnitResult
  | .declined => .raise .illegalInstruction instruction .none
  | result => result

def dispatch (mode : ExecutionMode) (state : CpuSnapshot) (instruction : BitVec 32)
    (decoded : DecodedInstruction) : Instr β PendingCommit := do
  let rs1 := state.registers decoded.rs1
  let rs2 := state.registers decoded.rs2
  let pending ← attemptInteger mode decoded state instruction
  let pending ← attempt mode decoded .privileged instruction
    (pure (executePrivileged decoded state)) pending
  let pending ← attempt mode decoded .controlFlow instruction
    (pure (executeControlFlow decoded state.pc rs1 rs2)) pending
  let pending ← attempt mode decoded .atomic instruction
    (executeAtomic mode state decoded rs1 rs2) pending
  let pending ← attempt mode decoded .csr instruction
    (Exec.lift fun fabric =>
      (executeCsr decoded state (CpuBus.readTime fabric.bus) rs1, fabric)) pending
  attempt mode decoded .memory instruction
    (do
      let result ← executeMemory mode state decoded rs1 rs2
      pure (lastResort instruction result)) pending

/-- Everything between the interrupt check and the commit. -/
def runInstruction (mode : ExecutionMode) (state : CpuSnapshot) :
    Instr β (BitVec 32 × DecodedInstruction × PendingCommit) := do
  let fetched ← fetchDecode mode state
  let pending ← dispatch mode state fetched.1 fetched.2
  pure (fetched.1, fetched.2, pending)

end

/-- The optional operands of SFENCE.VMA. -/
def fenceOperands (state : CpuSnapshot) (decoded : DecodedInstruction) :
    Option Xlen × Option (BitVec 16) :=
  (if decoded.rs1 = 0 then none else some (state.registers decoded.rs1),
    if decoded.rs2 = 0 then none else some ((state.registers decoded.rs2 &&& 0x1FF).setWidth 16))

/-- What a retired fence does to the caches. `state` is the snapshot that it ran in. -/
def applyFences (state : CpuSnapshot) (decoded : DecodedInstruction) (fabric : Fabric β) :
    Fabric β :=
  match decoded.kind with
  | .sfenceVma =>
    let (virtualAddress, asid) := fenceOperands state decoded
    { fabric with
      tlb := fabric.tlb.sfenceVma virtualAddress asid
      instructionCache := fabric.instructionCache.sfence indexing virtualAddress asid }
  | .fenceI =>
    { fabric with decodeCache := .clear, instructionCache := fabric.instructionCache.clear }
  | _ => fabric

def takeTrap (state : CpuSnapshot) (request : TrapRequest 32) : CpuSnapshot :=
  state.takeTrap sanitizeMstatus request

def takeInterruptTrap (state : CpuSnapshot) (cause : InterruptCause) (interruptedPc : Xlen)
    (target : TrapTarget) : CpuSnapshot :=
  state.takeInterruptTrap sanitizeMstatus cause interruptedPc target

/-- The start of a step: clear `x0`, sample the lines. -/
def beginStep (state : CpuSnapshot) (irqLines : IrqLines) : CpuSnapshot :=
  (state.setRegister 0 0).sampleInterruptLines irqLines

/-- The snapshot that a step runs an instruction in, unless it waits. -/
def awake (state : CpuSnapshot) (irqLines : IrqLines) : CpuSnapshot :=
  { beginStep state irqLines with waitingForInterrupt := false }

structure Core (β : Type) where
  state : CpuSnapshot
  fabric : Fabric β
  executionMode : ExecutionMode

namespace Core

/-- The snapshot that `reset` installs. -/
def resetState (config : ResetConfig 32) : CpuSnapshot :=
  { pc := config.resetPc
    hartId := config.hartId
    privilege := config.initialPrivilege
    registers := Function.update (Function.update (fun _ => 0) 10 config.hartId) 11
      config.bootArgument }

/-- The caches are emptied; the bus is not theirs. -/
def clearCaches (fabric : Fabric β) : Fabric β :=
  { fabric with
    tlb := .clear
    decodeCache := .clear
    instructionCache := fabric.instructionCache.clear }

def reset (core : Core β) (config : ResetConfig 32) : Core β :=
  { core with state := resetState config, fabric := clearCaches core.fabric }

/-- A constructed core, which starts in fast mode and resets itself. -/
def new (bus : β) : Core β :=
  reset
    { state := {}
      fabric := { bus, tlb := {}, decodeCache := .clear, instructionCache := .initial }
      executionMode := .fast } {}

def setExecutionMode (core : Core β) (mode : ExecutionMode) : Core β :=
  if core.executionMode = mode then core
  else { core with executionMode := mode, fabric := clearCaches core.fabric }

def advanceCycles (core : Core β) (cycles : BitVec 64) : Core β :=
  { core with state := { core.state with cycle := core.state.cycle + cycles } }

/-- The report of a retired instruction, which ran in `before`. -/
def retirement (before after : CpuSnapshot) (instruction : BitVec 32)
    (decoded : DecodedInstruction) (pending : PendingCommit) : StepResult :=
  { status := if after.waitingForInterrupt then .waitingForInterrupt else .retired
    pc := before.pc
    instruction
    cycle := after.cycle
    commit :=
      { valid := true
        privilege := before.privilege
        pc := pending.pc
        instruction := pending.instruction
        nextPc := after.pc
        instructionLength := decoded.length
        registerWrite :=
          { pending.registerWrite with
            enabled := pending.registerWrite.enabled && pending.registerWrite.index != 0 } } }

variable [CpuBus β]

def step (core : Core β) (irqLines : IrqLines) : StepResult × Core β :=
  let sampled := beginStep core.state irqLines
  if sampled.waitingForInterrupt && !sampled.interruptWakeRequested then
    ({ status := .waitingForInterrupt, pc := sampled.pc, cycle := sampled.cycle },
      { core with state := sampled })
  else
    let state := awake core.state irqLines
    let interrupt := state.selectPendingInterrupt
    if interrupt.pending then
      let next := takeInterruptTrap state interrupt.cause state.pc interrupt.target
      ({ status := .trapTaken, pc := state.pc, cycle := next.cycle }, { core with state := next })
    else
      match runInstruction core.executionMode state core.fabric with
      | (.error trap, fabric) =>
        let next := takeTrap state
          { cause := trap.cause, exceptionPc := state.pc, trapValue := trap.trapValue }
        ({ status := .trapTaken
           pc := state.pc
           instruction := trap.instruction
           trapValue := trap.trapValue
           busFault := trap.busFault
           cycle := next.cycle },
          { core with state := next, fabric })
      | (.ok (instruction, decoded, pending), fabric) =>
        let (accepted, next) := commitPending state pending
        if !accepted then
          ({ status := .coreNotImplemented
             pc := state.pc
             instruction
             trapValue := instruction
             cycle := next.cycle },
            { core with state := next, fabric })
        else
          (retirement state next instruction decoded pending,
            { core with state := next, fabric := applyFences state decoded fabric })

/-- The five ways a step can end, each with all it was decided on. -/
inductive Stepped (core : Core β) (irqLines : IrqLines) : StepResult × Core β → Prop where
  | waited :
      Stepped core irqLines
        ({ status := .waitingForInterrupt
           pc := (beginStep core.state irqLines).pc
           cycle := (beginStep core.state irqLines).cycle },
          { core with state := beginStep core.state irqLines })
  | interrupted (pending : (awake core.state irqLines).selectPendingInterrupt.pending = true)
      (next : CpuSnapshot)
      (entered : next = takeInterruptTrap (awake core.state irqLines)
        (awake core.state irqLines).selectPendingInterrupt.cause (awake core.state irqLines).pc
        (awake core.state irqLines).selectPendingInterrupt.target) :
      Stepped core irqLines
        ({ status := .trapTaken, pc := (awake core.state irqLines).pc, cycle := next.cycle },
          { core with state := next })
  | trapped (trap : Trap) (fabric : Fabric β) (next : CpuSnapshot)
      (stopped : runInstruction core.executionMode (awake core.state irqLines) core.fabric =
        (.error trap, fabric))
      (entered : next = takeTrap (awake core.state irqLines)
        { cause := trap.cause
          exceptionPc := (awake core.state irqLines).pc
          trapValue := trap.trapValue }) :
      Stepped core irqLines
        ({ status := .trapTaken
           pc := (awake core.state irqLines).pc
           instruction := trap.instruction
           trapValue := trap.trapValue
           busFault := trap.busFault
           cycle := next.cycle },
          { core with state := next, fabric })
  | rejected (instruction : BitVec 32) (decoded : DecodedInstruction) (pending : PendingCommit)
      (fabric : Fabric β)
      (returned : runInstruction core.executionMode (awake core.state irqLines) core.fabric =
        (.ok (instruction, decoded, pending), fabric))
      (refused : acceptable (awake core.state irqLines) pending = false) :
      Stepped core irqLines
        ({ status := .coreNotImplemented
           pc := (awake core.state irqLines).pc
           instruction
           trapValue := instruction
           cycle := (awake core.state irqLines).cycle },
          { core with state := awake core.state irqLines, fabric })
  | retired (instruction : BitVec 32) (decoded : DecodedInstruction) (pending : PendingCommit)
      (fabric : Fabric β)
      (returned : runInstruction core.executionMode (awake core.state irqLines) core.fabric =
        (.ok (instruction, decoded, pending), fabric)) :
      Stepped core irqLines
        (retirement (awake core.state irqLines)
            (applyCommit pending (awake core.state irqLines)) instruction decoded pending,
          { core with
            state := applyCommit pending (awake core.state irqLines)
            fabric := applyFences (awake core.state irqLines) decoded fabric })

theorem stepped (core : Core β) (irqLines : IrqLines) :
    core.Stepped irqLines (core.step irqLines) := by
  unfold step
  dsimp only
  split
  · exact .waited
  split
  · rename_i pending
    exact .interrupted pending _ rfl
  split
  · rename_i trap fabric stopped
    exact .trapped trap fabric _ stopped rfl
  · rename_i instruction decoded pending fabric returned
    unfold commitPending
    cases accepted : acceptable (awake core.state irqLines) pending with
    | false => exact .rejected instruction decoded pending fabric returned accepted
    | true => exact .retired instruction decoded pending fabric returned

end Core

end RvEmulator.Core32
