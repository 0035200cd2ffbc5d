import RvEmulator.Core64.Expansion
import RvEmulator.Core64.Running

/-! The core executes the 16-bit encodings as their expansions. -/

namespace RvEmulator.Core64

open Halfword Library

/-! ### Instructions that are decoded alike -/

/-- Two decodings that agree on all that the format of their kind has. -/
structure DecodedInstruction.Alike (decoded other : DecodedInstruction) : Prop where
  kind : decoded.kind = other.kind
  length : decoded.length = other.length
  operands :
    decoded.operands.used (layout decoded.kind) = other.operands.used (layout decoded.kind)

section

variable [SoftFloat] [CpuBus β] {decoded other : DecodedInstruction}

theorem execute_alike (alike : decoded.Alike other) (short : decoded.kind.abbreviable = true)
    (mode : ExecutionMode) (state : CpuSnapshot) (instruction : BitVec 32) :
    execute (β := β) mode state instruction decoded = execute mode state instruction other := by
  obtain ⟨kind, length, operands⟩ := alike
  cases decoded with
  | mk kindD rawD rdD rs1D rs2D rs3D roundingD immediateD acquireD releaseD csrD lengthD =>
    cases other with
    | mk kindO rawO rdO rs1O rs2O rs3O roundingO immediateO acquireO releaseO csrO lengthO =>
      dsimp only at kind length
      subst kind length
      cases kindD <;> cases short
      all_goals
        dsimp only [layout, DecodedInstruction.operands, Operands.used] at operands
        simp only [Operands.mk.injEq, true_and, and_true] at operands
        first
          | rfl
          | (obtain ⟨rfl, rfl⟩ := operands; rfl)
          | (obtain ⟨rfl, rfl, rfl⟩ := operands; rfl)

section

variable {mode : ExecutionMode} {state : CpuSnapshot} {instruction : BitVec 32}

theorem execute_integer (arm : switchArm decoded.kind = .integer) :
    execute (β := β) mode state instruction decoded =
      let nextPc := state.pc + decoded.length.setWidth 64
      pure
        { nextPc := integerNextPc decoded.kind state.pc nextPc (state.registers decoded.rs1)
            (state.registers decoded.rs2) decoded.immediate
          registerValue := integerValue decoded.kind state.pc nextPc (state.registers decoded.rs1)
            (state.registers decoded.rs2) decoded.immediate } := by
  unfold execute
  rw [arm]

theorem execute_store (arm : switchArm decoded.kind = .store) :
    execute (β := β) mode state instruction decoded =
      (executeStore mode state instruction decoded >>= fun _ =>
        pure { nextPc := state.pc + decoded.length.setWidth 64 }) := by
  unfold execute
  rw [arm]

theorem execute_floatingStore (arm : switchArm decoded.kind = .floatingStore) :
    execute (β := β) mode state instruction decoded =
      (executeFloatingStore mode state instruction decoded >>= fun _ =>
        pure { nextPc := state.pc + decoded.length.setWidth 64 }) := by
  unfold execute
  rw [arm]

theorem execute_ebreak (arm : switchArm decoded.kind = .ebreak) :
    execute (β := β) mode state instruction decoded =
      Exec.stop ⟨.breakpoint, instruction, state.pc, .none⟩ := by
  unfold execute
  rw [arm]

/-- Where the destination is no operand of the format, nothing is written to it. -/
theorem writes_alike (alike : decoded.Alike other) (short : decoded.kind.abbreviable = true)
    {outcome : Outcome} {fabric after : Fabric β}
    (executed : execute mode state instruction decoded fabric = (.ok outcome, after)) :
    decoded.rd = other.rd ∨
      outcome.registerValue = none ∧ outcome.floatingRegisterValue = none := by
  have operands := alike.operands
  cases named : decoded.kind <;> rw [named] at short operands <;> try cases short
  case beq | bne =>
    rw [execute_integer (by rw [named]; rfl), named, Exec.pure_apply] at executed
    cases executed
    exact .inr ⟨rfl, rfl⟩
  case sw | sd =>
    rw [execute_store (by rw [named]; rfl)] at executed
    obtain ⟨_, _, _, returned⟩ := Exec.bind_returned executed
    cases returned
    exact .inr ⟨rfl, rfl⟩
  case fsd =>
    rw [execute_floatingStore (by rw [named]; rfl)] at executed
    obtain ⟨_, _, _, returned⟩ := Exec.bind_returned executed
    cases returned
    exact .inr ⟨rfl, rfl⟩
  case ebreak =>
    rw [execute_ebreak (by rw [named]; rfl)] at executed
    cases executed
  all_goals exact .inl (congrArg Operands.rd operands)

end

/-- The rest of an instruction that was fetched. -/
def completeInstruction (mode : ExecutionMode) (state : CpuSnapshot) (instruction : BitVec 32)
    (decoded : DecodedInstruction) : Instr β (BitVec 32 × DecodedInstruction × Outcome) :=
  if !decoded.valid then illegal instruction
  else do
    let outcome ← execute mode state instruction decoded
    if (outcome.nextPc &&& 0x1) ≠ 0 then
      Exec.stop ⟨.instructionAddressMisaligned, instruction, outcome.nextPc, .misaligned⟩
    else pure (instruction, decoded, outcome)

/-- The rest of a step that has fetched an instruction. -/
def Core.complete (core : Core β) (state : CpuSnapshot) (instruction : BitVec 32)
    (decoded : DecodedInstruction) (fabric : Fabric β) : StepResult × Core β :=
  match completeInstruction core.executionMode state instruction decoded fabric with
  | (.error trap, fabric) =>
    ({ status := .trapTaken
       privilege := state.privilege
       pc := state.pc
       instruction := trap.instruction
       trapValue := trap.trapValue
       busFault := trap.busFault },
      { core with
        state := takeTrap state
          { cause := trap.cause, exceptionPc := state.pc, trapValue := trap.trapValue }
        fabric })
  | (.ok (instruction, decoded, outcome), fabric) =>
    ({ status := .retired
       privilege := state.privilege
       pc := state.pc
       instruction
       registerWrite := registerWrite decoded outcome
       floatingRegisterWrite := floatingRegisterWrite decoded outcome },
      { core with state := commit state decoded outcome, fabric })

theorem Core.Runs.step_fetched {core : Core β} {irqLines : IrqLines} (runs : core.Runs irqLines)
    (even : BitEven (Core.awake core.state irqLines).pc) {instruction : BitVec 32}
    {after : Fabric β}
    (fetched : fetch core.executionMode (Core.awake core.state irqLines) core.fabric =
      (.ok (instruction, decoded), after)) :
    core.step irqLines =
      core.complete (Core.awake core.state irqLines) instruction decoded after := by
  have aligned : ¬((Core.awake core.state irqLines).pc &&& 0x1) ≠ 0 :=
    not_not.mpr ((BitEven.mask_one (by decide)).mp even)
  have ran : runInstruction core.executionMode (Core.awake core.state irqLines) core.fabric =
      completeInstruction core.executionMode (Core.awake core.state irqLines) instruction decoded
        after := by
    unfold runInstruction
    rw [if_neg aligned, Exec.bind_ok fetched]
    rfl
  unfold Core.step
  dsimp only
  rw [runs.awake, runs.idle, if_neg (by decide), if_neg (by decide), ran]
  rfl

omit [SoftFloat] in
theorem commit_alike (state : CpuSnapshot) {outcome : Outcome}
    (writes : decoded.rd = other.rd ∨
      outcome.registerValue = none ∧ outcome.floatingRegisterValue = none) :
    registerWrite decoded outcome = registerWrite other outcome ∧
      floatingRegisterWrite decoded outcome = floatingRegisterWrite other outcome ∧
      commit state decoded outcome = commit state other outcome := by
  unfold registerWrite floatingRegisterWrite commit commitRegisters commitRegister
    commitFloatingRegister
  rcases writes with same | ⟨integer, floating⟩
  · rw [same]
    exact ⟨rfl, rfl, rfl⟩
  · rw [integer, floating]
    exact ⟨rfl, rfl, rfl⟩

theorem Core.complete_alike (alike : decoded.Alike other)
    (short : decoded.kind.abbreviable = true) (core : Core β) (state : CpuSnapshot)
    (instruction : BitVec 32) (fabric : Fabric β) :
    core.complete state instruction decoded fabric =
      core.complete state instruction other fabric := by
  have valid : decoded.valid = other.valid := by
    unfold DecodedInstruction.valid
    rw [alike.kind]
  unfold Core.complete completeInstruction
  rw [valid]
  by_cases refused : (!other.valid) = true
  · rw [if_pos refused, if_pos refused]
  rw [if_neg refused, if_neg refused]
  rcases executed : execute core.executionMode state instruction decoded fabric with
    ⟨trap | outcome, after⟩
  · have again := (congrFun (execute_alike alike short core.executionMode state instruction)
      fabric).symm.trans executed
    rw [Exec.bind_error executed, Exec.bind_error again]
  · have again := (congrFun (execute_alike alike short core.executionMode state instruction)
      fabric).symm.trans executed
    rw [Exec.bind_ok executed, Exec.bind_ok again]
    by_cases odd : (outcome.nextPc &&& 0x1) ≠ 0
    · rw [if_pos odd, if_pos odd]
    rw [if_neg odd, if_neg odd]
    have writes := writes_alike alike short executed
    obtain ⟨integer, floating, committed⟩ := commit_alike state writes
    simp only [Exec.pure_apply]
    rw [integer, floating, committed]

/-- The 32-bit instruction that a halfword abbreviates for the core. -/
def abbreviated (word : BitVec 16) : Option (BitVec 32) :=
  if LuiHint word then none else (expand word).map fun (kind, operands) => encode kind operands

omit [SoftFloat] in
/-- Whatever a reachable core fetches is the decoding of its word. -/
theorem Core.WellFormed.fetched {core : Core β} (wellFormed : core.WellFormed)
    {state : CpuSnapshot} {instruction : BitVec 32} {after : Fabric β}
    (fetched : fetch core.executionMode state core.fabric = (.ok (instruction, decoded), after)) :
    decoded = decodeFetched instruction := by
  obtain ⟨returned, _⟩ := steady_fetch core.executionMode state core.fabric wellFormed.fabric
  rw [fetched] at returned
  exact (returned _ rfl).2

omit [SoftFloat] [CpuBus β] in
theorem alike_expansion {word : BitVec 16} {kind : InstructionKind} {operands : Operands 64}
    (found : expand word = some (kind, operands)) :
    kind.abbreviable = true ∧
      (Decode.makeCompressed word kind operands.rd operands.rs1 operands.rs2
          operands.immediate).Alike
        { decodeInstruction (encode kind operands) with length := 2 } := by
  have encodable := encodable_expand word
  rw [found] at encodable
  obtain ⟨short, inRange, rounds⟩ := encodable
  obtain ⟨same, used⟩ := decode_of_encodes rfl inRange rounds
  refine ⟨short, same.symm, rfl, ?_⟩
  refine Eq.trans ?_ used.symm
  cases kind <;> cases short <;> rfl

/-- The step finds the halfword that it has fetched to be an illegal instruction. -/
def Core.Refuses (core : Core β) (irqLines : IrqLines) (word : BitVec 16) (after : Fabric β) :
    Prop :=
  let state := Core.awake core.state irqLines
  core.step irqLines =
    ({ status := .trapTaken
       privilege := state.privilege
       pc := state.pc
       instruction := word.setWidth 32
       trapValue := word.setWidth 64 },
      { core with
        state := takeTrap state
          { cause := .illegalInstruction
            exceptionPc := state.pc
            trapValue := word.setWidth 64 }
        fabric := after })

theorem Core.refuses_of_illegal {core : Core β} {irqLines : IrqLines} {word : BitVec 16}
    {after : Fabric β} (illegal : decoded.kind = .illegal)
    (stepped : core.step irqLines =
      core.complete (Core.awake core.state irqLines) (word.setWidth 32) decoded after) :
    core.Refuses irqLines word after := by
  have invalid : decoded.valid = false := by
    unfold DecodedInstruction.valid
    rw [illegal]
    rfl
  unfold Refuses
  rw [stepped, ← Decode.widen (by decide) word]
  unfold complete completeInstruction
  rw [invalid]
  rfl

section

variable {core : Core β} {irqLines : IrqLines} {word : BitVec 16} {after : Fabric β}

/-- The step that has fetched a halfword. -/
theorem Core.Runs.step_half (runs : core.Runs irqLines) (reachable : core.Reachable)
    (short : quadrant word ≠ 3)
    (fetched : fetch core.executionMode (Core.awake core.state irqLines) core.fabric =
      (.ok (word.setWidth 32, decoded), after)) :
    core.step irqLines =
      core.complete (Core.awake core.state irqLines) (word.setWidth 32)
        (decodeCompressedInstruction word) after := by
  have wellFormed := Core.WellFormed.of_reachable reachable
  have even := (wellFormed_awake wellFormed.state irqLines).pc
  have decodes := (wellFormed.fetched fetched).trans (Decode.decodeFetched_half word short)
  rw [runs.step_fetched even fetched, decodes]

omit [SoftFloat] [CpuBus β] in
theorem decode_expanded {kind : InstructionKind} {operands : Operands 64}
    (other : ¬LuiHint word) (short : quadrant word ≠ 3)
    (found : expand word = some (kind, operands)) :
    decodeCompressedInstruction word =
      Decode.makeCompressed word kind operands.rd operands.rs1 operands.rs2
        operands.immediate := by
  have expands := Decode.expands_decode word other short
  rw [found] at expands
  exact expands

omit [SoftFloat] [CpuBus β] in
theorem decode_refused (refused : expand word = none ∨ LuiHint word) (short : quadrant word ≠ 3) :
    (decodeCompressedInstruction word).kind = .illegal := by
  by_cases hint : LuiHint word
  · exact Decode.decode_hint word hint
  · have expands := Decode.expands_decode word hint short
    rw [refused.resolve_right hint] at expands
    exact congrArg DecodedInstruction.kind expands

omit [SoftFloat] [CpuBus β] in
theorem decode_encode_valid {kind : InstructionKind} {operands : Operands 64}
    (found : expand word = some (kind, operands)) :
    (decodeInstruction (encode kind operands)).valid = true := by
  obtain ⟨abbreviable, alike⟩ := alike_expansion found
  have same : (decodeInstruction (encode kind operands)).kind = kind := alike.kind.symm
  unfold DecodedInstruction.valid
  rw [same]
  cases kind <;> cases abbreviable <;> rfl

/-- A halfword with an expansion is completed as the 32-bit instruction. -/
theorem Core.complete_half {kind : InstructionKind} {operands : Operands 64}
    (other : ¬LuiHint word) (short : quadrant word ≠ 3)
    (found : expand word = some (kind, operands)) (core : Core β) (state : CpuSnapshot)
    (instruction : BitVec 32) (fabric : Fabric β) :
    core.complete state instruction (decodeCompressedInstruction word) fabric =
      core.complete state instruction
        { decodeInstruction (encode kind operands) with length := 2 } fabric := by
  obtain ⟨abbreviable, alike⟩ := alike_expansion found
  rw [decode_expanded other short found]
  exact complete_alike alike abbreviable core state instruction fabric

end

/-- RV64C abbreviates the base instruction set: in every state of every core that can come
about, the step that fetches a halfword is the step of the 32-bit instruction that the
specification expands it to, but for its length and the bits that a trap reports. A reserved
halfword, and a hint of C.LUI, is an illegal instruction. -/
theorem compressed_abbreviates {core : Core β} (reachable : core.Reachable) {irqLines : IrqLines}
    (runs : core.Runs irqLines) {word : BitVec 16} (short : quadrant word ≠ 3)
    {after : Fabric β}
    (fetched : fetch core.executionMode (Core.awake core.state irqLines) core.fabric =
      (.ok (word.setWidth 32, decoded), after)) :
    match abbreviated word with
    | some instruction =>
      (decodeInstruction instruction).valid = true ∧
        core.step irqLines =
          core.complete (Core.awake core.state irqLines) (word.setWidth 32)
            { decodeInstruction instruction with length := 2 } after
    | none => core.Refuses irqLines word after := by
  have stepped := runs.step_half reachable short fetched
  unfold abbreviated
  by_cases hint : LuiHint word
  · rw [if_pos hint]
    exact Core.refuses_of_illegal (decode_refused (.inr hint) short) stepped
  rw [if_neg hint]
  cases found : expand word with
  | none => exact Core.refuses_of_illegal (decode_refused (.inl found) short) stepped
  | some expansion =>
    obtain ⟨kind, operands⟩ := expansion
    exact ⟨decode_encode_valid found, stepped.trans (Core.complete_half hint short found ..)⟩

end

section

attribute [local instance] SoftFloat.unused

/-- C.ADDI x8, -1. -/
def Core.sampleShort : Core (Platform.SystemBus Platform.Ram) :=
  .new (.ofProgram 0x80000000 0x1000 [0x0001147D])

/-- C.ADDIW with `x0`, which is reserved. -/
def Core.sampleReserved : Core (Platform.SystemBus Platform.Ram) :=
  .new (.ofProgram 0x80000000 0x1000 [0x00012001])

theorem compressed_abbreviates_sample :
    (∃ after, Core.sampleShort.step {} =
      Core.sampleShort.complete (Core.awake Core.sampleShort.state {}) 0x0000147D
        { decodeInstruction 0xFFF40413 with length := 2 } after) ∧
      ∃ after, Core.sampleReserved.Refuses {} 0x2001 after := by
  have found : abbreviated 0x147D = some 0xFFF40413 := by decide
  have reserved : abbreviated 0x2001 = none := by decide
  have first : Core.sampleShort.Runs {} := ⟨by decide, by decide⟩
  have second : Core.sampleReserved.Runs {} := ⟨by decide, by decide⟩
  refine ⟨?_, ?_⟩
  · have fetched : fetch Core.sampleShort.executionMode (Core.awake Core.sampleShort.state {})
        Core.sampleShort.fabric = (.ok ((0x147D : BitVec 16).setWidth 32, _), _) := rfl
    have abbreviates := compressed_abbreviates (.new _) first (by decide) fetched
    rw [found] at abbreviates
    exact ⟨_, abbreviates.2⟩
  · have fetched : fetch Core.sampleReserved.executionMode
        (Core.awake Core.sampleReserved.state {}) Core.sampleReserved.fabric =
          (.ok ((0x2001 : BitVec 16).setWidth 32, _), _) := rfl
    have refused := compressed_abbreviates (.new _) second (by decide) fetched
    rw [reserved] at refused
    exact ⟨_, refused⟩

end

/-! ### Hints -/

/-- An instruction that computes what its destination holds, if it has one, and goes on. -/
structure Silent (kind : InstructionKind) (operands : Operands 64) : Prop where
  arm : switchArm kind = .integer
  goesOn : ∀ pc nextPc rs1 rs2,
    integerNextPc kind pc nextPc rs1 rs2 operands.immediate = nextPc
  value : ∀ (registers : RegisterIndex → Xlen) (pc nextPc : Xlen), ∃ value,
    integerValue kind pc nextPc (registers operands.rs1) (registers operands.rs2)
        operands.immediate = some value ∧
      (operands.rd ≠ 0 → value = registers operands.rd)

/-- Without a destination there is nothing to change. -/
theorem silent_of_target {kind : InstructionKind} {operands : Operands 64}
    (computes : kind = .addi ∨ kind = .slli ∨ kind = .add) (target : operands.rd = 0) :
    Silent kind operands := by
  refine ⟨?_, ?_, fun registers pc nextPc => ?_⟩
  · rcases computes with rfl | rfl | rfl <;> rfl
  · rcases computes with rfl | rfl | rfl <;> exact fun _ _ _ _ => rfl
  · rcases computes with rfl | rfl | rfl <;> exact ⟨_, rfl, fun goes => absurd target goes⟩

/-- Nothing is added, or shifted by. -/
theorem silent_of_immediate {kind : InstructionKind} {operands : Operands 64}
    (computes : kind = .addi ∨ kind = .slli ∨ kind = .srli ∨ kind = .srai)
    (same : operands.rs1 = operands.rd) (zero : operands.immediate = 0) :
    Silent kind operands := by
  refine ⟨?_, ?_, fun registers pc nextPc => ⟨registers operands.rd, ?_, fun _ => rfl⟩⟩
  · rcases computes with rfl | rfl | rfl | rfl <;> rfl
  · rcases computes with rfl | rfl | rfl | rfl <;> exact fun _ _ _ _ => rfl
  · rw [same, zero]
    rcases computes with rfl | rfl | rfl | rfl
    · exact congrArg some (BitVec.add_zero _)
    · exact congrArg some (BitVec.shiftLeft_zero _)
    · exact congrArg some (BitVec.ushiftRight_zero _)
    · exact congrArg some BitVec.sshiftRight_zero

section

variable {word : BitVec 16}

theorem expand_quadrant1 (first : quadrant word = 1) : expand word = expandQuadrant1 word := by
  unfold expand
  rw [first]
  rfl

theorem expand_quadrant2 (second : quadrant word = 2) : expand word = expandQuadrant2 word := by
  unfold expand
  rw [second]
  rfl

theorem expandJumpRegister_add (source : rs2 word ≠ 0) :
    ∃ operands, expandJumpRegister word = some (.add, operands) ∧ operands.rd = rd word := by
  unfold expandJumpRegister
  dsimp only
  rw [if_neg source, if_neg source]
  by_cases move : bit12 word = 0
  · rw [if_pos move]
    exact ⟨_, rfl, rfl⟩
  · rw [if_neg move]
    exact ⟨_, rfl, rfl⟩

theorem expand_luiHint (hint : LuiHint word) :
    ∃ operands, expand word = some (.lui, operands) := by
  obtain ⟨first, third, target, nonzero⟩ := hint
  rw [expand_quadrant1 first]
  unfold expandQuadrant1
  rw [third]
  have other : ¬rd word = 2 := by
    rw [target]
    decide
  exact ⟨_, (if_neg other).trans (if_neg nonzero)⟩

/-- A hint has an expansion, which is silent. -/
theorem silent_hint (hint : Hint word) (other : ¬LuiHint word) :
    ∃ kind operands, expand word = some (kind, operands) ∧ Silent kind operands := by
  cases hint with
  | addi place idle =>
    rw [expand_quadrant1 place.1]
    unfold expandQuadrant1
    rw [place.2]
    refine ⟨_, _, rfl, ?_⟩
    rcases idle with ⟨target, _⟩ | ⟨_, zero⟩
    · exact silent_of_target (.inl rfl) target
    · refine silent_of_immediate (.inl rfl) rfl ?_
      dsimp only
      rw [zero]
      rfl
  | li place target =>
    rw [expand_quadrant1 place.1]
    unfold expandQuadrant1
    rw [place.2]
    exact ⟨_, _, rfl, silent_of_target (.inl rfl) target⟩
  | lui hint => exact absurd hint other
  | shiftRight place shift idle =>
    rw [expand_quadrant1 place.1]
    unfold expandQuadrant1
    rw [place.2]
    dsimp only [expandArithmetic]
    rcases shift with second | second <;> rw [second, idle]
    · exact ⟨_, _, rfl, silent_of_immediate (.inr (.inr (.inl rfl))) rfl rfl⟩
    · exact ⟨_, _, rfl, silent_of_immediate (.inr (.inr (.inr rfl))) rfl rfl⟩
  | slli place idle =>
    rw [expand_quadrant2 place.1]
    unfold expandQuadrant2
    rw [place.2]
    refine ⟨_, _, rfl, ?_⟩
    rcases idle with target | zero
    · exact silent_of_target (.inr (.inl rfl)) target
    · refine silent_of_immediate (.inr (.inl rfl)) rfl ?_
      dsimp only
      rw [zero]
      rfl
  | add place target source =>
    rw [expand_quadrant2 place.1]
    unfold expandQuadrant2
    rw [place.2]
    obtain ⟨operands, adds, into⟩ := expandJumpRegister_add source
    exact ⟨_, operands, adds, silent_of_target (.inr (.inr rfl)) (into.trans target)⟩

end

/-- The snapshot after an instruction of a halfword that only goes on. -/
def CpuSnapshot.passed (state : CpuSnapshot) : CpuSnapshot :=
  { state with
    pc := state.pc + 2
    instructionsRetired := state.instructionsRetired + 1
    waitingForInterrupt := false }

theorem CpuSnapshot.setRegister_self (state : CpuSnapshot) {index : RegisterIndex} {value : Xlen}
    (same : value = state.registers index) : state.onHart (·.setRegister index value) = state := by
  have unchanged : state.toHart.setRegister index value = state.toHart := by
    rw [same]
    unfold Hart.setRegister
    rw [Function.update_eq_self]
  exact congrArg (fun hart => { state with toHart := hart }) unchanged

theorem commit_silent {state : CpuSnapshot} {decoded : DecodedInstruction} {value : Xlen}
    (x0 : state.registers 0 = 0) (same : decoded.rd ≠ 0 → value = state.registers decoded.rd) :
    commit state decoded { nextPc := state.pc + 2, registerValue := some value } =
      state.passed := by
  have registers : commitRegister decoded.rd (some value) state = state := by
    unfold commitRegister
    dsimp only
    split
    · rename_i target
      exact state.setRegister_self (same target)
    · rfl
  unfold commit commitCsr commitRegisters CpuSnapshot.passed
  dsimp only [Option.getD_none]
  rw [registers]
  unfold commitFloatingRegister commitFloatingFlags retire
  dsimp only
  rw [if_neg (not_not.mpr rfl), state.setRegister_self x0.symm]

section

variable [SoftFloat] [CpuBus β]

/-- A silent instruction retires, and changes no register, CSR or memory. -/
theorem Core.complete_silent {kind : InstructionKind} {operands : Operands 64}
    (silent : Silent kind operands) {state : CpuSnapshot} (wellFormed : state.WellFormed)
    (core : Core β) (instruction : BitVec 32) (word : BitVec 16) (fabric : Fabric β) :
    let ended := core.complete state instruction
      (Decode.makeCompressed word kind operands.rd operands.rs1 operands.rs2 operands.immediate)
      fabric
    ended.1.status = .retired ∧ ended.2 = { core with state := state.passed, fabric } := by
  obtain ⟨value, computes, same⟩ := silent.value state.registers state.pc (state.pc + 2)
  have valid : (Decode.makeCompressed word kind operands.rd operands.rs1 operands.rs2
      operands.immediate).valid = true := by
    have arm := silent.arm
    unfold DecodedInstruction.valid Decode.makeCompressed
    cases kind <;> first | rfl | cases arm
  have even : BitEven (state.pc + 2) := wellFormed.pc.add (show BitEven (2 : Xlen) by decide)
  have odd : ¬((state.pc + 2) &&& 0x1) ≠ 0 :=
    not_not.mpr ((BitEven.mask_one (by decide)).mp even)
  have executed : execute core.executionMode state instruction
      (Decode.makeCompressed word kind operands.rd operands.rs1 operands.rs2 operands.immediate)
      fabric = (.ok { nextPc := state.pc + 2, registerValue := some value }, fabric) := by
    rw [execute_integer (β := β) silent.arm]
    dsimp only [Decode.makeCompressed]
    rw [silent.goesOn, show state.pc + (2 : BitVec 8).setWidth 64 = state.pc + 2 from rfl, computes]
    rfl
  dsimp only
  unfold complete completeInstruction
  rw [valid, if_neg (by decide), Exec.bind_ok executed, if_neg odd, Exec.pure_apply]
  exact ⟨rfl, congrArg (fun next => { core with state := next, fabric })
    (commit_silent wellFormed.x0 same)⟩

end

end RvEmulator.Core64
