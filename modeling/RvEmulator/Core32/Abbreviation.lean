import RvEmulator.Core32.Expansion
import RvEmulator.Core32.WellFormed

/-! The 32-bit core executes the 16-bit encodings as their expansions. -/

namespace RvEmulator.Core32

open Halfword Library

/-- The 32-bit instruction that a halfword abbreviates. -/
def abbreviated (word : BitVec 16) : Option (BitVec 32) :=
  (expand word).map fun (kind, operands) => encode kind operands

/-- A halfword that abbreviates nothing is no valid instruction. -/
theorem decode_reserved {word : BitVec 16} (short : quadrant word ≠ 3)
    (reserved : abbreviated word = none) : (decodeFetched (word.setWidth 32)).valid = false := by
  have expands := Decode.expands_decode word short
  rw [Option.map_eq_none_iff.mp reserved] at expands
  rw [Decode.decodeFetched_half word short, expands]
  rfl

theorem decode_expanded {word : BitVec 16} (short : quadrant word ≠ 3) {kind : InstructionKind}
    {operands : Operands 32} (found : expand word = some (kind, operands)) :
    (decodeFetched (word.setWidth 32)).valid = true := by
  have encodable := encodable_expand word
  rw [found] at encodable
  have same := (decode_encodable encodable).1
  have valid : (decodeFetched (word.setWidth 32)).kind = kind := by
    rw [decode_half short found]
    exact same
  obtain ⟨abbreviable, _⟩ := encodable
  unfold DecodedInstruction.valid
  rw [valid]
  cases kind <;> cases abbreviable <;> rfl

section

variable [CpuBus β]

/-- The step is to run an instruction: the core is not waiting, and takes no interrupt. -/
structure Core.Runs (core : Core β) (irqLines : IrqLines) : Prop where
  woken : ((beginStep core.state irqLines).waitingForInterrupt &&
    !(beginStep core.state irqLines).interruptWakeRequested) = false
  idle : (awake core.state irqLines).selectPendingInterrupt.pending = false

/-- The end of a step whose instruction traps. -/
def Core.trapped (core : Core β) (state : CpuSnapshot) (trap : Trap) (fabric : Fabric β) :
    StepResult × Core β :=
  let next := takeTrap state
    { cause := trap.cause, exceptionPc := state.pc, trapValue := trap.trapValue }
  ({ status := .trapTaken
     pc := state.pc
     instruction := trap.instruction
     trapValue := trap.trapValue
     busFault := trap.busFault
     cycle := next.cycle },
    { core with state := next, fabric })

/-- The rest of a step that has fetched an instruction. -/
def Core.complete (core : Core β) (state : CpuSnapshot) (instruction : BitVec 32)
    (decoded : DecodedInstruction) (fabric : Fabric β) : StepResult × Core β :=
  match dispatch core.executionMode state instruction decoded fabric with
  | (.error trap, fabric) => core.trapped state trap fabric
  | (.ok pending, fabric) =>
    let (accepted, next) := commitPending state pending
    if !accepted then
      ({ status := .coreNotImplemented
         pc := state.pc
         instruction
         trapValue := instruction
         cycle := next.cycle },
        { core with state := next, fabric })
    else
      (retirement state next instruction decoded pending,
        { core with state := next, fabric := applyFences state decoded fabric })

variable {core : Core β} {irqLines : IrqLines}

theorem Core.Runs.step_fetched (runs : core.Runs irqLines) {instruction : BitVec 32}
    {decoded : DecodedInstruction} {after : Fabric β}
    (fetched : fetchDecode core.executionMode (awake core.state irqLines) core.fabric =
      (.ok (instruction, decoded), after)) :
    core.step irqLines =
      core.complete (awake core.state irqLines) instruction decoded after := by
  unfold Core.step Core.complete
  dsimp only
  rw [runs.woken, runs.idle, if_neg (by decide), if_neg (by decide)]
  unfold runInstruction
  rw [Exec.bind_ok fetched]
  dsimp only
  rcases dispatched : dispatch core.executionMode (awake core.state irqLines) instruction decoded
    after with ⟨trap | pending, last⟩
  · rewrite [Exec.bind_error dispatched]
    rfl
  · rewrite [Exec.bind_ok dispatched]
    rfl

theorem Core.Runs.step_unfetched (runs : core.Runs irqLines) {trap : Trap} {after : Fabric β}
    (stopped : fetchDecode core.executionMode (awake core.state irqLines) core.fabric =
      (.error trap, after)) :
    core.step irqLines = core.trapped (awake core.state irqLines) trap after := by
  unfold Core.step
  dsimp only
  rw [runs.woken, runs.idle, if_neg (by decide), if_neg (by decide)]
  unfold runInstruction
  rewrite [Exec.bind_error stopped]
  rfl

/-- Whatever a reachable core fetches is the decoding of its word, and valid. -/
theorem Core.WellFormed.fetched (wellFormed : core.WellFormed) {state : CpuSnapshot}
    {instruction : BitVec 32} {decoded : DecodedInstruction} {after : Fabric β}
    (fetched : fetchDecode core.executionMode state core.fabric =
      (.ok (instruction, decoded), after)) : Fetched instruction decoded := by
  obtain ⟨returned, _⟩ := steady_fetchDecode core.executionMode state core.fabric
    wellFormed.fabric
  rw [fetched] at returned
  exact (returned _ rfl).2

/-- The core misses in its instruction cache, and reads an instruction from memory. -/
structure Core.Misses (core : Core β) (state : CpuSnapshot) (instruction : BitVec 32)
    (after : Fabric β) : Prop where
  missed : lookupInstructionCache (mayUseInstructionCache core.executionMode state.pc) state
    core.fabric = (.ok none, core.fabric)
  read : ∃ decoded enabled,
    fetchInstruction core.executionMode (mayUseInstructionCache core.executionMode state.pc) state
      core.fabric = (.ok (instruction, decoded, enabled), after)

theorem Core.Misses.decoded {state : CpuSnapshot} {instruction : BitVec 32} {after : Fabric β}
    (misses : core.Misses state instruction after) (wellFormed : core.WellFormed) :
    ∃ enabled, fetchInstruction core.executionMode
      (mayUseInstructionCache core.executionMode state.pc) state core.fabric =
        (.ok (instruction, decodeFetched instruction, enabled), after) := by
  obtain ⟨decoded, enabled, read⟩ := misses.read
  obtain ⟨returned, _⟩ := steady_fetchInstruction core.executionMode
    (mayUseInstructionCache core.executionMode state.pc) state core.fabric wellFormed.fabric
  rw [read] at returned
  have decodes : decoded = decodeFetched instruction := (returned _ rfl).2
  exact ⟨enabled, decodes ▸ read⟩

theorem Core.Misses.fetchDecode_eq {state : CpuSnapshot} {instruction : BitVec 32}
    {after : Fabric β} (misses : core.Misses state instruction after) (even : BitEven state.pc) :
    fetchDecode core.executionMode state core.fabric =
      fetchMiss core.executionMode (mayUseInstructionCache core.executionMode state.pc) state
        core.fabric := by
  have aligned : ¬(state.pc &&& 0x1) ≠ 0 := not_not.mpr ((BitEven.mask_one (by decide)).mp even)
  unfold fetchDecode
  rw [if_neg aligned]
  exact Exec.bind_ok misses.missed

theorem Core.Misses.refused {state : CpuSnapshot} {instruction : BitVec 32} {after : Fabric β}
    (misses : core.Misses state instruction after) (wellFormed : core.WellFormed)
    (even : BitEven state.pc) (invalid : (decodeFetched instruction).valid = false) :
    fetchDecode core.executionMode state core.fabric =
      (.error ⟨.illegalInstruction, instruction, instruction, .none⟩, after) := by
  obtain ⟨enabled, read⟩ := misses.decoded wellFormed
  rw [misses.fetchDecode_eq even]
  unfold fetchMiss
  rw [Exec.bind_ok read, invalid]
  rfl

/-- A valid instruction is handed on, and may be kept in the instruction cache. -/
theorem Core.Misses.taken {state : CpuSnapshot} {instruction : BitVec 32} {after : Fabric β}
    (misses : core.Misses state instruction after) (wellFormed : core.WellFormed)
    (even : BitEven state.pc) (valid : (decodeFetched instruction).valid = true) :
    ∃ cache, fetchDecode core.executionMode state core.fabric =
      (.ok (instruction, decodeFetched instruction), { after with instructionCache := cache }) := by
  obtain ⟨enabled, read⟩ := misses.decoded wellFormed
  rw [misses.fetchDecode_eq even]
  unfold fetchMiss
  rw [Exec.bind_ok read, valid]
  cases enabled with
  | false => exact ⟨after.instructionCache, rfl⟩
  | true => exact ⟨_, rfl⟩

/-- RV32C abbreviates the base instruction set: in every state of every core that can come
about, the step that fetches a halfword is the step of the 32-bit instruction that the
specification expands it to, but for its length and its bits. Every halfword that has an
expansion is taken when it is read from memory, and every other one is an illegal instruction. -/
theorem halfword_abbreviates (reachable : core.Reachable) (runs : core.Runs irqLines)
    {word : BitVec 16} (short : quadrant word ≠ 3) :
    (∀ decoded after,
      fetchDecode core.executionMode (awake core.state irqLines) core.fabric =
        (.ok (word.setWidth 32, decoded), after) →
      ∃ instruction, abbreviated word = some instruction ∧
        (decodeInstruction instruction).valid = true ∧
        core.step irqLines =
          core.complete (awake core.state irqLines) (word.setWidth 32)
            { decodeInstruction instruction with raw := word.setWidth 32, length := 2 } after) ∧
    ∀ after, core.Misses (awake core.state irqLines) (word.setWidth 32) after →
      match abbreviated word with
      | some instruction =>
        ∃ cache, core.step irqLines =
          core.complete (awake core.state irqLines) (word.setWidth 32)
            { decodeInstruction instruction with raw := word.setWidth 32, length := 2 }
            { after with instructionCache := cache }
      | none =>
        core.step irqLines =
          core.trapped (awake core.state irqLines)
            ⟨.illegalInstruction, word.setWidth 32, word.setWidth 32, .none⟩ after := by
  have wellFormed := Core.WellFormed.of_reachable reachable
  have even := (wellFormed_awake wellFormed.state irqLines).pc
  refine ⟨?_, ?_⟩
  · intro decoded after fetched
    obtain ⟨decodes, valid⟩ := wellFormed.fetched fetched
    have stepped := runs.step_fetched fetched
    cases found : expand word with
    | none =>
      have reserved : abbreviated word = none := Option.map_eq_none_iff.mpr found
      rw [decodes, decode_reserved short reserved] at valid
      cases valid
    | some expansion =>
      obtain ⟨kind, operands⟩ := expansion
      have half := decode_half short found
      refine ⟨encode kind operands, congrArg _ found, ?_, ?_⟩
      · rw [decodes, half] at valid
        exact valid
      · rw [stepped, decodes, half]
  · intro after misses
    cases found : expand word with
    | none =>
      have reserved : abbreviated word = none := Option.map_eq_none_iff.mpr found
      rw [reserved]
      exact runs.step_unfetched (misses.refused wellFormed even (decode_reserved short reserved))
    | some expansion =>
      obtain ⟨kind, operands⟩ := expansion
      have expanded : abbreviated word = some (encode kind operands) := congrArg _ found
      have half := decode_half short found
      obtain ⟨cache, fetched⟩ := misses.taken wellFormed even (decode_expanded short found)
      rw [expanded]
      exact ⟨cache, half ▸ runs.step_fetched fetched⟩

end

/-- C.ADDI x8, -1. -/
def Core.sampleShort : Core (Platform.SystemBus Platform.Ram) :=
  .new (.ofProgram 0x80000000 0x1000 [0x0001147D])

/-- C.LUI x0, 1, a hint, and a reserved shift amount (C.SLLI x8, 32). -/
def Core.sampleHint : Core (Platform.SystemBus Platform.Ram) :=
  .new (.ofProgram 0x80000000 0x1000 [0x00016005])

def Core.sampleReserved : Core (Platform.SystemBus Platform.Ram) :=
  .new (.ofProgram 0x80000000 0x1000 [0x00011402])

theorem halfword_abbreviates_sample :
    (∃ after, Core.sampleShort.step {} =
      Core.sampleShort.complete (awake Core.sampleShort.state {}) 0x0000147D
        { decodeInstruction 0xFFF40413 with raw := 0x0000147D, length := 2 } after) ∧
      (∃ after, Core.sampleHint.step {} =
        Core.sampleHint.complete (awake Core.sampleHint.state {}) 0x00006005
          { decodeInstruction 0x00001037 with raw := 0x00006005, length := 2 } after) ∧
      ∃ after, Core.sampleReserved.step {} =
        Core.sampleReserved.trapped (awake Core.sampleReserved.state {})
          ⟨.illegalInstruction, 0x00001402, 0x00001402, .none⟩ after := by
  have first : Core.sampleShort.Runs {} := ⟨by decide, by decide⟩
  have second : Core.sampleHint.Runs {} := ⟨by decide, by decide⟩
  have third : Core.sampleReserved.Runs {} := ⟨by decide, by decide⟩
  have expansion : abbreviated 0x147D = some 0xFFF40413 := by decide
  have hint : abbreviated 0x6005 = some 0x00001037 := by decide
  have reserved : abbreviated 0x1402 = none := by decide
  refine ⟨?_, ?_, ?_⟩
  · have fetched : fetchDecode Core.sampleShort.executionMode (awake Core.sampleShort.state {})
        Core.sampleShort.fabric = (.ok ((0x147D : BitVec 16).setWidth 32, _), _) := rfl
    obtain ⟨instruction, found, _, stepped⟩ :=
      (halfword_abbreviates (.new _) first (by decide)).1 _ _ fetched
    rw [expansion] at found
    cases found
    exact ⟨_, stepped⟩
  · have misses : Core.sampleHint.Misses (awake Core.sampleHint.state {})
        ((0x6005 : BitVec 16).setWidth 32) _ := ⟨rfl, _, _, rfl⟩
    have taken := (halfword_abbreviates (.new _) second (by decide)).2 _ misses
    rw [hint] at taken
    obtain ⟨cache, stepped⟩ := taken
    exact ⟨_, stepped⟩
  · have misses : Core.sampleReserved.Misses (awake Core.sampleReserved.state {})
        ((0x1402 : BitVec 16).setWidth 32) _ := ⟨rfl, _, _, rfl⟩
    have refused := (halfword_abbreviates (.new _) third (by decide)).2 _ misses
    rw [reserved] at refused
    exact ⟨_, refused⟩

end RvEmulator.Core32
