import RvEmulator.Core64.Precise

/-! Steps that run an instruction, from what its parts return. -/

namespace RvEmulator.Core64

open Library

/-- A commit of one register. -/
theorem registers_commit (state : CpuSnapshot) (decoded : DecodedInstruction) (nextPc value : Xlen)
    (index : RegisterIndex) (x0 : state.registers 0 = 0) :
    (commit state decoded { nextPc, registerValue := some value }).registers index =
      if index = decoded.rd ∧ index ≠ 0 then value else state.registers index := by
  have committed : (commit state decoded { nextPc, registerValue := some value }).registers =
      Function.update (if decoded.rd ≠ 0 then Function.update state.registers decoded.rd value
        else state.registers) 0 0 := by
    simp only [commit, commitCsr, commitRegisters, commitRegister, commitFloatingRegister,
      commitFloatingFlags, retire, Option.getD_none, ne_eq, not_true_eq_false, if_false]
    by_cases target : decoded.rd = 0
    · rw [if_neg (not_not.mpr target), if_neg (not_not.mpr target)]
      rfl
    · rw [if_pos target, if_pos target]
      rfl
  rw [committed]
  by_cases zero : index = 0
  · have skipped : ¬(index = decoded.rd ∧ index ≠ 0) := fun both => both.2 zero
    rw [if_neg skipped, zero, Function.update_self, x0]
  rw [Function.update_of_ne zero]
  by_cases target : decoded.rd = 0
  · have different : index ≠ decoded.rd := fun same => zero (same.trans target)
    rw [if_neg (not_not.mpr target), if_neg (fun both => different both.1)]
  · rw [if_pos target]
    by_cases same : index = decoded.rd
    · rw [if_pos ⟨same, zero⟩, same, Function.update_self]
    · rw [if_neg (fun both => same both.1), Function.update_of_ne same]

section

variable [SoftFloat] [CpuBus β]

/-- The step is to run an instruction: the core is not waiting, and takes no interrupt. -/
structure Core.Runs (core : Core β) (irqLines : IrqLines) : Prop where
  awake : ((beginStep core.state irqLines).waitingForInterrupt &&
    !(beginStep core.state irqLines).interruptWakeRequested) = false
  idle : (Core.awake core.state irqLines).selectPendingInterrupt.pending = false

theorem Core.Runs.step_stopped {core : Core β} {irqLines : IrqLines} (runs : core.Runs irqLines)
    {trap : Trap} {fabric : Fabric β}
    (stopped : runInstruction core.executionMode (Core.awake core.state irqLines) core.fabric =
      (.error trap, fabric)) :
    (core.step irqLines).1.status = .trapTaken ∧
      (core.step irqLines).2.fabric = fabric ∧
      (core.step irqLines).2.state = takeTrap (Core.awake core.state irqLines)
        { cause := trap.cause
          exceptionPc := (Core.awake core.state irqLines).pc
          trapValue := trap.trapValue } := by
  unfold Core.step
  dsimp only
  rw [runs.awake, runs.idle, if_neg (by decide), if_neg (by decide), stopped]
  exact ⟨rfl, rfl, rfl⟩

theorem Core.Runs.step_returned {core : Core β} {irqLines : IrqLines} (runs : core.Runs irqLines)
    {instruction : BitVec 32} {decoded : DecodedInstruction} {outcome : Outcome} {fabric : Fabric β}
    (returned : runInstruction core.executionMode (Core.awake core.state irqLines) core.fabric =
      (.ok (instruction, decoded, outcome), fabric)) :
    (core.step irqLines).1.status = .retired ∧
      (core.step irqLines).2.fabric = fabric ∧
      (core.step irqLines).2.state =
        commit (Core.awake core.state irqLines) decoded outcome := by
  unfold Core.step
  dsimp only
  rw [runs.awake, runs.idle, if_neg (by decide), if_neg (by decide), returned]
  exact ⟨rfl, rfl, rfl⟩

omit [SoftFloat] in
/-- A translation does not stop the instruction itself. -/
theorem translate_returns (mode : ExecutionMode) (state : CpuSnapshot) (virtualAddress : Xlen)
    (access : MemoryAccessType) (fabric : Fabric β) :
    ∃ translation after,
      translate mode state virtualAddress access fabric = (.ok translation, after) := by
  cases mode <;> exact ⟨_, _, rfl⟩

omit [SoftFloat] in
/-- The address of a store, once its translation has ended. -/
theorem dataAddress_store {mode : ExecutionMode} {state : CpuSnapshot} {address : Xlen}
    {fabric after : Fabric β} {translation : TranslationResult}
    (translated : translate mode state address .store fabric = (.ok translation, after))
    (instruction : BitVec 32) {width : AccessWidth} (placed : aligned address width = true) :
    dataAddress mode state instruction address width false fabric =
      match translation.status with
      | .ready => (.ok translation.physicalAddress, after)
      | .pageFault =>
        (.error ⟨.storePageFault, instruction, address, translation.busFault⟩, after)
      | .accessFault =>
        (.error ⟨.storeAccessFault, instruction, address, translation.busFault⟩, after) := by
  unfold dataAddress
  rw [placed, if_neg (by decide)]
  refine (Exec.bind_ok translated).trans ?_
  rw [TranslationResult.isReady]
  cases translation.status <;> rfl

/-- An instruction that was fetched at an even address goes on to the switch. -/
theorem runInstruction_fetched {mode : ExecutionMode} {state : CpuSnapshot} {fabric after : Fabric β}
    {instruction : BitVec 32} {decoded : DecodedInstruction} (even : BitEven state.pc)
    (fetched : fetch mode state fabric = (.ok (instruction, decoded), after))
    (valid : decoded.valid = true) :
    runInstruction mode state fabric =
      (execute mode state instruction decoded >>= fun outcome =>
        if (outcome.nextPc &&& 0x1) ≠ 0 then
          Exec.stop ⟨.instructionAddressMisaligned, instruction, outcome.nextPc, .misaligned⟩
        else pure (instruction, decoded, outcome)) after := by
  have aligned : ¬(state.pc &&& 0x1) ≠ 0 := not_not.mpr ((BitEven.mask_one (by decide)).mp even)
  unfold runInstruction
  rw [if_neg aligned, Exec.bind_ok fetched]
  dsimp only
  rw [valid]
  rfl

/-- An instruction that reaches the commit was fetched, is valid, and was executed. -/
theorem runInstruction_returned {mode : ExecutionMode} {state : CpuSnapshot}
    {fabric after : Fabric β} {instruction : BitVec 32} {decoded : DecodedInstruction}
    {outcome : Outcome}
    (returned : runInstruction mode state fabric = (.ok (instruction, decoded, outcome), after)) :
    ∃ middle, fetch mode state fabric = (.ok (instruction, decoded), middle) ∧
      decoded.valid = true ∧
      execute mode state instruction decoded middle = (.ok outcome, after) := by
  unfold runInstruction at returned
  split at returned
  · cases returned
  obtain ⟨⟨fetched, decoding⟩, middle, fetches, rest⟩ := Exec.bind_returned returned
  dsimp only at rest
  split at rest
  · cases rest
  rename_i valid
  obtain ⟨computed, last, executes, rest⟩ := Exec.bind_returned rest
  split at rest
  · cases rest
  · cases rest
    exact ⟨middle, fetches, by simpa using valid, executes⟩

end

end RvEmulator.Core64
