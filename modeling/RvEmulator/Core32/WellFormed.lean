import RvEmulator.Core32.Commit
import RvEmulator.Core32.OwnUnit
import RvEmulator.Platform.SystemBus

/-! Well-formedness of every reachable state of the 32-bit core; and no step falls out
of its dispatcher. -/

namespace RvEmulator.Core32

open Library

section

variable {state : CpuSnapshot}

theorem wellFormed_beginStep (wellFormed : WellFormedState state) (irqLines : IrqLines) :
    WellFormedState (beginStep state irqLines) :=
  (wellFormed.setRegister fun _ => rfl).sampleInterruptLines irqLines

theorem wellFormed_awake (wellFormed : WellFormedState state) (irqLines : IrqLines) :
    WellFormedState (awake state irqLines) :=
  { wellFormed_beginStep wellFormed irqLines with }

theorem wellFormed_resetState {config : ResetConfig 32} (even : BitEven config.resetPc) :
    WellFormedState (Core.resetState config) where
  x0 := by
    simp only [Core.resetState]
    rw [Function.update_of_ne (by decide), Function.update_of_ne (by decide)]
  pc := even
  mepc := BitEven.zero
  sepc := BitEven.zero
  mstatus := show sanitizeMstatus 0 = 0 by decide
  mtvec := show (0 : Xlen) &&& 3 ≤ 1 by decide
  stvec := show (0 : Xlen) &&& 3 ≤ 1 by decide
  medeleg := Within.zero
  mideleg := Within.zero
  mie := Within.zero
  mipSoftware := Within.zero
  satp := show sanitizeSatp 0 = 0 by decide
  mprv := fun _ => by simp [Core.resetState]

end

/-! ### Whole runs -/

section

variable [CpuBus β]

theorem steady_runInstruction (mode : ExecutionMode) (state : CpuSnapshot) :
    Steady (runInstruction (β := β) mode state)
      (fun result => Fetched result.1 result.2.1 ∧ Dispatched state result.2.1 result.2.2) := by
  refine Steady.bind _ (steady_fetchDecode mode state) ?_
  intro fetched decodes
  refine Steady.bind _ (steady_dispatch mode fetched.1 decodes.valid) ?_
  intro pending dispatched
  exact Steady.pure ⟨decodes, dispatched.2⟩

omit [CpuBus β] in
theorem wellFormed_applyFences {fabric : Fabric β} (wellFormed : fabric.WellFormed)
    (state : CpuSnapshot) (decoded : DecodedInstruction) :
    (applyFences state decoded fabric).WellFormed := by
  unfold applyFences
  split
  · exact ⟨wellFormed.decodeCache, wellFormed.instructionCache.sfence _ _⟩
  · exact ⟨DecodeCache.faithful_clear _, wellFormed.instructionCache.clear⟩
  · exact wellFormed

/-- The invariant of the whole core. -/
structure Core.WellFormed (core : Core β) : Prop where
  state : WellFormedState core.state
  fabric : core.fabric.WellFormed

/-- Cores that can come about: constructed, reset at an even address, switched
between modes, stepped, and told the time, while anything may happen to the bus. -/
inductive Core.Reachable : Core β → Prop where
  | new (bus : β) : Reachable (.new bus)
  | reset (config : ResetConfig 32) : Reachable core → BitEven config.resetPc →
      Reachable (core.reset config)
  | setExecutionMode (mode : ExecutionMode) : Reachable core →
      Reachable (core.setExecutionMode mode)
  | step (irqLines : IrqLines) : Reachable core → Reachable (core.step irqLines).2
  | advanceCycles (cycles : BitVec 64) : Reachable core → Reachable (core.advanceCycles cycles)
  | external (bus : β) : Reachable core →
      Reachable { core with fabric := { core.fabric with bus } }

theorem Core.WellFormed.step {core : Core β} (wellFormed : core.WellFormed)
    (irqLines : IrqLines) : (core.step irqLines).2.WellFormed := by
  have awake := wellFormed_awake wellFormed.state irqLines
  obtain ⟨returns, stopping⟩ := steady_runInstruction core.executionMode
    (Core32.awake core.state irqLines) core.fabric wellFormed.fabric
  have stepped := core.stepped irqLines
  generalize core.step irqLines = ended at stepped ⊢
  cases stepped with
  | waited => exact ⟨wellFormed_beginStep wellFormed.state irqLines, wellFormed.fabric⟩
  | interrupted pending next entered =>
    subst entered
    exact ⟨awake.takeInterruptTrap lawfulStatus (by decide) pending _, wellFormed.fabric⟩
  | trapped trap fabric next stopped entered =>
    rw [stopped] at stopping
    subst entered
    exact ⟨awake.takeTrap lawfulStatus (by decide) _, stopping trap rfl⟩
  | rejected instruction decoded pending fabric returned refused =>
    rw [returned] at returns
    exact ⟨awake, (returns _ rfl).1⟩
  | retired instruction decoded pending fabric returned =>
    rw [returned] at returns
    obtain ⟨kept, fetched, dispatched⟩ := returns _ rfl
    exact ⟨wellFormed_applyCommit awake (allowed_of_dispatched fetched dispatched),
      wellFormed_applyFences kept _ _⟩

theorem Core.WellFormed.of_reachable {core : Core β} (reachable : core.Reachable) :
    core.WellFormed := by
  induction reachable with
  | new bus =>
    exact ⟨wellFormed_resetState (by decide), DecodeCache.faithful_clear _,
      InstructionCache.Sound.initial.clear⟩
  | reset config _ even ih =>
    exact ⟨wellFormed_resetState even, DecodeCache.faithful_clear _,
      ih.fabric.instructionCache.clear⟩
  | setExecutionMode mode _ ih =>
    unfold Core.setExecutionMode
    split
    · exact ih
    · exact ⟨ih.state, DecodeCache.faithful_clear _, ih.fabric.instructionCache.clear⟩
  | step irqLines _ ih => exact ih.step irqLines
  | advanceCycles cycles _ ih => exact ⟨{ ih.state with }, ih.fabric⟩
  | external bus _ ih => exact ⟨ih.state, ih.fabric.decodeCache, ih.fabric.instructionCache⟩

/-- Every reachable state is well-formed. In particular `mstatus` holds implemented bits
only, and MPP is never the reserved encoding. -/
theorem wellFormedState_of_reachable {core : Core β} (reachable : core.Reachable) :
    WellFormedState core.state ∧
      Within core.state.machineCsrs.mstatus MstatusBits.implemented ∧
      (core.state.machineCsrs.mstatus &&& MstatusBits.mpp) >>> MstatusBits.mppShift ≠ 2 := by
  have wellFormed := Core.WellFormed.of_reachable reachable
  exact ⟨wellFormed.state, Status.of_sanitized wellFormed.state.mstatus⟩

theorem acceptable_dispatch {mode : ExecutionMode} {state : CpuSnapshot}
    {instruction : BitVec 32} (valid : (decodeFetched instruction).valid = true)
    {pending : PendingCommit} {fabric after : Fabric β} (wellFormed : fabric.WellFormed)
    (dispatched : dispatch mode state instruction (decodeFetched instruction) fabric =
      (.ok pending, after)) : acceptable state pending = true := by
  obtain ⟨returns, _⟩ := steady_dispatch mode instruction valid fabric wellFormed
  rw [dispatched] at returns
  exact (allowed_of_dispatched ⟨rfl, valid⟩ (returns pending rfl).2.2).acceptable

/-- No step ends as not implemented: every valid instruction is handled by the unit that its
kind names, and what a unit makes of it is accepted by the commit. And a commit that is refused
changes nothing. -/
theorem step_implemented {core : Core β} (reachable : core.Reachable) :
    (∀ irqLines, (core.step irqLines).1.status ≠ .coreNotImplemented) ∧
      (∀ mode state instruction (fabric : Fabric β),
        (decodeFetched instruction).valid = true →
        Handles mode state (decodeFetched instruction) fabric
          (executionUnit (decodeFetched instruction).kind)) ∧
      (∀ mode state instruction pending after,
        (decodeFetched instruction).valid = true →
        dispatch mode state instruction (decodeFetched instruction) core.fabric =
          (.ok pending, after) → acceptable state pending = true) ∧
      ∀ state pending, (commitPending state pending).1 = false →
        (commitPending state pending).2 = state := by
  have wellFormed := Core.WellFormed.of_reachable reachable
  refine ⟨?_, fun mode state _ fabric valid => handles_own mode state valid fabric,
    fun _ _ _ _ _ valid => acceptable_dispatch valid wellFormed.fabric, ?_⟩
  · intro irqLines
    obtain ⟨returns, _⟩ := steady_runInstruction core.executionMode (awake core.state irqLines)
      core.fabric wellFormed.fabric
    have stepped := core.stepped irqLines
    generalize core.step irqLines = ended at stepped ⊢
    cases stepped with
    | waited | interrupted | trapped => exact StepStatus.noConfusion
    | rejected instruction decoded pending fabric returned refused =>
      rw [returned] at returns
      obtain ⟨_, fetched, dispatched⟩ := returns _ rfl
      rw [(allowed_of_dispatched fetched dispatched).acceptable] at refused
      cases refused
    | retired instruction decoded pending fabric returned =>
      unfold Core.retirement
      split <;> exact StepStatus.noConfusion
  · intro state pending refused
    unfold commitPending at refused ⊢
    split
    · rename_i accepted
      rw [if_pos accepted] at refused
      cases refused
    · rfl

end

/-- `addi x1, x0, 5`, then a jump to itself. -/
def Core.sampleBus : Platform.SystemBus Platform.Ram :=
  .ofProgram 0x80000000 0x1000 [0x00500093, 0x0000006F]

/-- A program that delegates store page faults, maps its page without the right to write,
and returns to user mode, where it stores to this page. -/
def Core.sampleFaulting : Core (Platform.SystemBus Platform.Ram) :=
  (fun core => (core.step {}).2)^[7] ((Core.new (.ofProgram 0 0x1000
    [0x0000001B, 0x000080B7, 0x30209073, 0x18059073, 0x00000297, 0x01028293, 0x34129073,
      0x30200073, 0x0002A023])).reset { resetPc := 4, bootArgument := 0x80000000 })

theorem Core.reachable_sampleFaulting : Core.sampleFaulting.Reachable :=
  .step {} <| .step {} <| .step {} <| .step {} <| .step {} <| .step {} <| .step {} <|
    .reset _ (.new _) (by decide)

/-- MRET, which returns to user mode at the reset value of `mepc`. -/
def Core.sampleReturned : Core (Platform.SystemBus Platform.Ram) :=
  ((Core.new (.ofProgram 0x80000000 0x1000 [0x30200073])).step {}).2

theorem wellFormedState_of_reachable_sample :
    Core.sampleReturned.state.privilege = .user ∧
      Core.sampleReturned.state.machineCsrs.mstatus = MstatusBits.mpie ∧
      WellFormedState Core.sampleReturned.state :=
  ⟨by decide, by decide, (wellFormedState_of_reachable (.step {} (.new _))).1⟩

theorem step_implemented_sample :
    ((Core.new Core.sampleBus).step {}).1.status ≠ .coreNotImplemented ∧
      Handles .reference (Core.new Core.sampleBus).state (decodeFetched 0x0000006F)
        (Core.new Core.sampleBus).fabric .controlFlow :=
  ⟨(step_implemented (.new Core.sampleBus)).1 {},
    (step_implemented (.new Core.sampleBus)).2.1 _ _ _ _ (by decide)⟩

end RvEmulator.Core32
