import RvEmulator.Core64.Amo
import RvEmulator.Core64.Running

/-! An atomic memory operation as a step of the core. -/

namespace RvEmulator.Core64

open Library

namespace Amo

section

variable [SoftFloat]

abbrev RamCore := Core (Platform.SystemBus Platform.Ram)

/-- The step took a trap: the registers and memory are as before, but for accessed and
dirty bits. -/
structure Trapped (core : RamCore) (ended : StepResult × RamCore) (cause : ExceptionCause)
    (address : Xlen) : Prop where
  status : ended.1.status = .trapTaken
  entry : TrapEntry false cause.code address core.state ended.2.state
  memory : Platform.SystemBus.ramLike.Marked sv39
    (sanitizeSatp core.state.supervisorCsrs.satp) core.fabric.bus ended.2.fabric.bus

/-- The step replaced a value in memory, of the bus that the translation left. -/
structure Replaced (core : RamCore) (ended : StepResult × RamCore) (instruction : BitVec 32)
    (operation : AmoOperation) (doubleword : Bool) (physical : PhysAddr)
    (bus : Platform.SystemBus Platform.Ram) : Prop where
  status : ended.1.status = .retired
  registers : ∀ index, ended.2.state.registers index =
    if index = rd instruction ∧ index ≠ 0 then
      loaded doubleword (bus.contents.get physical (width doubleword).bytes)
    else core.state.registers index
  memory : ended.2.fabric.bus.contents =
    bus.contents.put physical (width doubleword).bytes
      (stored operation doubleword (bus.contents.get physical (width doubleword).bytes)
        (core.state.registers (rs2 instruction)))

/-- An AMO instruction on RAM, step by step: it traps if its address is misaligned, if
the translation for a store fails, or if the bus refuses; otherwise it replaces the
addressed bytes and returns what they were. -/
theorem step_exact {core : RamCore} (reachable : core.Reachable)
    (layout : Platform.Layout core.fabric.bus.ranges) {irqLines : IrqLines}
    (runs : core.Runs irqLines) {instruction : BitVec 32} {decoded : DecodedInstruction}
    {fabric : Fabric (Platform.SystemBus Platform.Ram)}
    (fetched : fetch core.executionMode (Core.awake core.state irqLines) core.fabric =
      (.ok (instruction, decoded), fabric))
    {operation : AmoOperation} {doubleword : Bool}
    (encodes : Encodes instruction operation doubleword) :
    let address := core.state.registers (rs1 instruction)
    let ended := core.step irqLines
    (aligned address (width doubleword) = false ∧
        Trapped core ended .storeAddressMisaligned address) ∨
      (aligned address (width doubleword) = true ∧
        ∃ translation middle,
          translate core.executionMode (Core.awake core.state irqLines) address .store fabric =
            (.ok translation, middle) ∧
          Platform.SystemBus.ramLike.Marked sv39 (sanitizeSatp core.state.supervisorCsrs.satp)
            core.fabric.bus middle.bus ∧
          ((translation.status = .pageFault ∧ Trapped core ended .storePageFault address) ∨
            (translation.status = .accessFault ∧ Trapped core ended .storeAccessFault address) ∨
            (translation.status = .ready ∧
              ((busFault operation doubleword translation.physicalAddress
                    (core.state.registers (rs2 instruction)) middle.bus ≠ .none ∧
                  Trapped core ended .storeAccessFault address) ∨
                (busFault operation doubleword translation.physicalAddress
                    (core.state.registers (rs2 instruction)) middle.bus = .none ∧
                  Replaced core ended instruction operation doubleword
                    translation.physicalAddress middle.bus))))) := by
  intro address ended
  have wellFormed := Core.WellFormed.of_reachable reachable
  have awake := wellFormed_awake wellFormed.state irqLines
  have amo : Decoded decoded instruction operation := by
    obtain ⟨returns, _⟩ := steady_fetch core.executionMode (Core.awake core.state irqLines)
      core.fabric wellFormed.fabric
    rw [fetched] at returns
    have same : decoded = decodeFetched instruction := (returns _ rfl).2
    rw [same]
    exact encodes.decoded
  have valid : decoded.valid = true := by
    have other := amo.other
    simp only [List.mem_cons, not_or] at other
    simp [DecodedInstruction.valid, other.2.2.2.2.1]
  have register : ∀ index, (Core.awake core.state irqLines).registers index =
      core.state.registers index := by
    intro index
    by_cases zero : index = 0
    · subst zero
      rw [awake.x0, wellFormed.state.x0]
    · exact Function.update_of_ne zero _ _
  let root := sanitizeSatp core.state.supervisorCsrs.satp
  have kept : Platform.SystemBus.ramLike.Kept sv39 root core.fabric.bus core.fabric.bus :=
    ⟨.self layout, .unchanged rfl⟩
  have keptFetched : Platform.SystemBus.ramLike.Kept sv39 root core.fabric.bus fabric.bus := by
    obtain ⟨returns, _⟩ := storeless_fetch core.executionMode (Core.awake core.state irqLines)
      core.fabric kept
    rw [fetched] at returns
    exact returns _ rfl
  have run := runInstruction_fetched awake.pc fetched valid
  have arm : (execute core.executionMode (Core.awake core.state irqLines) instruction decoded :
      Instr (Platform.SystemBus Platform.Ram) Outcome) =
      (executeAtomic core.executionMode (Core.awake core.state irqLines) instruction decoded >>=
        fun value => pure { nextPc := (Core.awake core.state irqLines).pc + 4,
                            registerValue := some value }) := by
    unfold execute
    dsimp only
    rw [amo.arm, amo.length]
    rfl
  have access := executeAtomic_eq core.executionMode (Core.awake core.state irqLines) encodes amo
    fabric
  simp only [register] at access
  -- A trap of the access is the step's, and nothing was stored before it.
  have trapping : ∀ trap after, executeAtomic core.executionMode
      (Core.awake core.state irqLines) instruction decoded fabric = (.error trap, after) →
      trap.trapValue = address →
      Platform.SystemBus.ramLike.Kept sv39 root core.fabric.bus after.bus →
      Trapped core ended trap.cause address := by
    intro trap after stopped value keptAfter
    rw [arm, Exec.bind_error (Exec.bind_error stopped)] at run
    obtain ⟨status, reached, entered⟩ := runs.step_stopped run
    refine ⟨status, ?_, reached ▸ keptAfter.2⟩
    rw [entered, value]
    exact (trapEntry_takeTrap _ _ _).of_awake
  have bothAligned : ¬((Core.awake core.state irqLines).pc + 4 &&& 0x1) ≠ 0 :=
    not_not.mpr ((BitEven.mask_one (by decide)).mp (awake.pc.add (by decide)))
  cases placed : aligned address (width doubleword) with
  | false =>
    refine .inl ⟨rfl, ?_⟩
    have stopped : dataAddress core.executionMode (Core.awake core.state irqLines) instruction
        address (width doubleword) false fabric =
        (.error ⟨.storeAddressMisaligned, instruction, address, .misaligned⟩, fabric) := by
      unfold dataAddress
      rw [placed]
      rfl
    exact trapping _ _ (access.trans (Exec.bind_error stopped)) rfl keptFetched
  | true =>
    refine .inr ⟨rfl, ?_⟩
    obtain ⟨translation, middle, translated⟩ := translate_returns core.executionMode
      (Core.awake core.state irqLines) address .store fabric
    have keptMiddle : Platform.SystemBus.ramLike.Kept sv39 root core.fabric.bus middle.bus := by
      obtain ⟨returns, _⟩ := storeless_translate core.executionMode
        (Core.awake core.state irqLines) address .store fabric keptFetched
      rw [translated] at returns
      exact returns _ rfl
    refine ⟨translation, middle, translated, keptMiddle.2, ?_⟩
    have data := dataAddress_store translated instruction placed
    cases status : translation.status with
    | pageFault =>
      rw [status] at data
      exact .inl ⟨rfl, trapping _ _ (access.trans (Exec.bind_error data)) rfl keptMiddle⟩
    | accessFault =>
      rw [status] at data
      exact .inr (.inl ⟨rfl, trapping _ _ (access.trans (Exec.bind_error data)) rfl keptMiddle⟩)
    | ready =>
      rw [status] at data
      refine .inr (.inr ⟨rfl, ?_⟩)
      have finished := access.trans (Exec.bind_ok data)
      obtain ⟨fault, succeeded⟩ := atomicAccess_eq amo.other doubleword
        ((Core.awake core.state irqLines).hartId.setWidth 32) translation.physicalAddress
        (core.state.registers (rs2 instruction)) keptMiddle.1.layout
      rw [amo.operation] at fault succeeded
      unfold finish at finished
      dsimp only at finished
      rw [fault] at finished
      by_cases refused : busFault operation doubleword translation.physicalAddress
          (core.state.registers (rs2 instruction)) middle.bus = .none
      · refine .inr ⟨refused, ?_⟩
        obtain ⟨value, contents⟩ := succeeded refused
        rw [if_neg (not_not.mpr refused), value] at finished
        have outcome := Exec.bind_ok (f := fun value => (pure
          { nextPc := (Core.awake core.state irqLines).pc + 4, registerValue := some value } :
          Instr (Platform.SystemBus Platform.Ram) Outcome)) finished
        rw [arm, Exec.bind_ok outcome] at run
        dsimp only at run
        rw [if_neg bothAligned] at run
        obtain ⟨retired, reached, committed⟩ := runs.step_returned run
        refine ⟨retired, ?_, ?_⟩
        · intro index
          rw [committed, registers_commit _ _ _ _ _ awake.x0, amo.rd, register]
        · rw [reached, contents]
      · refine .inl ⟨refused, ?_⟩
        rw [if_pos refused] at finished
        refine trapping _ _ finished rfl ?_
        have unchanged := kept_atomicAccess keptMiddle.1 decoded.kind doubleword
          ((Core.awake core.state irqLines).hartId.setWidth 32) translation.physicalAddress
          (core.state.registers (rs2 instruction)) (fault ▸ refused)
        exact ⟨unchanged.1, keptMiddle.2.congr unchanged.2⟩

end

section

attribute [local instance] SoftFloat.unused

/-- A program at address zero that swaps its own first word with `x0`. -/
def sampleSwap : RamCore :=
  (Core.new (.ofProgram 0 0x1000 [0x080020AF])).reset { resetPc := 0 }

theorem sampleSwap_exact :
    (sampleSwap.step {}).1.status = .retired ∧
      (sampleSwap.step {}).2.state.registers 1 = 0x080020AF ∧
      ∃ physical bus, Replaced sampleSwap (sampleSwap.step {}) 0x080020AF .swap false
        physical bus := by
  have retired : (sampleSwap.step {}).1.status = .retired := by decide
  have register : (sampleSwap.step {}).2.state.registers 1 = 0x080020AF := by decide
  have reachable : sampleSwap.Reachable := .reset _ (.new _) (by decide)
  have layout : Platform.Layout sampleSwap.fabric.bus.ranges :=
    Platform.SystemBus.layout_ofProgram _ ⟨by decide, by decide⟩
  have runs : sampleSwap.Runs {} := ⟨by decide, by decide⟩
  have encodes : Encodes 0x080020AF .swap false := ⟨by decide, by decide, by decide⟩
  obtain ⟨fabric, fetched⟩ : ∃ fabric, fetch sampleSwap.executionMode
      (Core.awake sampleSwap.state {}) sampleSwap.fabric =
      (.ok (0x080020AF, decodeFetched 0x080020AF), fabric) := ⟨_, rfl⟩
  have untrapped : ∀ cause address, ¬Trapped sampleSwap (sampleSwap.step {}) cause address := by
    intro cause address trapped
    rw [trapped.status] at retired
    cases retired
  obtain ⟨_, trapped⟩ | ⟨_, translation, middle, _, _, ended⟩ :=
    step_exact reachable layout runs fetched encodes
  · exact (untrapped _ _ trapped).elim
  obtain ⟨_, trapped⟩ | ⟨_, trapped⟩ | ⟨_, ⟨_, trapped⟩ | ⟨_, replaced⟩⟩ := ended
  · exact (untrapped _ _ trapped).elim
  · exact (untrapped _ _ trapped).elim
  · exact (untrapped _ _ trapped).elim
  · exact ⟨retired, register, _, _, replaced⟩

/-- A program that turned paging on, over a page that is neither accessed nor dirty; its
next instruction swaps the word at `0x80000100`. -/
def samplePaged : RamCore :=
  (((Core.new (.ofProgram 0x80000000 0x1000
    [0x18059073, 0x080520AF, 0, 0, 0x2000000F, 0])).reset
    { initialPrivilege := .supervisor
      hartId := 0x80000100
      bootArgument := 0x8000000000080000 }).step {}).2

/-- The swap also marks the page as accessed and dirty, in the entry at `0x80000010`. -/
theorem samplePaged_marks :
    samplePaged.Reachable ∧ Encodes 0x080520AF .swap false ∧
      samplePaged.state.registers (rs1 0x080520AF) = 0x80000100 ∧
      (samplePaged.step {}).1.instruction = 0x080520AF ∧
      (samplePaged.step {}).1.status = .retired ∧
      samplePaged.fabric.bus.contents 0x80000010 = 0x0F ∧
      (samplePaged.step {}).2.fabric.bus.contents 0x80000010 = 0xCF := by
  refine ⟨.step _ (.reset _ (.new _) (by decide)), ⟨by decide, by decide, by decide⟩, ?_⟩
  decide

end

end Amo

end RvEmulator.Core64
