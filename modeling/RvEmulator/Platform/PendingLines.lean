import RvEmulator.Core32.PendingBits
import RvEmulator.Core64.PendingBits

/-! Neither core latches an interrupt line when `mip` or `sip` is modified. -/

namespace RvEmulator

section

variable [Core64.SoftFloat] [CpuBus β]

/-- Two states that differ in the sampled lines only, and a set or clear instruction on
`mip` or `sip` that retires in both: the software bits end up equal, with just the
writable bits of the mask changed, and each `rd` shows its own lines. -/
theorem lines_unlatched :
    (∀ (core : Core64.Core β), core.Reachable →
      ∀ (lines linesAgain : BitVec 64) (irqLines irqLinesAgain : IrqLines)
        (update : PendingUpdate 64),
      let first := (core.withLines lines).step irqLines
      let second := (core.withLines linesAgain).step irqLinesAgain
      let decoded := Core64.decodeFetched first.1.instruction
      first.1.status = .retired → second.1.status = .retired →
      Core64.pendingUpdate? core.state decoded = some update →
      PendingUpdated core.state.toHart irqLines update decoded.rd first.2.state.toHart ∧
        PendingUpdated core.state.toHart irqLinesAgain update decoded.rd second.2.state.toHart ∧
        first.2.state.machineCsrs.mipSoftware = second.2.state.machineCsrs.mipSoftware) ∧
    (∀ (core : Core32.Core β), core.Reachable →
      ∀ (lines linesAgain : BitVec 32) (irqLines irqLinesAgain : IrqLines)
        (update : PendingUpdate 32),
      let first := (core.withLines lines).step irqLines
      let second := (core.withLines linesAgain).step irqLinesAgain
      let decoded := Core32.decodeFetched first.1.instruction
      first.1.status = .retired → second.1.status = .retired →
      Core32.pendingUpdate? core.state decoded = some update →
      PendingUpdated core.state irqLines update decoded.rd first.2.state ∧
        PendingUpdated core.state irqLinesAgain update decoded.rd second.2.state ∧
        first.2.state.machineCsrs.mipSoftware = second.2.state.machineCsrs.mipSoftware) := by
  refine ⟨?_, ?_⟩
  · intro core reachable lines linesAgain irqLines irqLinesAgain update _ _ _ retires retiresAgain
      updates
    exact Core64.steps_pending reachable lines linesAgain irqLines irqLinesAgain retires
      retiresAgain updates
  · intro core reachable lines linesAgain irqLines irqLinesAgain update _ _ _ retires retiresAgain
      updates
    exact Core32.steps_pending reachable lines linesAgain irqLines irqLinesAgain retires
      retiresAgain updates

end

attribute [local instance] Core64.SoftFloat.unused

/-- `csrrsi x5, mip, 2`. -/
def samplePendingBus : Platform.SystemBus Platform.Ram :=
  .ofProgram 0x80000000 0x1000 [0x344162F3]

/-- Two supervisor lines are high in the second run, whose bits in `mip` are writable. They
end up in `x5` only. -/
theorem lines_unlatched_sample :
    let core : Core64.Core (Platform.SystemBus Platform.Ram) := .new samplePendingBus
    let other : Core32.Core (Platform.SystemBus Platform.Ram) := .new samplePendingBus
    let high : IrqLines := { supervisorTimer := true, supervisorExternal := true }
    ((core.step {}).2.state.machineCsrs.mipSoftware =
        (core.step high).2.state.machineCsrs.mipSoftware ∧
      (core.step high).2.state.machineCsrs.mipSoftware = 2 ∧
      (core.step high).2.state.registers 5 = 0x220) ∧
    ((other.step {}).2.state.machineCsrs.mipSoftware =
        (other.step high).2.state.machineCsrs.mipSoftware ∧
      (other.step high).2.state.machineCsrs.mipSoftware = 2 ∧
      (other.step high).2.state.registers 5 = 0x220) := by
  intro core other high
  obtain ⟨_, second, same⟩ := lines_unlatched.1 core (.new _) 0 0 {} high
    { register := .mip, clears := false, mask := 2 } (by decide) (by decide)
    (by decide)
  obtain ⟨_, secondOther, sameOther⟩ := lines_unlatched.2 other (.new _) 0 0 {} high
    { register := .mip, clears := false, mask := 2 } (by decide) (by decide)
    (by decide)
  refine ⟨⟨same, ?_, ?_⟩, ⟨sameOther, ?_, ?_⟩⟩
  · exact second.software.trans (by decide)
  · decide
  · exact secondOther.software.trans (by decide)
  · decide

end RvEmulator
