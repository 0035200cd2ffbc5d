import RvEmulator.Common.Interrupts
import RvEmulator.Common.StatusBits

/-! What becomes of an interrupt line that is asserted when a step begins. -/

namespace RvEmulator

/-- The line that makes a cause pending. -/
def IrqLines.asserts (lines : IrqLines) : InterruptCause → Bool
  | .supervisorSoftware => lines.supervisorSoftware
  | .machineSoftware => lines.machineSoftware
  | .supervisorTimer => lines.supervisorTimer
  | .machineTimer => lines.machineTimer
  | .supervisorExternal => lines.supervisorExternal
  | .machineExternal => lines.machineExternal

namespace Hart

variable {w : Nat} {hart : Hart w} {cause : InterruptCause} {lines : IrqLines}

/-- The hart has enabled the cause, and the mode that it is destined for takes interrupts now. -/
def Receives (hart : Hart w) (cause : InterruptCause) : Prop :=
  hart.machineCsrs.mie.getLsbD cause.code = true ∧
    (hart.Delegated cause ∧ hart.SupervisorTakes ∨ ¬hart.Delegated cause ∧ hart.MachineTakes)

theorem getLsbD_line (asserted : Bool) (k : Nat) {i : Nat} (inside : i < w) :
    (if asserted then 1#w <<< k else 0).getLsbD i = (asserted && decide (i = k)) := by
  cases asserted with
  | true => exact StatusBits.getLsbD_oneBit k inside
  | false => exact BitVec.getLsbD_zero

/-- The pending bits that are sampled are the lines. -/
theorem getLsbD_mipLines (hart : Hart w) (lines : IrqLines) (inside : cause.code < w) :
    (hart.sampleInterruptLines lines).machineCsrs.mipLines.getLsbD cause.code =
      lines.asserts cause := by
  unfold sampleInterruptLines InterruptBits.supported InterruptBits.supervisor
    InterruptBits.machine InterruptBits.supervisorSoftware InterruptBits.supervisorTimer
    InterruptBits.supervisorExternal InterruptBits.machineSoftware InterruptBits.machineTimer
    InterruptBits.machineExternal
  simp only [BitVec.getLsbD_and, BitVec.getLsbD_or, getLsbD_line _ _ inside,
    StatusBits.getLsbD_oneBit _ inside]
  cases cause <;> simp [InterruptCause.code, IrqLines.asserts]

theorem takeable_sampled (asserted : lines.asserts cause = true) (receives : hart.Receives cause) :
    (hart.sampleInterruptLines lines).Takeable cause := by
  obtain ⟨enabled, destination⟩ := receives
  have inside := BitVec.lt_of_getLsbD enabled
  exact ⟨⟨.inl ((getLsbD_mipLines hart lines inside).trans asserted), enabled⟩, destination⟩

/-- A hart that waits for an interrupt is woken by any that is enabled. -/
theorem wakes_of_enabled (enabled : hart.Enabled cause) : hart.interruptWakeRequested = true := by
  have pending := (hart.enabled_iff cause).mpr enabled
  unfold interruptWakeRequested
  unfold interruptBit candidates at pending
  rw [flag_shift, BitVec.getLsbD_and, Bool.and_eq_true] at pending
  by_contra idle
  unfold flag at idle
  simp only [Bool.not_eq_true, bne_eq_false_iff_eq] at idle
  have bit := pending.1
  simp [idle] at bit

/-- Where a cause can be taken, the hart wakes up and selects one, which the cause does not
precede. -/
theorem selects_of_takeable (takeable : hart.Takeable cause) :
    hart.interruptWakeRequested = true ∧ hart.selectPendingInterrupt.pending = true ∧
      hart.Takeable hart.selectPendingInterrupt.cause ∧
      ¬Precedes cause hart.selectPendingInterrupt.cause ∧
      (hart.selectPendingInterrupt.target = .supervisor ↔
        hart.Delegated hart.selectPendingInterrupt.cause) := by
  rcases hart.selectPendingInterrupt_first with ⟨_, none⟩ | ⟨pending, taken, target, first⟩
  · exact absurd takeable (none cause)
  · exact ⟨wakes_of_enabled takeable.1, pending, taken, first cause takeable, target⟩

end Hart

end RvEmulator
