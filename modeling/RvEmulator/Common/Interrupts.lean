import Mathlib.Data.List.Basic
import RvEmulator.Common.Hart

/-! The choice of an interrupt against the rule of the privileged architecture. One
priority list serves both destination modes, so the rule is met unless a delegated
interrupt comes before all the machine's own ones. -/

namespace RvEmulator.Hart

variable {w : Nat}

/-- Pending and enabled, wherever it goes. -/
def Enabled (hart : Hart w) (cause : InterruptCause) : Prop :=
  (hart.machineCsrs.mipLines.getLsbD cause.code = true ∨
      hart.machineCsrs.mipSoftware.getLsbD cause.code = true) ∧
    hart.machineCsrs.mie.getLsbD cause.code = true

/-- Destined for supervisor mode. -/
def Delegated (hart : Hart w) (cause : InterruptCause) : Prop :=
  hart.machineCsrs.mideleg.getLsbD cause.code = true

/-- Supervisor mode takes interrupts now. -/
def SupervisorTakes (hart : Hart w) : Prop :=
  hart.privilege = .user ∨
    hart.privilege = .supervisor ∧ flag hart.machineCsrs.mstatus MstatusBits.sie = true

/-- Machine mode takes interrupts now. -/
def MachineTakes (hart : Hart w) : Prop :=
  hart.privilege ≠ .machine ∨ flag hart.machineCsrs.mstatus MstatusBits.mie = true

instance (hart : Hart w) (cause : InterruptCause) : Decidable (hart.Delegated cause) :=
  inferInstanceAs (Decidable (_ = true))

def Takeable (hart : Hart w) (cause : InterruptCause) : Prop :=
  hart.Enabled cause ∧
    (hart.Delegated cause ∧ hart.SupervisorTakes ∨ ¬hart.Delegated cause ∧ hart.MachineTakes)

/-- Earlier in the order MEI, MSI, MTI, SEI, SSI, STI. -/
def Precedes (first second : InterruptCause) : Prop :=
  priorityOrder.idxOf first < priorityOrder.idxOf second

/-- The rule: an interrupt is chosen if one can be taken, its delegation decides its
target, machine mode comes before supervisor mode, and then the order decides. -/
structure FollowsPriority (hart : Hart w) : Prop where
  reported : hart.selectPendingInterrupt.pending = true ↔ ∃ cause, hart.Takeable cause
  takeable : hart.selectPendingInterrupt.pending = true →
    hart.Takeable hart.selectPendingInterrupt.cause
  target : hart.selectPendingInterrupt.pending = true →
    (hart.selectPendingInterrupt.target = .supervisor ↔
      hart.Delegated hart.selectPendingInterrupt.cause)
  machineFirst : hart.selectPendingInterrupt.pending = true →
    ∀ other, hart.Takeable other → ¬hart.Delegated other →
      ¬hart.Delegated hart.selectPendingInterrupt.cause
  ordered : hart.selectPendingInterrupt.pending = true →
    ∀ other, hart.Takeable other →
      (hart.Delegated other ↔ hart.Delegated hart.selectPendingInterrupt.cause) →
      ¬Precedes other hart.selectPendingInterrupt.cause

/-- Where supervisor mode takes interrupts, a machine interrupt that is pending and
enabled has one like it before every delegated one. -/
def MachineLeads (hart : Hart w) : Prop :=
  hart.SupervisorTakes →
    ∀ delegated machine, hart.Enabled delegated → hart.Delegated delegated →
      hart.Enabled machine → ¬hart.Delegated machine →
      ∃ leader, hart.Enabled leader ∧ ¬hart.Delegated leader ∧ Precedes leader delegated

theorem supervisorGloballyEnabled_iff (hart : Hart w) :
    hart.supervisorGloballyEnabled = true ↔ hart.SupervisorTakes := by
  unfold supervisorGloballyEnabled SupervisorTakes
  cases hart.privilege <;> simp

theorem machineGloballyEnabled_iff (hart : Hart w) :
    hart.machineGloballyEnabled = true ↔ hart.MachineTakes := by
  unfold machineGloballyEnabled MachineTakes
  cases hart.privilege <;> simp

theorem SupervisorTakes.machine {hart : Hart w} (takes : hart.SupervisorTakes) :
    hart.MachineTakes := by
  rcases takes with user | ⟨supervisor, _⟩
  · exact .inl (by simp [user])
  · exact .inl (by simp [supervisor])

/-- The bits that the selection loop scans. -/
def candidates (hart : Hart w) : BitVec w :=
  hart.pendingInterrupts &&& hart.machineCsrs.mie &&& InterruptBits.supported

theorem enabled_iff (hart : Hart w) (cause : InterruptCause) :
    flag hart.candidates (interruptBit cause) = true ↔ hart.Enabled cause := by
  have supported : ∀ value : BitVec w, value.getLsbD cause.code = true →
      (InterruptBits.supported : BitVec w).getLsbD cause.code = true := by
    intro value set
    have inside := BitVec.lt_of_getLsbD set
    unfold InterruptBits.supported InterruptBits.supervisor InterruptBits.machine
      InterruptBits.supervisorSoftware InterruptBits.supervisorTimer
      InterruptBits.supervisorExternal InterruptBits.machineSoftware InterruptBits.machineTimer
      InterruptBits.machineExternal
    have positive : 0 < w := Nat.zero_lt_of_lt inside
    cases cause <;> simp [InterruptCause.code] at inside ⊢ <;> simp [inside, positive]
  unfold interruptBit Enabled candidates pendingInterrupts
  rw [flag_shift]
  simp only [BitVec.getLsbD_and, BitVec.getLsbD_or, Bool.and_eq_true, Bool.or_eq_true]
  constructor
  · rintro ⟨⟨⟨pending, _⟩, enabled⟩, _⟩
    exact ⟨pending, enabled⟩
  · rintro ⟨pending, enabled⟩
    exact ⟨⟨⟨pending, supported _ enabled⟩, enabled⟩, supported _ enabled⟩

theorem delegated_iff (hart : Hart w) (cause : InterruptCause) :
    flag hart.machineCsrs.mideleg (interruptBit cause) = true ↔ hart.Delegated cause := by
  unfold interruptBit Delegated
  rw [flag_shift]

/-- The loop returns at the causes that can be taken. -/
theorem selectAt_some {hart : Hart w} {cause : InterruptCause} {selection : InterruptSelection}
    (found : hart.selectAt hart.candidates cause = some selection) :
    hart.Takeable cause ∧ selection.pending = true ∧ selection.cause = cause ∧
      (selection.target = .supervisor ↔ hart.Delegated cause) := by
  unfold selectAt at found
  split at found
  · cases found
  rename_i enabled
  have enabled : hart.Enabled cause := (hart.enabled_iff cause).mp (by simpa using enabled)
  split at found
  · rename_i delegated
    rw [delegated_iff] at delegated
    split at found
    · rename_i takes
      cases found
      rw [supervisorGloballyEnabled_iff] at takes
      exact ⟨⟨enabled, .inl ⟨delegated, takes⟩⟩, rfl, rfl, fun _ => delegated, fun _ => rfl⟩
    · cases found
  · rename_i kept
    rw [delegated_iff] at kept
    split at found
    · rename_i takes
      cases found
      rw [machineGloballyEnabled_iff] at takes
      refine ⟨⟨enabled, .inr ⟨kept, takes⟩⟩, rfl, rfl, ?_⟩
      constructor
      · intro target
        cases target
      · exact fun delegated => absurd delegated kept
    · cases found

theorem selectAt_none {hart : Hart w} {cause : InterruptCause}
    (none : hart.selectAt hart.candidates cause = none) : ¬hart.Takeable cause := by
  rintro ⟨enabled, destination⟩
  unfold selectAt at none
  rw [(hart.enabled_iff cause).mpr enabled] at none
  rcases destination with ⟨delegated, takes⟩ | ⟨kept, takes⟩
  · rw [(hart.delegated_iff cause).mpr delegated,
      (hart.supervisorGloballyEnabled_iff).mpr takes] at none
    cases none
  · have kept : ¬flag hart.machineCsrs.mideleg (interruptBit cause) = true :=
      fun delegated => kept ((hart.delegated_iff cause).mp delegated)
    rw [if_neg (by decide), if_neg kept, if_pos ((hart.machineGloballyEnabled_iff).mpr takes)]
      at none
    cases none

theorem mem_priorityOrder (cause : InterruptCause) : cause ∈ priorityOrder := by
  cases cause <;> decide

/-- The selection is of the first interrupt in the order that can be taken, whatever
its destination. -/
theorem selectPendingInterrupt_first (hart : Hart w) :
    (hart.selectPendingInterrupt.pending = false ∧ ∀ cause, ¬hart.Takeable cause) ∨
      (hart.selectPendingInterrupt.pending = true ∧
        hart.Takeable hart.selectPendingInterrupt.cause ∧
        (hart.selectPendingInterrupt.target = .supervisor ↔
          hart.Delegated hart.selectPendingInterrupt.cause) ∧
        ∀ other, hart.Takeable other → ¬Precedes other hart.selectPendingInterrupt.cause) := by
  have unfolded : hart.selectPendingInterrupt =
      (priorityOrder.findSome? (hart.selectAt hart.candidates)).getD {} := rfl
  cases search : priorityOrder.findSome? (hart.selectAt hart.candidates) with
  | none =>
    rw [unfolded, search]
    exact .inl ⟨rfl, fun cause =>
      selectAt_none (List.findSome?_eq_none_iff.mp search cause (mem_priorityOrder cause))⟩
  | some selection =>
    rw [unfolded, search, Option.getD_some]
    obtain ⟨before, cause, rest, split, found, skipped⟩ := List.findSome?_eq_some_iff.mp search
    obtain ⟨takeable, pending, same, target⟩ := selectAt_some found
    rw [same]
    refine .inr ⟨pending, takeable, target, fun other otherTakeable earlier => ?_⟩
    have late : other ∉ before := fun member => selectAt_none (skipped other member) otherTakeable
    have fresh : cause ∉ before := fun member => selectAt_none (skipped cause member) takeable
    unfold Precedes at earlier
    rw [split, List.idxOf_append_of_notMem late, List.idxOf_append_of_notMem fresh,
      List.idxOf_cons_self] at earlier
    omega

/-- Both cores choose by the rule exactly where no delegated interrupt leads. -/
theorem followsPriority_iff (hart : Hart w) : hart.FollowsPriority ↔ hart.MachineLeads := by
  rcases hart.selectPendingInterrupt_first with ⟨idle, none⟩ | ⟨pending, takeable, target, first⟩
  · have quiet : hart.selectPendingInterrupt.pending ≠ true := by simp [idle]
    constructor
    · intro _ takes delegated machine enabled delegation
      exact absurd ⟨enabled, .inl ⟨delegation, takes⟩⟩ (none delegated)
    · intro _
      exact ⟨⟨fun pending => absurd pending quiet, fun ⟨cause, takeable⟩ =>
        absurd takeable (none cause)⟩, fun pending => absurd pending quiet,
        fun pending => absurd pending quiet, fun pending => absurd pending quiet,
        fun pending => absurd pending quiet⟩
  · constructor
    · intro follows takes delegated machine enabled delegation machineEnabled kept
      have chosen := follows.machineFirst pending machine
        ⟨machineEnabled, .inr ⟨kept, takes.machine⟩⟩ kept
      refine ⟨hart.selectPendingInterrupt.cause, takeable.1, chosen, ?_⟩
      have notBefore := first delegated ⟨enabled, .inl ⟨delegation, takes⟩⟩
      have different : delegated ≠ hart.selectPendingInterrupt.cause := by
        rintro rfl
        exact chosen delegation
      unfold Precedes at notBefore ⊢
      have positions : priorityOrder.idxOf delegated ≠
          priorityOrder.idxOf hart.selectPendingInterrupt.cause := fun same =>
        different ((List.idxOf_inj (mem_priorityOrder _)).mp same)
      omega
    · intro leads
      refine ⟨⟨fun _ => ⟨_, takeable⟩, fun _ => pending⟩, fun _ => takeable, fun _ => target, ?_,
        fun _ other otherTakeable _ => first other otherTakeable⟩
      intro _ other otherTakeable kept delegation
      have takes : hart.SupervisorTakes := by
        rcases takeable.2 with ⟨_, takes⟩ | ⟨machine, _⟩
        · exact takes
        · exact absurd delegation machine
      obtain ⟨leader, enabled, leaderKept, precedes⟩ :=
        leads takes _ other takeable.1 delegation otherTakeable.1 kept
      exact first leader ⟨enabled, .inr ⟨leaderKept, takes.machine⟩⟩ precedes

/-- In user mode, with the supervisor external interrupt delegated and the supervisor
software interrupt kept for machine mode, both of them pending. -/
def splitDelegation : Hart w where
  privilege := .user
  machineCsrs :=
    { mideleg := InterruptBits.supervisorExternal
      mie := InterruptBits.supervisor
      mipSoftware := InterruptBits.supervisorExternal ||| InterruptBits.supervisorSoftware }

/-- There the delegated interrupt is chosen before the machine's. -/
theorem splitDelegation_misordered :
    (¬∀ hart : Hart 64, hart.FollowsPriority) ∧ ¬∀ hart : Hart 32, hart.FollowsPriority := by
  constructor
  · intro follows
    apply (follows splitDelegation).machineFirst rfl .supervisorSoftware
    · exact ⟨⟨.inr rfl, rfl⟩, .inr ⟨by decide, .inl (by decide)⟩⟩
    · decide
    · decide
  · intro follows
    apply (follows splitDelegation).machineFirst rfl .supervisorSoftware
    · exact ⟨⟨.inr rfl, rfl⟩, .inr ⟨by decide, .inl (by decide)⟩⟩
    · decide
    · decide

end RvEmulator.Hart
