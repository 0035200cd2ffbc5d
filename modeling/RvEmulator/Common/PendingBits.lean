import RvEmulator.Common.HartInvariant

/-! What a read-modify-write of `mip` or `sip` does to the software pending bits: it
sees the interrupt lines, and does not store them. -/

namespace RvEmulator

open Library

/-- The two registers in which pending interrupts are seen. -/
inductive PendingRegister where
  | mip | sip
deriving DecidableEq, Repr

/-- The register that a CSR address names. -/
def PendingRegister.of? : CsrAddress → Option PendingRegister
  | 0x344#16 => some .mip
  | 0x144#16 => some .sip
  | _ => none

theorem PendingRegister.mip_or_sip {address : CsrAddress} {register : PendingRegister}
    (known : of? address = some register) :
    (address = 0x344#16 ∧ register = .mip) ∨ (address = 0x144#16 ∧ register = .sip) := by
  unfold of? at known
  split at known
  · cases known
    exact .inl ⟨rfl, rfl⟩
  · cases known
    exact .inr ⟨rfl, rfl⟩
  · cases known

/-- A set or clear instruction on one of them. The mask is the value of `rs1`, or the
immediate. -/
structure PendingUpdate (w : Nat) where
  register : PendingRegister
  clears : Bool
  mask : BitVec w
deriving DecidableEq

namespace Hart

variable (hart : Hart w)

/-- The pending bits that a register shows. -/
def visiblePending : PendingRegister → BitVec w
  | .mip => hart.pendingInterrupts
  | .sip => hart.pendingInterrupts &&& hart.machineCsrs.mideleg &&& InterruptBits.supervisor

/-- The pending bits that software may change through a register: those of supervisor
mode, and in `sip` only a delegated software interrupt. -/
def writablePending : PendingRegister → BitVec w
  | .mip => InterruptBits.machineWritablePending
  | .sip => hart.machineCsrs.mideleg &&& InterruptBits.supervisorWritablePending

/-- The software bits with the writable bits of the mask set or cleared. -/
def updatedPending (update : PendingUpdate w) : BitVec w :=
  let bits := update.mask &&& hart.writablePending update.register
  if update.clears then hart.machineCsrs.mipSoftware &&& ~~~bits
  else hart.machineCsrs.mipSoftware ||| bits

/-- The base of the modification: `read_for_write` of both cores on `mip` and `sip`. -/
def modificationBase (register : PendingRegister) (readValue : BitVec w) : BitVec w :=
  let writable : BitVec w :=
    match register with
    | .mip => InterruptBits.machineWritablePending
    | .sip => InterruptBits.supervisorWritablePending
  (readValue &&& ~~~writable) ||| (hart.machineCsrs.mipSoftware &&& writable)

/-- `write_validated` of both cores on `mip` and `sip`. -/
def writtenPending (register : PendingRegister) (value : BitVec w) : BitVec w :=
  match register with
  | .mip => value &&& InterruptBits.machineWritablePending
  | .sip =>
    (hart.machineCsrs.mipSoftware &&& ~~~hart.writablePending .sip) |||
      (value &&& hart.writablePending .sip)

/-- The value that is written back, from the base. -/
def modifiedPending (update : PendingUpdate w) (base : BitVec w) : BitVec w :=
  if update.clears then base &&& ~~~update.mask else base ||| update.mask

/-- Only bits that `mip` lets software write are ever held for it. -/
def SoftwarePending : Prop :=
  Within hart.machineCsrs.mipSoftware InterruptBits.machineWritablePending

variable {hart}

/-- Whatever was read, what is written back is what the update says. -/
theorem writtenPending_modified (software : hart.SoftwarePending) (update : PendingUpdate w)
    (readValue : BitVec w) :
    hart.writtenPending update.register
        (modifiedPending update (hart.modificationBase update.register readValue)) =
      hart.updatedPending update := by
  have held := within_iff.mp software
  obtain ⟨register, clears, mask⟩ := update
  apply BitVec.eq_of_getLsbD_eq
  intro i inside
  have holds := held i
  unfold updatedPending modifiedPending writtenPending modificationBase writablePending
  cases register <;> cases clears <;>
    simp only [BitVec.getLsbD_and, BitVec.getLsbD_or, BitVec.getLsbD_not, inside, decide_true,
      Bool.true_and, if_true, if_false, Bool.false_eq_true]
  all_goals grind

theorem writablePending_within (register : PendingRegister) :
    Within (hart.writablePending register) InterruptBits.machineWritablePending := by
  cases register with
  | mip => exact within_iff.mpr fun _ => id
  | sip =>
    refine (Within.and _ _).trans (within_iff.mpr ?_)
    intro i set
    unfold InterruptBits.supervisorWritablePending at set
    unfold InterruptBits.machineWritablePending InterruptBits.supervisor
    rw [BitVec.getLsbD_or, BitVec.getLsbD_or, set, Bool.true_or, Bool.true_or]

/-- Every write keeps to the writable bits. -/
theorem within_writtenPending (software : hart.SoftwarePending) (register : PendingRegister)
    (value : BitVec w) :
    Within (hart.writtenPending register value) InterruptBits.machineWritablePending := by
  cases register with
  | mip => exact Within.and _ _
  | sip => exact software.replace (writablePending_within .sip)

/-- A mask without bits changes nothing. -/
theorem updatedPending_zero (register : PendingRegister) (clears : Bool) :
    hart.updatedPending { register, clears, mask := 0 } = hart.machineCsrs.mipSoftware := by
  unfold updatedPending
  cases clears <;> simp

/-- The same state with other lines sampled last. -/
def withLines (hart : Hart w) (lines : BitVec w) : Hart w :=
  { hart with machineCsrs := { hart.machineCsrs with mipLines := lines } }

/-- Trap entry leaves the pending bits alone. -/
theorem takeTrap_mipSoftware (sanitizeMstatus : BitVec w → BitVec w) (request : TrapRequest w) :
    (hart.takeTrap sanitizeMstatus request).machineCsrs.mipSoftware =
      hart.machineCsrs.mipSoftware := by
  unfold takeTrap
  split <;> rfl

theorem takeInterruptTrap_mipSoftware (sanitizeMstatus : BitVec w → BitVec w)
    (cause : InterruptCause) (interruptedPc : BitVec w) (target : TrapTarget) :
    (hart.takeInterruptTrap sanitizeMstatus cause interruptedPc target).machineCsrs.mipSoftware =
      hart.machineCsrs.mipSoftware := by
  cases target <;> rfl

theorem within_supported : Within (InterruptBits.machineWritablePending : BitVec w)
    InterruptBits.supported := by
  refine within_iff.mpr ?_
  intro i set
  unfold InterruptBits.machineWritablePending at set
  unfold InterruptBits.supported
  rw [BitVec.getLsbD_or, set, Bool.true_or]

/-- Once all lines are low, nothing is pending but the software bits. -/
theorem pendingInterrupts_low (software : hart.SoftwarePending) :
    (hart.sampleInterruptLines {}).pendingInterrupts = hart.machineCsrs.mipSoftware := by
  have held := within_iff.mp (software.trans within_supported)
  apply BitVec.eq_of_getLsbD_eq
  intro i _
  have holds := held i
  unfold pendingInterrupts sampleInterruptLines
  simp only [Bool.false_eq_true, if_false, BitVec.ofNat_eq_ofNat, BitVec.or_self, BitVec.zero_and,
    BitVec.zero_or, BitVec.getLsbD_and]
  cases set : hart.machineCsrs.mipSoftware.getLsbD i with
  | false => rfl
  | true => rw [holds set, Bool.and_self]

end Hart

/-- A step that has made an update: the software bits are the updated ones, `rd` holds
what the register showed, lines included, and no line is left behind. -/
structure PendingUpdated (before : Hart w) (irqLines : IrqLines) (update : PendingUpdate w)
    (rd : RegisterIndex) (after : Hart w) : Prop where
  software : after.machineCsrs.mipSoftware = before.updatedPending update
  result : rd ≠ 0 →
    after.registers rd = (before.sampleInterruptLines irqLines).visiblePending update.register
  dropped : (after.sampleInterruptLines {}).pendingInterrupts = after.machineCsrs.mipSoftware

end RvEmulator
