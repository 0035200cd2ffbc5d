import RvEmulator.Core64.Running
import RvEmulator.Core64.WellFormed

/-! The lazy floating-point state. Registers and `fcsr` change only while
`mstatus.FS` is not Off, and whatever changes them leaves it Dirty. SoftFloat may
return any bits and any flags. -/

namespace RvEmulator.Core64

open Library

/-- Loads, stores, moves, arithmetic, comparisons, conversions and classifications. -/
def SwitchArm.floating : SwitchArm → Bool
  | .floatingLoad | .floatingStore | .floatingMove | .floatingArithmetic | .floatingSign
  | .floatingMinMax | .floatingCompare | .floatingClassify | .floatingConvertFormat
  | .floatingToInteger | .integerToFloating => true
  | _ => false

/-- The instruction is one of F or D, or names a floating-point CSR. -/
def DecodedInstruction.usesFloating (decoded : DecodedInstruction) : Bool :=
  (switchArm decoded.kind).floating ||
    (switchArm decoded.kind == .csr && CsrFile.floatingCsr decoded.csr)

/-- Instructions that write a single-precision number. -/
def InstructionKind.singleResult : InstructionKind → Bool
  | .flw | .fmvWX
  | .faddS | .fsubS | .fmulS | .fdivS | .fsqrtS | .fmaddS | .fmsubS | .fnmsubS | .fnmaddS
  | .fsgnjS | .fsgnjnS | .fsgnjxS | .fminS | .fmaxS
  | .fcvtSD | .fcvtSW | .fcvtSWu | .fcvtSL | .fcvtSLu => true
  | _ => false

/-- The upper half is all ones. -/
def NanBoxed (value : Xlen) : Prop := value.extractLsb' 32 32 = BitVec.allOnes 32

/-- FS is Dirty, and SD says so. -/
structure CpuSnapshot.Dirty (state : CpuSnapshot) : Prop where
  fs : (state.machineCsrs.mstatus &&& MstatusBits.fs) = MstatusBits.fsDirty
  sd : flag state.machineCsrs.mstatus MstatusBits.sd = true

/-! ### Boxes -/

theorem nanBoxed_or (value : BitVec 32) : NanBoxed (0xFFFFFFFF00000000 ||| value.setWidth 64) := by
  unfold NanBoxed
  apply BitVec.eq_of_getLsbD_eq
  intro i inside
  have ones : ∀ i < 32, (0xFFFFFFFF00000000 : Xlen).getLsbD (32 + i) = true := by decide
  rw [BitVec.getLsbD_extractLsb', BitVec.getLsbD_or, ones i inside, BitVec.getLsbD_allOnes]
  simp [inside]

theorem nanBoxed_boxSingle (value : BitVec 32) : NanBoxed (boxSingle value) := nanBoxed_or value

theorem nanBoxed_minMax32 (operation : FloatingMinMaxOperation) (first second : BitVec 32) :
    NanBoxed (floatingMinMax32 operation first second).value := by
  unfold floatingMinMax32
  dsimp only
  split
  · exact nanBoxed_boxSingle _
  split
  · exact nanBoxed_boxSingle _
  split
  · exact nanBoxed_boxSingle _
  split
  · exact nanBoxed_boxSingle _
  · exact nanBoxed_boxSingle _

theorem nanBoxed_integerToFloating [SoftFloat] (width : FloatingIntegerWidth) (unsigned : Bool)
    (mode : BitVec 8) (source : BitVec 64) :
    NanBoxed (integerToFloating .single width unsigned mode source).value := by
  cases width <;> cases unsigned <;> exact nanBoxed_boxSingle _

/-! ### What the switch asks for -/

/-- A floating-point result or flags come only from an enabled unit, and without a CSR
write; a single-precision instruction has a boxed result. -/
structure Outcome.Floating (state : CpuSnapshot) (decoded : DecodedInstruction)
    (outcome : Outcome) : Prop where
  enabled : outcome.floatingRegisterValue ≠ none ∨ outcome.floatingExceptionFlags ≠ 0 →
    floatingPointEnabled state = true ∧ outcome.csrWrite = none
  boxed : decoded.kind.singleResult = true →
    ∃ value, outcome.floatingRegisterValue = some value ∧ NanBoxed value

/-- What holds of every value that a computation returns. -/
def Yields (x : Instr β α) (post : α → Prop) : Prop :=
  Exec.Ensures (fun _ => True) x (fun a _ => post a) (fun _ _ => True)

namespace Yields

theorem pure {post : α → Prop} {a : α} (holds : post a) : Yields (β := β) (pure a) post :=
  Exec.Ensures.pure fun _ _ => holds

theorem stop {post : α → Prop} {trap : Trap} : Yields (β := β) (Exec.stop trap) post :=
  Exec.Ensures.stop fun _ _ => trivial

theorem bind {x : Instr β α} {f : α → Instr β γ} (middle : α → Prop) {post : γ → Prop}
    (first : Yields x middle) (next : ∀ a, middle a → Yields (f a) post) :
    Yields (x >>= f) post := by
  refine Exec.Ensures.bind first ?_
  intro a fabric before
  exact next a before fabric trivial

theorem any (x : Instr β α) : Yields x fun _ => True := by
  intro fabric _
  exact ⟨fun _ _ => trivial, fun _ _ => trivial⟩

theorem ite {condition : Prop} [Decidable condition] {x y : Instr β α} {post : α → Prop}
    (left : condition → Yields x post) (right : ¬condition → Yields y post) :
    Yields (if condition then x else y) post := by
  split
  · rename_i holds
    exact left holds
  · rename_i fails
    exact right fails

end Yields

/-- An outcome with neither a floating-point result nor flags. -/
theorem Outcome.Floating.none {state : CpuSnapshot} {decoded : DecodedInstruction}
    {outcome : Outcome} (other : decoded.kind.singleResult = false)
    (value : outcome.floatingRegisterValue = .none) (flags : outcome.floatingExceptionFlags = 0) :
    outcome.Floating state decoded where
  enabled touched := by
    obtain result | raised := touched
    · exact absurd value result
    · exact absurd flags raised
  boxed single := by
    rw [other] at single
    cases single

theorem valid_of_usesFloating {decoded : DecodedInstruction}
    (uses : decoded.usesFloating = true) : decoded.valid = true := by
  refine bne_iff_ne.mpr fun illegal => ?_
  rw [DecodedInstruction.usesFloating, illegal] at uses
  cases uses

theorem usesFloating_of_singleResult {decoded : DecodedInstruction}
    (single : decoded.kind.singleResult = true) : decoded.usesFloating = true := by
  unfold DecodedInstruction.usesFloating
  cases kind : decoded.kind <;> rw [kind] at single <;>
    first
    | rfl
    | exact absurd single (by decide)

/-- Where a single-precision result can come from. -/
theorem format_of_singleResult {kind : InstructionKind} (single : kind.singleResult = true) :
    match switchArm kind with
    | .floatingLoad => kind = .flw
    | .floatingMove => kind = .fmvWX
    | .floatingArithmetic | .floatingSign | .floatingMinMax | .floatingConvertFormat
    | .integerToFloating => kind.format = .single
    | _ => False := by
  cases kind <;> first | exact rfl | exact absurd single (by decide)

theorem singleResult_false {kind : InstructionKind} {arm : SwitchArm}
    (there : switchArm kind = arm)
    (other : arm ∉ [.floatingLoad, .floatingMove, .floatingArithmetic, .floatingSign,
      .floatingMinMax, .floatingConvertFormat, .integerToFloating]) :
    kind.singleResult = false := by
  refine Bool.eq_false_iff.mpr fun single => ?_
  have format := format_of_singleResult single
  rw [there] at format
  cases arm <;> first | exact format | exact absurd other (by decide)

section

variable [SoftFloat]

theorem floating_floatingOutcome {state : CpuSnapshot} {decoded : DecodedInstruction}
    {nextPc : Xlen} {outcome : Outcome}
    (computed : floatingOutcome state decoded nextPc (switchArm decoded.kind) = some outcome) :
    outcome.Floating state decoded := by
  obtain ⟨_, _, noWrite⟩ := floatingOutcome_plain computed
  have format := @format_of_singleResult decoded.kind
  unfold floatingOutcome at computed
  dsimp only at computed
  split at computed
  · cases computed
  rename_i enabled
  refine ⟨fun _ => ⟨by simpa using enabled, noWrite⟩, fun single => ?_⟩
  have format := format single
  split at computed
  case h_1 there =>
    rw [there] at format
    have moved : decoded.kind = .fmvWX := format
    rw [moved] at computed
    cases computed
    exact ⟨_, rfl, nanBoxed_or _⟩
  case h_2 there | h_7 there =>
    rw [there] at format
    obtain ⟨mode, _, same⟩ := Option.map_eq_some_iff.mp computed
    subst same
    refine ⟨_, rfl, ?_⟩
    rw [show decoded.kind.format = .single from format]
    exact nanBoxed_boxSingle _
  case h_3 there =>
    rw [there] at format
    cases computed
    refine ⟨_, rfl, ?_⟩
    rw [show decoded.kind.format = .single from format]
    exact nanBoxed_boxSingle _
  case h_4 there =>
    rw [there] at format
    cases computed
    refine ⟨_, rfl, ?_⟩
    rw [show decoded.kind.format = .single from format]
    exact nanBoxed_minMax32 _ _ _
  case h_9 there =>
    rw [there] at format
    obtain ⟨mode, _, same⟩ := Option.map_eq_some_iff.mp computed
    subst same
    refine ⟨_, rfl, ?_⟩
    rw [show decoded.kind.format = .single from format]
    exact nanBoxed_integerToFloating _ _ _ _
  case h_5 there | h_6 there | h_8 there =>
    rw [there] at format
    cases format
  case h_10 => cases computed

variable [CpuBus β]

theorem yields_execute (mode : ExecutionMode) (state : CpuSnapshot) (instruction : BitVec 32)
    (decoded : DecodedInstruction) :
    Yields (execute (β := β) mode state instruction decoded) (Outcome.Floating state decoded) := by
  unfold execute
  dsimp only
  split
  case h_1 there => exact .pure (.none (singleResult_false there (by decide)) rfl rfl)
  case h_2 there | h_3 there | h_5 there | h_6 there =>
    refine .bind _ (.any _) fun _ _ => .pure ?_
    exact .none (singleResult_false there (by decide)) rfl rfl
  case h_4 there =>
    unfold executeFloatingLoad
    refine .bind (fun value => floatingPointEnabled state = true ∧
      (decoded.kind.singleResult = true → NanBoxed value)) ?_ ?_
    · refine .ite (fun _ => .stop) fun enabled => .bind _ (.any _) fun value _ => .pure ?_
      refine ⟨by simpa using enabled, fun single => ?_⟩
      have format := format_of_singleResult single
      rw [there] at format
      rw [if_pos (show decoded.kind = .flw from format)]
      exact nanBoxed_or _
    · rintro value ⟨enabled, boxed⟩
      exact .pure ⟨fun _ => ⟨enabled, rfl⟩, fun single => ⟨value, rfl, boxed single⟩⟩
  case h_7 there => exact .pure (.none (singleResult_false there (by decide)) rfl rfl)
  case h_8 there =>
    exact Exec.Ensures.lift fun _ _ => .none (singleResult_false there (by decide)) rfl rfl
  case h_9 there =>
    refine .bind _ (.any _) fun _ _ => .pure ?_
    exact .none (singleResult_false there (by decide)) rfl rfl
  case h_10 | h_11 | h_16 => exact .stop
  case h_12 there | h_13 there =>
    split
    · exact .stop
    · exact .pure (.none (singleResult_false there (by decide)) rfl rfl)
  case h_14 there =>
    exact .ite (fun _ => .stop) fun _ =>
      .pure (.none (singleResult_false there (by decide)) rfl rfl)
  case h_15 there =>
    refine .ite (fun _ => .stop) fun _ => ?_
    exact Exec.Ensures.lift fun _ _ => .none (singleResult_false there (by decide)) rfl rfl
  case h_17 =>
    split
    · exact .stop
    · rename_i outcome computed
      exact .pure (floating_floatingOutcome computed)

theorem yields_runInstruction (mode : ExecutionMode) (state : CpuSnapshot) :
    Yields (runInstruction (β := β) mode state)
      (fun result => result.2.2.Floating state result.2.1) := by
  refine .ite (fun _ => .stop) fun _ => .bind _ (.any _) fun fetched _ => ?_
  refine .ite (fun _ => .stop) fun _ => .bind _ (yields_execute mode state _ _) ?_
  intro outcome holds
  exact .ite (fun _ => .stop) fun _ => .pure holds

omit [SoftFloat] in
/-- While the unit is off, the floating-point CSRs can be neither read nor written. -/
theorem executeCsr_disabled {state : CpuSnapshot} (off : floatingPointEnabled state = false)
    {decoded : DecodedInstruction} (csr : switchArm decoded.kind = .csr)
    (address : CsrFile.floatingCsr decoded.csr = true) (instruction : BitVec 32) :
    executeCsr (β := β) state instruction decoded = illegal instruction := by
  have denied : CsrFile.accessDenied state decoded.csr state.privilege = true := by
    simp [CsrFile.accessDenied, address, off]
  have written : CsrFile.validateWrite state decoded.csr state.privilege = .privilegeViolation := by
    rw [CsrFile.validateWrite, denied, if_pos rfl]
  have read : ∀ time, (CsrFile.read state time decoded.csr state.privilege).ready = false := by
    intro time
    rw [CsrFile.read, denied, Bool.true_or, if_pos rfl]
    rfl
  funext fabric
  refine (Exec.bind_ok (Exec.lift_apply _ _)).trans ?_
  dsimp only
  rw [written, read]
  cases kind : decoded.kind <;> rw [kind] at csr <;>
    first
    | exact absurd csr (by decide)
    | simp

/-- While the unit is off, everything that needs it is illegal. -/
theorem execute_disabled {state : CpuSnapshot} (off : floatingPointEnabled state = false)
    {decoded : DecodedInstruction} (uses : decoded.usesFloating = true) (mode : ExecutionMode)
    (instruction : BitVec 32) :
    execute (β := β) mode state instruction decoded = illegal instruction := by
  simp only [DecodedInstruction.usesFloating, Bool.or_eq_true, Bool.and_eq_true,
    beq_iff_eq] at uses
  have computes : ∀ nextPc arm, floatingOutcome state decoded nextPc arm = none := by
    intro nextPc arm
    unfold floatingOutcome
    simp [off]
  unfold execute
  dsimp only
  split
  case h_4 =>
    simp only [executeFloatingLoad, off]
    rfl
  case h_6 =>
    simp only [executeFloatingStore, off]
    rfl
  case h_9 there =>
    obtain floating | ⟨csr, address⟩ := uses
    · rw [there] at floating
      cases floating
    · rw [executeCsr_disabled off csr address]
      rfl
  case h_16 => rfl
  case h_17 => rw [computes]
  all_goals
    rename_i there
    rw [there] at uses
    simp [SwitchArm.floating] at uses

end

/-! ### What the commit does with it -/

/-- The floating-point state is left alone, or the unit is dirty. -/
def Tracked (before after : CpuSnapshot) : Prop :=
  (after.floatingPoint = before.floatingPoint ∧
    after.machineCsrs.mstatus = before.machineCsrs.mstatus) ∨ after.Dirty

theorem Tracked.trans {before middle after : CpuSnapshot} (first : Tracked before middle)
    (second : Tracked middle after) : Tracked before after := by
  obtain ⟨same, kept⟩ | dirty := second
  · obtain ⟨old, status⟩ | dirty := first
    · exact .inl ⟨same.trans old, kept.trans status⟩
    · exact .inr ⟨kept ▸ dirty.fs, kept ▸ dirty.sd⟩
  · exact .inr dirty

theorem dirty_markFloatingPointDirty (state : CpuSnapshot) :
    (markFloatingPointDirty state).Dirty := by
  have fixed := Status.of_fixed (Status.sanitizeMstatus_idempotent
    ((state.machineCsrs.mstatus &&& ~~~MstatusBits.fs) ||| MstatusBits.fsDirty))
  have fs : sanitizeMstatus ((state.machineCsrs.mstatus &&& ~~~MstatusBits.fs) |||
      MstatusBits.fsDirty) &&& MstatusBits.fs = MstatusBits.fsDirty := by
    have bit : ∀ i, i = 13 ∨ i = 14 → (sanitizeMstatus
        ((state.machineCsrs.mstatus &&& ~~~MstatusBits.fs) ||| MstatusBits.fsDirty)).getLsbD i =
        true := by
      rintro i (rfl | rfl)
      · rw [Status.getLsbD_sanitizeMstatus_kept _ (by decide), BitVec.getLsbD_or,
          show MstatusBits.fsDirty.getLsbD 13 = true by decide, Bool.or_true]
      · rw [Status.getLsbD_sanitizeMstatus_kept _ (by decide), BitVec.getLsbD_or,
          show MstatusBits.fsDirty.getLsbD 14 = true by decide, Bool.or_true]
    rw [show MstatusBits.fsDirty = MstatusBits.fs from rfl, and_eq_mask_iff]
    intro i set
    by_cases inside : i < 64
    · rw [(Status.getLsbD_mask i inside).2.2, decide_eq_true_eq] at set
      exact bit i set
    · rw [BitVec.getLsbD_of_ge _ i (by omega)] at set
      cases set
  exact ⟨fs, fixed.2.1.mpr fs⟩

theorem floatingPoint_of_return {state next : CpuSnapshot}
    (returned : executeMret state = some next ∨ executeSret state = some next) :
    next.floatingPoint = state.floatingPoint := by
  obtain returned | returned := returned
  · unfold executeMret at returned
    dsimp only at returned
    split at returned
    · cases returned
    split at returned
    · cases returned
    · cases returned
      rfl
  · unfold executeSret at returned
    dsimp only at returned
    split at returned
    · cases returned
    · cases returned
      rfl

/-- An instruction that asks for no floating-point result leaves the state alone. -/
theorem floatingPoint_commitRegisters {state : CpuSnapshot} {decoded : DecodedInstruction}
    {outcome : Outcome} (allowed : outcome.Allowed state decoded)
    (value : outcome.floatingRegisterValue = none) (flags : outcome.floatingExceptionFlags = 0) :
    (commitRegisters state decoded outcome).floatingPoint = state.floatingPoint := by
  have started : (outcome.privilegedState.getD state).floatingPoint = state.floatingPoint := by
    cases returns : outcome.privilegedState with
    | none => rfl
    | some next => exact floatingPoint_of_return (allowed.returns next returns).1
  have written : ∀ (rd : RegisterIndex) (value : Option Xlen) (state : CpuSnapshot),
      (commitRegister rd value state).floatingPoint = state.floatingPoint := by
    intro rd value state
    unfold commitRegister
    split
    · split <;> rfl
    · rfl
  simp only [commitRegisters, retire, value, flags, commitFloatingRegister, commitFloatingFlags,
    ne_eq, not_true_eq_false, if_false, CpuSnapshot.onHart, written, started]

theorem tracked_commitRegisters {state : CpuSnapshot} (decoded : DecodedInstruction)
    {outcome : Outcome} (noReturn : outcome.privilegedState = none) :
    Tracked state (commitRegisters state decoded outcome) := by
  have first : Tracked state (commitRegister decoded.rd outcome.registerValue state) := by
    unfold commitRegister
    split
    · split <;> exact .inl ⟨rfl, rfl⟩
    · exact .inl ⟨rfl, rfl⟩
  have second : ∀ other, Tracked other
      (commitFloatingRegister decoded.rd outcome.floatingRegisterValue other) := by
    intro other
    unfold commitFloatingRegister
    split
    · exact .inr (dirty_markFloatingPointDirty _)
    · exact .inl ⟨rfl, rfl⟩
  have third : ∀ other, Tracked other
      (commitFloatingFlags outcome.floatingExceptionFlags other) := by
    intro other
    unfold commitFloatingFlags
    split
    · exact .inr (dirty_markFloatingPointDirty _)
    · exact .inl ⟨rfl, rfl⟩
  have last : ∀ other, Tracked other (retire outcome other) := fun other => .inl ⟨rfl, rfl⟩
  unfold commitRegisters
  rw [noReturn, Option.getD_none]
  exact ((first.trans (second _)).trans (third _)).trans (last _)

/-- A CSR write reaches the floating-point state only by one of its three names. -/
theorem floatingPoint_writeValidated (state : CpuSnapshot) (address : CsrAddress) (value : Xlen) :
    (CsrFile.writeValidated state address value).floatingPoint = state.floatingPoint ∨
      CsrFile.floatingCsr address = true ∧ (CsrFile.writeValidated state address value).Dirty := by
  unfold CsrFile.writeValidated
  split
  case h_1 | h_2 | h_3 => exact .inr ⟨by decide, dirty_markFloatingPointDirty _⟩
  case h_13 =>
    dsimp only
    split <;> exact .inl rfl
  all_goals exact .inl rfl

theorem enabled_of_validateWrite {state : CpuSnapshot} {address : CsrAddress}
    {privilege : PrivilegeMode} (floating : CsrFile.floatingCsr address = true)
    (ready : CsrFile.validateWrite state address privilege = .ready) :
    floatingPointEnabled state = true := by
  unfold CsrFile.validateWrite at ready
  split at ready
  · cases ready
  · rename_i permitted
    simp only [CsrFile.accessDenied, floating, Bool.true_and, Bool.or_eq_true,
      Bool.not_eq_true', not_or] at permitted
    simpa using permitted.2

/-- A retired instruction that changes the floating-point state found the unit on, and
leaves it dirty. -/
theorem dirty_commit {state : CpuSnapshot} {decoded : DecodedInstruction} {outcome : Outcome}
    (allowed : outcome.Allowed state decoded) (floating : outcome.Floating state decoded)
    (changed : (commit state decoded outcome).floatingPoint ≠ state.floatingPoint) :
    floatingPointEnabled state = true ∧ (commit state decoded outcome).Dirty := by
  by_cases touched : outcome.floatingRegisterValue ≠ none ∨ outcome.floatingExceptionFlags ≠ 0
  · obtain ⟨enabled, noWrite⟩ := floating.enabled touched
    have noReturn : outcome.privilegedState = none := by
      cases returns : outcome.privilegedState with
      | none => rfl
      | some next =>
        obtain ⟨_, alone⟩ := allowed.returns next returns
        rw [alone] at touched
        simp at touched
    have same : commit state decoded outcome = commitRegisters state decoded outcome := by
      rw [commit, noWrite, commitCsr]
    rw [same] at changed ⊢
    have tracked : Tracked state (commitRegisters state decoded outcome) :=
      tracked_commitRegisters decoded noReturn
    obtain ⟨kept, _⟩ | dirty := tracked
    · exact absurd kept changed
    · exact ⟨enabled, dirty⟩
  · obtain ⟨value, flags⟩ : outcome.floatingRegisterValue = none ∧
        outcome.floatingExceptionFlags = 0 := by simpa using touched
    have kept := floatingPoint_commitRegisters allowed value flags
    unfold commit commitCsr at changed ⊢
    split at changed
    · rename_i address written csrWrite
      obtain same | ⟨named, dirty⟩ := floatingPoint_writeValidated
        (commitRegisters state decoded outcome) address written
      · exact absurd (same.trans kept) changed
      · exact ⟨enabled_of_validateWrite named (allowed.writes address written csrWrite).1, dirty⟩
    · exact absurd kept changed

/-- The register that a floating-point result is written to, and no other. -/
theorem floatingRegisters_commit {state : CpuSnapshot} {decoded : DecodedInstruction}
    {outcome : Outcome} {value : Xlen} (result : outcome.floatingRegisterValue = some value)
    (noWrite : outcome.csrWrite = none) (noReturn : outcome.privilegedState = none) :
    (commit state decoded outcome).floatingPoint.registers =
      Function.update state.floatingPoint.registers decoded.rd value := by
  have flags : ∀ (flags : BitVec 8) (state : CpuSnapshot),
      (commitFloatingFlags flags state).floatingPoint.registers =
        state.floatingPoint.registers := by
    intro flags state
    unfold commitFloatingFlags
    split <;> rfl
  have written : ∀ (rd : RegisterIndex) (value : Option Xlen) (state : CpuSnapshot),
      (commitRegister rd value state).floatingPoint = state.floatingPoint := by
    intro rd value state
    unfold commitRegister
    split
    · split <;> rfl
    · rfl
  simp only [commit, noWrite, commitCsr, commitRegisters, retire, CpuSnapshot.onHart, flags,
    commitFloatingRegister, result, noReturn, Option.getD_none, markFloatingPointDirty,
    CpuSnapshot.setMstatus, CpuSnapshot.setFloatingRegister, written]

section

variable [SoftFloat] [CpuBus β]

/-- The state of the unit is tracked by every step: what changes it needs FS and leaves it
Dirty, what needs FS is illegal without it, and single-precision results are boxed. -/
theorem floatingState_tracked {core : Core β} (reachable : core.Reachable) (irqLines : IrqLines) :
    ((core.step irqLines).2.state.floatingPoint ≠ core.state.floatingPoint →
      (core.state.machineCsrs.mstatus &&& MstatusBits.fs) ≠ 0 ∧
        (core.step irqLines).2.state.Dirty) ∧
    ∀ instruction decoded fabric, core.Runs irqLines →
      fetch core.executionMode (Core.awake core.state irqLines) core.fabric =
        (.ok (instruction, decoded), fabric) →
      ((core.state.machineCsrs.mstatus &&& MstatusBits.fs) = 0 → decoded.usesFloating = true →
        (core.step irqLines).1.status = .trapTaken ∧
          (core.step irqLines).2.state = takeTrap (Core.awake core.state irqLines)
            { cause := .illegalInstruction
              exceptionPc := core.state.pc
              trapValue := instruction.setWidth 64 } ∧
          (core.step irqLines).2.state.floatingPoint = core.state.floatingPoint) ∧
      (decoded.kind.singleResult = true → (core.step irqLines).1.status = .retired →
        ∃ value, NanBoxed value ∧
          (core.step irqLines).2.state.floatingPoint.registers =
            Function.update core.state.floatingPoint.registers decoded.rd value) := by
  have wellFormed := Core.WellFormed.of_reachable reachable
  have awake := wellFormed_awake wellFormed.state irqLines
  have allowed := (ensures_runInstruction awake core.executionMode core.fabric
    wellFormed.fabric).1
  have enabled : floatingPointEnabled (Core.awake core.state irqLines) = true ↔
      (core.state.machineCsrs.mstatus &&& MstatusBits.fs) ≠ 0 := by
    have same : (Core.awake core.state irqLines).machineCsrs.mstatus =
      core.state.machineCsrs.mstatus := rfl
    rw [floatingPointEnabled, same]
    simp [flag]
  refine ⟨fun changed => ?_, fun instruction decoded fabric runs fetched => ⟨?_, ?_⟩⟩
  · have stepped := core.stepped irqLines
    generalize core.step irqLines = ended at stepped changed ⊢
    cases stepped with
    | waited => exact absurd rfl changed
    | interrupted pending => exact absurd rfl changed
    | trapped trap fabric stopped => exact absurd rfl changed
    | retired instruction decoded outcome fabric returned =>
      have floating := yields_runInstruction core.executionMode
        (Core.awake core.state irqLines) core.fabric trivial
      rw [returned] at allowed floating
      obtain ⟨on, dirty⟩ := dirty_commit (allowed _ rfl).2.2 (floating.1 _ rfl) changed
      exact ⟨enabled.mp on, dirty⟩
  · intro off uses
    have off : floatingPointEnabled (Core.awake core.state irqLines) = false :=
      Bool.eq_false_iff.mpr fun on => enabled.mp on off
    have run := runInstruction_fetched awake.pc fetched (valid_of_usesFloating uses)
    rw [execute_disabled off uses] at run
    obtain ⟨status, _, state⟩ := runs.step_stopped run
    refine ⟨status, state, ?_⟩
    rw [state]
    rfl
  · intro single retired
    have run := runInstruction_fetched awake.pc fetched
      (valid_of_usesFloating (usesFloating_of_singleResult single))
    rcases ended : execute core.executionMode (Core.awake core.state irqLines) instruction decoded
      fabric with ⟨⟨trap⟩ | ⟨outcome⟩, after⟩
    · rw [Exec.bind_error ended] at run
      rw [(runs.step_stopped run).1] at retired
      cases retired
    · rw [Exec.bind_ok ended] at run
      have floating := (yields_execute core.executionMode (Core.awake core.state irqLines)
        instruction decoded fabric trivial).1 outcome (by rw [ended])
      obtain ⟨value, result, boxed⟩ := floating.boxed single
      split at run
      · rw [(runs.step_stopped run).1] at retired
        cases retired
      · obtain ⟨_, noWrite⟩ := floating.enabled (.inl (by simp [result]))
        have noReturn : outcome.privilegedState = none := by
          rw [run] at allowed
          cases returns : outcome.privilegedState with
          | none => rfl
          | some next =>
            have alone : outcome = _ := ((allowed _ rfl).2.2.returns next returns).2
            rw [alone] at result
            cases result
        refine ⟨value, boxed, ?_⟩
        rw [(runs.step_returned run).2.2]
        exact floatingRegisters_commit result noWrite noReturn

end

section

attribute [local instance] SoftFloat.unused

/-- With FS Off, as after a reset, `flw f1, 0(x0)` is illegal. -/
def Core.sampleFloating : Core (Platform.SystemBus Platform.Ram) :=
  .new (.ofProgram 0x80000000 0x1000 [0x00002087])

theorem floatingState_tracked_sample :
    (Core.sampleFloating.step {}).1.status = .trapTaken ∧
      (Core.sampleFloating.step {}).2.state.floatingPoint =
        Core.sampleFloating.state.floatingPoint := by
  have reachable : Core.sampleFloating.Reachable := .new _
  obtain ⟨status, _, kept⟩ := ((floatingState_tracked reachable {}).2 0x00002087
    (decodeFetched 0x00002087) _ ⟨by decide, by decide⟩ rfl).1 (by decide) (by decide)
  exact ⟨status, kept⟩

end

end RvEmulator.Core64
