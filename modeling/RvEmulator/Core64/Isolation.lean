import RvEmulator.Core64.WellFormed

/-! Privilege isolation: what one step of an unprivileged or supervisor program
can do to the privileged state, and how privilege is gained. -/

namespace RvEmulator.Core64

open Library

namespace Status

/-- Sanitizing a word that differs from a sanitized one only inside a mask
changes only writable bits of the mask, and SD. -/
theorem within_sanitizeMstatus {mstatus value mask : Xlen}
    (fixed : sanitizeMstatus mstatus = mstatus) (differs : Within (value ^^^ mstatus) mask)
    (mpp : mask.getLsbD 11 = false ∧ mask.getLsbD 12 = false) :
    Within (sanitizeMstatus value ^^^ mstatus)
      ((mask &&& MstatusBits.writable) ||| MstatusBits.sd) := by
  rw [within_iff] at differs ⊢
  have agree : ∀ i, mask.getLsbD i = false → value.getLsbD i = mstatus.getLsbD i := by
    intro i outside
    by_cases same : value.getLsbD i = mstatus.getLsbD i
    · exact same
    · have inside := differs i (by
        rw [BitVec.getLsbD_xor]
        cases left : value.getLsbD i <;> cases right : mstatus.getLsbD i <;> simp_all)
      rw [outside] at inside
      cases inside
  have outside : ∀ i, i = 11 ∨ i = 12 → value.getLsbD i = mstatus.getLsbD i := by
    rintro i (rfl | rfl)
    · exact agree 11 mpp.1
    · exact agree 12 mpp.2
  intro i set
  by_cases inside : i < 64
  · rw [BitVec.getLsbD_or, BitVec.getLsbD_and, (getLsbD_mask i inside).2.1]
    by_cases isLast : i = 63
    · simp [isLast]
    rw [BitVec.getLsbD_xor, getLsbD_sanitize_changed fixed outside inside, if_neg isLast] at set
    by_cases same : value.getLsbD i = mstatus.getLsbD i
    · rw [if_pos same, Bool.xor_self] at set
      cases set
    · have masked : mask.getLsbD i = true := by
        cases bit : mask.getLsbD i with
        | true => rfl
        | false => exact absurd (agree i bit) same
      have old := getLsbD_sanitizeMstatus mstatus inside
      rw [fixed, if_neg isLast] at old
      by_cases isField : i = 11 ∨ i = 12
      · exact absurd (outside i isField) same
      · rw [if_neg isField] at old
        rw [if_neg same] at set
        cases writable : MstatusBits.writable.getLsbD i with
        | true => rw [masked]; rfl
        | false =>
          rw [old, writable] at set
          simp at set
  · rw [BitVec.getLsbD_of_ge _ i (by omega)] at set
    cases set

end Status

/-- What a retired step of a user program may change in the privileged state:
the sampled lines, and FS with SD, which become Dirty. -/
structure UserStep (before after : CpuSnapshot) : Prop where
  privilege : after.privilege = before.privilege
  hartId : after.hartId = before.hartId
  supervisor : after.supervisorCsrs = before.supervisorCsrs
  machine : after.machineCsrs =
    { before.machineCsrs with
      mipLines := after.machineCsrs.mipLines
      mstatus := after.machineCsrs.mstatus }
  mstatus : after.machineCsrs.mstatus = before.machineCsrs.mstatus ∨
    after.machineCsrs.mstatus =
      before.machineCsrs.mstatus ||| (MstatusBits.fs ||| MstatusBits.sd)

namespace UserStep

theorem refl (state : CpuSnapshot) : UserStep state state :=
  ⟨rfl, rfl, rfl, rfl, .inl rfl⟩

theorem trans {before middle after : CpuSnapshot} (first : UserStep before middle)
    (second : UserStep middle after) : UserStep before after where
  privilege := second.privilege.trans first.privilege
  hartId := second.hartId.trans first.hartId
  supervisor := second.supervisor.trans first.supervisor
  machine := by
    have outer := second.machine
    rw [first.machine] at outer
    exact outer
  mstatus := by
    rcases first.mstatus with same | dirty
    · rw [← same]
      exact second.mstatus
    · right
      rcases second.mstatus with same | again
      · rw [same, dirty]
      · rw [again, dirty, BitVec.or_assoc, BitVec.or_self]

/-- Any change of the floating-point state, with the unit marked dirty. -/
theorem floating {state : CpuSnapshot} (wellFormed : state.WellFormed)
    (floatingPoint : FloatingPointState) :
    UserStep state (markFloatingPointDirty { state with floatingPoint }) :=
  ⟨rfl, rfl, rfl, rfl, .inr (Status.sanitizeMstatus_dirty wellFormed.mstatus)⟩

end UserStep

/-- The part of the commit before the CSR write touches nothing privileged but
FS and SD, unless the instruction is a return. -/
theorem userStep_commitRegisters {state : CpuSnapshot} (wellFormed : state.WellFormed)
    (decoded : DecodedInstruction) {outcome : Outcome} (noReturn : outcome.privilegedState = none) :
    UserStep state (commitRegisters state decoded outcome) := by
  have first : UserStep state (commitRegister decoded.rd outcome.registerValue state) := by
    unfold commitRegister
    split
    · split
      · exact ⟨rfl, rfl, rfl, rfl, .inl rfl⟩
      · exact .refl _
    · exact .refl _
  have second : ∀ {other : CpuSnapshot}, other.WellFormed →
      UserStep other
        (commitFloatingRegister decoded.rd outcome.floatingRegisterValue other) := by
    intro other sanitized
    unfold commitFloatingRegister
    split
    · exact .floating sanitized _
    · exact .refl _
  have third : ∀ {other : CpuSnapshot}, other.WellFormed →
      UserStep other (commitFloatingFlags outcome.floatingExceptionFlags other) := by
    intro other sanitized
    unfold commitFloatingFlags
    split
    · exact .floating sanitized _
    · exact .refl _
  have wellFormed1 := wellFormed_commitRegister wellFormed decoded.rd outcome.registerValue
  have wellFormed2 := wellFormed_commitFloatingRegister wellFormed1 decoded.rd
    outcome.floatingRegisterValue
  unfold commitRegisters
  rw [noReturn]
  exact ((first.trans (second wellFormed1)).trans (third wellFormed2)).trans
    ⟨rfl, rfl, rfl, rfl, .inl rfl⟩

/-- A writable register below machine level is a floating-point one or, from
supervisor level up, a supervisor one. -/
theorem writable_of_validateWrite {state : CpuSnapshot} {address : CsrAddress}
    {privilege : PrivilegeMode} (below : privilege ≠ .machine)
    (ready : CsrFile.validateWrite state address privilege = .ready) :
    CsrFile.floatingCsr address = true ∨
      (privilege = .supervisor ∧ CsrFile.supervisorWritable address = true) := by
  unfold CsrFile.validateWrite at ready
  split at ready
  · cases ready
  rename_i permitted
  have allows : CsrFile.privilegeAllows address privilege = true := by
    simp only [CsrFile.accessDenied, Bool.or_eq_true, Bool.not_eq_true', not_or] at permitted
    simpa using permitted.1.1
  split at ready
  · cases ready
  split at ready
  · rename_i writable
    simp only [Bool.or_eq_true] at writable
    obtain (floating | machine) | supervisor := writable
    · exact .inl floating
    · -- machine registers carry the machine level in their address
      exfalso
      unfold CsrFile.machineWritable at machine
      split at machine
      case h_15 => cases machine
      all_goals cases privilege <;> first | exact below rfl | (revert allows; decide)
    · right
      refine ⟨?_, supervisor⟩
      cases privilege with
      | machine => exact absurd rfl below
      | supervisor => rfl
      | user =>
        exfalso
        unfold CsrFile.supervisorWritable at supervisor
        split at supervisor
        case h_11 => cases supervisor
        all_goals revert allows; decide
  · cases ready

/-- A floating-point register write marks the unit dirty, and no more. -/
theorem userStep_writeValidated {state : CpuSnapshot} (wellFormed : state.WellFormed)
    {address : CsrAddress} (floating : CsrFile.floatingCsr address = true) (value : Xlen) :
    UserStep state (CsrFile.writeValidated state address value) := by
  simp only [CsrFile.floatingCsr, Bool.or_eq_true, beq_iff_eq] at floating
  obtain (rfl | rfl) | rfl := floating
  · exact .floating wellFormed _
  · exact .floating wellFormed _
  · exact .floating wellFormed _

theorem executeMret_eq_none {state : CpuSnapshot} (below : state.privilege ≠ .machine) :
    executeMret state = none := by
  unfold executeMret
  rw [if_pos below]

theorem executeSret_eq_none {state : CpuSnapshot} (user : state.privilege = .user) :
    executeSret state = none := by
  unfold executeSret
  rw [if_pos (.inl user)]

/-- A retired user instruction stays in user mode and cannot write privileged
registers. -/
theorem userStep_commit {state : CpuSnapshot} {decoded : DecodedInstruction} {outcome : Outcome}
    (wellFormed : state.WellFormed) (wellformed : decoded.Wellformed)
    (allowed : outcome.Allowed state decoded) (user : state.privilege = .user) :
    UserStep state (commit state decoded outcome) := by
  have noReturn : outcome.privilegedState = none := by
    cases returned : outcome.privilegedState with
    | none => rfl
    | some next =>
      obtain ⟨machine | supervisor, _⟩ := allowed.returns next returned
      · rw [executeMret_eq_none (by simp [user])] at machine
        cases machine
      · rw [executeSret_eq_none user] at supervisor
        cases supervisor
  have registers := userStep_commitRegisters wellFormed decoded noReturn
  unfold commit commitCsr
  split
  · rename_i address value written
    obtain ⟨ready, _⟩ := allowed.writes address value written
    rw [user] at ready
    obtain floating | ⟨supervisor, _⟩ := writable_of_validateWrite (by decide) ready
    · refine registers.trans (userStep_writeValidated ?_ floating value)
      exact wellFormed_commitRegisters wellFormed wellformed allowed
    · cases supervisor
  · exact registers

/-- The bits of `mstatus` that supervisor software owns. -/
def MstatusBits.supervisorOwned : Xlen :=
  sie ||| spie ||| spp ||| sum ||| mxr ||| fs ||| sd

/-- What a retired step of a supervisor program may change in the machine state. -/
structure SupervisorStep (before after : CpuSnapshot) : Prop where
  medeleg : after.machineCsrs.medeleg = before.machineCsrs.medeleg
  mideleg : after.machineCsrs.mideleg = before.machineCsrs.mideleg
  mtvec : after.machineCsrs.mtvec = before.machineCsrs.mtvec
  mscratch : after.machineCsrs.mscratch = before.machineCsrs.mscratch
  mepc : after.machineCsrs.mepc = before.machineCsrs.mepc
  mcause : after.machineCsrs.mcause = before.machineCsrs.mcause
  mtval : after.machineCsrs.mtval = before.machineCsrs.mtval
  mcounteren : after.machineCsrs.mcounteren = before.machineCsrs.mcounteren
  mstatus : Within (after.machineCsrs.mstatus ^^^ before.machineCsrs.mstatus)
    (MstatusBits.supervisorOwned ||| MstatusBits.mprv)
  mprv : after.machineCsrs.mstatus.getLsbD 17 = true →
    before.machineCsrs.mstatus.getLsbD 17 = true
  mie : Within (after.machineCsrs.mie ^^^ before.machineCsrs.mie) before.machineCsrs.mideleg
  mipSoftware : Within (after.machineCsrs.mipSoftware ^^^ before.machineCsrs.mipSoftware)
    (before.machineCsrs.mideleg &&& InterruptBits.supervisorSoftware)

namespace SupervisorStep

theorem trans {before middle after : CpuSnapshot} (first : SupervisorStep before middle)
    (second : SupervisorStep middle after) : SupervisorStep before after where
  medeleg := second.medeleg.trans first.medeleg
  mideleg := second.mideleg.trans first.mideleg
  mtvec := second.mtvec.trans first.mtvec
  mscratch := second.mscratch.trans first.mscratch
  mepc := second.mepc.trans first.mepc
  mcause := second.mcause.trans first.mcause
  mtval := second.mtval.trans first.mtval
  mcounteren := second.mcounteren.trans first.mcounteren
  mstatus := first.mstatus.xor_trans second.mstatus
  mprv := fun set => first.mprv (second.mprv set)
  mie := first.mie.xor_trans (first.mideleg ▸ second.mie)
  mipSoftware := first.mipSoftware.xor_trans (first.mideleg ▸ second.mipSoftware)

/-- A change of `mstatus` alone. -/
theorem ofMstatus {before after : CpuSnapshot}
    (machine : after.machineCsrs =
      { before.machineCsrs with
        mipLines := after.machineCsrs.mipLines
        mstatus := after.machineCsrs.mstatus })
    (mstatus : Within (after.machineCsrs.mstatus ^^^ before.machineCsrs.mstatus)
      (MstatusBits.supervisorOwned ||| MstatusBits.mprv))
    (mprv : after.machineCsrs.mstatus.getLsbD 17 = true →
      before.machineCsrs.mstatus.getLsbD 17 = true) : SupervisorStep before after where
  medeleg := by rw [machine]
  mideleg := by rw [machine]
  mtvec := by rw [machine]
  mscratch := by rw [machine]
  mepc := by rw [machine]
  mcause := by rw [machine]
  mtval := by rw [machine]
  mcounteren := by rw [machine]
  mstatus := mstatus
  mprv := mprv
  mie := by
    rw [machine]
    exact Within.self_xor _ _
  mipSoftware := by
    rw [machine]
    exact Within.self_xor _ _

/-- No change of the machine state at all. -/
theorem ofMachine {before after : CpuSnapshot} (same : after.machineCsrs = before.machineCsrs) :
    SupervisorStep before after := by
  refine ofMstatus (by rw [same]) ?_ (by rw [same]; exact id)
  rw [same]
  exact Within.self_xor _ _

theorem ofUser {before after : CpuSnapshot} (step : UserStep before after) :
    SupervisorStep before after := by
  refine ofMstatus step.machine ?_ ?_
  · rcases step.mstatus with same | dirty
    · rw [same]
      exact Within.self_xor _ _
    · rw [dirty, within_iff]
      intro i set
      have owned : Within (MstatusBits.fs ||| MstatusBits.sd)
          (MstatusBits.supervisorOwned ||| MstatusBits.mprv) := by decide
      refine within_iff.mp owned i ?_
      rw [BitVec.getLsbD_xor, BitVec.getLsbD_or] at set
      cases old : before.machineCsrs.mstatus.getLsbD i with
      | false => simpa only [old, Bool.false_or, Bool.bne_false] using set
      | true => simp [old] at set
  · rcases step.mstatus with same | dirty
    · rw [same]
      exact id
    · rw [dirty, BitVec.getLsbD_or, show (MstatusBits.fs ||| MstatusBits.sd).getLsbD 17 = false by
        decide, Bool.or_false]
      exact id

end SupervisorStep

theorem within_supervisorReturnStatus (old : Xlen) :
    Within (supervisorReturnStatus old ^^^ old)
      (MstatusBits.sie ||| MstatusBits.spie ||| MstatusBits.spp ||| MstatusBits.mprv) := by
  have masks : ∀ i < 64,
      (MstatusBits.sie ||| MstatusBits.spie ||| MstatusBits.spp ||| MstatusBits.mprv : Xlen).getLsbD
        i = false →
      (MstatusBits.sie : Xlen).getLsbD i = false ∧ (MstatusBits.spie : Xlen).getLsbD i = false ∧
        (MstatusBits.spp : Xlen).getLsbD i = false ∧ (MstatusBits.mprv : Xlen).getLsbD i = false := by
    decide
  rw [within_iff]
  intro i set
  by_cases inside : i < 64
  · cases outside : (MstatusBits.sie ||| MstatusBits.spie ||| MstatusBits.spp |||
        MstatusBits.mprv : Xlen).getLsbD i with
    | true => rfl
    | false =>
      obtain ⟨noSie, noSpie, noSpp, noMprv⟩ := masks i inside outside
      unfold supervisorReturnStatus at set
      dsimp only at set
      split at set <;>
        simp [BitVec.getLsbD_xor, BitVec.getLsbD_or, BitVec.getLsbD_and, BitVec.getLsbD_not, noSie,
          noSpie, noSpp, noMprv, inside, -BitVec.getLsbD_eq_getElem] at set
  · rw [BitVec.getLsbD_of_ge _ i (by omega)] at set
    cases set

theorem supervisorStep_executeSret {state next : CpuSnapshot} (wellFormed : state.WellFormed)
    (returned : executeSret state = some next) :
    SupervisorStep state next ∧ (next.privilege = .supervisor ∨ next.privilege = .user) := by
  have kept := Status.within_sanitizeMstatus wellFormed.mstatus
    (within_supervisorReturnStatus state.machineCsrs.mstatus) (by decide)
  unfold executeSret at returned
  dsimp only at returned
  rw [wellFormed.mstatus] at returned
  split at returned
  · cases returned
  · cases returned
    refine ⟨SupervisorStep.ofMstatus rfl (kept.trans (by decide)) ?_, ?_⟩
    · intro set
      have clear := (lawfulStatus.mprv _).trans
        (supervisorReturnStatus_mprv state.machineCsrs.mstatus)
      exact absurd set (by simp only [CpuSnapshot.setMstatus, clear]; decide)
    · dsimp only
      split
      · exact .inl rfl
      · exact .inr rfl

/-- A supervisor register gives access to what its mask lets through. -/
theorem supervisorStep_writeValidated {state : CpuSnapshot} (wellFormed : state.WellFormed)
    {address : CsrAddress} (writable : CsrFile.supervisorWritable address = true) (value : Xlen) :
    SupervisorStep state (CsrFile.writeValidated state address value) ∧
      (CsrFile.writeValidated state address value).privilege = state.privilege := by
  unfold CsrFile.supervisorWritable at writable
  split at writable
  case h_1 =>
    have kept := Status.within_sanitizeMstatus wellFormed.mstatus
      (Within.xor_replace state.machineCsrs.mstatus value MstatusBits.supervisorView) (by decide)
    refine ⟨SupervisorStep.ofMstatus rfl (kept.trans (by decide)) ?_, rfl⟩
    intro set
    have bit := lawfulStatus.mprv ((state.machineCsrs.mstatus &&& ~~~MstatusBits.supervisorView) |||
      (value &&& MstatusBits.supervisorView))
    rw [BitVec.getLsbD_or, BitVec.getLsbD_and, BitVec.getLsbD_and, BitVec.getLsbD_not,
      show MstatusBits.supervisorView.getLsbD 17 = false by decide] at bit
    simp only [Bool.and_false, Bool.or_false, Bool.not_false, Bool.and_true, decide_true,
      show 17 < 64 by decide] at bit
    exact bit.symm.trans set
  case h_2 =>
    have rest : SupervisorStep state state := .ofMachine rfl
    refine ⟨{ rest with mie := (Within.xor_replace _ _ _).trans ?_ }, rfl⟩
    rw [BitVec.and_comm]
    exact Within.and _ _
  case h_9 =>
    have rest : SupervisorStep state state := .ofMachine rfl
    exact ⟨{ rest with mipSoftware := Within.xor_replace _ _ _ }, rfl⟩
  case h_10 =>
    simp only [CsrFile.writeValidated]
    split
    · exact ⟨SupervisorStep.ofMachine rfl, rfl⟩
    · exact ⟨SupervisorStep.ofMachine rfl, rfl⟩
  case h_11 => cases writable
  all_goals exact ⟨SupervisorStep.ofMachine rfl, rfl⟩

/-- A retired supervisor instruction keeps to what supervisor software owns. -/
theorem supervisorStep_commit {state : CpuSnapshot} {decoded : DecodedInstruction}
    {outcome : Outcome} (wellFormed : state.WellFormed) (wellformed : decoded.Wellformed)
    (allowed : outcome.Allowed state decoded) (supervisor : state.privilege = .supervisor) :
    SupervisorStep state (commit state decoded outcome) ∧
      ((commit state decoded outcome).privilege = .supervisor ∨
        (commit state decoded outcome).privilege = .user) := by
  cases returned : outcome.privilegedState with
  | some next =>
    obtain ⟨machine | returns, only⟩ := allowed.returns next returned
    · rw [executeMret_eq_none (by simp [supervisor])] at machine
      cases machine
    · obtain ⟨first, below⟩ := supervisorStep_executeSret wellFormed returns
      have second : UserStep next (commitRegisters next decoded { nextPc := next.pc }) :=
        userStep_commitRegisters (wellFormed_executeSret wellFormed returns) decoded rfl
      rw [only]
      refine ⟨first.trans (.ofUser second), ?_⟩
      rw [← second.privilege] at below
      exact below
  | none =>
    have registers := userStep_commitRegisters wellFormed decoded returned
    have sanitized := wellFormed_commitRegisters wellFormed wellformed allowed
    have same : (commitRegisters state decoded outcome).privilege = .supervisor :=
      registers.privilege.trans supervisor
    unfold commit commitCsr
    split
    · rename_i address value written
      obtain ⟨ready, _⟩ := allowed.writes address value written
      rw [supervisor] at ready
      obtain floating | ⟨_, writable⟩ := writable_of_validateWrite (by decide) ready
      · have last := userStep_writeValidated sanitized floating value
        exact ⟨.ofUser (registers.trans last), .inl (last.privilege.trans same)⟩
      · obtain ⟨last, kept⟩ := supervisorStep_writeValidated sanitized writable value
        exact ⟨(SupervisorStep.ofUser registers).trans last, .inl (kept.trans same)⟩
    · exact ⟨.ofUser registers, .inl same⟩

/-- The trap vector of a mode. -/
def CpuSnapshot.tvec (state : CpuSnapshot) : PrivilegeMode → Xlen
  | .machine => state.machineCsrs.mtvec
  | _ => state.supervisorCsrs.stvec

/-- The cause register of a mode. -/
def CpuSnapshot.causeRegister (state : CpuSnapshot) : PrivilegeMode → Xlen
  | .machine => state.machineCsrs.mcause
  | _ => state.supervisorCsrs.scause

/-- The program counter is where the trap vector of the current mode sends the
recorded cause. -/
def Vectored (before after : CpuSnapshot) : Prop :=
  let cause := after.causeRegister after.privilege
  after.pc =
    trapVectorAddress (before.tvec after.privilege) (cause.getLsbD 63) (cause &&& ~~~(1#64 <<< 63))

theorem vectored_takeTrap (state : CpuSnapshot) (request : TrapRequest 64) :
    Vectored state (takeTrap state request) := by
  have recorded : ∀ cause : ExceptionCause,
      (BitVec.ofNat 64 cause.code).getLsbD 63 = false ∧
        BitVec.ofNat 64 cause.code &&& ~~~(1#64 <<< 63) = BitVec.ofNat 64 cause.code := by
    intro cause
    cases cause <;> decide
  obtain ⟨exception, code⟩ := recorded request.cause
  simp only [Vectored, takeTrap, CpuSnapshot.onHart, Hart.takeTrap]
  split
  · simp only [Hart.takeSupervisorTrap, Hart.enterSupervisor, CpuSnapshot.tvec,
      CpuSnapshot.causeRegister, exception, code]
  · simp only [Hart.takeMachineTrap, Hart.enterMachine, CpuSnapshot.tvec,
      CpuSnapshot.causeRegister, exception, code]

theorem vectored_takeInterruptTrap (state : CpuSnapshot) (cause : InterruptCause) (pc : Xlen)
    (target : TrapTarget) : Vectored state (takeInterruptTrap state cause pc target) := by
  have recorded :
      ((1#64 <<< (64 - 1)) ||| BitVec.ofNat 64 cause.code).getLsbD 63 = true ∧
        ((1#64 <<< (64 - 1)) ||| BitVec.ofNat 64 cause.code) &&& ~~~(1#64 <<< 63) =
          BitVec.ofNat 64 cause.code := by
    cases cause <;> decide
  obtain ⟨interrupt, code⟩ := recorded
  unfold Vectored takeInterruptTrap CpuSnapshot.onHart Hart.takeInterruptTrap
  cases target with
  | supervisor =>
    simp only [Hart.enterSupervisor, CpuSnapshot.tvec, CpuSnapshot.causeRegister, interrupt, code]
  | machine =>
    simp only [Hart.enterMachine, CpuSnapshot.tvec, CpuSnapshot.causeRegister, interrupt, code]

theorem userStep_awake (state : CpuSnapshot) (irqLines : IrqLines) :
    UserStep state (Core.awake state irqLines) := ⟨rfl, rfl, rfl, rfl, .inl rfl⟩

/-- Privilege isolation of every single step from a reachable state. -/
theorem reachable_isolated [SoftFloat] [CpuBus β] {core next : Core β} {result : StepResult}
    (reachable : core.Reachable) (irqLines : IrqLines)
    (step : core.step irqLines = (result, next)) :
    (core.state.privilege = .user → result.status = .retired →
        next.state.privilege = .user ∧ UserStep core.state next.state) ∧
      (core.state.privilege = .supervisor → result.status = .retired →
        (next.state.privilege = .supervisor ∨ next.state.privilege = .user) ∧
          SupervisorStep core.state next.state) ∧
      (core.state.privilege.rank < next.state.privilege.rank →
        result.status = .trapTaken ∧ Vectored core.state next.state) := by
  have wellFormed := Core.WellFormed.of_reachable reachable
  have awake := wellFormed_awake wellFormed.state irqLines
  have sampled := userStep_awake core.state irqLines
  obtain ⟨allowed, _⟩ :=
    ensures_runInstruction awake core.executionMode core.fabric wellFormed.fabric
  have stepped := core.stepped irqLines
  rw [step] at stepped
  cases stepped with
  | waited =>
    refine ⟨fun _ retired => (nomatch retired), fun _ retired => (nomatch retired), ?_⟩
    exact fun gained => absurd gained (Nat.lt_irrefl _)
  | interrupted pending =>
    refine ⟨fun _ retired => (nomatch retired), fun _ retired => (nomatch retired), ?_⟩
    exact fun _ => ⟨rfl, vectored_takeInterruptTrap (Core.awake core.state irqLines) _ _ _⟩
  | trapped trap fabric stopped =>
    refine ⟨fun _ retired => (nomatch retired), fun _ retired => (nomatch retired), ?_⟩
    exact fun _ => ⟨rfl, vectored_takeTrap (Core.awake core.state irqLines) _⟩
  | retired instruction decoded outcome fabric returned =>
    rw [returned] at allowed
    obtain ⟨_, wellformed, allowed⟩ := allowed _ rfl
    have ofUser (user : core.state.privilege = .user) :=
      sampled.trans (userStep_commit awake wellformed allowed (sampled.privilege.trans user))
    have ofSupervisor (supervisor : core.state.privilege = .supervisor) :=
      supervisorStep_commit awake wellformed allowed (sampled.privilege.trans supervisor)
    refine ⟨?_, ?_, ?_⟩
    · intro user _
      exact ⟨(ofUser user).privilege.trans user, ofUser user⟩
    · intro supervisor _
      obtain ⟨kept, below⟩ := ofSupervisor supervisor
      exact ⟨below, (SupervisorStep.ofUser sampled).trans kept⟩
    · intro gained
      exfalso
      cases privilege : core.state.privilege with
      | user =>
        rw [(ofUser privilege).privilege] at gained
        exact absurd gained (Nat.lt_irrefl _)
      | supervisor =>
        obtain ⟨_, same | lower⟩ := ofSupervisor privilege
        · rw [same, privilege] at gained
          exact absurd gained (Nat.lt_irrefl _)
        · rw [lower, privilege] at gained
          exact absurd gained (by decide)
      | machine =>
        rw [privilege] at gained
        revert gained
        cases (commit (Core.awake core.state irqLines) decoded outcome).privilege <;> decide

section

attribute [local instance] SoftFloat.unused

/-- A user program's first step. -/
def Core.sampleUser : Core (Platform.SystemBus Platform.Ram) :=
  (Core.new Core.sampleBus).reset { initialPrivilege := .user }

/-- A supervisor program that returns to user mode. -/
def Core.sampleSupervisor : Core (Platform.SystemBus Platform.Ram) :=
  (Core.new (.ofProgram 0x80000000 0x1000 [0x10200073])).reset { initialPrivilege := .supervisor }

theorem reachable_isolated_sample :
    ((Core.sampleUser.step {}).1.status = .retired ∧
      UserStep Core.sampleUser.state (Core.sampleUser.step {}).2.state) ∧
    (Core.sampleSupervisor.step {}).1.status = .retired ∧
      (Core.sampleSupervisor.step {}).2.state.privilege = .user ∧
      SupervisorStep Core.sampleSupervisor.state (Core.sampleSupervisor.step {}).2.state := by
  have retired : (Core.sampleUser.step {}).1.status = .retired := by decide
  have user : Core.sampleUser.Reachable := .reset _ (.new _) (by decide)
  have returned : (Core.sampleSupervisor.step {}).1.status = .retired := by decide
  have supervisor : Core.sampleSupervisor.Reachable := .reset _ (.new _) (by decide)
  exact ⟨⟨retired, ((reachable_isolated user {} rfl).1 rfl retired).2⟩, returned,
    by decide, ((reachable_isolated supervisor {} rfl).2.1 rfl returned).2⟩

end

end RvEmulator.Core64
