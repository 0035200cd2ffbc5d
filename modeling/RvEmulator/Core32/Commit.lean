import Mathlib.Data.Nat.Init
import RvEmulator.Core32.Dispatch
import RvEmulator.Core32.Status

/-! The commits that the units of the 32-bit core leave pending: each is accepted, and
keeps the state well-formed. -/

namespace RvEmulator.Core32

open Library

abbrev WellFormedState (state : CpuSnapshot) : Prop :=
  Hart.WellFormed sanitizeMstatus sanitizeSatp state

/-! ### CSR writes -/

theorem supportedMasks :
    Within (InterruptBits.supervisor : Xlen) InterruptBits.supported ∧
      Within (InterruptBits.supervisorWritablePending : Xlen) InterruptBits.supported := by
  decide

/-- Only machine mode may write `mstatus` itself. -/
theorem machine_of_validateWrite {state : CpuSnapshot} {privilege : PrivilegeMode}
    (ready : CsrFile.validateWrite state CsrAddress.mstatus privilege = .ready) :
    privilege = .machine := by
  cases privilege with
  | machine => rfl
  | user | supervisor => cases ready

section

variable {state : CpuSnapshot}

/-- A sanitized `mstatus` with the MPRV bit of the old one. -/
theorem wellFormed_setMstatus (wellFormed : WellFormedState state) (value : Xlen)
    (mprv : state.privilege ≠ .machine → value.getLsbD 17 = false) :
    WellFormedState (CsrFile.onMachine state ({ · with mstatus := sanitizeMstatus value })) :=
  { wellFormed with
    mstatus := lawfulStatus.idempotent value
    mprv := fun below => (lawfulStatus.mprv value).trans (mprv below) }

/-- Every CSR write goes through a sanitizer or a mask. -/
theorem wellFormed_writeValidated (wellFormed : WellFormedState state) (address : CsrAddress)
    (value : Xlen) (permitted : address = CsrAddress.mstatus → state.privilege = .machine) :
    WellFormedState (CsrFile.writeValidated state address value) := by
  have even : BitEven (value &&& ~~~1) := Hart.even_clearBit (by decide) value
  unfold CsrFile.writeValidated
  split
  case h_1 =>
    refine wellFormed_setMstatus wellFormed
      ((state.machineCsrs.mstatus &&& ~~~MstatusBits.supervisorView) |||
        (value &&& MstatusBits.supervisorView)) ?_
    intro below
    rw [BitVec.getLsbD_or, BitVec.getLsbD_and, BitVec.getLsbD_and, wellFormed.mprv below,
      show MstatusBits.supervisorView.getLsbD 17 = false by decide, Bool.false_and, Bool.and_false,
      Bool.or_false]
  case h_2 =>
    exact { wellFormed with
      mie := wellFormed.mie.replace ((Within.and _ _).trans supportedMasks.1) }
  case h_3 => exact { wellFormed with stvec := sanitizeMtvec_mode value }
  case h_6 => exact { wellFormed with sepc := even }
  case h_9 =>
    exact { wellFormed with
      mipSoftware := wellFormed.mipSoftware.replace ((Within.and _ _).trans supportedMasks.2) }
  case h_10 => exact { wellFormed with satp := sanitizeSatp_idempotent value }
  case h_11 => exact wellFormed_setMstatus wellFormed value fun below => absurd (permitted rfl) below
  case h_13 => exact { wellFormed with medeleg := Within.and _ _ }
  case h_14 => exact { wellFormed with mideleg := Within.and _ _ }
  case h_15 => exact { wellFormed with mie := Within.and _ _ }
  case h_19 => exact { wellFormed with mtvec := sanitizeMtvec_mode value }
  case h_21 => exact { wellFormed with mepc := even }
  case h_24 => exact { wellFormed with mipSoftware := (Within.and _ _).trans supportedMasks.1 }
  all_goals exact { wellFormed with }

end

/-! ### What the units leave pending -/

/-- A commit that an instruction may ask for. Without a return its CSR write has passed
its check; a return writes nothing but the privilege and the status. -/
structure Allowed (state : CpuSnapshot) (pending : PendingCommit) : Prop where
  even : WellFormedState state → BitEven pending.nextPc
  acceptable : acceptable state pending = true
  returns : pending.privilegeWrite.enabled = true →
    pending.registerWrite = {} ∧ ∃ target value,
      pending.privilegeWrite = { enabled := true, value := PrivilegeMode.code 8 target } ∧
        (pending.csrWrite = { enabled := true, address := CsrAddress.mstatus, value } ∨
          pending.csrWrite = { enabled := true, address := CsrAddress.sstatus, value } ∧
            target ≠ .machine)

section

variable {state : CpuSnapshot} {decoded : DecodedInstruction}

/-- A commit without a return, whose register is one of the 32. -/
theorem allowed_plain {pending : PendingCommit} (ready : pending.ready = true)
    (here : pending.pc = state.pc) (even : WellFormedState state → BitEven pending.nextPc)
    (register : pending.registerWrite.enabled = true → pending.registerWrite.index.toNat < 32)
    (stays : pending.privilegeWrite = {})
    (csr : pending.csrWrite.enabled = true →
      CsrFile.validateWrite state pending.csrWrite.address state.privilege = .ready) :
    Allowed state pending where
  even := even
  acceptable := by
    unfold acceptable
    rw [ready, here, stays]
    cases registers : pending.registerWrite.enabled <;> cases csrs : pending.csrWrite.enabled <;>
      simp_all
  returns := by
    rw [stays]
    intro enabled
    cases enabled

theorem index_writeRd (decoded : DecodedInstruction) :
    (decoded.rd.setWidth 32 : BitVec 32).toNat < 32 := by
  have bounded := decoded.rd.isLt
  rw [BitVec.toNat_setWidth]
  omega

theorem even_sequential (fetched : Fetched instruction decoded) (wellFormed : WellFormedState state) :
    BitEven (sequential decoded state.pc).nextPc := by
  have length := length_decodeFetched instruction
  rw [← fetched.decodes] at length
  exact wellFormed.pc.add length

/-- A commit that falls through, with at most a write of `rd`. -/
theorem allowed_sequential (fetched : Fetched instruction decoded) (registerWrite : RegisterWrite)
    (target : registerWrite.enabled = true → registerWrite.index = decoded.rd.setWidth 32)
    (waits : Bool) :
    Allowed state { sequential decoded state.pc with registerWrite, waitForInterrupt := waits } := by
  refine allowed_plain rfl rfl (even_sequential fetched) ?_ rfl (fun enabled => by cases enabled)
  intro enabled
  have same : registerWrite.index = _ := target enabled
  dsimp only
  rw [same]
  exact index_writeRd decoded

theorem allowed_integer (fetched : Fetched instruction decoded) {rs1 rs2 : Xlen}
    (ready : (executeDecoded decoded state.pc rs1 rs2).ready = true) :
    Allowed state (executeDecoded decoded state.pc rs1 rs2) := by
  generalize outcome : executeDecoded decoded state.pc rs1 rs2 = pending at ready ⊢
  unfold executeDecoded at outcome
  rw [fetched.valid, if_neg (by decide)] at outcome
  cases computed : integerValue decoded rs1 rs2 with
  | some value =>
    rw [computed] at outcome
    subst outcome
    exact allowed_sequential fetched (writeRd decoded value) (fun _ => rfl) false
  | none =>
    rw [computed] at outcome
    dsimp only at outcome
    split at outcome
    · subst outcome
      exact allowed_sequential fetched {} (fun enabled => by cases enabled) false
    · subst outcome
      exact allowed_sequential fetched {} (fun enabled => by cases enabled) false
    all_goals
      subst outcome
      cases ready

theorem even_of_checked {target : Xlen} (checked : ¬(target &&& 0x1) ≠ 0) : BitEven target :=
  (BitEven.mask_one (by decide)).mpr (not_not.mp checked)

theorem allowed_controlFlow (fetched : Fetched instruction decoded) {rs1 rs2 : Xlen}
    {pending : PendingCommit}
    (answered : executeControlFlow decoded state.pc rs1 rs2 = .ready pending) :
    Allowed state pending := by
  -- a taken jump goes to a target that has been found even
  have jump {target : Xlen} {registerWrite : RegisterWrite}
      (register : registerWrite.index = decoded.rd.setWidth 32)
      (taken : (if (target &&& 0x1) ≠ 0 then
          UnitResult.raise .instructionAddressMisaligned target .none
        else .ready { sequential decoded state.pc with nextPc := target, registerWrite }) =
          .ready pending) : Allowed state pending := by
    split at taken
    · cases taken
    · rename_i checked
      cases taken
      refine allowed_plain rfl rfl (fun _ => even_of_checked checked) ?_ rfl
        (fun enabled => by cases enabled)
      intro _
      dsimp only
      rw [register]
      exact index_writeRd decoded
  unfold executeControlFlow at answered
  dsimp only at answered
  split at answered
  · cases answered
    exact allowed_sequential fetched (writeRd decoded _) (fun _ => rfl) false
  · exact jump rfl answered
  · exact jump rfl answered
  case h_10 => cases answered
  all_goals
    rw [ite_eq_iff] at answered
    rcases answered with ⟨_, taken⟩ | ⟨_, falls⟩
    · exact jump rfl taken
    · cases falls
      exact allowed_sequential fetched { index := decoded.rd.setWidth 32 } (fun _ => rfl) false

theorem validateWrite_sstatus (above : state.privilege ≠ .user) :
    CsrFile.validateWrite state CsrAddress.sstatus state.privilege = .ready := by
  cases privilege : state.privilege with
  | user => exact absurd privilege above
  | supervisor | machine => rfl

theorem allowed_privileged (fetched : Fetched instruction decoded) {pending : PendingCommit}
    (answered : executePrivileged decoded state = .ready pending) : Allowed state pending := by
  unfold executePrivileged at answered
  dsimp only at answered
  split at answered
  · split at answered
    · cases answered
    · cases answered
      exact allowed_sequential fetched {} (fun enabled => by cases enabled) false
  · split at answered
    · cases answered
    · cases answered
      exact allowed_sequential fetched {} (fun enabled => by cases enabled) true
  · split at answered
    · cases answered
    split at answered
    · cases answered
    · rename_i machine _ target _
      rw [not_not] at machine
      cases answered
      refine ⟨fun wellFormed => wellFormed.mepc, ?_, fun _ => ⟨rfl, target, _, rfl, .inl rfl⟩⟩
      have ready : CsrFile.validateWrite state CsrAddress.mstatus state.privilege = .ready := by
        rw [machine]
        rfl
      unfold acceptable
      simp [PendingCommit.ready, sequential, PrivilegeMode.ofCode_code, ready]
  · split at answered
    · cases answered
    · rename_i permitted
      cases answered
      refine ⟨fun wellFormed => wellFormed.sepc, ?_, fun _ => ⟨rfl, supervisorPreviousPrivilege _, _,
        rfl, .inr ⟨rfl, ?_⟩⟩⟩
      · have above : state.privilege ≠ .user := by
          intro user
          simp [supervisorTrapped, user] at permitted
        unfold acceptable
        simp [PendingCommit.ready, sequential, PrivilegeMode.ofCode_code,
          validateWrite_sstatus above]
      · unfold supervisorPreviousPrivilege
        split <;> decide
  · cases answered

theorem allowed_csr (fetched : Fetched instruction decoded) {time : BitVec 64} {rs1 : Xlen}
    {pending : PendingCommit} (answered : executeCsr decoded state time rs1 = .ready pending) :
    Allowed state pending := by
  unfold executeCsr at answered
  dsimp only at answered
  split at answered
  · cases answered
  split at answered
  · cases answered
  rename_i checked
  split at answered
  · cases answered
  · cases answered
    refine allowed_plain rfl rfl (even_sequential fetched) (fun _ => index_writeRd decoded) rfl ?_
    intro enabled
    have required : csrWriteRequired decoded = true := enabled
    have ready : CsrFile.validateWrite state decoded.csr state.privilege = .ready := by
      simpa [required] using checked
    exact ready

/-- Whatever the dispatch leaves pending is accepted. -/
theorem allowed_of_dispatched (fetched : Fetched instruction decoded) {pending : PendingCommit}
    (dispatched : Dispatched state decoded pending) : Allowed state pending := by
  cases dispatched with
  | integer ready => exact allowed_integer fetched ready
  | privileged answered => exact allowed_privileged fetched answered
  | controlFlow answered => exact allowed_controlFlow fetched answered
  | csr time answered => exact allowed_csr fetched answered
  | loaded value _ => exact allowed_sequential fetched (writeRd decoded value) (fun _ => rfl) false
  | stored _ => exact allowed_sequential fetched {} (fun enabled => by cases enabled) false

/-! ### The commit -/

theorem wellFormed_commitRegister (wellFormed : WellFormedState state) {write : RegisterWrite}
    (inside : write.enabled = true → write.index.toNat < 32) :
    WellFormedState (commitRegister write state) := by
  unfold commitRegister
  split
  · rename_i writes
    rw [Bool.and_eq_true, bne_iff_ne] at writes
    obtain ⟨enabled, nonzero⟩ := writes
    refine wellFormed.setRegister ?_
    intro zero
    exfalso
    apply nonzero
    have small := inside enabled
    have low := congrArg BitVec.toNat zero
    rw [BitVec.toNat_setWidth, Nat.mod_eq_of_lt small] at low
    exact BitVec.eq_of_toNat_eq low
  · exact wellFormed

theorem wellFormed_retire (wellFormed : WellFormedState state) {pending : PendingCommit}
    (even : BitEven pending.nextPc) : WellFormedState (retire pending state) := by
  have cleared : WellFormedState (state.setRegister 0 0) := wellFormed.setRegister fun _ => rfl
  exact { cleared with pc := even }

theorem privilege_commitRegister (write : RegisterWrite) (state : CpuSnapshot) :
    (commitRegister write state).privilege = state.privilege := by
  unfold commitRegister
  split <;> rfl

/-- The facts that the checks of `commit_pending` establish. -/
theorem of_acceptable {pending : PendingCommit} (accepted : acceptable state pending = true) :
    (pending.registerWrite.enabled = true → pending.registerWrite.index.toNat < 32) ∧
      (pending.csrWrite.enabled = true →
        CsrFile.validateWrite state pending.csrWrite.address state.privilege = .ready) := by
  unfold acceptable at accepted
  simp only [Bool.and_eq_true, Bool.not_eq_true', Bool.and_eq_false_iff, decide_eq_false_iff_not,
    bne_eq_false_iff_eq] at accepted
  obtain ⟨⟨⟨_, register⟩, _⟩, csr⟩ := accepted
  constructor
  · intro enabled
    rcases register with disabled | inside
    · rw [enabled] at disabled
      cases disabled
    · omega
  · intro enabled
    rcases csr with disabled | ready
    · rw [enabled] at disabled
      cases disabled
    · exact ready

theorem wellFormed_stay (wellFormed : WellFormedState state) {pending : PendingCommit}
    (allowed : Allowed state pending) (stays : pending.privilegeWrite.enabled = false) :
    WellFormedState (applyCommit pending state) := by
  obtain ⟨register, csr⟩ := of_acceptable allowed.acceptable
  have retired := wellFormed_retire (wellFormed_commitRegister wellFormed register)
    (allowed.even wellFormed)
  unfold applyCommit commitMprv commitPrivilege
  rw [stays, Bool.false_and, if_neg (by decide), if_neg (by decide)]
  unfold commitCsr
  split
  · rename_i enabled
    refine wellFormed_writeValidated retired _ _ ?_
    intro status
    have privilege : (retire pending (commitRegister pending.registerWrite state)).privilege =
        state.privilege := privilege_commitRegister _ _
    rw [privilege]
    exact machine_of_validateWrite (status ▸ csr enabled)
  · exact retired

/-- A return leaves machine mode without MPRV, although it has written the privilege
before the status. -/
theorem wellFormed_returns (wellFormed : WellFormedState state) {pending : PendingCommit}
    (even : BitEven pending.nextPc) (target : PrivilegeMode) {status : Xlen}
    (sanitized : sanitizeMstatus status = status)
    (mprv : target ≠ .machine → status.getLsbD 17 = false) :
    WellFormedState
      (CsrFile.onMachine (retire pending { state with privilege := target })
        ({ · with mstatus := status })) := by
  have cleared : WellFormedState (state.setRegister 0 0) := wellFormed.setRegister fun _ => rfl
  exact { cleared with
    pc := even
    mstatus := sanitized
    mprv := mprv }

theorem wellFormed_applyCommit (wellFormed : WellFormedState state) {pending : PendingCommit}
    (allowed : Allowed state pending) : WellFormedState (applyCommit pending state) := by
  cases returns : pending.privilegeWrite.enabled with
  | false => exact wellFormed_stay wellFormed allowed returns
  | true =>
    obtain ⟨noRegister, target, value, privilege, csr⟩ := allowed.returns returns
    have cleared (status : Xlen) :
        (sanitizeMstatus status &&& ~~~MstatusBits.mprv).getLsbD 17 = false := by
      rw [BitVec.getLsbD_and]
      simp [MstatusBits.mprv]
    have fixed (status : Xlen) := Status.sanitizeMstatus_idempotent status
    have even := allowed.even wellFormed
    have register : commitRegister pending.registerWrite state = state := by
      rw [noRegister]
      rfl
    have entered : commitPrivilege pending.privilegeWrite state =
        { state with privilege := target } := by
      rw [privilege]
      unfold commitPrivilege
      rw [if_pos rfl, PrivilegeMode.ofCode_code (by decide)]
      rfl
    unfold applyCommit commitMprv
    rw [register, entered, privilege]
    have machine : (target.code 8 != PrivilegeMode.machine.code 8) = true ↔ target ≠ .machine := by
      cases target <;> decide
    simp only [Bool.true_and, machine]
    rcases csr with mret | ⟨sret, below⟩
    · rw [mret]
      by_cases stays : target = .machine
      · rw [if_neg (not_not.mpr stays)]
        exact wellFormed_returns wellFormed even target (fixed value) fun other => absurd stays other
      · rw [if_pos stays]
        exact wellFormed_returns wellFormed even target
          (Status.sanitizeMstatus_clear_mprv (fixed value)) fun _ => cleared value
    · rw [sret, if_pos below]
      exact wellFormed_returns wellFormed even target
        (Status.sanitizeMstatus_clear_mprv (fixed _)) fun _ => cleared _

end

end RvEmulator.Core32
