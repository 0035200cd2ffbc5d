import RvEmulator.Core64.WellFormed

/-! Writes of control and status registers: what is read back, and what else changes. -/

namespace RvEmulator.Core64

open Library

namespace CsrFile

/-- The registers that can be written, but for the pending interrupts. -/
def settleable : List CsrAddress :=
  [CsrAddress.fflags, CsrAddress.frm, CsrAddress.fcsr, CsrAddress.sstatus, CsrAddress.sie,
    CsrAddress.stvec, CsrAddress.scounteren, CsrAddress.sscratch, CsrAddress.sepc,
    CsrAddress.scause, CsrAddress.stval, CsrAddress.satp, CsrAddress.mstatus, CsrAddress.misa,
    CsrAddress.medeleg, CsrAddress.mideleg, CsrAddress.mie, CsrAddress.mtvec,
    CsrAddress.mcounteren, CsrAddress.mscratch, CsrAddress.mepc, CsrAddress.mcause,
    CsrAddress.mtval, CsrAddress.mcycle, CsrAddress.minstret]

/-- The values that a register can hold. -/
def Legal (state : CpuSnapshot) (value : Xlen) : CsrAddress → Prop
  | CsrAddress.fflags => Within value 0x1F
  | CsrAddress.frm => Within value 0x7
  | CsrAddress.fcsr => Within value 0xFF
  | CsrAddress.sstatus =>
    ∃ mstatus, sanitizeMstatus mstatus = mstatus ∧ value = mstatus &&& MstatusBits.supervisorView
  | CsrAddress.sie => Within value (state.machineCsrs.mideleg &&& InterruptBits.supervisor)
  | CsrAddress.stvec | CsrAddress.mtvec => value &&& 3 ≤ 1
  | CsrAddress.scounteren | CsrAddress.mcounteren => Within value supportedCounterEnable
  | CsrAddress.sepc | CsrAddress.mepc => BitEven value
  | CsrAddress.satp => sanitizeSatp value = value
  | CsrAddress.mstatus => sanitizeMstatus value = value
  | CsrAddress.misa => value = machineIsaValue
  | CsrAddress.medeleg => Within value supportedExceptionDelegation
  | CsrAddress.mideleg => Within value supportedInterruptDelegation
  | CsrAddress.mie => Within value InterruptBits.supported
  | _ => True

/-- Forget what a register stores, and what its aliases share with it: of the status
register the bits of the supervisor's view, of the interrupt enables the delegated ones,
and with the floating-point registers that the unit is dirty. -/
def forget (state : CpuSnapshot) : CsrAddress → CpuSnapshot
  | CsrAddress.fflags => unmarked state (state.floatingPoint.fcsr &&& 0xE0)
  | CsrAddress.frm => unmarked state (state.floatingPoint.fcsr &&& 0x1F)
  | CsrAddress.fcsr => unmarked state 0
  | CsrAddress.sstatus =>
    state.setMstatus (state.machineCsrs.mstatus &&& ~~~MstatusBits.supervisorView)
  | CsrAddress.sie =>
    { state with
      machineCsrs := { state.machineCsrs with
        mie := state.machineCsrs.mie &&&
          ~~~(state.machineCsrs.mideleg &&& InterruptBits.supervisor) } }
  | CsrAddress.stvec => { state with supervisorCsrs := { state.supervisorCsrs with stvec := 0 } }
  | CsrAddress.scounteren =>
    { state with supervisorCsrs := { state.supervisorCsrs with scounteren := 0 } }
  | CsrAddress.sscratch =>
    { state with supervisorCsrs := { state.supervisorCsrs with sscratch := 0 } }
  | CsrAddress.sepc => { state with supervisorCsrs := { state.supervisorCsrs with sepc := 0 } }
  | CsrAddress.scause => { state with supervisorCsrs := { state.supervisorCsrs with scause := 0 } }
  | CsrAddress.stval => { state with supervisorCsrs := { state.supervisorCsrs with stval := 0 } }
  | CsrAddress.satp => { state with supervisorCsrs := { state.supervisorCsrs with satp := 0 } }
  | CsrAddress.mstatus => state.setMstatus 0
  | CsrAddress.medeleg => { state with machineCsrs := { state.machineCsrs with medeleg := 0 } }
  | CsrAddress.mideleg => { state with machineCsrs := { state.machineCsrs with mideleg := 0 } }
  | CsrAddress.mie => { state with machineCsrs := { state.machineCsrs with mie := 0 } }
  | CsrAddress.mtvec => { state with machineCsrs := { state.machineCsrs with mtvec := 0 } }
  | CsrAddress.mcounteren =>
    { state with machineCsrs := { state.machineCsrs with mcounteren := 0 } }
  | CsrAddress.mscratch => { state with machineCsrs := { state.machineCsrs with mscratch := 0 } }
  | CsrAddress.mepc => { state with machineCsrs := { state.machineCsrs with mepc := 0 } }
  | CsrAddress.mcause => { state with machineCsrs := { state.machineCsrs with mcause := 0 } }
  | CsrAddress.mtval => { state with machineCsrs := { state.machineCsrs with mtval := 0 } }
  | CsrAddress.mcycle => { state with cycle := 0 }
  | CsrAddress.minstret => { state with instructionsRetired := 0 }
  | _ => state
where
  /-- The rest of `fcsr`, with the bits of the status register that say that the unit is
  dirty. -/
  unmarked (state : CpuSnapshot) (fcsr : BitVec 8) : CpuSnapshot :=
    { state.setMstatus
        (state.machineCsrs.mstatus &&& ~~~(MstatusBits.fs ||| MstatusBits.sd)) with
      floatingPoint := { state.floatingPoint with fcsr } }

/-- A write has put a legal value into a register, which stays there when it is written
again; nothing else has changed. -/
structure Settled (before : CpuSnapshot) (address : CsrAddress) (after : CpuSnapshot) : Prop where
  frame : forget after address = forget before address
  stable : ∀ time, ∃ result, value? after time address = some result ∧
    Legal after result address ∧ writeValidated after address result = after

end CsrFile

/-! ### Masks -/

namespace Status

/-- The bits outside the supervisor's view stay. -/
theorem outside_view {mstatus : Xlen} (sanitized : sanitizeMstatus mstatus = mstatus)
    (value : Xlen) :
    sanitizeMstatus ((mstatus &&& ~~~MstatusBits.supervisorView) |||
        (value &&& MstatusBits.supervisorView)) &&& ~~~MstatusBits.supervisorView =
      mstatus &&& ~~~MstatusBits.supervisorView := by
  have bits : ∀ i < 64, MstatusBits.supervisorView.getLsbD i = false →
      ((mstatus &&& ~~~MstatusBits.supervisorView) |||
        (value &&& MstatusBits.supervisorView)).getLsbD i = mstatus.getLsbD i := by
    intro i inside outside
    rw [BitVec.getLsbD_or, BitVec.getLsbD_and, BitVec.getLsbD_and, BitVec.getLsbD_not, outside]
    simp [inside]
  have field : ∀ i, i = 11 ∨ i = 12 → ((mstatus &&& ~~~MstatusBits.supervisorView) |||
      (value &&& MstatusBits.supervisorView)).getLsbD i = mstatus.getLsbD i := by
    rintro i (rfl | rfl)
    · exact bits 11 (by decide) (by decide)
    · exact bits 12 (by decide) (by decide)
  apply BitVec.eq_of_getLsbD_eq
  intro i inside
  rw [BitVec.getLsbD_and, BitVec.getLsbD_and]
  by_cases outside : MstatusBits.supervisorView.getLsbD i = false
  · have inner : i ≠ 63 := by
      rintro rfl
      exact absurd outside (by decide)
    rw [getLsbD_sanitize_changed sanitized field inside, if_neg inner, if_pos (bits i inside outside)]
  · rw [BitVec.getLsbD_not, eq_true_of_ne_false outside]
    simp

theorem view_idempotent {mstatus : Xlen} (sanitized : sanitizeMstatus mstatus = mstatus) :
    sanitizeMstatus ((mstatus &&& ~~~MstatusBits.supervisorView) |||
      (mstatus &&& MstatusBits.supervisorView &&& MstatusBits.supervisorView)) = mstatus := by
  rw [BitVec.and_assoc, BitVec.and_self, ← BitVec.and_or_distrib_left, BitVec.or_comm,
    BitVec.or_not_self, BitVec.and_allOnes]
  exact sanitized

end Status

/-- Bits put under a mask, and read through it again. -/
theorem replace_again (old value mask : BitVec w) :
    let stored := (old &&& ~~~mask) ||| (value &&& mask)
    (stored &&& mask = value &&& mask ∧ stored &&& ~~~mask = old &&& ~~~mask) ∧
      (stored &&& ~~~mask) ||| (stored &&& mask &&& mask) = stored := by
  refine ⟨⟨?_, ?_⟩, ?_⟩
  · ext i inside
    simp
    grind
  · ext i inside
    simp
    grind
  · ext i inside
    simp
    grind

/-- A vector with one of the two modes is kept. -/
theorem sanitizeTvec_of_mode (value : Xlen) {mode : Xlen} (field : mode &&& 3 = mode)
    (small : mode ≤ 1) : sanitizeTvec ((value &&& ~~~3) ||| mode) = (value &&& ~~~3) ||| mode := by
  have low : ((value &&& ~~~3) ||| mode) &&& 3 = mode := by
    rw [BitVec.and_or_distrib_right, BitVec.and_assoc, show ~~~(3 : Xlen) &&& 3 = 0#64 by decide,
      BitVec.and_zero, BitVec.zero_or, field]
  have high : ((value &&& ~~~3) ||| mode) &&& ~~~3 = value &&& ~~~3 := by
    rw [BitVec.and_or_distrib_right, BitVec.and_assoc, BitVec.and_self, ← field, BitVec.and_assoc,
      show (3 : Xlen) &&& ~~~3 = 0#64 by decide, BitVec.and_zero, BitVec.or_zero]
  unfold sanitizeTvec
  dsimp only
  rw [low, high, if_pos small]

theorem sanitizeTvec_idempotent (value : Xlen) :
    sanitizeTvec (sanitizeTvec value) = sanitizeTvec value := by
  by_cases small : value &&& 3 ≤ 1
  · have kept : sanitizeTvec value = (value &&& ~~~3) ||| (value &&& 3) := by
      unfold sanitizeTvec
      dsimp only
      rw [if_pos small]
    rw [kept]
    exact sanitizeTvec_of_mode value (by rw [BitVec.and_assoc, BitVec.and_self]) small
  · have direct : sanitizeTvec value = (value &&& ~~~3) ||| 0 := by
      unfold sanitizeTvec
      dsimp only
      rw [if_neg small]
    rw [direct]
    exact sanitizeTvec_of_mode value (by decide) (by decide)

theorem sanitizeSatp_mode (value : Xlen) :
    sanitizeSatp value >>> 60 = 0 ∨ sanitizeSatp value >>> 60 = 8 := by
  unfold sanitizeSatp
  split
  · exact .inl (by decide)
  · right
    rw [BitVec.ushiftRight_or_distrib, BitVec.ushiftRight_and_distrib]
    have none : (SatpBits.asid ||| SatpBits.ppn) >>> 60 = 0#64 := by decide
    rw [none, BitVec.and_zero, BitVec.or_zero]
    decide

/-! ### The registers -/

namespace CsrFile

variable {state : CpuSnapshot}

theorem settled_plain (value : Xlen) :
    ∀ address ∈ [CsrAddress.sscratch, CsrAddress.scause, CsrAddress.stval, CsrAddress.mscratch,
      CsrAddress.mcause, CsrAddress.mtval, CsrAddress.mcycle, CsrAddress.minstret],
      Settled state address (writeValidated state address value) := by
  intro address member
  simp only [List.mem_cons, List.not_mem_nil, or_false] at member
  obtain rfl | rfl | rfl | rfl | rfl | rfl | rfl | rfl := member <;>
    exact ⟨rfl, fun _ => ⟨value, rfl, trivial, rfl⟩⟩

/-- A register of its own, which keeps what `sanitize` makes of a value. -/
theorem settled_sanitized {address : CsrAddress} (sanitize : Xlen → Xlen)
    (set : Xlen → CpuSnapshot) (value : Xlen)
    (idempotent : sanitize (sanitize value) = sanitize value)
    (writes : writeValidated state address value = set (sanitize value))
    (again : writeValidated (set (sanitize value)) address (sanitize value) =
      set (sanitize (sanitize value)))
    (frame : forget (set (sanitize value)) address = forget state address)
    (readBack : ∀ time, value? (set (sanitize value)) time address = some (sanitize value))
    (legal : Legal (set (sanitize value)) (sanitize value) address) :
    Settled state address (writeValidated state address value) := by
  rw [writes]
  refine ⟨frame, fun time => ⟨sanitize value, readBack time, legal, ?_⟩⟩
  rw [again, idempotent]

theorem masked_again (value mask : Xlen) : value &&& mask &&& mask = value &&& mask := by
  rw [BitVec.and_assoc, BitVec.and_self]

theorem settled_stvec (value : Xlen) :
    Settled state CsrAddress.stvec (writeValidated state CsrAddress.stvec value) :=
  settled_sanitized sanitizeTvec
    (fun stvec => { state with supervisorCsrs := { state.supervisorCsrs with stvec } }) value
    (sanitizeTvec_idempotent value) rfl rfl rfl (fun _ => rfl) (sanitizeTvec_mode value)

theorem settled_mtvec (value : Xlen) :
    Settled state CsrAddress.mtvec (writeValidated state CsrAddress.mtvec value) :=
  settled_sanitized sanitizeTvec
    (fun mtvec => { state with machineCsrs := { state.machineCsrs with mtvec } }) value
    (sanitizeTvec_idempotent value) rfl rfl rfl (fun _ => rfl) (sanitizeTvec_mode value)

theorem settled_scounteren (value : Xlen) :
    Settled state CsrAddress.scounteren (writeValidated state CsrAddress.scounteren value) :=
  settled_sanitized (· &&& supportedCounterEnable)
    (fun scounteren => { state with supervisorCsrs := { state.supervisorCsrs with scounteren } })
    value (masked_again _ _) rfl rfl rfl (fun _ => rfl) (Within.and _ _)

theorem settled_mcounteren (value : Xlen) :
    Settled state CsrAddress.mcounteren (writeValidated state CsrAddress.mcounteren value) :=
  settled_sanitized (· &&& supportedCounterEnable)
    (fun mcounteren => { state with machineCsrs := { state.machineCsrs with mcounteren } })
    value (masked_again _ _) rfl rfl rfl (fun _ => rfl) (Within.and _ _)

theorem settled_sepc (value : Xlen) :
    Settled state CsrAddress.sepc (writeValidated state CsrAddress.sepc value) :=
  settled_sanitized (· &&& ~~~1)
    (fun sepc => { state with supervisorCsrs := { state.supervisorCsrs with sepc } }) value
    (masked_again _ _) rfl rfl rfl (fun _ => rfl) (BitEven.and_right (by decide))

theorem settled_mepc (value : Xlen) :
    Settled state CsrAddress.mepc (writeValidated state CsrAddress.mepc value) :=
  settled_sanitized (· &&& ~~~1)
    (fun mepc => { state with machineCsrs := { state.machineCsrs with mepc } }) value
    (masked_again _ _) rfl rfl rfl (fun _ => rfl) (BitEven.and_right (by decide))

theorem settled_medeleg (value : Xlen) :
    Settled state CsrAddress.medeleg (writeValidated state CsrAddress.medeleg value) :=
  settled_sanitized (· &&& supportedExceptionDelegation)
    (fun medeleg => { state with machineCsrs := { state.machineCsrs with medeleg } }) value
    (masked_again _ _) rfl rfl rfl (fun _ => rfl) (Within.and _ _)

theorem settled_mideleg (value : Xlen) :
    Settled state CsrAddress.mideleg (writeValidated state CsrAddress.mideleg value) :=
  settled_sanitized (· &&& supportedInterruptDelegation)
    (fun mideleg => { state with machineCsrs := { state.machineCsrs with mideleg } }) value
    (masked_again _ _) rfl rfl rfl (fun _ => rfl) (Within.and _ _)

theorem settled_mie (value : Xlen) :
    Settled state CsrAddress.mie (writeValidated state CsrAddress.mie value) :=
  settled_sanitized (· &&& InterruptBits.supported)
    (fun mie => { state with machineCsrs := { state.machineCsrs with mie } }) value
    (masked_again _ _) rfl rfl rfl (fun _ => congrArg some (masked_again _ _)) (Within.and _ _)

theorem settled_mstatus (value : Xlen) :
    Settled state CsrAddress.mstatus (writeValidated state CsrAddress.mstatus value) :=
  settled_sanitized sanitizeMstatus state.setMstatus value
    (Status.sanitizeMstatus_idempotent value) rfl rfl rfl
    (fun _ => congrArg some (Status.sanitizeMstatus_idempotent value))
    (Status.sanitizeMstatus_idempotent value)

theorem settled_misa (value : Xlen) :
    Settled state CsrAddress.misa (writeValidated state CsrAddress.misa value) :=
  ⟨rfl, fun _ => ⟨machineIsaValue, rfl, rfl, rfl⟩⟩

theorem settled_sie (value : Xlen) :
    Settled state CsrAddress.sie (writeValidated state CsrAddress.sie value) := by
  obtain ⟨⟨_, outer⟩, again⟩ := replace_again state.machineCsrs.mie value
    (state.machineCsrs.mideleg &&& InterruptBits.supervisor)
  let set (mie : Xlen) : CpuSnapshot :=
    { state with machineCsrs := { state.machineCsrs with mie } }
  obtain ⟨stored, made⟩ : ∃ stored, (state.machineCsrs.mie &&&
      ~~~(state.machineCsrs.mideleg &&& InterruptBits.supervisor)) |||
      (value &&& (state.machineCsrs.mideleg &&& InterruptBits.supervisor)) = stored := ⟨_, rfl⟩
  rw [made] at outer again
  have written : writeValidated state CsrAddress.sie value = set stored := congrArg set made
  rw [written]
  refine ⟨congrArg set outer, fun time => ⟨_, congrArg some (BitVec.and_assoc _ _ _),
    Within.and _ _, congrArg set again⟩⟩

theorem settled_satp (legal : sanitizeSatp state.supervisorCsrs.satp = state.supervisorCsrs.satp)
    (value : Xlen) :
    Settled state CsrAddress.satp (writeValidated state CsrAddress.satp value) := by
  -- What is in the register is of a supported mode, and is written again as it is.
  have again : ∀ other : CpuSnapshot,
      sanitizeSatp other.supervisorCsrs.satp = other.supervisorCsrs.satp →
      writeValidated other CsrAddress.satp other.supervisorCsrs.satp = other := by
    intro other fixed
    have mode := sanitizeSatp_mode other.supervisorCsrs.satp
    rw [fixed] at mode
    have written : writeValidated other CsrAddress.satp other.supervisorCsrs.satp =
        { other with supervisorCsrs := { other.supervisorCsrs with
          satp := sanitizeSatp other.supervisorCsrs.satp } } := if_pos mode
    rw [written, fixed]
  by_cases mode : value >>> 60 = 0 ∨ value >>> 60 = 8
  · have written : writeValidated state CsrAddress.satp value =
        { state with supervisorCsrs := { state.supervisorCsrs with satp := sanitizeSatp value } } :=
      if_pos mode
    rw [written]
    have fixed := sanitizeSatp_idempotent value
    exact ⟨rfl, fun _ => ⟨_, rfl, fixed, again _ fixed⟩⟩
  · have written : writeValidated state CsrAddress.satp value = state := if_neg mode
    rw [written]
    exact ⟨rfl, fun _ => ⟨_, rfl, legal, again _ legal⟩⟩

variable (sanitized : sanitizeMstatus state.machineCsrs.mstatus = state.machineCsrs.mstatus)

include sanitized

theorem settled_sstatus (value : Xlen) :
    Settled state CsrAddress.sstatus (writeValidated state CsrAddress.sstatus value) := by
  have kept := Status.outside_view sanitized value
  have fixed := Status.sanitizeMstatus_idempotent
    ((state.machineCsrs.mstatus &&& ~~~MstatusBits.supervisorView) |||
      (value &&& MstatusBits.supervisorView))
  obtain ⟨stored, made⟩ : ∃ stored, sanitizeMstatus
      ((state.machineCsrs.mstatus &&& ~~~MstatusBits.supervisorView) |||
        (value &&& MstatusBits.supervisorView)) = stored := ⟨_, rfl⟩
  rw [made] at kept fixed
  have written : writeValidated state CsrAddress.sstatus value = state.setMstatus stored :=
    congrArg state.setMstatus made
  rw [written]
  exact ⟨congrArg state.setMstatus kept, fun _ =>
    ⟨_, congrArg (fun mstatus => some (mstatus &&& MstatusBits.supervisorView)) fixed,
      ⟨stored, fixed, rfl⟩, congrArg state.setMstatus (Status.view_idempotent fixed)⟩⟩

/-- The state with another `fcsr`, whose unit is dirty. -/
theorem setFcsr_eq (fcsr : BitVec 8) :
    state.setFcsr fcsr =
      { state.setMstatus (state.machineCsrs.mstatus ||| (MstatusBits.fs ||| MstatusBits.sd)) with
        floatingPoint := { state.floatingPoint with fcsr } } := by
  have dirty := Status.sanitizeMstatus_dirty sanitized
  exact congrArg (fun mstatus : Xlen => { state.setMstatus mstatus with
    floatingPoint := { state.floatingPoint with fcsr } }) dirty

/-- One of the three views of `fcsr`; `keep` is what the others have of it. -/
theorem settled_floating {address : CsrAddress} {value result : Xlen} {fcsr : BitVec 8}
    (keep : BitVec 8) (writes : writeValidated state address value = state.setFcsr fcsr)
    (forgets : ∀ other : CpuSnapshot,
      forget other address = forget.unmarked other (other.floatingPoint.fcsr &&& keep))
    (kept : fcsr &&& keep = state.floatingPoint.fcsr &&& keep)
    (readBack : ∀ time, value? (state.setFcsr fcsr) time address = some result)
    (legal : Legal (state.setFcsr fcsr) result address)
    (again : writeValidated (state.setFcsr fcsr) address result =
      (state.setFcsr fcsr).setFcsr fcsr) :
    Settled state address (writeValidated state address value) := by
  have dirty := setFcsr_eq sanitized fcsr
  have marked : sanitizeMstatus (state.setFcsr fcsr).machineCsrs.mstatus =
      (state.setFcsr fcsr).machineCsrs.mstatus := Status.sanitizeMstatus_idempotent _
  rw [writes]
  refine ⟨?_, fun time => ⟨result, readBack time, legal, ?_⟩⟩
  · rw [forgets, forgets, dirty]
    unfold forget.unmarked
    dsimp only [CpuSnapshot.setMstatus]
    have unmarked : (state.machineCsrs.mstatus ||| (MstatusBits.fs ||| MstatusBits.sd)) &&&
        ~~~(MstatusBits.fs ||| MstatusBits.sd) =
        state.machineCsrs.mstatus &&& ~~~(MstatusBits.fs ||| MstatusBits.sd) := by
      rw [BitVec.and_or_distrib_right, BitVec.and_not_self]
      exact BitVec.or_zero
    rw [kept, unmarked]
  · rw [again, setFcsr_eq marked, dirty]
    dsimp only [CpuSnapshot.setMstatus]
    rw [BitVec.or_assoc, BitVec.or_self]

theorem settled_fflags (value : Xlen) :
    Settled state CsrAddress.fflags (writeValidated state CsrAddress.fflags value) := by
  have legal : ∀ fcsr : BitVec 8, Within ((fcsr &&& 0x1F).setWidth 64) (0x1F : Xlen) := by decide
  have again : ∀ fcsr : BitVec 8, (fcsr &&& 0xE0) |||
      (((fcsr &&& 0x1F).setWidth 64 : Xlen) &&& 0x1F).setWidth 8 = fcsr := by decide
  refine settled_floating sanitized 0xE0 rfl (fun _ => rfl) ?_ (fun _ => rfl) (legal _)
    (congrArg (CpuSnapshot.setFcsr _) (again _))
  have apart : (value &&& 0x1F).setWidth 8 &&& 0xE0 = 0#8 := by
    rw [BitVec.setWidth_and, BitVec.and_assoc]
    exact BitVec.and_zero
  rw [BitVec.and_or_distrib_right, apart, BitVec.or_zero, BitVec.and_assoc, BitVec.and_self]

theorem settled_frm (value : Xlen) :
    Settled state CsrAddress.frm (writeValidated state CsrAddress.frm value) := by
  have legal : ∀ fcsr : BitVec 8, Within (((fcsr >>> 5) &&& 0x7).setWidth 64) (0x7 : Xlen) := by
    decide
  have again : ∀ fcsr : BitVec 8, (fcsr &&& 0x1F) |||
      ((((fcsr >>> 5 &&& 0x7).setWidth 64 : Xlen) &&& 0x7) <<< 5).setWidth 8 = fcsr := by decide
  refine settled_floating sanitized 0x1F rfl (fun _ => rfl) ?_ (fun _ => rfl) (legal _)
    (congrArg (CpuSnapshot.setFcsr _) (again _))
  have apart : ((value &&& 0x7) <<< 5).setWidth 8 &&& 0x1F = 0#8 := by
    rw [BitVec.shiftLeft_and_distrib, BitVec.setWidth_and, BitVec.and_assoc]
    exact BitVec.and_zero
  rw [BitVec.and_or_distrib_right, apart, BitVec.or_zero, BitVec.and_assoc]
  rfl

theorem settled_fcsr (value : Xlen) :
    Settled state CsrAddress.fcsr (writeValidated state CsrAddress.fcsr value) := by
  have legal : ∀ fcsr : BitVec 8, Within (fcsr.setWidth 64) (0xFF : Xlen) := by decide
  have again : ∀ fcsr : BitVec 8, ((fcsr.setWidth 64 : Xlen) &&& 0xFF).setWidth 8 = fcsr := by
    decide
  refine settled_floating sanitized 0 rfl (fun other => ?_) ?_ (fun _ => rfl) (legal _)
    (congrArg (CpuSnapshot.setFcsr _) (again _))
  · exact congrArg (forget.unmarked other) BitVec.and_zero.symm
  · exact BitVec.and_zero.trans BitVec.and_zero.symm

theorem settled_writeValidated
    (legal : sanitizeSatp state.supervisorCsrs.satp = state.supervisorCsrs.satp)
    {address : CsrAddress} (member : address ∈ settleable) (value : Xlen) :
    Settled state address (writeValidated state address value) := by
  by_cases plain : address ∈ [CsrAddress.sscratch, CsrAddress.scause, CsrAddress.stval,
      CsrAddress.mscratch, CsrAddress.mcause, CsrAddress.mtval, CsrAddress.mcycle,
      CsrAddress.minstret]
  · exact settled_plain value address plain
  simp only [settleable, List.mem_cons, List.not_mem_nil, or_false] at member plain
  obtain rfl | rfl | rfl | rfl | rfl | rfl | rfl | rfl | rfl | rfl | rfl | rfl | rfl | rfl | rfl |
    rfl | rfl | rfl | rfl | rfl | rfl | rfl | rfl | rfl | rfl := member
  · exact settled_fflags sanitized value
  · exact settled_frm sanitized value
  · exact settled_fcsr sanitized value
  · exact settled_sstatus sanitized value
  · exact settled_sie value
  · exact settled_stvec value
  · exact settled_scounteren value
  · exact absurd (by decide) plain
  · exact settled_sepc value
  · exact absurd (by decide) plain
  · exact absurd (by decide) plain
  · exact settled_satp legal value
  · exact settled_mstatus value
  · exact settled_misa value
  · exact settled_medeleg value
  · exact settled_mideleg value
  · exact settled_mie value
  · exact settled_mtvec value
  · exact settled_mcounteren value
  · exact absurd (by decide) plain
  · exact settled_mepc value
  · exact absurd (by decide) plain
  · exact absurd (by decide) plain
  · exact absurd (by decide) plain
  · exact absurd (by decide) plain

omit sanitized in
theorem settleable_of_ready {address : CsrAddress} {privilege : PrivilegeMode}
    (ready : validateWrite state address privilege = .ready) (notMip : address ≠ CsrAddress.mip)
    (notSip : address ≠ CsrAddress.sip) :
    accessDenied state address privilege = false ∧ isCounter address = false ∧
      address ∈ settleable := by
  unfold validateWrite at ready
  split at ready
  · cases ready
  rename_i granted
  split at ready
  · cases ready
  rename_i changeable
  split at ready
  · rename_i kinds
    rw [Bool.or_eq_true, not_or, Bool.not_eq_true] at changeable
    refine ⟨eq_false_of_ne_true granted, changeable.1, ?_⟩
    rw [Bool.or_eq_true, Bool.or_eq_true] at kinds
    obtain (floating | machine) | supervisor := kinds
    · simp only [floatingCsr, Bool.or_eq_true, beq_iff_eq] at floating
      obtain (rfl | rfl) | rfl := floating <;> decide
    · unfold machineWritable at machine
      split at machine
      case h_12 => exact absurd rfl notMip
      case h_15 => cases machine
      all_goals decide
    · unfold supervisorWritable at supervisor
      split at supervisor
      case h_9 => exact absurd rfl notSip
      case h_11 => cases supervisor
      all_goals decide
  · cases ready

/-- Who may write a register may read it then. -/
theorem granted_after {address : CsrAddress} {privilege : PrivilegeMode}
    (granted : accessDenied state address privilege = false) (value : Xlen) :
    accessDenied (writeValidated state address value) address privilege = false := by
  unfold accessDenied at granted ⊢
  rw [Bool.or_eq_false_iff, Bool.or_eq_false_iff] at granted ⊢
  obtain ⟨⟨allowed, untrapped⟩, enabled⟩ := granted
  refine ⟨⟨allowed, ?_⟩, ?_⟩
  · by_cases satp : address = CsrAddress.satp
    · subst satp
      have same : (writeValidated state CsrAddress.satp value).machineCsrs = state.machineCsrs := by
        change (ite _ _ _ : CpuSnapshot).machineCsrs = _
        split <;> rfl
      unfold satpTrapped at untrapped ⊢
      rw [same]
      exact untrapped
    · simp [satpTrapped, satp]
  · cases floating : floatingCsr address with
    | false => rfl
    | true =>
      have marked : ∀ fcsr, floatingPointEnabled (state.setFcsr fcsr) = true := by
        intro fcsr
        rw [setFcsr_eq sanitized]
        refine bne_iff_ne.mpr fun zero => ?_
        have bit := congrArg (·.getLsbD 13) zero
        dsimp only [CpuSnapshot.setMstatus] at bit
        rw [BitVec.getLsbD_and, BitVec.getLsbD_or, BitVec.getLsbD_or] at bit
        have fs : MstatusBits.fs.getLsbD 13 = true := by decide
        rw [fs, Bool.true_or, Bool.or_true] at bit
        cases bit
      simp only [floatingCsr, Bool.or_eq_true, beq_iff_eq] at floating
      obtain (rfl | rfl) | rfl := floating <;>
        exact congrArg (true && !·) (marked _)

end CsrFile

section

variable [SoftFloat] [CpuBus β]

/-- A write of a control and status register puts a legal value there, which is read back and
can be written again; it changes nothing but the register and what it shares with others. -/
theorem csrWrite_settled {core : Core β} (reachable : core.Reachable) {address : CsrAddress}
    {privilege : PrivilegeMode}
    (ready : CsrFile.validateWrite core.state address privilege = .ready)
    (notMip : address ≠ CsrAddress.mip) (notSip : address ≠ CsrAddress.sip) (value : Xlen) :
    let after := CsrFile.writeValidated core.state address value
    (∀ time, ∃ result,
      CsrFile.read after time address privilege = { status := .ready, value := result } ∧
      CsrFile.Legal after result address ∧
      CsrFile.writeValidated after address result = after) ∧
    CsrFile.forget after address = CsrFile.forget core.state address ∧
    (address = CsrAddress.satp → value >>> 60 ≠ 0 → value >>> 60 ≠ 8 → after = core.state) := by
  obtain ⟨granted, uncounted, member⟩ := CsrFile.settleable_of_ready ready notMip notSip
  have wellFormed := (Core.WellFormed.of_reachable reachable).state
  have settled := CsrFile.settled_writeValidated wellFormed.mstatus wellFormed.satp member value
  have readable := CsrFile.granted_after wellFormed.mstatus granted value
  refine ⟨fun time => ?_, settled.frame, ?_⟩
  · obtain ⟨result, found, legal, again⟩ := settled.stable time
    refine ⟨result, ?_, legal, again⟩
    unfold CsrFile.read
    rw [readable, uncounted, found]
    rfl
  · rintro rfl bare sv39
    exact if_neg (not_or.mpr ⟨bare, sv39⟩)

end

section

attribute [local instance] SoftFloat.unused

/-- The reserved previous privilege is not written, and SD follows FS. -/
theorem csrWrite_settled_sample :
    (CsrFile.read (CsrFile.writeValidated (Core.new Core.sampleBus).state CsrAddress.mstatus
      0x7000) 0 CsrAddress.mstatus .machine).value = 0x8000000A00006000 ∧
    CsrFile.writeValidated (CsrFile.writeValidated (Core.new Core.sampleBus).state
        CsrAddress.mstatus 0x7000) CsrAddress.mstatus 0x8000000A00006000 =
      CsrFile.writeValidated (Core.new Core.sampleBus).state CsrAddress.mstatus 0x7000 := by
  have ready : CsrFile.validateWrite (Core.new Core.sampleBus).state CsrAddress.mstatus .machine =
      .ready := rfl
  obtain ⟨stable, _⟩ :=
    csrWrite_settled (.new Core.sampleBus) ready (by decide) (by decide) 0x7000
  obtain ⟨result, read, _, again⟩ := stable 0
  have value : (CsrFile.read (CsrFile.writeValidated (Core.new Core.sampleBus).state
      CsrAddress.mstatus 0x7000) 0 CsrAddress.mstatus .machine).value = 0x8000000A00006000 := by
    decide
  have same : result = 0x8000000A00006000 := by
    rw [← value, read]
  exact ⟨value, same ▸ again⟩

end

end RvEmulator.Core64
