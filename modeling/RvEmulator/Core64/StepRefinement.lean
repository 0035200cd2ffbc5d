import RvEmulator.Core64.FetchRefinement
import RvEmulator.Core64.Running

/-! Every instruction does the same in either mode as in the reference mode over a
recording bus. -/

namespace RvEmulator.Core64

open Library

section

variable [CpuBus β] {quiet : QuietBus β} {ram : PhysAddr → Prop} {satps : List Xlen}
  (mode : ExecutionMode) (state : CpuSnapshot) (readsBack : sv39.ReadsBack quiet)

/-! ### Loads, stores and atomics -/

include readsBack

theorem mirrors_dataAddress (instruction : BitVec 32) (address : Xlen) (width : AccessWidth)
    (loads : Bool) :
    Mirrors quiet ram satps (sanitizeSatp state.supervisorCsrs.satp)
      (dataAddress mode state instruction address width loads)
      (dataAddress .reference state instruction address width loads) :=
  .ite (.stop _) (.bind (mirrors_translate mode state readsBack address _) fun _ =>
    .ite (.stop _) (.pure _))

theorem mirrors_loadValue (instruction : BitVec 32) (address : Xlen) (width : AccessWidth) :
    Mirrors quiet ram satps (sanitizeSatp state.supervisorCsrs.satp)
      (loadValue mode state instruction address width)
      (loadValue .reference state instruction address width) :=
  .bind (mirrors_dataAddress mode state readsBack instruction address width true) fun _ =>
    .bind (.read _ _ _) fun _ => .ite (.stop _) (.pure _)

theorem mirrors_storeValue (instruction : BitVec 32) (address : Xlen) (width : AccessWidth)
    (value : BitVec 64) :
    Mirrors quiet ram satps (sanitizeSatp state.supervisorCsrs.satp)
      (storeValue mode state instruction address width value)
      (storeValue .reference state instruction address width value) :=
  .bind (mirrors_dataAddress mode state readsBack instruction address width false) fun _ =>
    .bind (.write _ _ _ _) fun _ => .ite (.stop _) (.pure _)

omit readsBack in
theorem mirrors_atomicAccess {satp : Xlen} (kind : InstructionKind) (doubleword : Bool)
    (hart : BitVec 32) (address : PhysAddr) (rs2 : Xlen) :
    Mirrors quiet ram satps satp (onBus (atomicAccess kind doubleword hart address rs2))
      (onBus (atomicAccess kind doubleword hart address rs2)) := by
  unfold atomicAccess
  split
  case h_1 | h_2 =>
    split
    · exact .command (.loadReservedDoubleword hart address) fun result => (result.fault, result.value)
    · exact .command (.loadReservedWord hart address) fun result =>
        (result.fault, signExtendWord result.value)
  case h_3 | h_4 =>
    split
    · exact .command (.storeConditionalDoubleword hart address rs2) fun result =>
        (result.fault, if result.succeeded then 0 else 1)
    · exact .command (.storeConditionalWord hart address (rs2.setWidth 32)) fun result =>
        (result.fault, if result.succeeded then 0 else 1)
  case h_5 =>
    split
    · exact .command (.atomicDoubleword hart address (amoOperation kind) rs2) fun result =>
        (result.fault, result.originalValue)
    · exact .command (.atomicWord hart address (amoOperation kind) (rs2.setWidth 32)) fun result =>
        (result.fault, signExtendWord (result.originalValue.setWidth 64))

theorem mirrors_executeAtomic (instruction : BitVec 32) (decoded : DecodedInstruction) :
    Mirrors quiet ram satps (sanitizeSatp state.supervisorCsrs.satp)
      (executeAtomic mode state instruction decoded)
      (executeAtomic .reference state instruction decoded) :=
  .bind (mirrors_dataAddress mode state readsBack instruction _ _ _) fun _ =>
    .bind (mirrors_atomicAccess _ _ _ _ _) fun _ => .ite (.stop _) (.pure _)

theorem mirrors_executeLoad (instruction : BitVec 32) (decoded : DecodedInstruction) :
    Mirrors quiet ram satps (sanitizeSatp state.supervisorCsrs.satp)
      (executeLoad mode state instruction decoded)
      (executeLoad .reference state instruction decoded) :=
  .bind (mirrors_loadValue mode state readsBack instruction _ _) fun _ => .pure _

theorem mirrors_executeFloatingLoad (instruction : BitVec 32) (decoded : DecodedInstruction) :
    Mirrors quiet ram satps (sanitizeSatp state.supervisorCsrs.satp)
      (executeFloatingLoad mode state instruction decoded)
      (executeFloatingLoad .reference state instruction decoded) :=
  .ite (.stop _) (.bind (mirrors_loadValue mode state readsBack instruction _ _) fun _ => .pure _)

theorem mirrors_executeFloatingStore (instruction : BitVec 32) (decoded : DecodedInstruction) :
    Mirrors quiet ram satps (sanitizeSatp state.supervisorCsrs.satp)
      (executeFloatingStore mode state instruction decoded)
      (executeFloatingStore .reference state instruction decoded) :=
  .ite (.stop _) (mirrors_storeValue mode state readsBack instruction _ _ _)

omit readsBack in
/-- A CSR instruction looks at the time of the bus. -/
theorem mirrors_executeCsr {satp : Xlen} (instruction : BitVec 32) (decoded : DecodedInstruction) :
    Mirrors quiet ram satps satp (executeCsr state instruction decoded)
      (executeCsr state instruction decoded) :=
  .bind (.peek fun _ _ related => quiet.time related.bus) fun _ =>
    .ite (.stop _) (.ite (.stop _) (.pure _))

/-! ### The switch -/

/-- What the caches hold after a fence. -/
abbrev Fenced (decoded : DecodedInstruction) (fabric : Fabric β) : Prop :=
  fabric.Emptied (decoded.kind = .fenceI)
    (decoded.kind = .sfenceVma ∧ decoded.rs1 = 0 ∧ decoded.rs2 = 0)

omit [CpuBus β] readsBack in
theorem fenced_of_arm {decoded : DecodedInstruction} {arm : SwitchArm}
    (taken : switchArm decoded.kind = arm) (notFenceI : arm ≠ .fenceI)
    (notSfence : arm ≠ .sfenceVma) (fabric : Fabric β) : Fenced decoded fabric := by
  refine .of_other ?_ ?_
  · intro kind
    rw [kind] at taken
    exact notFenceI taken.symm
  · rintro ⟨kind, _⟩
    rw [kind] at taken
    exact notSfence taken.symm

variable [SoftFloat]

/-- Either mode executes an instruction as the reference mode does. -/
theorem refines_execute (instruction : BitVec 32) (decoded : DecodedInstruction) :
    Exec.Refines (guard ram satps)
      (Related quiet ram satps (sanitizeSatp state.supervisorCsrs.satp))
      (execute mode state instruction decoded) (execute .reference state instruction decoded)
      (fun a b fabric reference => a = b ∧
        Related quiet ram satps (sanitizeSatp state.supervisorCsrs.satp) fabric reference ∧
        Fenced decoded fabric)
      (Related quiet ram satps (sanitizeSatp state.supervisorCsrs.satp)) := by
  -- all arms but the fences
  have plain {arm : SwitchArm} (taken : switchArm decoded.kind = arm) (notFenceI : arm ≠ .fenceI)
      (notSfence : arm ≠ .sfenceVma) {x : Instr β Outcome} {y : Instr (Recorded 64 β) Outcome}
      (mirrors : Mirrors quiet ram satps (sanitizeSatp state.supervisorCsrs.satp) x y) :=
    mirrors.conseq (fun _ _ related => related) (fun _ _ fabric _ post =>
      And.intro post.1 (And.intro post.2 (fenced_of_arm taken notFenceI notSfence fabric)))
        fun _ _ stopped => stopped
  unfold execute
  dsimp only
  split
  case h_1 taken => exact plain taken (by decide) (by decide) (.pure _)
  case h_2 taken =>
    exact plain taken (by decide) (by decide)
      (.bind (mirrors_executeAtomic mode state readsBack instruction decoded) fun _ => .pure _)
  case h_3 taken =>
    exact plain taken (by decide) (by decide)
      (.bind (mirrors_executeLoad mode state readsBack instruction decoded) fun _ => .pure _)
  case h_4 taken =>
    exact plain taken (by decide) (by decide)
      (.bind (mirrors_executeFloatingLoad mode state readsBack instruction decoded) fun _ => .pure _)
  case h_5 taken =>
    exact plain taken (by decide) (by decide)
      (.bind (mirrors_storeValue mode state readsBack instruction _ _ _) fun _ => .pure _)
  case h_6 taken =>
    exact plain taken (by decide) (by decide)
      (.bind (mirrors_executeFloatingStore mode state readsBack instruction decoded) fun _ => .pure _)
  case h_7 taken => exact plain taken (by decide) (by decide) (.pure _)
  case h_8 taken =>
    refine Exec.Refines.lift (fun _ => .refl) fun fabric reference related _ =>
      ⟨rfl, related.fenceI.of_bus rfl, related.emptied_fenceI ?_⟩
    rintro ⟨kind, _⟩
    rw [kind] at taken
    cases taken
  case h_9 taken =>
    exact plain taken (by decide) (by decide)
      (.bind (mirrors_executeCsr state instruction decoded) fun _ => .pure _)
  case h_10 taken => exact plain taken (by decide) (by decide) (.stop _)
  case h_11 taken => exact plain taken (by decide) (by decide) (.stop _)
  case h_12 taken =>
    split
    · exact plain taken (by decide) (by decide) (.stop _)
    · exact plain taken (by decide) (by decide) (.pure _)
  case h_13 taken =>
    split
    · exact plain taken (by decide) (by decide) (.stop _)
    · exact plain taken (by decide) (by decide) (.pure _)
  case h_14 taken => exact plain taken (by decide) (by decide) (.ite (.stop _) (.pure _))
  case h_15 taken =>
    split
    · exact Exec.Refines.stop fun _ _ related => related
    · refine Exec.Refines.lift (fun _ => .refl) fun fabric reference related _ =>
        ⟨rfl, (related.sfenceVma indexing _ _).of_bus rfl,
          related.emptied_sfenceVma indexing (fun kind => ?_) fun names => ?_⟩
      · rw [kind] at taken
        cases taken
      · change fenceOperands state decoded = _
        rw [fenceOperands, if_pos names.2.1, if_pos names.2.2]
  case h_16 taken => exact plain taken (by decide) (by decide) (.stop _)
  case h_17 notFenceI _ _ _ _ _ _ notSfence _ =>
    split
    · exact plain rfl notFenceI notSfence (.stop _)
    · exact plain rfl notFenceI notSfence (.pure _)

variable (onlyRam : ∀ (bus : β) address, CpuBus.instructionCacheable bus address = true →
  ram address)

include onlyRam in
theorem refines_runInstruction :
    Exec.Refines (guard ram satps)
      (Related quiet ram satps (sanitizeSatp state.supervisorCsrs.satp))
      (runInstruction mode state) (runInstruction .reference state)
      (fun a b fabric reference => a = b ∧
        Related quiet ram satps (sanitizeSatp state.supervisorCsrs.satp) fabric reference ∧
        Fenced b.2.1 fabric)
      (Related quiet ram satps (sanitizeSatp state.supervisorCsrs.satp)) := by
  unfold runInstruction
  split
  · exact Exec.Refines.stop fun _ _ related => related
  refine Exec.Refines.bind_same (mirrors_fetch mode state readsBack onlyRam) fun fetched => ?_
  dsimp only
  split
  · exact Exec.Refines.stop fun _ _ related => related
  refine Exec.Refines.bind_same (refines_execute mode state readsBack fetched.1 fetched.2)
    fun outcome => ?_
  split
  · exact Exec.Refines.stop fun _ _ after => after.1
  · exact Exec.Refines.pure fun _ _ after => ⟨rfl, after⟩

end

end RvEmulator.Core64
