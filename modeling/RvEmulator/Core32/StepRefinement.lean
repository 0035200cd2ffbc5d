import RvEmulator.Core32.FetchRefinement
import RvEmulator.Core32.OwnUnit

/-! Every instruction does the same in either mode as in the reference mode over a
recording bus. -/

namespace RvEmulator.Core32

open Library

section

variable [CpuBus β] {quiet : QuietBus β} {ram : PhysAddr → Prop} {satps : List Xlen}
  {satp : Xlen} (mode : ExecutionMode) (state : CpuSnapshot) (readsBack : sv32.ReadsBack quiet)

/-! ### The units -/

theorem mirrors_atomicAccess (kind : AtomicKind) (hart : BitVec 32) (address : PhysAddr)
    (rs2 : Xlen) :
    Mirrors quiet ram satps satp (onBus (atomicAccess kind hart address rs2))
      (onBus (atomicAccess kind hart address rs2)) := by
  cases kind with
  | loadReserved =>
    exact .command (.loadReservedWord hart address) fun result =>
      (result.fault, result.value.setWidth 32)
  | storeConditional =>
    exact .command (.storeConditionalWord hart address rs2) fun result =>
      (result.fault, if result.succeeded then 0 else 1)
  | amo operation =>
    exact .command (.atomicWord hart address operation rs2) fun result =>
      (result.fault, result.originalValue)

/-- A unit asked in the same way in both runs. -/
theorem mirrors_attempt (decoded : DecodedInstruction) (wanted : ExecutionUnit)
    (instruction : BitVec 32) {run : Instr β UnitResult} {recording : Instr (Recorded 32 β) UnitResult}
    (mirrors : Mirrors quiet ram satps satp run recording) (pending : PendingCommit) :
    Mirrors quiet ram satps satp (attempt mode decoded wanted instruction run pending)
      (attempt mode decoded wanted instruction recording pending) := by
  refine .ite (.bind mirrors fun result => ?_) (.pure _)
  cases result with
  | ready next => exact .pure _
  | declined => exact .pure _
  | raise cause trapValue busFault => exact .stop _

theorem mirrors_askUnit (instruction : BitVec 32) {run : Instr β UnitResult}
    {recording : Instr (Recorded 32 β) UnitResult}
    (mirrors : Mirrors quiet ram satps satp run recording) :
    Mirrors quiet ram satps satp (askUnit instruction run) (askUnit instruction recording) := by
  refine .bind mirrors fun result => ?_
  cases result with
  | ready next => exact .pure _
  | declined => exact .stop _
  | raise cause trapValue busFault => exact .stop _

theorem mirrors_attemptInteger (decoded : DecodedInstruction) (instruction : BitVec 32) :
    Mirrors quiet ram satps satp (attemptInteger mode decoded state instruction)
      (attemptInteger mode decoded state instruction) := by
  unfold attemptInteger
  dsimp only
  split
  · exact .stop _
  · exact .stop _
  · exact .pure _
  · exact .pure _

theorem mirrors_executeCsr (decoded : DecodedInstruction) (rs1 : Xlen) :
    Mirrors quiet ram satps satp
      (Exec.lift fun fabric =>
        (executeCsr decoded state (CpuBus.readTime fabric.bus) rs1, fabric))
      (Exec.lift fun reference =>
        (executeCsr decoded state (CpuBus.readTime reference.bus) rs1, reference)) :=
  .peek fun _ _ related => congrArg (executeCsr decoded state · rs1) (quiet.time related.bus)

include readsBack

theorem mirrors_dataAccess (address : Xlen) (width : AccessWidth) (loads : Bool)
    {access : PhysAddr → Instr β UnitResult}
    {recording : PhysAddr → Instr (Recorded 32 β) UnitResult}
    (mirrors : ∀ place, Mirrors quiet ram satps (sanitizeSatp state.supervisorCsrs.satp)
      (access place) (recording place)) :
    Mirrors quiet ram satps (sanitizeSatp state.supervisorCsrs.satp)
      (dataAccess mode state address width loads access)
      (dataAccess .reference state address width loads recording) :=
  .ite (.pure _) (.bind (mirrors_translate mode state readsBack address _) fun _ =>
    .ite (.pure _) (mirrors _))

theorem mirrors_executeMemory (decoded : DecodedInstruction) (rs1 rs2 : Xlen) :
    Mirrors quiet ram satps (sanitizeSatp state.supervisorCsrs.satp)
      (executeMemory mode state decoded rs1 rs2)
      (executeMemory .reference state decoded rs1 rs2) := by
  unfold executeMemory
  dsimp only
  split
  · exact .pure _
  · exact mirrors_dataAccess mode state readsBack _ _ _ fun place =>
      .bind (.read place _ _) fun _ => .ite (.pure _) (.pure _)
  · rename_i width _
    exact mirrors_dataAccess mode state readsBack _ _ _ fun place =>
      .bind (.command (.write place width (rs2.setWidth 64) .store) id) fun _ =>
        .ite (.pure _) (.pure _)

theorem mirrors_executeAtomic (decoded : DecodedInstruction) (rs1 rs2 : Xlen) :
    Mirrors quiet ram satps (sanitizeSatp state.supervisorCsrs.satp)
      (executeAtomic mode state decoded rs1 rs2)
      (executeAtomic .reference state decoded rs1 rs2) := by
  unfold executeAtomic
  split
  · exact .pure _
  · exact mirrors_dataAccess mode state readsBack _ _ _ fun place =>
      .bind (mirrors_atomicAccess _ _ place _) fun _ => .ite (.pure _) (.pure _)

/-! ### The dispatch -/

theorem mirrors_ownUnit (instruction : BitVec 32) (decoded : DecodedInstruction)
    (unit : ExecutionUnit) :
    Mirrors quiet ram satps (sanitizeSatp state.supervisorCsrs.satp)
      (ownUnit mode state instruction decoded unit)
      (ownUnit .reference state instruction decoded unit) := by
  cases unit with
  | integer => exact mirrors_attemptInteger .reference state decoded instruction
  | privileged => exact mirrors_askUnit instruction (.pure _)
  | controlFlow => exact mirrors_askUnit instruction (.pure _)
  | atomic =>
    exact mirrors_askUnit instruction (mirrors_executeAtomic mode state readsBack decoded _ _)
  | csr => exact mirrors_askUnit instruction (mirrors_executeCsr state decoded _)
  | memory =>
    exact mirrors_askUnit instruction (mirrors_executeMemory mode state readsBack decoded _ _)

/-- The chain of the reference mode, over either bus. -/
theorem mirrors_dispatch_reference (instruction : BitVec 32) (decoded : DecodedInstruction) :
    Mirrors quiet ram satps (sanitizeSatp state.supervisorCsrs.satp)
      (dispatch .reference state instruction decoded)
      (dispatch .reference state instruction decoded) :=
  .bind (mirrors_attemptInteger _ _ _ _) fun _ =>
    .bind (mirrors_attempt _ _ _ _ (.pure _) _) fun _ =>
      .bind (mirrors_attempt _ _ _ _ (.pure _) _) fun _ =>
        .bind (mirrors_attempt _ _ _ _ (mirrors_executeAtomic _ state readsBack _ _ _) _) fun _ =>
          .bind (mirrors_attempt _ _ _ _ (mirrors_executeCsr _ _ _) _) fun _ =>
            mirrors_attempt _ _ _ _
              (.bind (mirrors_executeMemory _ state readsBack _ _ _) fun _ => .pure _) _

omit readsBack in
/-- Without the caches a fetched word is decoded as it is, whatever they hold. -/
theorem fetched_fetchDecode_reference {fabric after : Fabric β}
    {fetched : BitVec 32 × DecodedInstruction}
    (returned : fetchDecode .reference state fabric = (.ok fetched, after)) :
    Fetched fetched.1 fetched.2 := by
  by_cases odd : (state.pc &&& 0x1) ≠ 0
  · rw [fetchDecode, if_pos odd] at returned
    cases returned
  rw [fetchDecode_reference state odd] at returned
  obtain ⟨whole, _, first, kept⟩ := Exec.bind_returned returned
  have ended : keepInstruction state whole _ = _ := kept
  cases valid : whole.2.1.valid with
  | false =>
    rw [keepInstruction_invalid state valid] at ended
    cases ended
  | true =>
    rw [keepInstruction_valid state valid] at ended
    cases ended
    refine ⟨?_, valid⟩
    obtain ⟨low, middle, _, rest⟩ := Exec.bind_returned first
    have asked : cacheable false low.1 middle = (.ok false, middle) := rfl
    have continued := (Exec.bind_ok asked).symm.trans rest
    split at continued
    · rename_i short
      cases continued
      rw [decodeFetched, if_pos short]
    · rename_i full
      obtain ⟨high, _, _, ended⟩ := Exec.bind_returned continued
      cases ended
      rw [decodeFetched, lowBits_or_high, if_neg full]

/-- A valid instruction is dispatched in either mode as in the reference mode. -/
theorem refines_dispatch (instruction : BitVec 32) (decoded : DecodedInstruction) :
    Exec.Refines (guard ram satps)
      (fun fabric reference =>
        Related quiet ram satps (sanitizeSatp state.supervisorCsrs.satp) fabric reference ∧
        decoded = decodeFetched instruction ∧ decoded.valid = true)
      (dispatch mode state instruction decoded) (dispatch .reference state instruction decoded)
      (fun a b fabric reference => a = b ∧
        Related quiet ram satps (sanitizeSatp state.supervisorCsrs.satp) fabric reference ∧
        decoded = decodeFetched instruction)
      (Related quiet ram satps (sanitizeSatp state.supervisorCsrs.satp)) := by
  refine ⟨(mirrors_dispatch_reference state readsBack instruction decoded).steady, ?_⟩
  rintro fabric reference ⟨related, decodes, valid⟩ good
  rw [dispatch_eq_ownUnit mode state instruction valid]
  rw [dispatch_eq_ownUnit .reference state instruction valid] at good ⊢
  exact ((mirrors_ownUnit mode state readsBack instruction decoded _).ended fabric reference related
    good).mono (fun _ _ _ _ post => ⟨post.1, post.2, decodes⟩) fun _ _ stopped => stopped

variable (onlyRam : ∀ (bus : β) address, CpuBus.instructionCacheable bus address = true →
    ram address)
  (pages : ∀ address place : PhysAddr, place >>> 12 = address >>> 12 → ram address → ram place)

include onlyRam pages in
theorem refines_runInstruction :
    Exec.Refines (guard ram satps)
      (Related quiet ram satps (sanitizeSatp state.supervisorCsrs.satp))
      (runInstruction mode state) (runInstruction .reference state)
      (fun a b fabric reference => a = b ∧
        Related quiet ram satps (sanitizeSatp state.supervisorCsrs.satp) fabric reference ∧
        b.2.1 = decodeFetched b.1)
      (Related quiet ram satps (sanitizeSatp state.supervisorCsrs.satp)) := by
  have fetch : Mirrors quiet ram satps _ _ _ :=
    mirrors_fetchDecode mode state readsBack onlyRam pages
  have known := fetch.returned fun _ _ _ _ _ returned =>
    fetched_fetchDecode_reference state returned
  refine Exec.Refines.bind_same (known.conseq (fun _ _ related => related) ?_
    fun _ _ stopped => stopped) fun fetched =>
      Exec.Refines.bind_same (refines_dispatch mode state readsBack fetched.1 fetched.2)
        fun pending => Exec.Refines.pure fun _ _ post => ⟨rfl, post⟩
  rintro a b fabric reference ⟨⟨same, related⟩, fetched⟩
  exact ⟨same, related, fetched.decodes, fetched.valid⟩

end

end RvEmulator.Core32
