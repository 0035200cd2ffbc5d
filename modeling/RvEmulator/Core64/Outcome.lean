import RvEmulator.Core64.Core
import RvEmulator.Core64.Status
import RvEmulator.Common.HartInvariant

/-! What executing an instruction may ask of the commit, for every instruction
word and every bus. The invariants over whole runs are all derived from here. -/

namespace RvEmulator.Core64

open Library

theorem lawfulStatus : LawfulStatus sanitizeMstatus where
  idempotent := Status.sanitizeMstatus_idempotent
  mprv value := Status.getLsbD_sanitizeMstatus_kept value (by decide)

abbrev CpuSnapshot.WellFormed (state : CpuSnapshot) : Prop :=
  Hart.WellFormed sanitizeMstatus sanitizeSatp state.toHart

/-- Every entry that the cache may hand out has the decoding of its instruction. Those
of generation zero are never handed out. -/
structure InstructionCache.Faithful (cache : InstructionCache 64 DecodedInstruction) : Prop where
  generation : cache.generation ≠ 0
  entries : ∀ index, (cache.entries index).generation ≠ 0 →
    (cache.entries index).decoded = decodeFetched (cache.entries index).instruction

/-- Every decoded instruction that a cache may hand out is the decoding of its word. -/
structure Fabric.WellFormed (fabric : Fabric β) : Prop where
  decodeCache : fabric.decodeCache.Faithful decodeDirect
  instructionCache : InstructionCache.Faithful fabric.instructionCache

/-- What an outcome may ask for. A return comes alone and from the state itself;
a CSR write has passed its check. -/
structure Outcome.Allowed (state : CpuSnapshot) (decoded : DecodedInstruction)
    (outcome : Outcome) : Prop where
  even : state.WellFormed → decoded.Wellformed → BitEven outcome.nextPc
  returns : ∀ next, outcome.privilegedState = some next →
    (executeMret state = some next ∨ executeSret state = some next) ∧
      outcome = { nextPc := next.pc, privilegedState := some next }
  writes : ∀ address value, outcome.csrWrite = some (address, value) →
    CsrFile.validateWrite state address state.privilege = .ready ∧ outcome.privilegedState = none

theorem wellformed_decodeFetched (instruction : BitVec 32) :
    (decodeFetched instruction).Wellformed := wellformed_decodeDirect _ _

namespace InstructionCache.Faithful

variable {cache : InstructionCache 64 DecodedInstruction}

theorem iff_sound : Faithful cache ↔
    cache.Sound fun instruction decoded => decoded = decodeFetched instruction :=
  ⟨fun faithful => ⟨faithful.generation, faithful.entries⟩,
    fun sound => ⟨sound.generation, sound.entries⟩⟩

theorem initial : Faithful InstructionCache.initial := iff_sound.mpr .initial

theorem clear (faithful : Faithful cache) : Faithful cache.clear :=
  iff_sound.mpr (iff_sound.mp faithful).clear

theorem sfence (faithful : Faithful cache) (virtualAddress : Option Xlen)
    (asid : Option (BitVec 16)) : Faithful (cache.sfence indexing virtualAddress asid) :=
  iff_sound.mpr ((iff_sound.mp faithful).sfence virtualAddress asid)

theorem insert (faithful : Faithful cache) (virtualAddress satp : Xlen)
    (privilege : PrivilegeMode) {instruction : BitVec 32} {decoded : DecodedInstruction}
    (decodes : decoded = decodeFetched instruction) :
    Faithful (cache.insert indexing virtualAddress satp privilege instruction decoded) :=
  iff_sound.mpr ((iff_sound.mp faithful).insert virtualAddress satp privilege decodes)

theorem lookup (faithful : Faithful cache) {virtualAddress satp : Xlen}
    {privilege : PrivilegeMode} {entry : InstructionCacheEntry 64 DecodedInstruction}
    (found : cache.lookup indexing virtualAddress satp privilege = some entry) :
    entry.decoded = decodeFetched entry.instruction :=
  (iff_sound.mp faithful).lookup found

end InstructionCache.Faithful

/-- The computation keeps the caches well-formed on both exits, and does not
itself find a misaligned program counter. -/
def Steady (x : Instr β α) (post : α → Prop := fun _ => True) : Prop :=
  Exec.Ensures Fabric.WellFormed x (fun a fabric => fabric.WellFormed ∧ post a)
    (fun trap fabric => fabric.WellFormed ∧ trap.cause ≠ .instructionAddressMisaligned)

namespace Steady

theorem pure {post : α → Prop} {a : α} (holds : post a) : Steady (β := β) (pure a) post :=
  Exec.Ensures.pure fun _ wellFormed => ⟨wellFormed, holds⟩

theorem stop {post : α → Prop} {trap : Trap} (other : trap.cause ≠ .instructionAddressMisaligned) :
    Steady (β := β) (Exec.stop trap) post :=
  Exec.Ensures.stop fun _ wellFormed => ⟨wellFormed, other⟩

theorem bind {x : Instr β α} {f : α → Instr β γ} (middle : α → Prop) {post : γ → Prop}
    (first : Steady x middle) (next : ∀ a, middle a → Steady (f a) post) :
    Steady (x >>= f) post := by
  refine Exec.Ensures.bind first ?_
  intro a fabric before
  exact next a before.2 fabric before.1

theorem ite {condition : Prop} [Decidable condition] {x y : Instr β α} {post : α → Prop}
    (left : condition → Steady x post) (right : ¬condition → Steady y post) :
    Steady (if condition then x else y) post := by
  split
  · rename_i holds
    exact left holds
  · rename_i fails
    exact right fails

theorem onBus (method : StateM β α) : Steady (onBus method) :=
  Exec.Ensures.lift fun _ wellFormed =>
    ⟨⟨wellFormed.decodeCache, wellFormed.instructionCache⟩, trivial⟩

/-- A computation that only looks at the fabric. -/
theorem peek (read : Fabric β → α) {post : α → Prop}
    (holds : ∀ fabric : Fabric β, fabric.WellFormed → post (read fabric)) :
    Steady (Exec.lift fun fabric => (read fabric, fabric)) post :=
  Exec.Ensures.lift fun fabric wellFormed => ⟨wellFormed, holds fabric wellFormed⟩

end Steady

theorem steady_decode (mode : ExecutionMode) (instruction : BitVec 32) (length : BitVec 8) :
    Steady (decode (β := β) mode instruction length)
      (fun decoded => decoded = decodeDirect instruction length) := by
  cases mode with
  | reference => exact Steady.pure rfl
  | fast =>
    refine Exec.Ensures.lift ?_
    intro fabric wellFormed
    obtain ⟨same, faithful⟩ := DecodeCache.decode_faithful wellFormed.decodeCache
      (decodeIndex instruction length) instruction length
    exact ⟨⟨faithful, wellFormed.instructionCache⟩, same⟩

theorem steady_insertInstructionCache (state : CpuSnapshot) {instruction : BitVec 32}
    {decoded : DecodedInstruction} (decodes : decoded = decodeFetched instruction) :
    Steady (insertInstructionCache (β := β) state instruction decoded) :=
  Exec.Ensures.lift fun _ wellFormed =>
    ⟨⟨wellFormed.decodeCache, wellFormed.instructionCache.insert _ _ _ decodes⟩, trivial⟩

section

variable [CpuBus β]

theorem steady_translate (mode : ExecutionMode) (state : CpuSnapshot) (virtualAddress : Xlen)
    (access : MemoryAccessType) :
    Steady (translate (β := β) mode state virtualAddress access) := by
  cases mode with
  | fast =>
    exact Exec.Ensures.lift fun _ wellFormed =>
      ⟨⟨wellFormed.decodeCache, wellFormed.instructionCache⟩, trivial⟩
  | reference => exact Steady.onBus _

theorem steady_fetchHalfword (mode : ExecutionMode) (state : CpuSnapshot) (virtualAddress : Xlen)
    (fetched : BitVec 32) :
    Steady (fetchHalfword (β := β) mode state virtualAddress fetched) := by
  refine Steady.bind _ (steady_translate mode state virtualAddress .instructionFetch) ?_
  intro translation _
  refine Steady.ite (fun _ => Steady.stop (by grind)) (fun _ => ?_)
  refine Steady.bind _ (Steady.onBus _) ?_
  intro read _
  exact Steady.ite (fun _ => Steady.stop (by grind)) (fun _ => Steady.pure trivial)

theorem steady_fetchInstruction (mode : ExecutionMode) (mayUse : Bool) (state : CpuSnapshot) :
    Steady (fetchInstruction (β := β) mode mayUse state)
      (fun fetched => fetched.2.1 = decodeFetched fetched.1) := by
  refine Steady.bind _ (steady_fetchHalfword mode state state.pc 0) ?_
  intro first _
  refine Steady.bind (fun _ => True) (Steady.peek _ fun _ _ => trivial) ?_
  intro firstCacheable _
  refine Steady.ite (fun short => ?_) (fun long => ?_)
  · refine Steady.bind _ (steady_decode mode _ 2) ?_
    intro decoded same
    refine Steady.pure (same.trans ?_)
    rw [decodeFetched, if_pos short]
  · refine Steady.bind _ (steady_fetchHalfword mode state _ _) ?_
    intro second _
    refine Steady.bind (fun _ => True) (Steady.peek _ fun _ _ => trivial) ?_
    intro secondCacheable _
    refine Steady.bind _ (steady_decode mode _ 4) ?_
    intro decoded same
    refine Steady.pure (same.trans ?_)
    rw [decodeFetched, lowBits_or_high, if_neg long]

theorem steady_fetchMiss (mode : ExecutionMode) (mayUse : Bool) (state : CpuSnapshot) :
    Steady (fetchMiss (β := β) mode mayUse state)
      (fun fetched => fetched.2 = decodeFetched fetched.1) := by
  refine Steady.bind _ (steady_fetchInstruction mode mayUse state) ?_
  intro fetched decodes
  refine Steady.ite (fun _ => ?_) (fun _ => Steady.pure decodes)
  refine Steady.bind _ (steady_insertInstructionCache state decodes) ?_
  intro _ _
  exact Steady.pure decodes

/-- Whatever a fetch returns is the decoding of its word, cached or not. -/
theorem steady_fetch (mode : ExecutionMode) (state : CpuSnapshot) :
    Steady (fetch (β := β) mode state) (fun fetched => fetched.2 = decodeFetched fetched.1) := by
  refine Steady.bind (fun cached : Option (InstructionCacheEntry 64 DecodedInstruction) =>
    ∀ entry ∈ cached, entry.decoded = decodeFetched entry.instruction) (Steady.peek _ ?_) ?_
  · intro fabric wellFormed entry found
    split at found
    · exact wellFormed.instructionCache.lookup found
    · cases found
  · intro cached entries
    cases cached with
    | none => exact steady_fetchMiss mode _ state
    | some entry => exact Steady.pure (entries entry rfl)

theorem steady_dataAddress (mode : ExecutionMode) (state : CpuSnapshot) (instruction : BitVec 32)
    (address : Xlen) (width : AccessWidth) (loads : Bool) :
    Steady (dataAddress (β := β) mode state instruction address width loads) := by
  refine Steady.ite (fun _ => Steady.stop (by grind)) (fun _ => ?_)
  refine Steady.bind _ (steady_translate mode state address _) ?_
  intro translation _
  exact Steady.ite (fun _ => Steady.stop (by grind)) (fun _ => Steady.pure trivial)

theorem steady_loadValue (mode : ExecutionMode) (state : CpuSnapshot) (instruction : BitVec 32)
    (address : Xlen) (width : AccessWidth) :
    Steady (loadValue (β := β) mode state instruction address width) := by
  refine Steady.bind _ (steady_dataAddress mode state instruction address width true) ?_
  intro physicalAddress _
  refine Steady.bind _ (Steady.onBus _) ?_
  intro loaded _
  exact Steady.ite (fun _ => Steady.stop (by grind)) (fun _ => Steady.pure trivial)

theorem steady_storeValue (mode : ExecutionMode) (state : CpuSnapshot) (instruction : BitVec 32)
    (address : Xlen) (width : AccessWidth) (value : BitVec 64) :
    Steady (storeValue (β := β) mode state instruction address width value) := by
  refine Steady.bind _ (steady_dataAddress mode state instruction address width false) ?_
  intro physicalAddress _
  refine Steady.bind _ (Steady.onBus _) ?_
  intro fault _
  exact Steady.ite (fun _ => Steady.stop (by grind)) (fun _ => Steady.pure trivial)

theorem steady_executeAtomic (mode : ExecutionMode) (state : CpuSnapshot)
    (instruction : BitVec 32) (decoded : DecodedInstruction) :
    Steady (executeAtomic (β := β) mode state instruction decoded) := by
  refine Steady.bind _ (steady_dataAddress mode state instruction _ _ _) ?_
  intro physicalAddress _
  refine Steady.bind _ (Steady.onBus _) ?_
  rintro ⟨fault, value⟩ _
  exact Steady.ite (fun _ => Steady.stop (by grind)) (fun _ => Steady.pure trivial)

theorem steady_executeLoad (mode : ExecutionMode) (state : CpuSnapshot)
    (instruction : BitVec 32) (decoded : DecodedInstruction) :
    Steady (executeLoad (β := β) mode state instruction decoded) := by
  refine Steady.bind _ (steady_loadValue mode state instruction _ _) ?_
  intro value _
  exact Steady.pure trivial

theorem steady_executeFloatingLoad (mode : ExecutionMode) (state : CpuSnapshot)
    (instruction : BitVec 32) (decoded : DecodedInstruction) :
    Steady (executeFloatingLoad (β := β) mode state instruction decoded) := by
  refine Steady.ite (fun _ => Steady.stop (by grind)) (fun _ => ?_)
  refine Steady.bind _ (steady_loadValue mode state instruction _ _) ?_
  intro value _
  exact Steady.pure trivial

theorem steady_executeFloatingStore (mode : ExecutionMode) (state : CpuSnapshot)
    (instruction : BitVec 32) (decoded : DecodedInstruction) :
    Steady (executeFloatingStore (β := β) mode state instruction decoded) :=
  Steady.ite (fun _ => Steady.stop (by grind)) (fun _ => steady_storeValue mode state instruction _ _ _)

/-- A CSR instruction asks only for a write that the privilege check passed. -/
theorem steady_executeCsr (state : CpuSnapshot) (instruction : BitVec 32)
    (decoded : DecodedInstruction) :
    Steady (executeCsr (β := β) state instruction decoded)
      (fun result => ∀ address value, result.2 = some (address, value) →
        CsrFile.validateWrite state address state.privilege = .ready) := by
  refine Steady.bind (fun _ => True) (Steady.peek _ fun _ _ => trivial) ?_
  intro time _
  refine Steady.ite (fun _ => Steady.stop (by grind)) (fun checked => ?_)
  refine Steady.ite (fun _ => Steady.stop (by grind)) (fun _ => Steady.pure ?_)
  intro address value written
  simp only [Option.ite_none_right_eq_some, Option.some.injEq, Prod.mk.injEq] at written
  obtain ⟨required, same, _⟩ := written
  simp only [required, Bool.true_and, bne_iff_ne, ne_eq, Decidable.not_not] at checked
  exact same ▸ checked

end

namespace Outcome.Allowed

/-- An outcome that asks for neither a return nor a CSR write. -/
theorem plain {state : CpuSnapshot} {decoded : DecodedInstruction} {outcome : Outcome}
    (even : state.WellFormed → decoded.Wellformed → BitEven outcome.nextPc)
    (noReturn : outcome.privilegedState = none) (noWrite : outcome.csrWrite = none) :
    outcome.Allowed state decoded where
  even := even
  returns next some := by rw [noReturn] at some; cases some
  writes address value some := by rw [noWrite] at some; cases some

/-- The return of MRET or SRET, to the even address that it saved. -/
theorem privileged {state next : CpuSnapshot} (decoded : DecodedInstruction)
    (even : state.WellFormed → BitEven next.pc)
    (returned : executeMret state = some next ∨ executeSret state = some next) :
    Outcome.Allowed state decoded { nextPc := next.pc, privilegedState := some next } where
  even wellFormed _ := even wellFormed
  returns other some := by
    cases some
    exact ⟨returned, rfl⟩
  writes _ _ some := by cases some

end Outcome.Allowed

theorem even_sequential {state : CpuSnapshot} {decoded : DecodedInstruction}
    (wellFormed : state.WellFormed) (wellformed : decoded.Wellformed) :
    BitEven (state.pc + decoded.length.setWidth 64) :=
  wellFormed.pc.add wellformed.length.setWidth

theorem pc_of_executeMret {state next : CpuSnapshot} (returned : executeMret state = some next) :
    next.pc = state.machineCsrs.mepc := by
  unfold executeMret at returned
  dsimp only at returned
  split at returned
  · cases returned
  split at returned
  · cases returned
  · cases returned
    rfl

theorem pc_of_executeSret {state next : CpuSnapshot} (returned : executeSret state = some next) :
    next.pc = state.supervisorCsrs.sepc := by
  unfold executeSret at returned
  dsimp only at returned
  split at returned
  · cases returned
  · cases returned
    rfl

section

variable [SoftFloat]

theorem floatingOutcome_plain {state : CpuSnapshot} {decoded : DecodedInstruction}
    {nextPc : Xlen} {arm : SwitchArm} {outcome : Outcome}
    (computed : floatingOutcome state decoded nextPc arm = some outcome) :
    outcome.nextPc = nextPc ∧ outcome.privilegedState = none ∧ outcome.csrWrite = none := by
  unfold floatingOutcome at computed
  dsimp only at computed
  split at computed
  · cases computed
  split at computed
  case h_1 => split at computed <;> cases computed <;> exact ⟨rfl, rfl, rfl⟩
  case h_2 | h_7 | h_8 | h_9 =>
    obtain ⟨mode, _, same⟩ := Option.map_eq_some_iff.mp computed
    subst same
    exact ⟨rfl, rfl, rfl⟩
  case h_10 => cases computed
  all_goals
    cases computed
    exact ⟨rfl, rfl, rfl⟩

variable [CpuBus β]

/-- The switch asks the commit only for what is allowed. -/
theorem steady_execute (mode : ExecutionMode) (state : CpuSnapshot) (instruction : BitVec 32)
    (decoded : DecodedInstruction) :
    Steady (execute (β := β) mode state instruction decoded) (Outcome.Allowed state decoded) := by
  have sequential : ∀ outcome : Outcome,
      outcome.nextPc = state.pc + decoded.length.setWidth 64 → outcome.privilegedState = none →
      outcome.csrWrite = none → outcome.Allowed state decoded := by
    intro outcome next noReturn noWrite
    refine Outcome.Allowed.plain ?_ noReturn noWrite
    intro wellFormed wellformed
    rw [next]
    exact even_sequential wellFormed wellformed
  unfold execute
  dsimp only
  split
  case h_1 =>
    refine Steady.pure (Outcome.Allowed.plain ?_ rfl rfl)
    intro wellFormed wellformed
    exact even_integerNextPc wellformed _ _ wellFormed.pc (even_sequential wellFormed wellformed)
  case h_2 =>
    refine Steady.bind _ (steady_executeAtomic mode state instruction decoded) ?_
    intro value _
    exact Steady.pure (sequential _ rfl rfl rfl)
  case h_3 =>
    refine Steady.bind _ (steady_executeLoad mode state instruction decoded) ?_
    intro value _
    exact Steady.pure (sequential _ rfl rfl rfl)
  case h_4 =>
    refine Steady.bind _ (steady_executeFloatingLoad mode state instruction decoded) ?_
    intro value _
    exact Steady.pure (sequential _ rfl rfl rfl)
  case h_5 =>
    refine Steady.bind _ (steady_storeValue mode state instruction _ _ _) ?_
    intro _ _
    exact Steady.pure (sequential _ rfl rfl rfl)
  case h_6 =>
    refine Steady.bind _ (steady_executeFloatingStore mode state instruction decoded) ?_
    intro _ _
    exact Steady.pure (sequential _ rfl rfl rfl)
  case h_7 => exact Steady.pure (sequential _ rfl rfl rfl)
  case h_8 =>
    refine Exec.Ensures.lift ?_
    intro fabric wellFormed
    exact ⟨⟨DecodeCache.faithful_clear _,
      wellFormed.instructionCache.clear⟩, sequential _ rfl rfl rfl⟩
  case h_9 =>
    refine Steady.bind _ (steady_executeCsr state instruction decoded) ?_
    rintro ⟨oldValue, csrWrite⟩ checked
    refine Steady.pure ?_
    refine ⟨fun wellFormed wellformed => even_sequential wellFormed wellformed, ?_, ?_⟩
    · intro next some
      cases some
    · intro address value written
      exact ⟨checked address value written, rfl⟩
  case h_10 => exact Steady.stop (by cases state.privilege <;> simp [environmentCallCause])
  case h_11 => exact Steady.stop (by grind)
  case h_12 =>
    split
    · exact Steady.stop (by grind)
    · rename_i next returned
      refine Steady.pure (Outcome.Allowed.privileged decoded ?_ (.inl returned))
      intro wellFormed
      rw [pc_of_executeMret returned]
      exact wellFormed.mepc
  case h_13 =>
    split
    · exact Steady.stop (by grind)
    · rename_i next returned
      refine Steady.pure (Outcome.Allowed.privileged decoded ?_ (.inr returned))
      intro wellFormed
      rw [pc_of_executeSret returned]
      exact wellFormed.sepc
  case h_14 =>
    exact Steady.ite (fun _ => Steady.stop (by grind)) (fun _ => Steady.pure (sequential _ rfl rfl rfl))
  case h_15 =>
    refine Steady.ite (fun _ => Steady.stop (by grind)) (fun _ => ?_)
    refine Exec.Ensures.lift ?_
    intro fabric wellFormed
    exact ⟨⟨wellFormed.decodeCache,
      wellFormed.instructionCache.sfence _ _⟩, sequential _ rfl rfl rfl⟩
  case h_16 => exact Steady.stop (by grind)
  case h_17 =>
    split
    · exact Steady.stop (by grind)
    · rename_i outcome computed
      obtain ⟨next, noReturn, noWrite⟩ := floatingOutcome_plain computed
      exact Steady.pure (sequential _ next noReturn noWrite)

end

end RvEmulator.Core64
