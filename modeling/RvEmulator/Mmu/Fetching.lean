import RvEmulator.Common.InstructionCache
import RvEmulator.Mmu.Coherence

/-! Coherence of cached instructions with the log of a run: what a fetch that
skips the page walk and the memory leaves out would change nothing. -/

namespace RvEmulator

open Library

section

variable [CpuBus β] {paging : Paging w}

/-- SUM and MXR have no say in a fetch. -/
theorem privilegeAllows_instructionFetch (pte : BitVec w) (privilege : PrivilegeMode)
    (mstatus other : BitVec w) :
    privilegeAllows pte privilege .instructionFetch mstatus =
      privilegeAllows pte privilege .instructionFetch other := by
  unfold privilegeAllows
  cases privilege <;> cases flag pte PteBits.user <;> simp

/-- A fetch at the virtual address reads the physical address, and its page walk
has nothing left to mark. -/
inductive Paging.Settled (paging : Paging w) (bus : β) (satp : BitVec w)
    (privilege : PrivilegeMode) (virtualAddress : BitVec w) : PhysAddr → Prop where
  | bare (off : paging.bare ⟨satp, privilege, 0⟩ = true) :
      Settled paging bus satp privilege virtualAddress (virtualAddress.setWidth 64)
  | leaf (on : paging.bare ⟨satp, privilege, 0⟩ = false)
      (canonical : paging.canonical virtualAddress = true)
      (resolved : paging.resolve bus satp virtualAddress = .leaf found)
      (aligned : paging.misaligned found.level found.word = false)
      (allowed : privilegeAllows found.word privilege .instructionFetch 0 = true)
      (accessed : flag found.word PteBits.accessed = true) :
      Settled paging bus satp privilege virtualAddress
        (paging.physicalAddress found.level found.word virtualAddress)

theorem Paging.Settled.persists (lawful : LawfulPaging paging) {before after : β} {satp : BitVec w}
    {privilege : PrivilegeMode} {virtualAddress : BitVec w} {address : PhysAddr}
    (settled : paging.Settled before satp privilege virtualAddress address)
    (unchanged : paging.bare ⟨satp, privilege, 0⟩ = false →
      paging.Unchanged AdUpdate before after satp virtualAddress) :
    paging.Settled after satp privilege virtualAddress address := by
  cases settled with
  | bare off => exact .bare off
  | leaf on canonical resolved aligned allowed accessed =>
    obtain ⟨word, update, still⟩ := paging.resolve_of_unchanged lawful (unchanged on) resolved
    rw [← lawful.physicalAddress update.1]
    refine .leaf on canonical still ?_ ?_ (update.1.flag_grown accessed)
    · rw [lawful.misaligned update.1]
      exact aligned
    · rw [privilegeAllows_of_marks update.1]
      exact allowed

theorem flag_accessed_updatedPte (pte : BitVec w) (wide : 6 < w) (access : MemoryAccessType) :
    flag (updatedPte pte access) PteBits.accessed = true := by
  have set : (pte ||| PteBits.accessed).getLsbD 6 = true := by
    rw [BitVec.getLsbD_or, PteBits.accessed, getLsbD_bit]
    simp [wide]
  rw [PteBits.accessed, flag_shift]
  unfold updatedPte
  split
  · rw [BitVec.getLsbD_or, set, Bool.true_or]
  · exact set

/-- A translation that succeeds settles its address, unless its own write changed
more than the marks. -/
theorem Paging.settled_of_ready (lawful : LawfulPaging paging) (wide : 6 < w) {quiet : QuietBus β}
    (readsBack : paging.ReadsBack quiet) {bus : β} (memory : quiet.same bus bus)
    {context : TranslationContext w} {virtualAddress : BitVec w}
    (ready : (paging.translateAddress context virtualAddress .instructionFetch bus).1.isReady = true)
    (unchanged : paging.bare context = false → paging.canonical virtualAddress = true →
      paging.Unchanged AdUpdate bus
        (paging.translateAddress context virtualAddress .instructionFetch bus).2 context.satp
        virtualAddress) :
    paging.Settled (paging.translateAddress context virtualAddress .instructionFetch bus).2
      context.satp context.privilege virtualAddress
      (paging.translateAddress context virtualAddress .instructionFetch bus).1.physicalAddress := by
  unfold Paging.translateAddress at ready unchanged ⊢
  split
  · rename_i off
    exact .bare off
  rename_i on
  rw [if_neg on] at ready unchanged
  split
  · rename_i invalid
    rw [if_pos invalid] at ready
    cases ready
  rename_i canonical
  rw [if_neg canonical] at ready unchanged
  have active : paging.bare context = false := by simpa using on
  have valid : paging.canonical virtualAddress = true := by simpa using canonical
  obtain ⟨found, walked, allowed, answer⟩ := paging.walked_of_ready quiet memory ready
  have kept := unchanged active valid
  obtain ⟨word, update, resolved⟩ := paging.resolve_of_unchanged lawful kept walked.resolved
  have holds := (paging.format.leaf_of_resolve resolved).2.1
  have after := walked.wordAt readsBack
  have same : word = updatedPte found.word .instructionFetch :=
    (Except.ok.inj (after.symm.trans holds)).symm
  subst same
  have address : ((Prod.fst <$> paging.walkAddress context virtualAddress .instructionFetch :
        StateM β TranslationResult) bus).1.physicalAddress =
      paging.physicalAddress found.level (updatedPte found.word .instructionFetch)
        virtualAddress := by
    rw [lawful.physicalAddress update.1]
    exact congrArg (fun result => result.1.physicalAddress) answer
  rw [address]
  refine .leaf active valid resolved ?_ ?_ (flag_accessed_updatedPte found.word wide _)
  · rw [lawful.misaligned update.1]
    exact walked.aligned
  · rw [privilegeAllows_of_marks update.1, privilegeAllows_instructionFetch _ _ 0 context.mstatus]
    exact allowed

/-- Where an address is settled, a translation finds just that. -/
theorem Paging.Settled.translate {quiet : QuietBus β} {bus : β} (memory : quiet.same bus bus)
    {context : TranslationContext w} {virtualAddress : BitVec w} {address : PhysAddr}
    (settled : paging.Settled bus context.satp context.privilege virtualAddress address) :
    (paging.translateAddress context virtualAddress .instructionFetch bus).1 = .ready address ∧
      quiet.same bus (paging.translateAddress context virtualAddress .instructionFetch bus).2 := by
  unfold Paging.translateAddress
  cases settled with
  | bare off =>
    rw [if_pos (show paging.bare context = true from off)]
    exact ⟨rfl, memory⟩
  | @leaf found on canonical resolved aligned allowed accessed =>
    have active : ¬paging.bare context = true := by
      rw [show paging.bare context = false from on]
      decide
    rw [if_neg active, if_neg (by simp [canonical])]
    obtain ⟨reached, same, walked⟩ :=
      paging.walkAddress_eq quiet context virtualAddress .instructionFetch memory
    have nothing : updatedPte found.word .instructionFetch = found.word :=
      updatedPte_eq_self accessed fun stores => nomatch stores
    have permitted : privilegeAllows found.word context.privilege .instructionFetch
        context.mstatus = true := by
      rw [privilegeAllows_instructionFetch _ _ _ 0]
      exact allowed
    rw [resolved] at walked
    simp only [Paging.finish, Paging.finishWalk, aligned, permitted, nothing, ne_eq,
      not_true_eq_false, if_false, Bool.not_true, Bool.or_self, Bool.false_eq_true] at walked
    have ended : (Prod.fst <$> paging.walkAddress context virtualAddress .instructionFetch :
        StateM β TranslationResult) bus =
        ((paging.walkAddress context virtualAddress .instructionFetch bus).1.1,
          (paging.walkAddress context virtualAddress .instructionFetch bus).2) := rfl
    rw [ended, walked]
    exact ⟨rfl, quiet.symm same⟩

/-- Addresses of one 4 KiB page have physical addresses of one such page. -/
theorem LawfulPaging.page_number (lawful : LawfulPaging paging) {level : Nat}
    {pte virtualAddress other : BitVec w} (inside : level < paging.levels)
    (aligned : paging.misaligned level pte = false)
    (page : other >>> 12 = virtualAddress >>> 12) :
    paging.physicalAddress level pte other >>> 12 =
      paging.physicalAddress level pte virtualAddress >>> 12 := by
  have same : ∀ i, other.getLsbD (12 + i) = virtualAddress.getLsbD (12 + i) := by
    intro i
    rw [← BitVec.getLsbD_ushiftRight, page, BitVec.getLsbD_ushiftRight]
  have combined (place : BitVec w) :
      (paging.physicalAddress level pte virtualAddress &&&
          ~~~(paging.offsetMask (paging.leafShift level)).setWidth 64) |||
        (place &&& paging.offsetMask (paging.leafShift level)).setWidth 64 =
      paging.physicalAddress level pte place := lawful.page inside aligned
  apply BitVec.eq_of_getLsbD_eq
  intro i _
  have left := congrArg (·.getLsbD (12 + i)) (combined other)
  have right := congrArg (·.getLsbD (12 + i)) (combined virtualAddress)
  simp only [BitVec.getLsbD_or, BitVec.getLsbD_setWidth, BitVec.getLsbD_and, same] at left right
  rw [BitVec.getLsbD_ushiftRight, BitVec.getLsbD_ushiftRight]
  exact left.symm.trans right

/-- Settled addresses of one 4 KiB page lie in one such page of memory. -/
theorem Paging.Settled.same_page (lawful : LawfulPaging paging) {bus : β} {satp : BitVec w}
    {privilege : PrivilegeMode} {virtualAddress other : BitVec w} {address place : PhysAddr}
    (first : paging.Settled bus satp privilege virtualAddress address)
    (second : paging.Settled bus satp privilege other place)
    (page : other >>> 12 = virtualAddress >>> 12) : place >>> 12 = address >>> 12 := by
  cases first with
  | bare off =>
    cases second with
    | bare =>
      apply BitVec.eq_of_getLsbD_eq
      intro i _
      have same : other.getLsbD (12 + i) = virtualAddress.getLsbD (12 + i) := by
        rw [← BitVec.getLsbD_ushiftRight, page, BitVec.getLsbD_ushiftRight]
      simp only [BitVec.getLsbD_ushiftRight, BitVec.getLsbD_setWidth, same]
    | leaf on =>
      rw [off] at on
      cases on
  | leaf on canonical resolved aligned =>
    cases second with
    | bare off =>
      rw [off] at on
      cases on
    | leaf _ _ alike =>
      have inside := Paging.level_lt resolved
      obtain ⟨_, also⟩ := paging.resolve_page lawful resolved (lawful.same_page inside page)
      cases also.symm.trans alike
      exact lawful.page_number inside aligned page

/-! Cached halfwords. -/

theorem Recorded.HalfwordClean.earlier {recorded later : Recorded w β}
    (grown : recorded.Grown later) {address : PhysAddr} (clean : later.HalfwordClean address) :
    recorded.HalfwordClean address ∧
      halfwordAt recorded.bus address = halfwordAt later.bus address := by
  induction grown with
  | refl => exact ⟨clean, rfl⟩
  | @step middle earlier command ih =>
    have kept : BusEvent.KeepsHalfword
        ⟨middle.satp, command, middle.bus, (record command middle).2.bus⟩ address :=
      clean _ List.mem_cons_self
    obtain ⟨first, same⟩ := ih fun change older => clean change (List.mem_cons_of_mem _ older)
    exact ⟨first, same.trans kept⟩

/-- As far as the page tables can be trusted, a fetch at the address reads
memory that, as far as it has been left alone, holds the value. -/
def HalfwordCoherent (paging : Paging w) (ram : PhysAddr → Prop) (recorded : Recorded w β)
    (satp : BitVec w) (privilege : PrivilegeMode) (virtualAddress : BitVec w)
    (value : BitVec 16) : Prop :=
  (paging.bare ⟨satp, privilege, 0⟩ = false → paging.canonical virtualAddress = true →
    recorded.Trusted paging satp virtualAddress) →
  ∃ address, paging.Settled recorded.bus satp privilege virtualAddress address ∧ ram address ∧
    (recorded.HalfwordClean address →
      (halfwordAt recorded.bus address).ok = true ∧
        (halfwordAt recorded.bus address).value.setWidth 16 = value)

variable {ram : PhysAddr → Prop}

theorem HalfwordCoherent.later (lawful : LawfulPaging paging) {recorded later : Recorded w β}
    (grown : recorded.Grown later) {satp : BitVec w} {privilege : PrivilegeMode}
    {virtualAddress : BitVec w} {value : BitVec 16}
    (coherent : HalfwordCoherent paging ram recorded satp privilege virtualAddress value) :
    HalfwordCoherent paging ram later satp privilege virtualAddress value := by
  intro trusted
  obtain ⟨address, settled, inRam, held⟩ := coherent fun on canonical =>
    ((trusted on canonical).earlier lawful grown).1
  have still : paging.Settled later.bus satp privilege virtualAddress address := by
    cases settled with
    | bare off => exact .bare off
    | leaf on canonical resolved aligned allowed accessed =>
      refine (Paging.Settled.leaf on canonical resolved aligned allowed accessed).persists lawful ?_
      exact fun _ => ((trusted on canonical).earlier lawful grown).2
  refine ⟨address, still, inRam, ?_⟩
  intro clean
  obtain ⟨before, same⟩ := clean.earlier grown
  rw [← same]
  exact held before

/-- The uncached fetch of a halfword leaves it coherent. -/
theorem HalfwordCoherent.of_fetch (lawful : LawfulPaging paging) (wide : 6 < w)
    {quiet : QuietBus β} (readsBack : paging.ReadsBack quiet) {recorded reached : Recorded w β}
    (memory : quiet.same recorded.bus recorded.bus) {context : TranslationContext w}
    {virtualAddress : BitVec w} {translation : TranslationResult}
    (translated : paging.translateAddress context virtualAddress .instructionFetch recorded =
      (translation, reached))
    (ready : translation.isReady = true)
    (inRam : (paging.bare context = false → paging.canonical virtualAddress = true →
        reached.Trusted paging context.satp virtualAddress) →
      paging.Settled reached.bus context.satp context.privilege virtualAddress
        translation.physicalAddress → ram translation.physicalAddress)
    (succeeded : (halfwordAt reached.bus translation.physicalAddress).ok = true) :
    HalfwordCoherent paging ram reached context.satp context.privilege virtualAddress
      ((halfwordAt reached.bus translation.physicalAddress).value.setWidth 16) := by
  intro trusted
  have grown := paging.grown_translateAddress context virtualAddress .instructionFetch recorded
  obtain ⟨value, bus, _⟩ :=
    paging.translateAddress_recorded quiet context virtualAddress .instructionFetch memory
  rw [translated] at value bus grown
  dsimp only at value bus
  have settled := paging.settled_of_ready lawful wide readsBack memory (value ▸ ready) (by
    intro on canonical
    rw [← bus]
    exact ((trusted on canonical).earlier lawful grown).2)
  rw [← value, ← bus] at settled
  exact ⟨translation.physicalAddress, settled, inRam trusted settled, fun _ => ⟨succeeded, rfl⟩⟩

/-- In a disciplined run the uncached fetch of a coherent halfword finds it, and
changes nothing. -/
theorem HalfwordCoherent.fetch (lawful : LawfulPaging paging) {quiet : QuietBus β}
    {satps : List (BitVec w)} {recorded : Recorded w β}
    (memory : quiet.same recorded.bus recorded.bus) {context : TranslationContext w}
    {virtualAddress : BitVec w} {value : BitVec 16}
    (coherent : HalfwordCoherent paging ram recorded context.satp context.privilege virtualAddress
      value)
    (disciplined : Disciplined paging ram satps
      (paging.translateAddress context virtualAddress .instructionFetch recorded).2.log) :
    ∃ address reached, ram address ∧
      paging.translateAddress context virtualAddress .instructionFetch recorded =
        (.ready address, reached) ∧
      recorded.Grown reached ∧ quiet.same recorded.bus reached.bus ∧
      (Disciplined paging ram satps
          (record (.read address .halfWord .instructionFetch) reached).2.log →
        (halfwordAt reached.bus address).ok = true ∧
          (halfwordAt reached.bus address).value.setWidth 16 = value) := by
  have grown := paging.grown_translateAddress context virtualAddress .instructionFetch recorded
  obtain ⟨answer, bus, _⟩ :=
    paging.translateAddress_recorded quiet context virtualAddress .instructionFetch memory
  have clean (active : paging.bare context = false)
      (canonical : paging.canonical virtualAddress = true) :=
    (Recorded.clean_of_translate lawful memory active canonical disciplined).1
  obtain ⟨address, settled, inRam, held⟩ := coherent clean
  obtain ⟨ready, same⟩ := settled.translate memory
  refine ⟨address, _, inRam, Prod.ext (answer.trans ready) rfl, grown, bus.symm ▸ same, ?_⟩
  intro fetched
  have clean : recorded.HalfwordClean address := by
    intro change member
    obtain ⟨events, longer⟩ := grown.log
    refine fetched.halfwords [] _ _ address .halfWord rfl rfl inRam change ?_
    rw [longer, Recorded.sinceFence_append]
    exact List.mem_append_right _ member
  have unread : halfwordAt recorded.bus address =
      halfwordAt (paging.translateAddress context virtualAddress .instructionFetch recorded).2.bus
        address := by
    rw [bus]
    exact quiet.read_value same _ _ _
  rw [← unread]
  exact held clean

/-- What lies on the 4 KiB page of a coherent halfword is in memory, if that consists of
whole pages. -/
theorem HalfwordCoherent.ram_of_page (lawful : LawfulPaging paging)
    (pages : ∀ address place : PhysAddr, place >>> 12 = address >>> 12 → ram address → ram place)
    {recorded : Recorded w β} {satp : BitVec w} {privilege : PrivilegeMode}
    {virtualAddress other : BitVec w} {value : BitVec 16} {place : PhysAddr}
    (coherent : HalfwordCoherent paging ram recorded satp privilege virtualAddress value)
    (page : other >>> 12 = virtualAddress >>> 12)
    (trusted : paging.bare ⟨satp, privilege, 0⟩ = false → paging.canonical other = true →
      recorded.Trusted paging satp other)
    (settled : paging.Settled recorded.bus satp privilege other place) : ram place := by
  obtain ⟨address, first, inRam, _⟩ := coherent fun _ _ address member => by
    cases settled with
    | bare off =>
      rename_i on _
      rw [off] at on
      cases on
    | leaf on canonical resolved =>
      have inside := Paging.level_lt resolved
      rw [(paging.resolve_page lawful resolved (lawful.same_page inside page.symm)).1] at member
      exact trusted on canonical address member
  exact pages address place (first.same_page lawful settled page) inRam

/-! Cached instructions. -/

variable {D : Type} {direct : BitVec 32 → BitVec 8 → D}

/-- An instruction that an uncached fetch and decoding would give again. -/
def InstructionCoherent (paging : Paging w) (ram : PhysAddr → Prop)
    (direct : BitVec 32 → BitVec 8 → D) (recorded : Recorded w β) (satp : BitVec w)
    (privilege : PrivilegeMode) (virtualAddress : BitVec w) (instruction : BitVec 32)
    (decoded : D) : Prop :=
  ∃ low, HalfwordCoherent paging ram recorded satp privilege virtualAddress low ∧
    if (low.setWidth 32 &&& 3#32) ≠ 3#32 then
      instruction = low.setWidth 32 ∧ decoded = direct instruction 2
    else
      ∃ high, HalfwordCoherent paging ram recorded satp privilege (virtualAddress + 2) high ∧
        instruction = low.setWidth 32 ||| (high.setWidth 32 <<< 16) ∧
        decoded = direct instruction 4

theorem InstructionCoherent.short {recorded : Recorded w β} {satp : BitVec w}
    {privilege : PrivilegeMode} {virtualAddress : BitVec w} {low : BitVec 16}
    (coherent : HalfwordCoherent paging ram recorded satp privilege virtualAddress low)
    (compressed : (low.setWidth 32 &&& 3#32) ≠ 3#32) :
    InstructionCoherent paging ram direct recorded satp privilege virtualAddress (low.setWidth 32)
      (direct (low.setWidth 32) 2) := by
  refine ⟨low, coherent, ?_⟩
  rw [if_pos compressed]
  exact ⟨rfl, rfl⟩

theorem InstructionCoherent.long {recorded : Recorded w β} {satp : BitVec w}
    {privilege : PrivilegeMode} {virtualAddress : BitVec w} {low high : BitVec 16}
    (first : HalfwordCoherent paging ram recorded satp privilege virtualAddress low)
    (full : ¬(low.setWidth 32 &&& 3#32) ≠ 3#32)
    (second : HalfwordCoherent paging ram recorded satp privilege (virtualAddress + 2) high) :
    InstructionCoherent paging ram direct recorded satp privilege virtualAddress
      (low.setWidth 32 ||| (high.setWidth 32 <<< 16))
      (direct (low.setWidth 32 ||| (high.setWidth 32 <<< 16)) 4) := by
  refine ⟨low, first, ?_⟩
  rw [if_neg full]
  exact ⟨high, second, rfl, rfl⟩

theorem InstructionCoherent.later (lawful : LawfulPaging paging) {recorded later : Recorded w β}
    (grown : recorded.Grown later) {satp : BitVec w} {privilege : PrivilegeMode}
    {virtualAddress : BitVec w} {instruction : BitVec 32} {decoded : D}
    (coherent : InstructionCoherent paging ram direct recorded satp privilege virtualAddress
      instruction decoded) :
    InstructionCoherent paging ram direct later satp privilege virtualAddress instruction
      decoded := by
  obtain ⟨low, first, rest⟩ := coherent
  refine ⟨low, first.later lawful grown, ?_⟩
  split at rest
  · rename_i short
    rw [if_pos short]
    exact rest
  · rename_i long
    obtain ⟨high, second, same⟩ := rest
    rw [if_neg long]
    exact ⟨high, second.later lawful grown, same⟩

def InstructionCacheEntry.Coherent (paging : Paging w) (ram : PhysAddr → Prop)
    (direct : BitVec 32 → BitVec 8 → D) (recorded : Recorded w β)
    (entry : InstructionCacheEntry w D) : Prop :=
  InstructionCoherent paging ram direct recorded entry.satp entry.privilege entry.virtualAddress
    entry.instruction entry.decoded

namespace InstructionCache

/-- Every entry of the current generation is coherent, and none is of a later one. -/
structure Coherent (paging : Paging w) (ram : PhysAddr → Prop)
    (direct : BitVec 32 → BitVec 8 → D) (recorded : Recorded w β)
    (cache : InstructionCache w D) : Prop where
  current : ∀ index, (cache.entries index).generation = cache.generation →
    (cache.entries index).Coherent paging ram direct recorded
  past : ∀ index, (cache.entries index).generation ≤ cache.generation
  started : cache.generation ≠ 0

/-- No entry can be served. -/
def Vacant (cache : InstructionCache w D) : Prop :=
  ∀ index, (cache.entries index).generation ≠ cache.generation

theorem Coherent.later (lawful : LawfulPaging paging) {recorded later : Recorded w β}
    (grown : recorded.Grown later) {cache : InstructionCache w D}
    (coherent : cache.Coherent paging ram direct recorded) :
    cache.Coherent paging ram direct later :=
  { coherent with current := fun index same => InstructionCoherent.later lawful grown (coherent.current index same) }

theorem Coherent.insert {recorded : Recorded w β} {cache : InstructionCache w D}
    (coherent : cache.Coherent paging ram direct recorded) (indexing : CacheIndexing w)
    (virtualAddress satp : BitVec w) (privilege : PrivilegeMode) (instruction : BitVec 32)
    (decoded : D)
    (new : (cache.entryFor indexing virtualAddress satp privilege instruction decoded).Coherent
      paging ram direct recorded) :
    (cache.insert indexing virtualAddress satp privilege instruction decoded).Coherent paging ram
      direct recorded := by
  have place := indexing.entryIndex virtualAddress satp privilege
  refine ⟨?_, ?_, coherent.started⟩
  · intro index
    rw [entries_insert, Function.update_apply]
    split
    · exact fun _ => new
    · exact coherent.current index
  · intro index
    rw [entries_insert, Function.update_apply]
    split
    · exact BitVec.le_refl _
    · exact coherent.past index

variable [Inhabited D]

theorem Coherent.initial (recorded : Recorded w β) :
    (InstructionCache.initial : InstructionCache w D).Coherent paging ram direct recorded where
  current _ same := absurd same (show (0 : BitVec 64) ≠ 1 by decide)
  past _ := show (0 : BitVec 64) ≤ 1 by decide
  started := show (1 : BitVec 64) ≠ 0 by decide

/-- A cleared cache serves nothing, whatever happens to memory. -/
theorem Coherent.clear {recorded other : Recorded w β} {cache : InstructionCache w D}
    (coherent : cache.Coherent paging ram direct recorded) :
    cache.clear.Vacant ∧ cache.clear.Coherent paging ram direct other := by
  have older : (∀ index, (cache.clear.entries index).generation < cache.clear.generation) := by
    intro index
    unfold InstructionCache.clear
    split
    · exact show (0 : BitVec 64) < 1 by decide
    · rename_i room
      have bound := coherent.past index
      have one : (1 : BitVec 64).toNat = 1 := rfl
      have next : (cache.generation + 1).toNat = cache.generation.toNat + 1 := by
        rw [BitVec.toNat_add, one, Nat.mod_eq_of_lt]
        refine Nat.lt_of_le_of_ne (by omega) ?_
        intro full
        refine room (BitVec.eq_of_toNat_eq ?_)
        rw [BitVec.toNat_add, one, full]
        rfl
      rw [BitVec.le_def] at bound
      rw [BitVec.lt_def]
      dsimp only
      omega
  have vacant : cache.clear.Vacant := by
    intro index same
    have less := older index
    rw [same] at less
    exact absurd less (BitVec.lt_irrefl _)
  refine ⟨vacant, fun index same => absurd same (vacant index),
    fun index => BitVec.le_of_lt (older index), ?_⟩
  intro zero
  have less := older 0
  rw [zero, BitVec.lt_def] at less
  exact absurd less (Nat.not_lt_zero _)

omit [Inhabited D] in
theorem Coherent.of_vacant {recorded other : Recorded w β} {cache : InstructionCache w D}
    (coherent : cache.Coherent paging ram direct recorded) (vacant : cache.Vacant) :
    cache.Coherent paging ram direct other :=
  { coherent with current := fun index same => absurd same (vacant index) }

theorem Coherent.sfence {recorded : Recorded w β} {cache : InstructionCache w D}
    (coherent : cache.Coherent paging ram direct recorded) (indexing : CacheIndexing w)
    (virtualAddress : Option (BitVec w)) (asid : Option (BitVec 16)) :
    (cache.sfence indexing virtualAddress asid).Coherent paging ram direct recorded := by
  unfold InstructionCache.sfence
  split
  · exact coherent.clear.2
  · exact { coherent with }
  · exact { coherent with }
  · exact { coherent with }

end InstructionCache

end

end RvEmulator
