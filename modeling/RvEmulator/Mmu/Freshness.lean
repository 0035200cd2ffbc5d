import RvEmulator.Mmu.Tlb
import RvEmulator.Common.RamLike
import RvEmulator.Mmu.Walk

/-! Fresh TLB entries: those that hold what a walk would find now. Through them
the TLB is transparent, and every completed walk leaves one behind. -/

namespace RvEmulator

open Library

/-- The entry holds what the walk of an address finds, up to marks that were set
in memory since. -/
structure TlbEntry.Fresh [CpuBus β] (paging : Paging w) (bus : β) (satp virtualAddress : BitVec w)
    (entry : TlbEntry w) (found : Leaf PhysAddr (BitVec w)) : Prop where
  resolved : paging.resolve bus satp virtualAddress = .leaf found
  marks : Marks entry.pte found.word
  shift : entry.pageShift = paging.leafShift found.level
  aligned : paging.misaligned found.level found.word = false
  page : entry.physicalPage =
    paging.physicalAddress found.level found.word virtualAddress &&&
      ~~~(paging.offsetMask entry.pageShift).setWidth 64

section

variable [CpuBus β] {paging : Paging w}

theorem privilegeAllows_of_marks {old new : BitVec w} (marks : Marks old new)
    (privilege : PrivilegeMode) (access : MemoryAccessType) (mstatus : BitVec w) :
    privilegeAllows new privilege access mstatus = privilegeAllows old privilege access mstatus := by
  obtain ⟨_, readable, writable, executable, user, _⟩ := marks.flags
  unfold privilegeAllows
  rw [readable, writable, executable, user]

/-- The level of what a walk finds is one of the page table's. -/
theorem Paging.level_lt {bus : β} {satp virtualAddress : BitVec w}
    {found : Leaf PhysAddr (BitVec w)}
    (resolved : paging.resolve bus satp virtualAddress = .leaf found) :
    found.level < paging.levels :=
  paging.format.level_lt_of_resolve resolved

/-- Where a fresh entry admits an access, the walk ends at the entry's address
and has nothing to write. -/
theorem TlbEntry.Fresh.finish {quiet : QuietBus β} (lawful : LawfulPaging paging) {bus origin : β}
    {context : TranslationContext w} {virtualAddress : BitVec w} {access : MemoryAccessType}
    {entry : TlbEntry w} {found : Leaf PhysAddr (BitVec w)}
    (fresh : entry.Fresh paging origin context.satp virtualAddress found)
    (equal : quiet.same bus origin) (shift : BitVec 8) (page : BitVec w)
    (hit : Tlb.hits paging context access shift page entry = true) :
    ∃ metadata reached, quiet.same reached origin ∧
      paging.walkAddress context virtualAddress access bus =
        ((.ready (entry.physicalPage |||
            (virtualAddress &&& paging.offsetMask entry.pageShift).setWidth 64), metadata),
          reached) := by
  obtain ⟨reached, same, walked⟩ :=
    paging.walkAddress_eq quiet context virtualAddress access equal
  simp only [Tlb.hits, Bool.and_eq_true, beq_iff_eq, Bool.or_eq_true, bne_iff_ne, ne_eq] at hit
  obtain ⟨⟨⟨_, allowed⟩, accessed⟩, dirty⟩ := hit
  have nothing : updatedPte found.word access = found.word := by
    refine updatedPte_eq_self (fresh.marks.flag_grown accessed) ?_
    intro stores
    exact fresh.marks.flag_grown (dirty.resolve_left fun other => other stores)
  have permitted : privilegeAllows found.word context.privilege access context.mstatus = true := by
    rw [privilegeAllows_of_marks fresh.marks]
    exact allowed
  have address : entry.physicalPage |||
      (virtualAddress &&& paging.offsetMask entry.pageShift).setWidth 64 =
      paging.physicalAddress found.level found.word virtualAddress := by
    rw [fresh.page, fresh.shift]
    exact lawful.page (Paging.level_lt fresh.resolved) fresh.aligned
  rw [fresh.resolved] at walked
  simp only [Paging.finish, Paging.finishWalk, fresh.aligned, permitted, nothing, ne_eq,
    not_true_eq_false, if_false, Bool.not_true, Bool.or_self, Bool.false_eq_true] at walked
  exact ⟨_, reached, same, by rw [walked, address]; rfl⟩

/-- A TLB whose hits are fresh gives what the uncached translation gives, and
leaves the same memory. The two run on buses with equal contents. -/
theorem Tlb.translate_of_fresh {quiet : QuietBus β} (lawful : LawfulPaging paging)
    {bus origin : β} {tlb : Tlb w} {context : TranslationContext w} {virtualAddress : BitVec w}
    {access : MemoryAccessType} (equal : quiet.same bus origin)
    (fresh : paging.bare context = false → paging.canonical virtualAddress = true →
      ∀ entry, Tlb.lookup paging tlb context virtualAddress access = some entry →
      ∃ found, entry.Fresh paging origin context.satp virtualAddress found) :
    (Tlb.translate paging context virtualAddress access (bus, tlb)).1 =
        (paging.translateAddress context virtualAddress access origin).1 ∧
      quiet.same (Tlb.translate paging context virtualAddress access (bus, tlb)).2.1
        (paging.translateAddress context virtualAddress access origin).2 := by
  unfold Tlb.translate Paging.translateAddress
  dsimp only
  split
  · exact ⟨rfl, equal⟩
  rename_i active
  split
  · exact ⟨rfl, equal⟩
  rename_i canonical
  have reference : ∀ outcome : (TranslationResult × WalkMetadata w) × β,
      paging.walkAddress context virtualAddress access origin = outcome →
      (Prod.fst <$> paging.walkAddress context virtualAddress access : StateM β _) origin =
        (outcome.1.1, outcome.2) := by
    intro outcome walked
    subst walked
    rfl
  have self := quiet.self_right equal
  cases cached : Tlb.lookup paging tlb context virtualAddress access with
  | some entry =>
    obtain ⟨found, current⟩ := fresh (by simpa using active) (by simpa using canonical) entry cached
    obtain ⟨_, _, hit⟩ := Tlb.mem_of_lookup cached
    obtain ⟨metadata, reached, same, walked⟩ := current.finish lawful self _ _ hit
    rw [reference _ walked]
    exact ⟨rfl, quiet.trans equal (quiet.symm same)⟩
  | none =>
    obtain ⟨left, leftSame, leftWalk⟩ :=
      paging.walkAddress_eq quiet context virtualAddress access equal
    obtain ⟨right, rightSame, rightWalk⟩ :=
      paging.walkAddress_eq quiet context virtualAddress access self
    obtain ⟨answer, after⟩ := paging.finish_same quiet context virtualAddress access
      (paging.resolve origin context.satp virtualAddress)
      (quiet.trans leftSame (quiet.symm rightSame))
    rw [reference _ rightWalk]
    simp only [leftWalk, ← answer]
    split
    · exact ⟨rfl, after⟩
    · exact ⟨rfl, after⟩

/-! How freshness comes about and what it survives. -/

/-- A change of memory that the walk of an address cannot tell. -/
def Paging.Unchanged (paging : Paging w) (changed : BitVec w → BitVec w → Prop) (before after : β)
    (satp virtualAddress : BitVec w) : Prop :=
  ∀ address ∈ paging.path before satp virtualAddress,
    RadixFormat.Agree changed (paging.wordAt before address) (paging.wordAt after address)

/-- After such a change the walk finds the same leaf, up to marks. -/
theorem Paging.resolve_of_unchanged (lawful : LawfulPaging paging) {before after : β}
    {satp virtualAddress : BitVec w} {found : Leaf PhysAddr (BitVec w)}
    (unchanged : paging.Unchanged AdUpdate before after satp virtualAddress)
    (resolved : paging.resolve before satp virtualAddress = .leaf found) :
    ∃ word, AdUpdate found.word word ∧
      paging.resolve after satp virtualAddress = .leaf { found with word } := by
  obtain ⟨_, alike⟩ := paging.format.resolve_of_agree (paging.harmless_adUpdate lawful)
    virtualAddress paging.levels (paging.tableAddress satp) false unchanged
  unfold Paging.resolve at resolved ⊢
  rw [resolved] at alike
  generalize paging.format.resolve (paging.wordAt after) virtualAddress paging.levels
    (paging.tableAddress satp) false = ended at alike ⊢
  cases alike with
  | leaf step => exact ⟨_, step, rfl⟩

theorem TlbEntry.Fresh.persists (lawful : LawfulPaging paging) {before after : β}
    {satp virtualAddress : BitVec w} {entry : TlbEntry w} {found : Leaf PhysAddr (BitVec w)}
    (fresh : entry.Fresh paging before satp virtualAddress found)
    (unchanged : paging.Unchanged AdUpdate before after satp virtualAddress) :
    ∃ word, entry.Fresh paging after satp virtualAddress { found with word } := by
  obtain ⟨word, update, resolved⟩ := paging.resolve_of_unchanged lawful unchanged fresh.resolved
  refine ⟨word, resolved, fresh.marks.trans update.1, fresh.shift, ?_, ?_⟩
  · rw [lawful.misaligned update.1]
    exact fresh.aligned
  · rw [lawful.physicalAddress update.1]
    exact fresh.page

/-- The walk depends on `satp` only through the root of the table. -/
theorem Paging.resolve_root (bus : β) {satp other : BitVec w} (virtualAddress : BitVec w)
    (root : other &&& paging.satpPpn = satp &&& paging.satpPpn) :
    paging.resolve bus other virtualAddress = paging.resolve bus satp virtualAddress := by
  unfold Paging.resolve Paging.tableAddress
  rw [root]

/-- Addresses of one page resolve to one leaf. -/
theorem Paging.resolve_page (lawful : LawfulPaging paging) {bus : β}
    {satp virtualAddress other : BitVec w} {found : Leaf PhysAddr (BitVec w)}
    (resolved : paging.resolve bus satp virtualAddress = .leaf found)
    (page : other >>> (paging.leafShift found.level).toNat =
      virtualAddress >>> (paging.leafShift found.level).toNat) :
    paging.path bus satp other = paging.path bus satp virtualAddress ∧
      paging.resolve bus satp other = .leaf found := by
  refine paging.format.resolve_of_entries_below ?_ _ _ resolved
  intro level above below table
  exact lawful.entries above below page

/-- The page part of an address does not depend on the offset. -/
theorem LawfulPaging.page_base (lawful : LawfulPaging paging) {level : Nat}
    {pte virtualAddress other : BitVec w} (inside : level < paging.levels)
    (aligned : paging.misaligned level pte = false) :
    paging.physicalAddress level pte other &&&
        ~~~(paging.offsetMask (paging.leafShift level)).setWidth 64 =
      paging.physicalAddress level pte virtualAddress &&&
        ~~~(paging.offsetMask (paging.leafShift level)).setWidth 64 := by
  have recombined : (paging.physicalAddress level pte virtualAddress &&&
        ~~~(paging.offsetMask (paging.leafShift level)).setWidth 64) |||
      (other &&& paging.offsetMask (paging.leafShift level)).setWidth 64 =
      paging.physicalAddress level pte other := lawful.page inside aligned
  rw [← recombined]
  apply BitVec.eq_of_getLsbD_eq
  intro i small
  simp only [BitVec.getLsbD_and, BitVec.getLsbD_or, BitVec.getLsbD_not, BitVec.getLsbD_setWidth,
    small, decide_true, Bool.true_and]
  cases (paging.offsetMask (paging.leafShift level)).getLsbD i <;> simp

/-- What a completed walk leaves in memory and in the TLB. -/
structure Paging.Walked (paging : Paging w) (quiet : QuietBus β) (context : TranslationContext w)
    (virtualAddress : BitVec w) (access : MemoryAccessType) (before after : β)
    (found : Leaf PhysAddr (BitVec w)) : Prop where
  resolved : paging.resolve before context.satp virtualAddress = .leaf found
  aligned : paging.misaligned found.level found.word = false
  memory : (updatedPte found.word access = found.word ∧ quiet.same after before) ∨
    ∃ reached, quiet.same reached before ∧ (paging.markLeaf access found reached).1 = .none ∧
      quiet.same after (paging.markLeaf access found reached).2

theorem Paging.Walked.same {quiet : QuietBus β} {context : TranslationContext w}
    {virtualAddress : BitVec w} {access : MemoryAccessType} {before after start ended : β}
    {found : Leaf PhysAddr (BitVec w)}
    (walked : paging.Walked quiet context virtualAddress access before after found)
    (first : quiet.same before start) (last : quiet.same after ended) :
    paging.Walked quiet context virtualAddress access start ended found where
  resolved := by
    have resolved := walked.resolved
    unfold Paging.resolve at resolved ⊢
    rw [← paging.wordAt_same quiet first]
    exact resolved
  aligned := walked.aligned
  memory := by
    rcases walked.memory with ⟨nothing, same⟩ | ⟨reached, same, stored, written⟩
    · exact .inl ⟨nothing, quiet.trans (quiet.symm last) (quiet.trans same first)⟩
    · exact .inr ⟨reached, quiet.trans same first, stored, quiet.trans (quiet.symm last) written⟩

/-- A walker write that reports no fault can be read back. -/
def Paging.ReadsBack (paging : Paging w) (quiet : QuietBus β) : Prop :=
  ∀ (bus : β) (address : PhysAddr) (word : BitVec w), quiet.same bus bus →
    (CpuBus.write address paging.width (word.setWidth 64) .pageTableWalk bus).1 = .none →
    paging.wordAt (CpuBus.write address paging.width (word.setWidth 64) .pageTableWalk bus).2
      address = .ok word

/-- Memory does, if it is accessed in whole entries. -/
theorem Paging.readsBack_of_ramLike {paging : Paging w} (whole : paging.width.bytes * 8 = w)
    (ram : RamLike β) : paging.ReadsBack ram.toQuietBus := by
  intro bus address word memory stored
  obtain ⟨readable, bits⟩ := ram.read_write memory address paging.width _ _ stored
  unfold wordAt
  rw [if_pos readable]
  congr 1
  apply BitVec.eq_of_getLsbD_eq
  intro i inside
  have narrow := paging.width.bytes_le
  rw [BitVec.getLsbD_setWidth, bits i (by omega), BitVec.getLsbD_setWidth]
  simp [inside, show i < 64 by omega]

theorem Paging.Walked.wordAt {quiet : QuietBus β} {context : TranslationContext w}
    {virtualAddress : BitVec w} {access : MemoryAccessType} {before after : β}
    {found : Leaf PhysAddr (BitVec w)} (readsBack : paging.ReadsBack quiet)
    (walked : paging.Walked quiet context virtualAddress access before after found) :
    paging.wordAt after found.address = .ok (updatedPte found.word access) := by
  obtain ⟨_, holds, _⟩ := paging.format.leaf_of_resolve walked.resolved
  rcases walked.memory with ⟨nothing, same⟩ | ⟨reached, same, stored, written⟩
  · rw [paging.wordAt_same quiet same, nothing]
    exact holds
  · rw [paging.wordAt_same quiet written]
    exact readsBack reached found.address _ (quiet.self_left same) stored

/-- The entry of a completed walk is fresh wherever an address leads to the leaf
that was found, unless the walk's own write changed more than the marks. -/
theorem Paging.Walked.fresh {quiet : QuietBus β} (lawful : LawfulPaging paging)
    {context : TranslationContext w} {virtualAddress : BitVec w} {access : MemoryAccessType}
    {before after : β} {found : Leaf PhysAddr (BitVec w)} (readsBack : paging.ReadsBack quiet)
    (walked : paging.Walked quiet context virtualAddress access before after found)
    {satp other : BitVec w} {shared : Bool}
    (resolved : paging.resolve before satp other = .leaf { found with shared })
    (unchanged : paging.Unchanged AdUpdate before after satp other) :
    (Tlb.entryFor paging context virtualAddress
        (paging.physicalAddress found.level found.word virtualAddress)
        (paging.metadata access found)).Fresh paging after satp other
      { found with word := updatedPte found.word access, shared } := by
  have inside := Paging.level_lt walked.resolved
  have marks := marks_updatedPte found.word access
  obtain ⟨word, update, ended⟩ := paging.resolve_of_unchanged lawful unchanged resolved
  have holds := (paging.format.leaf_of_resolve ended).2.1
  have same : word = updatedPte found.word access := by
    rw [walked.wordAt readsBack] at holds
    exact (Except.ok.inj holds).symm
  subst same
  refine ⟨ended, .refl _, rfl, ?_, ?_⟩
  · rw [lawful.misaligned marks]
    exact walked.aligned
  · rw [lawful.physicalAddress marks]
    exact (lawful.page_base inside walked.aligned).symm

/-- A leaf's own global bit is part of what its path accumulates. -/
theorem Paging.metadata_global {bus : β} {satp virtualAddress : BitVec w}
    {found : Leaf PhysAddr (BitVec w)}
    (resolved : paging.resolve bus satp virtualAddress = .leaf found) (access : MemoryAccessType) :
    (paging.metadata access found).global = found.shared := by
  obtain ⟨_, _, own, kind, inherited⟩ := paging.format.leaf_of_resolve resolved
  have flagged : flag found.word PteBits.global = own := by
    simp only [Paging.format, Paging.classify] at kind
    split at kind
    · cases kind
    split at kind
    · split at kind <;> cases kind
    · exact EntryClass.leaf.inj kind
  simp only [Paging.metadata, flagged]
  cases own with
  | false => rw [Bool.or_false]
  | true => rw [inherited rfl, Bool.or_true]

/-- A walk that succeeds has found a leaf that admits the access. -/
theorem Paging.walked_of_ready (quiet : QuietBus β) {bus : β} {context : TranslationContext w}
    {virtualAddress : BitVec w} {access : MemoryAccessType} (memory : quiet.same bus bus)
    (ready : (paging.walkAddress context virtualAddress access bus).1.1.isReady = true) :
    ∃ found, paging.Walked quiet context virtualAddress access bus
        (paging.walkAddress context virtualAddress access bus).2 found ∧
      privilegeAllows found.word context.privilege access context.mstatus = true ∧
      (paging.walkAddress context virtualAddress access bus).1 =
        (.ready (paging.physicalAddress found.level found.word virtualAddress),
          paging.metadata access found) := by
  obtain ⟨reached, same, walked⟩ :=
    paging.walkAddress_eq quiet context virtualAddress access memory
  rw [walked] at ready ⊢
  cases resolved : paging.resolve bus context.satp virtualAddress with
  | fault reason =>
    rw [resolved] at ready
    cases ready
  | invalid =>
    rw [resolved] at ready
    cases ready
  | leaf found =>
    rw [resolved] at ready
    have ended := paging.finished context virtualAddress access found reached
    generalize paging.finish context virtualAddress access (.leaf found) reached = answer
      at ended ready ⊢
    cases ended with
    | refused => cases ready
    | failed => cases ready
    | clean aligned allowed nothing =>
      exact ⟨found, ⟨resolved, aligned, .inl ⟨nothing, same⟩⟩, allowed, rfl⟩
    | marked aligned allowed needed stored =>
      have kept : quiet.same (paging.markLeaf access found reached).2
          (paging.markLeaf access found reached).2 :=
        (quiet.perform (.write found.address paging.width
          ((updatedPte found.word access).setWidth 64) .pageTableWalk) (quiet.self_left same)).2
      exact ⟨found, ⟨resolved, aligned, .inr ⟨reached, same, stored, kept⟩⟩, allowed, rfl⟩

/-- A translation leaves the TLB as it was, or with the entry of a completed walk. -/
theorem Tlb.entries_of_translate (quiet : QuietBus β) {bus : β} {tlb : Tlb w}
    {context : TranslationContext w} {virtualAddress : BitVec w} {access : MemoryAccessType}
    (memory : quiet.same bus bus) (index : Fin 64) :
    let ended := Tlb.translate paging context virtualAddress access (bus, tlb)
    ended.2.2.entries index = tlb.entries index ∨
      (paging.bare context = false ∧ paging.canonical virtualAddress = true ∧ ∃ found,
        paging.Walked quiet context virtualAddress access bus ended.2.1 found ∧
        ended.2.2.entries index = Tlb.entryFor paging context virtualAddress
          (paging.physicalAddress found.level found.word virtualAddress)
          (paging.metadata access found)) := by
  unfold Tlb.translate
  dsimp only
  split
  · exact .inl rfl
  rename_i active
  split
  · exact .inl rfl
  rename_i canonical
  split
  · exact .inl rfl
  split
  · rename_i ready
    obtain ⟨found, walked, _, answer⟩ := paging.walked_of_ready quiet memory ready
    rw [answer]
    rcases Tlb.entries_of_insert paging tlb context virtualAddress
      (paging.physicalAddress found.level found.word virtualAddress)
      (paging.metadata access found) index with old | new
    · exact .inl old
    · exact .inr ⟨by simpa using active, by simpa using canonical, found, walked, new⟩
  · exact .inl rfl

end

end RvEmulator
