import RvEmulator.Library.Bits
import RvEmulator.Library.RadixWalk
import RvEmulator.Mmu.Paging

/-! The page walk as a resolution through a radix tree: what it finds depends on
the words of the page table alone, and its own updates do not change that. -/

namespace RvEmulator

open Library

/-- A word with the accessed or dirty bit set in addition, and nothing else. -/
structure Marks (old new : BitVec w) : Prop where
  same : ∀ i, i ≠ 6 → i ≠ 7 → new.getLsbD i = old.getLsbD i
  grown : ∀ i, old.getLsbD i = true → new.getLsbD i = true

namespace Marks

theorem refl (word : BitVec w) : Marks word word := ⟨fun _ _ _ => rfl, fun _ => id⟩

theorem trans {old middle new : BitVec w} (first : Marks old middle) (second : Marks middle new) :
    Marks old new where
  same i accessed dirty := (second.same i accessed dirty).trans (first.same i accessed dirty)
  grown i set := second.grown i (first.grown i set)

/-- Masks that leave out the two bits see no difference. -/
theorem and_eq {old new mask : BitVec w} (marks : Marks old new)
    (accessed : mask.getLsbD 6 = false) (dirty : mask.getLsbD 7 = false) :
    new &&& mask = old &&& mask := by
  apply BitVec.eq_of_getLsbD_eq
  intro i _
  rw [BitVec.getLsbD_and, BitVec.getLsbD_and]
  by_cases isAccessed : i = 6
  · rw [isAccessed, accessed, Bool.and_false, Bool.and_false]
  by_cases isDirty : i = 7
  · rw [isDirty, dirty, Bool.and_false, Bool.and_false]
  rw [marks.same i isAccessed isDirty]

theorem flag_eq {old new mask : BitVec w} (marks : Marks old new)
    (accessed : mask.getLsbD 6 = false) (dirty : mask.getLsbD 7 = false) :
    flag new mask = flag old mask := by
  unfold flag
  rw [marks.and_eq accessed dirty]

theorem flag_bit {old new : BitVec w} (marks : Marks old new) {i : Nat} (accessed : i ≠ 6)
    (dirty : i ≠ 7) : flag new (1#w <<< i) = flag old (1#w <<< i) := by
  rw [flag_shift, flag_shift]
  exact marks.same i accessed dirty

/-- The permission bits are not among those marked. -/
theorem flags {old new : BitVec w} (marks : Marks old new) :
    flag new PteBits.valid = flag old PteBits.valid ∧
      flag new PteBits.read = flag old PteBits.read ∧
      flag new PteBits.write = flag old PteBits.write ∧
      flag new PteBits.execute = flag old PteBits.execute ∧
      flag new PteBits.user = flag old PteBits.user ∧
      flag new PteBits.global = flag old PteBits.global :=
  ⟨marks.flag_bit (by decide) (by decide), marks.flag_bit (by decide) (by decide),
    marks.flag_bit (by decide) (by decide), marks.flag_bit (by decide) (by decide),
    marks.flag_bit (by decide) (by decide), marks.flag_bit (by decide) (by decide)⟩

theorem flag_grown {old new : BitVec w} (marks : Marks old new) {i : Nat}
    (set : flag old (1#w <<< i) = true) : flag new (1#w <<< i) = true := by
  rw [flag_shift] at set ⊢
  exact marks.grown i set

end Marks

theorem getLsbD_bit (w i j : Nat) :
    (1#w <<< i).getLsbD j = (decide (j < w) && decide (j = i)) := by
  rw [BitVec.getLsbD_shiftLeft, BitVec.getLsbD_one]
  by_cases inside : j < w
  · by_cases same : j = i
    · subst same
      simp [inside, show 0 < w by omega]
    · by_cases below : j < i
      · simp [below, same]
      · simp [same, show j - i ≠ 0 by omega]
  · simp [inside]

theorem marks_or {word bits : BitVec w} (within : ∀ i, bits.getLsbD i = true → i = 6 ∨ i = 7) :
    Marks word (word ||| bits) where
  same i accessed dirty := by
    rw [BitVec.getLsbD_or]
    cases set : bits.getLsbD i with
    | false => rw [Bool.or_false]
    | true => exact absurd (within i set) (by omega)
  grown i set := by rw [BitVec.getLsbD_or, set, Bool.true_or]

theorem marks_updatedPte (pte : BitVec w) (access : MemoryAccessType) :
    Marks pte (updatedPte pte access) := by
  have accessed : Marks pte (pte ||| PteBits.accessed) := by
    refine marks_or fun i set => ?_
    rw [PteBits.accessed, getLsbD_bit] at set
    simp only [Bool.and_eq_true, decide_eq_true_iff] at set
    exact .inl set.2
  have dirty (word : BitVec w) : Marks word (word ||| PteBits.dirty) := by
    refine marks_or fun i set => ?_
    rw [PteBits.dirty, getLsbD_bit] at set
    simp only [Bool.and_eq_true, decide_eq_true_iff] at set
    exact .inr set.2
  unfold updatedPte
  split
  · exact accessed.trans (dirty _)
  · exact accessed

/-- A word that already has the bits an access sets. -/
theorem updatedPte_eq_self {pte : BitVec w} {access : MemoryAccessType}
    (accessed : flag pte PteBits.accessed = true)
    (dirty : access = .store → flag pte PteBits.dirty = true) : updatedPte pte access = pte := by
  have absorb : ∀ i : Nat, flag pte (1#w <<< i) = true → pte ||| 1#w <<< i = pte := by
    intro i set
    rw [flag_shift] at set
    apply BitVec.eq_of_getLsbD_eq
    intro j _
    rw [BitVec.getLsbD_or, getLsbD_bit]
    by_cases here : j = i
    · rw [here, set, Bool.true_or]
    · simp [here]
  have first : pte ||| PteBits.accessed = pte := absorb 6 accessed
  unfold updatedPte
  split
  · rename_i stores
    rw [first]
    exact absorb 7 (dirty stores)
  · exact first

/-- The update of a walker: only leaves are marked. -/
def AdUpdate (old new : BitVec w) : Prop :=
  Marks old new ∧
    (new = old ∨ (flag old PteBits.read || flag old PteBits.execute) = true)

theorem AdUpdate.refl (word : BitVec w) : AdUpdate word word := ⟨.refl word, .inl rfl⟩

theorem AdUpdate.trans {old middle new : BitVec w} (first : AdUpdate old middle)
    (second : AdUpdate middle new) : AdUpdate old new := by
  refine ⟨first.1.trans second.1, ?_⟩
  rcases first.2 with same | leaf
  · rw [same] at second
    exact second.2
  · exact .inr leaf

/-- What the proofs use of a virtual-memory scheme. -/
structure LawfulPaging (paging : Paging w) : Prop where
  narrow : w ≤ 64
  levels : 0 < paging.levels
  entries : ∀ {level upper : Nat} {virtualAddress other : BitVec w} {table : PhysAddr},
    level ≤ upper → upper < paging.levels →
    other >>> (paging.leafShift level).toNat = virtualAddress >>> (paging.leafShift level).toNat →
    paging.entryAddress other upper table = paging.entryAddress virtualAddress upper table
  page : ∀ {level : Nat} {pte virtualAddress other : BitVec w}, level < paging.levels →
    paging.misaligned level pte = false →
    (paging.physicalAddress level pte virtualAddress &&&
        ~~~(paging.offsetMask (paging.leafShift level)).setWidth 64) |||
      (other &&& paging.offsetMask (paging.leafShift level)).setWidth 64 =
      paging.physicalAddress level pte other
  coarse : ∀ {level : Nat}, level < paging.levels → 12 ≤ (paging.leafShift level).toNat
  reserved : paging.reserved.getLsbD 6 = false ∧ paging.reserved.getLsbD 7 = false
  nextTable : ∀ {old new : BitVec w}, Marks old new → paging.nextTable new = paging.nextTable old
  misaligned : ∀ {old new : BitVec w} {level : Nat}, Marks old new →
    paging.misaligned level new = paging.misaligned level old
  physicalAddress : ∀ {old new virtualAddress : BitVec w} {level : Nat}, Marks old new →
    paging.physicalAddress level new virtualAddress =
      paging.physicalAddress level old virtualAddress

/-- Addresses of one 4 KiB page are of one page of any size. -/
theorem LawfulPaging.same_page {paging : Paging w} (lawful : LawfulPaging paging) {level : Nat}
    (inside : level < paging.levels) {virtualAddress other : BitVec w}
    (small : other >>> 12 = virtualAddress >>> 12) :
    other >>> (paging.leafShift level).toNat =
      virtualAddress >>> (paging.leafShift level).toNat := by
  obtain ⟨extra, same⟩ := Nat.exists_eq_add_of_le (lawful.coarse inside)
  rw [same, BitVec.shiftRight_add, BitVec.shiftRight_add, small]

namespace Paging

variable (paging : Paging w)

/-- What the loop of the walk makes of a word. -/
def classify (level : Nat) (pte : BitVec w) : EntryClass PhysAddr :=
  if !flag pte PteBits.valid || (!flag pte PteBits.read && flag pte PteBits.write) ||
      flag pte paging.reserved then
    .invalid
  else if !flag pte PteBits.read && !flag pte PteBits.execute then
    if flag pte (PteBits.user ||| PteBits.accessed ||| PteBits.dirty) || level == 0 then .invalid
    else .table (paging.nextTable pte) (flag pte PteBits.global)
  else .leaf (flag pte PteBits.global)

def format : RadixFormat PhysAddr (BitVec w) (BitVec w) where
  entry := paging.entryAddress
  classify := paging.classify

/-- The walker's updates go unnoticed by later walks. -/
theorem harmless_adUpdate (lawful : LawfulPaging paging) : paging.format.Harmless AdUpdate := by
  intro old new update level
  obtain ⟨marks, same | leaf⟩ := update
  · rw [same]
  · obtain ⟨valid, readable, writable, executable, _, global⟩ := marks.flags
    have notTable : (!flag old PteBits.read && !flag old PteBits.execute) = false := by
      rw [← Bool.not_or, leaf, Bool.not_true]
    simp only [format, classify]
    rw [valid, readable, writable, executable, global,
      marks.flag_eq lawful.reserved.1 lawful.reserved.2, notTable]
    rfl

section

variable [CpuBus β]

/-- The entry at an address, as the walker reads it. -/
def wordAt (bus : β) (address : PhysAddr) : Except BusFault (BitVec w) :=
  let result := (CpuBus.read address paging.width .pageTableWalk bus).1
  if result.ok then .ok (result.value.setWidth w) else .error result.fault

theorem read_of_wordAt {bus : β} {address : PhysAddr} {word : BitVec w}
    (held : paging.wordAt bus address = .ok word) :
    (CpuBus.read address paging.width .pageTableWalk bus).1.fault = .none ∧
      (CpuBus.read address paging.width .pageTableWalk bus).1.value.setWidth w = word := by
  unfold wordAt at held
  dsimp only at held
  split at held
  · rename_i readable
    exact ⟨by simpa [ReadResult.ok] using readable, Except.ok.inj held⟩
  · cases held

/-- Where a virtual address leads, from the page table at `satp`. -/
def resolve (bus : β) (satp virtualAddress : BitVec w) : Resolution PhysAddr (BitVec w) BusFault :=
  paging.format.resolve (paging.wordAt bus) virtualAddress paging.levels (paging.tableAddress satp)
    false

/-- The entries on the way. -/
def path (bus : β) (satp virtualAddress : BitVec w) : List PhysAddr :=
  paging.format.path (paging.wordAt bus) virtualAddress paging.levels (paging.tableAddress satp)

/-- The end of a walk, from where the resolution led. -/
def finish (context : TranslationContext w) (virtualAddress : BitVec w)
    (access : MemoryAccessType) :
    Resolution PhysAddr (BitVec w) BusFault → StateM β (TranslationResult × WalkMetadata w)
  | .fault reason => pure (.accessFault reason, {})
  | .invalid => pure (.pageFault, {})
  | .leaf found =>
    paging.finishWalk context virtualAddress access found.level found.address found.word
      found.shared

theorem wordAt_same (quiet : QuietBus β) {bus other : β} (equal : quiet.same bus other) :
    paging.wordAt bus = paging.wordAt other := by
  funext address
  unfold wordAt
  rw [quiet.read_value equal]

theorem finishWalk_shared (context : TranslationContext w) (virtualAddress : BitVec w)
    (access : MemoryAccessType) (level : Nat) (address : PhysAddr) (pte : BitVec w)
    (inherited : Bool) :
    paging.finishWalk (β := β) context virtualAddress access level address pte
        (inherited || flag pte PteBits.global) =
      paging.finishWalk context virtualAddress access level address pte inherited := by
  have kept : flag (updatedPte pte access) PteBits.global = flag pte PteBits.global :=
    (marks_updatedPte pte access).flags.2.2.2.2.2
  unfold finishWalk
  simp only [kept, Bool.or_assoc, Bool.or_self]

/-- The walker's write to the entry at a leaf. -/
def markLeaf (access : MemoryAccessType) (found : Leaf PhysAddr (BitVec w)) : StateM β BusFault :=
  CpuBus.write found.address paging.width ((updatedPte found.word access).setWidth 64)
    .pageTableWalk

/-- What a completed walk reports of its leaf. -/
def metadata (access : MemoryAccessType) (found : Leaf PhysAddr (BitVec w)) : WalkMetadata w where
  pte := updatedPte found.word access
  pageShift := paging.leafShift found.level
  global := found.shared || flag found.word PteBits.global

/-- The four ways a walk can end at a leaf. -/
inductive Finished (context : TranslationContext w) (virtualAddress : BitVec w)
    (access : MemoryAccessType) (found : Leaf PhysAddr (BitVec w)) (bus : β) :
    (TranslationResult × WalkMetadata w) × β → Prop where
  | refused : Finished context virtualAddress access found bus ((.pageFault, {}), bus)
  | clean (aligned : paging.misaligned found.level found.word = false)
      (allowed : privilegeAllows found.word context.privilege access context.mstatus = true)
      (nothing : updatedPte found.word access = found.word) :
      Finished context virtualAddress access found bus
        ((.ready (paging.physicalAddress found.level found.word virtualAddress),
          paging.metadata access found), bus)
  | marked (aligned : paging.misaligned found.level found.word = false)
      (allowed : privilegeAllows found.word context.privilege access context.mstatus = true)
      (needed : updatedPte found.word access ≠ found.word)
      (stored : (paging.markLeaf access found bus).1 = .none) :
      Finished context virtualAddress access found bus
        ((.ready (paging.physicalAddress found.level found.word virtualAddress),
          paging.metadata access found), (paging.markLeaf access found bus).2)
  | failed (needed : updatedPte found.word access ≠ found.word)
      (fault : (paging.markLeaf access found bus).1 ≠ .none) :
      Finished context virtualAddress access found bus
        ((.accessFault (paging.markLeaf access found bus).1, {}),
          (paging.markLeaf access found bus).2)

theorem finishWalk_written (context : TranslationContext w) (virtualAddress : BitVec w)
    (access : MemoryAccessType) (found : Leaf PhysAddr (BitVec w)) (bus : β) :
    paging.finish context virtualAddress access (.leaf found) bus =
      if paging.misaligned found.level found.word ||
          !privilegeAllows found.word context.privilege access context.mstatus then
        ((.pageFault, {}), bus)
      else if updatedPte found.word access ≠ found.word then
        if (paging.markLeaf access found bus).1 ≠ .none then
          ((.accessFault (paging.markLeaf access found bus).1, {}),
            (paging.markLeaf access found bus).2)
        else
          ((.ready (paging.physicalAddress found.level found.word virtualAddress),
            paging.metadata access found), (paging.markLeaf access found bus).2)
      else
        ((.ready (paging.physicalAddress found.level found.word virtualAddress),
          paging.metadata access found), bus) := by
  have kept := (marks_updatedPte found.word access).flags.2.2.2.2.2
  simp only [finish, finishWalk, metadata, ← kept, markLeaf]
  split
  · rfl
  split
  · simp only [bind, StateT.bind]
    generalize CpuBus.write found.address paging.width
      ((updatedPte found.word access).setWidth 64) .pageTableWalk bus = answer
    obtain ⟨fault, after⟩ := answer
    dsimp only
    split <;> rfl
  · rfl

theorem finished (context : TranslationContext w) (virtualAddress : BitVec w)
    (access : MemoryAccessType) (found : Leaf PhysAddr (BitVec w)) (bus : β) :
    paging.Finished context virtualAddress access found bus
      (paging.finish context virtualAddress access (.leaf found) bus) := by
  rw [finishWalk_written]
  split
  · exact .refused
  rename_i admitted
  simp only [Bool.or_eq_true, not_or, Bool.not_eq_true, Bool.not_eq_false'] at admitted
  obtain ⟨aligned, allowed⟩ := admitted
  split
  · rename_i needed
    split
    · rename_i fault
      exact .failed needed fault
    · rename_i stored
      exact .marked aligned allowed needed (by simpa using stored)
  · rename_i nothing
    exact .clean aligned allowed (by simpa using nothing)

/-- On equal contents a walk ends alike. -/
theorem finish_same (quiet : QuietBus β) (context : TranslationContext w)
    (virtualAddress : BitVec w) (access : MemoryAccessType)
    (resolution : Resolution PhysAddr (BitVec w) BusFault) {bus other : β}
    (equal : quiet.same bus other) :
    (paging.finish context virtualAddress access resolution bus).1 =
        (paging.finish context virtualAddress access resolution other).1 ∧
      quiet.same (paging.finish context virtualAddress access resolution bus).2
        (paging.finish context virtualAddress access resolution other).2 := by
  cases resolution with
  | fault reason => exact ⟨rfl, equal⟩
  | invalid => exact ⟨rfl, equal⟩
  | leaf found =>
    have both : (paging.markLeaf access found bus).1 = (paging.markLeaf access found other).1 ∧
        quiet.same (paging.markLeaf access found bus).2 (paging.markLeaf access found other).2 :=
      quiet.perform (.write found.address paging.width
        ((updatedPte found.word access).setWidth 64) .pageTableWalk) equal
    rw [finishWalk_written, finishWalk_written, both.1]
    split
    · exact ⟨rfl, equal⟩
    split
    · split
      · exact ⟨rfl, both.2⟩
      · exact ⟨rfl, both.2⟩
    · exact ⟨rfl, equal⟩

/-- The walk reads the resolution's entries, and then finishes. -/
theorem walkFrom_eq (quiet : QuietBus β) (context : TranslationContext w)
    (virtualAddress : BitVec w) (access : MemoryAccessType) {origin : β} :
    ∀ (levels : Nat) (table : PhysAddr) (inherited : Bool) (bus : β), quiet.same bus origin →
      ∃ reached, quiet.same reached origin ∧
        paging.walkFrom context virtualAddress access levels table inherited bus =
          paging.finish context virtualAddress access
            (paging.format.resolve (paging.wordAt origin) virtualAddress levels table inherited)
            reached := by
  intro levels
  induction levels with
  | zero =>
    intro table inherited bus equal
    exact ⟨bus, equal, rfl⟩
  | succ level ih =>
    intro table inherited bus equal
    have after : quiet.same (CpuBus.read (paging.entryAddress virtualAddress level table)
        paging.width .pageTableWalk bus).2 origin :=
      quiet.symm (quiet.quiet _ _ _ (quiet.symm equal))
    have word := congrFun (paging.wordAt_same quiet equal)
      (paging.entryAddress virtualAddress level table)
    simp only [RadixFormat.resolve, format] at ih ⊢
    rw [← word]
    unfold walkFrom wordAt
    simp only [bind, StateT.bind]
    generalize CpuBus.read (paging.entryAddress virtualAddress level table) paging.width
      .pageTableWalk bus = answer at after
    obtain ⟨result, next⟩ := answer
    dsimp only at after ⊢
    cases succeeded : result.ok with
    | false => exact ⟨next, after, rfl⟩
    | true =>
      simp only [Bool.not_true, Bool.false_eq_true, if_false, if_true, classify]
      split
      · exact ⟨next, after, rfl⟩
      split
      · split
        · exact ⟨next, after, rfl⟩
        · exact ih _ _ next after
      · refine ⟨next, after, ?_⟩
        simp only [finish]
        rw [finishWalk_shared]

theorem walkAddress_eq (quiet : QuietBus β) (context : TranslationContext w)
    (virtualAddress : BitVec w) (access : MemoryAccessType) {bus origin : β}
    (equal : quiet.same bus origin) :
    ∃ reached, quiet.same reached origin ∧
      paging.walkAddress context virtualAddress access bus =
        paging.finish context virtualAddress access
          (paging.resolve origin context.satp virtualAddress) reached :=
  paging.walkFrom_eq quiet context virtualAddress access _ _ _ bus equal

/-- The uncached translation depends on the contents of memory only. -/
theorem translateAddress_same (quiet : QuietBus β) (context : TranslationContext w)
    (virtualAddress : BitVec w) (access : MemoryAccessType) {bus origin : β}
    (equal : quiet.same bus origin) :
    (paging.translateAddress context virtualAddress access bus).1 =
        (paging.translateAddress context virtualAddress access origin).1 ∧
      quiet.same (paging.translateAddress context virtualAddress access bus).2
        (paging.translateAddress context virtualAddress access origin).2 := by
  obtain ⟨left, leftSame, leftWalk⟩ :=
    paging.walkAddress_eq quiet context virtualAddress access equal
  obtain ⟨right, rightSame, rightWalk⟩ :=
    paging.walkAddress_eq quiet context virtualAddress access (quiet.self_right equal)
  obtain ⟨answer, after⟩ := paging.finish_same quiet context virtualAddress access
    (paging.resolve origin context.satp virtualAddress)
    (quiet.trans leftSame (quiet.symm rightSame))
  rw [← leftWalk, ← rightWalk] at answer after
  unfold translateAddress
  split
  · exact ⟨rfl, equal⟩
  split
  · exact ⟨rfl, equal⟩
  · have first : (paging.walkAddress context virtualAddress access bus).1.1 =
        (paging.walkAddress context virtualAddress access origin).1.1 := congrArg Prod.fst answer
    exact ⟨first, after⟩

end

end Paging

end RvEmulator
