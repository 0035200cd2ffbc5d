import RvEmulator.Devices.Chains
import RvEmulator.Devices.VirtioBlock

/-! The two indices of the block device when memory accesses may be refused. -/

namespace RvEmulator.Devices.VirtioBlock

open Platform

variable {σ δ : Type} [DmaAccess δ]

/-! ### Accesses -/

variable {dma middle : δ} {stored : AccessWidth → Prop}

theorem accessed_loadChain (accessed : Accessed stored dma middle) (queueNum : BitVec 16)
    (rings : Rings) (count : Nat) (visited : List (BitVec 16)) (current : BitVec 16) :
    Accessed stored dma (loadChain queueNum rings count visited current middle).2 := by
  rw [loadChain_follow]
  exact accessed.follow rings queueNum count visited current

/-! Requests store bytes only. -/

theorem accessed_scatter (accessed : Accessed (· = .byte) dma middle) (address : PhysAddr)
    (bytes : List (BitVec 8)) : Accessed (· = .byte) dma (scatter address bytes middle).2 := by
  induction bytes generalizing middle address with
  | nil => exact accessed
  | cons byte rest ih =>
    unfold VirtioBlock.scatter
    dsimp only
    split
    · exact accessed.write rfl
    · exact ih (accessed.write rfl) _

variable [BlockStorage σ] {disk : Disk σ}

theorem accessed_transferChunk (accessed : Accessed (· = .byte) dma middle)
    (requestType : BitVec 32) (address : PhysAddr) (diskOffset : BitVec 64) (count : Nat)
    (written : BitVec 32) :
    Accessed (· = .byte) dma
      (transferChunk requestType address diskOffset count written (disk, middle)).2.2 := by
  unfold VirtioBlock.transferChunk
  dsimp only
  split
  · split
    · exact accessed
    · exact accessed_scatter accessed address _
  · have gathered := accessed.gather address count
    split
    · rename_i same
      rw [same] at gathered
      exact gathered
    rename_i same
    rw [same] at gathered
    split <;> exact gathered

theorem accessed_transfer (accessed : Accessed (· = .byte) dma middle) (requestType : BitVec 32)
    (address : PhysAddr) (diskOffset : BitVec 64) (length fuel transferred : Nat)
    (written : BitVec 32) :
    Accessed (· = .byte) dma (transfer requestType address diskOffset length fuel transferred
      written (disk, middle)).2.2 := by
  induction fuel generalizing middle disk transferred written with
  | zero => exact accessed
  | succ fuel ih =>
    unfold VirtioBlock.transfer
    dsimp only
    split
    · exact accessed
    split
    · exact accessed_transferChunk accessed _ _ _ _ _
    · exact ih (accessed_transferChunk accessed _ _ _ _ _) _ _

theorem accessed_transferAll (accessed : Accessed (· = .byte) dma middle)
    (requestType : BitVec 32) (descriptors : List Descriptor) (diskOffset : BitVec 64)
    (written : BitVec 32) :
    Accessed (· = .byte) dma
      (transferAll requestType descriptors diskOffset written (disk, middle)).2.2 := by
  induction descriptors generalizing middle disk diskOffset written with
  | nil => exact accessed
  | cons descriptor rest ih =>
    unfold VirtioBlock.transferAll
    dsimp only
    split
    · exact accessed
    split
    · exact accessed
    split
    · exact accessed_transfer accessed _ _ _ _ _ _ _
    · exact ih (accessed_transfer accessed _ _ _ _ _ _ _) _ _

theorem accessed_performRequest (accessed : Accessed (· = .byte) dma middle)
    (requestType : BitVec 32) (sector : BitVec 64) (data : List Descriptor)
    (statusDescriptor : Descriptor) :
    Accessed (· = .byte) dma
      (performRequest requestType sector data statusDescriptor (disk, middle)).2.2 := by
  unfold VirtioBlock.performRequest
  dsimp only
  refine Accessed.write ?_ rfl
  split
  · exact accessed
  split
  · exact accessed
  · exact accessed_transferAll accessed _ _ _ _

theorem accessed_processRequest (queueNum : BitVec 16) (rings : Rings) (head : BitVec 16)
    (disk : Disk σ) (dma : δ) :
    Accessed (· = .byte) dma (processRequest queueNum rings head (disk, dma)).2.2 := by
  have accessed : Accessed (· = .byte) dma dma := .refl
  have chain := accessed_loadChain accessed queueNum rings queueNum.toNat [] head
  unfold VirtioBlock.processRequest
  dsimp only
  split
  · exact accessed
  split
  · rename_i loaded
    rw [loaded] at chain
    exact chain
  rename_i loaded
  rw [loaded] at chain
  split
  · split
    · exact chain
    split
    · exact accessed_performRequest chain.read.read _ _ _ _
    · exact chain.read.read
  · exact chain

/-! ### Rounds -/

/-- Both indices count the chains that were consumed. -/
structure Agreed (device : VirtioBlock σ) (consumed : Nat) : Prop where
  available : device.lastAvailableIndex = BitVec.ofNat 16 consumed
  used : device.usedIndex = BitVec.ofNat 16 consumed

omit [BlockStorage σ] in
theorem Agreed.equal {device : VirtioBlock σ} {consumed : Nat} (agreed : Agreed device consumed) :
    device.usedIndex = device.lastAvailableIndex :=
  agreed.used.trans agreed.available.symm

/-- A write of the used index was refused. -/
def IndexRefused (rings : Rings) (recorded : Recorded δ) : Prop :=
  ∃ value, Access.write (rings.usedRing + 2) .halfWord value false ∈ recorded.accesses

omit [DmaAccess δ] in
theorem not_indexRefused_start (rings : Rings) (dma : δ) :
    ¬IndexRefused rings (Recorded.start dma) :=
  fun ⟨_, member⟩ => absurd member List.not_mem_nil

/-- No other access is a write of a halfword. -/
theorem IndexRefused.of_accessed {rings : Rings} {before after : Recorded δ}
    (refused : IndexRefused rings after) {stored : AccessWidth → Prop}
    (accessed : Accessed stored before after) (other : ¬stored .halfWord) :
    IndexRefused rings before :=
  refused.imp fun _ member => Recorded.mem_of_accessed accessed member other

/-- A write of the used index is refused, and the record says so, or it is accepted. -/
theorem indexRefused_write {rings : Rings} {recorded : Recorded δ}
    (unrefused : ¬IndexRefused rings recorded) (value : BitVec 64) :
    let written := DmaAccess.dmaWrite (rings.usedRing + 2) .halfWord value recorded
    (written.1 ≠ .none → IndexRefused rings written.2) ∧
      (written.1 = .none → ¬IndexRefused rings written.2) := by
  intro written
  have record : written.2.accesses = recorded.accesses ++
      [.write (rings.usedRing + 2) .halfWord value (written.1 == .none)] := rfl
  constructor
  · intro refused
    refine ⟨value, ?_⟩
    rw [record, beq_eq_false_iff_ne.mpr refused]
    exact List.mem_append_right _ (List.mem_singleton_self _)
  · rintro accepted ⟨other, member⟩
    rw [record, accepted] at member
    obtain old | new := List.mem_append.mp member
    · exact unrefused ⟨other, old⟩
    · cases List.mem_singleton.mp new

/-- How a part of a tick ends: both indices are advanced as far as chains were consumed, unless
the write of the used index was refused, which leaves them apart. -/
inductive Ends (rings : Rings) (consumed : Nat) (device : VirtioBlock σ) (recorded : Recorded δ) :
    Prop where
  | agreed : Agreed device consumed → device.rings = rings → ¬IndexRefused rings recorded →
      Ends rings consumed device recorded
  | refused : device.usedIndex = device.lastAvailableIndex + 1 → IndexRefused rings recorded →
      Ends rings consumed device recorded

omit [DmaAccess δ] [BlockStorage σ] in
/-- The indices are equal if and only if no write of the used index was refused. -/
theorem Ends.equal_iff {rings : Rings} {consumed : Nat} {device : VirtioBlock σ}
    {recorded : Recorded δ} (ends : Ends rings consumed device recorded) :
    ¬IndexRefused rings recorded ↔ device.usedIndex = device.lastAvailableIndex := by
  cases ends with
  | agreed agreed _ unrefused => exact ⟨fun _ => agreed.equal, fun _ => unrefused⟩
  | refused apart refused =>
    refine ⟨fun unrefused => absurd refused unrefused, fun equal => ?_⟩
    rw [equal] at apart
    exact absurd apart (by bv_omega)

variable {device : VirtioBlock σ} {consumed : Nat} {recorded : Recorded δ}

/-- A round advances both indices, or neither, unless the last write is refused. -/
theorem Agreed.processHead (agreed : Agreed device consumed)
    (unrefused : ¬IndexRefused device.rings recorded) :
    let ended := processHead device recorded
    Ends device.rings (consumed + ended.1.toList.length) ended.2.1 ended.2.2 ∧
      (ended.1.isSome = true → ¬IndexRefused device.rings ended.2.2) := by
  obtain ⟨available, used⟩ := agreed
  have entry : Accessed (· ≠ AccessWidth.halfWord) recorded (DmaAccess.dmaRead
    (device.rings.ringEntry device.queueNum device.lastAvailableIndex) .halfWord recorded).2 :=
    .read .refl
  have kept : ∀ {after : Recorded δ}, Accessed (· ≠ .halfWord) recorded after →
      ¬IndexRefused device.rings after :=
    fun accessed refused => unrefused (refused.of_accessed accessed fun other => other rfl)
  unfold VirtioBlock.processHead
  dsimp only
  split
  · exact ⟨.agreed ⟨available, used⟩ rfl (kept entry), fun none => absurd none Bool.false_ne_true⟩
  generalize DmaAccess.dmaRead (device.rings.ringEntry device.queueNum device.lastAvailableIndex)
    .halfWord recorded = read at entry ⊢
  have request : Accessed (· ≠ AccessWidth.halfWord) recorded
      (processRequest device.queueNum device.rings (read.1.value.setWidth 16)
        (countChain device.disk, read.2)).2.2 :=
    entry.trans ((accessed_processRequest _ _ _ _ _).mono fun _ byte => by rw [byte]; decide)
  generalize processRequest device.queueNum device.rings (read.1.value.setWidth 16)
    (countChain device.disk, read.2) = processed at request ⊢
  have id : Accessed (· ≠ AccessWidth.halfWord) recorded (DmaAccess.dmaWrite
      (device.rings.usedElement device.queueNum device.usedIndex) .word
      ((read.1.value.setWidth 16 : BitVec 16).setWidth 64) processed.2.2).2 :=
    request.write (by decide)
  split
  · exact ⟨.agreed ⟨available, used⟩ rfl (kept id), fun none => absurd none Bool.false_ne_true⟩
  have length : Accessed (· ≠ AccessWidth.halfWord) recorded (DmaAccess.dmaWrite
      (device.rings.usedElement device.queueNum device.usedIndex + 4) .word
      (processed.1.2.setWidth 64) (DmaAccess.dmaWrite
        (device.rings.usedElement device.queueNum device.usedIndex) .word
        ((read.1.value.setWidth 16 : BitVec 16).setWidth 64) processed.2.2).2).2 :=
    id.write (by decide)
  split
  · exact ⟨.agreed ⟨available, used⟩ rfl (kept length), fun none => absurd none Bool.false_ne_true⟩
  obtain ⟨refuses, accepts⟩ := indexRefused_write (kept length)
    ((device.usedIndex + 1).setWidth 64)
  split
  · rename_i refused
    refine ⟨.refused ?_ (refuses refused), fun none => absurd none Bool.false_ne_true⟩
    exact congrArg (· + 1) (used.trans available.symm)
  · rename_i accepted
    have next : BitVec.ofNat 16 consumed + 1 = BitVec.ofNat 16 (consumed + 1) := by
      rw [BitVec.ofNat_add]
      rfl
    have unrefusedAfter := accepts (not_not.mp accepted)
    exact ⟨.agreed ⟨(congrArg (· + 1) available).trans next, (congrArg (· + 1) used).trans next⟩ rfl
      unrefusedAfter, fun _ => unrefusedAfter⟩

/-- The device at the start of each round of the loop of `process_queue`. -/
def rounds (availableIndex : BitVec 16) : (count : Nat) → VirtioBlock σ → δ → List (VirtioBlock σ)
  | 0, _, _ => []
  | count + 1, device, dma =>
    if device.lastAvailableIndex = availableIndex then []
    else
      device :: match processHead device dma with
        | (none, _, _) => []
        | (some _, device, dma) => rounds availableIndex count device dma

/-- Each round begins with equal indices, since a refused write of the used index ends the loop. -/
theorem Agreed.rounds (agreed : Agreed device consumed)
    (unrefused : ¬IndexRefused device.rings recorded) (availableIndex : BitVec 16) (count : Nat) :
    ∀ round ∈ rounds availableIndex count device recorded,
      round.usedIndex = round.lastAvailableIndex := by
  induction count generalizing device consumed recorded with
  | zero => exact fun _ member => absurd member List.not_mem_nil
  | succ count ih =>
    obtain ⟨round, goesOn⟩ := agreed.processHead unrefused
    unfold VirtioBlock.rounds
    split
    · exact fun _ member => absurd member List.not_mem_nil
    intro other member
    obtain rfl | later := List.mem_cons.mp member
    · exact agreed.equal
    split at later
    · exact absurd later List.not_mem_nil
    · rename_i completion device' after processed
      rw [processed] at round goesOn
      have accepted := goesOn rfl
      cases round with
      | agreed agreed rings _ => exact ih agreed (rings ▸ accepted) other later
      | refused _ refused => exact absurd refused accepted

theorem Agreed.processHeads (agreed : Agreed device consumed)
    (unrefused : ¬IndexRefused device.rings recorded) (availableIndex : BitVec 16) (count : Nat) :
    let ended := processHeads availableIndex count device recorded
    Ends device.rings (consumed + ended.1.length) ended.2.1 ended.2.2 := by
  induction count generalizing device consumed recorded with
  | zero => exact .agreed agreed rfl unrefused
  | succ count ih =>
    obtain ⟨round, goesOn⟩ := agreed.processHead unrefused
    unfold VirtioBlock.processHeads
    dsimp only
    split
    · exact .agreed agreed rfl unrefused
    split
    · rename_i processed
      rw [processed] at round
      exact round
    · rename_i completion device' after processed
      rw [processed] at round goesOn
      have accepted := goesOn rfl
      cases round with
      | agreed agreed rings _ =>
        have rest := ih agreed (rings ▸ accepted)
        dsimp only at rings rest
        rw [rings, Option.toList_some, List.length_singleton, Nat.add_assoc, Nat.add_comm 1] at rest
        exact rest
      | refused _ refused => exact absurd refused accepted

/-! ### Runs -/

/-- The rounds of a tick. -/
def tickRounds (device : VirtioBlock σ) (dma : δ) : List (VirtioBlock σ) :=
  let available := DmaAccess.dmaRead (device.rings.availableRing + 2) .halfWord dma
  rounds (available.1.value.setWidth 16) device.queueNum.toNat
    { device with notificationPending := false } available.2

/-- What a tick leaves behind, and that each of its rounds begins with equal indices. -/
theorem Agreed.tick (agreed : Agreed device consumed) (dma : δ) :
    let ended := device.tick (Recorded.start dma)
    Ends device.rings (consumed + ended.1.length) ended.2.1 ended.2.2 ∧
      ∀ round ∈ tickRounds device (Recorded.start dma),
        round.usedIndex = round.lastAvailableIndex := by
  have fresh := not_indexRefused_start device.rings dma
  have read : ¬IndexRefused device.rings
      (DmaAccess.dmaRead (device.rings.availableRing + 2) .halfWord (Recorded.start dma)).2 :=
    fun refused => fresh (refused.of_accessed (Accessed.read .refl : Accessed (· = .byte) _ _) (by decide))
  have waiting : Agreed { device with notificationPending := false } consumed :=
    ⟨agreed.available, agreed.used⟩
  refine ⟨?_, waiting.rounds read _ _⟩
  unfold VirtioBlock.tick
  split
  · exact .agreed agreed rfl fresh
  unfold VirtioBlock.processQueue
  split
  · exact .agreed waiting rfl fresh
  dsimp only
  split
  · exact .agreed waiting rfl read
  · exact waiting.processHeads read _ _

/-- A register write that resets the device. -/
def Resets (offset : BitVec 64) (width : AccessWidth) (value : BitVec 64) : Prop :=
  offset = Register.status ∧ width = .word ∧ value.setWidth 32 = (0 : BitVec 32)

instance : Decidable (Resets offset width value) := inferInstanceAs (Decidable (_ ∧ _))

omit [BlockStorage σ] in
theorem Agreed.ite {condition : Prop} [Decidable condition] {other : VirtioBlock σ}
    (holds : Agreed device consumed) (fails : ¬condition → Agreed other consumed) :
    Agreed (if condition then device else other) consumed := by
  split
  · exact holds
  · rename_i failed
    exact fails failed

omit [BlockStorage σ] in
/-- No register but the status changes the indices. -/
theorem Agreed.writeRegister (agreed : Agreed device consumed) {offset : BitVec 64}
    {word : BitVec 32} (kept : ¬(offset = Register.status ∧ word = 0)) :
    Agreed (device.writeRegister offset word) consumed := by
  obtain ⟨available, used⟩ := agreed
  have same : Agreed device consumed := ⟨available, used⟩
  have notified : Agreed (device.notify word) consumed :=
    .ite ⟨available, used⟩ fun _ => ⟨available, used⟩
  unfold VirtioBlock.writeRegister
  refine .ite ⟨available, used⟩ fun _ => .ite (.ite ⟨available, used⟩ fun _ => same) fun _ => ?_
  refine .ite ⟨available, used⟩ fun _ => .ite ⟨available, used⟩ fun _ => ?_
  refine .ite ⟨available, used⟩ fun _ => .ite ⟨available, used⟩ fun _ => ?_
  refine .ite ⟨available, used⟩ fun _ => .ite ⟨available, used⟩ fun _ => ?_
  refine .ite notified fun _ => .ite ⟨available, used⟩ fun _ => ?_
  split
  · rename_i status
    rw [if_neg fun zero => kept ⟨status, zero⟩]
    exact ⟨available, used⟩
  · exact same

omit [BlockStorage σ] in
theorem Agreed.write (agreed : Agreed device consumed) (offset : BitVec 64) (width : AccessWidth)
    (value : BitVec 64) :
    Agreed (device.write offset width value).2
      (if Resets offset width value then 0 else consumed) := by
  split
  · rename_i reset
    obtain ⟨rfl, rfl, zero⟩ := reset
    have written : (device.write Register.status .word value).2 =
        device.writeRegister Register.status (value.setWidth 32) := rfl
    rw [written, zero]
    exact ⟨rfl, rfl⟩
  · rename_i kept
    unfold VirtioBlock.write
    split
    · exact agreed
    split
    · exact agreed
    · rename_i aligned
      refine agreed.writeRegister fun reset => kept ⟨reset.1, ?_, reset.2⟩
      exact not_not.mp fun other => aligned (.inl other)

/-- What can happen to the device. The count of the chains that were consumed starts again
with a reset; each tick has memory of its own, which `permitted` may constrain. -/
inductive Faulty.Run (permitted : VirtioBlock σ → δ → Prop) (initial : Disk σ) :
    VirtioBlock σ → Nat → Prop where
  | start : Run permitted initial { disk := initial } 0
  | write : Run permitted initial before count →
      Run permitted initial (before.write offset width value).2
        (if Resets offset width value then 0 else count)
  | tick : Run permitted initial before count → permitted before memory →
      Run permitted initial (before.tick (Recorded.start memory)).2.1
        (count + (before.tick (Recorded.start memory)).1.length)

/-- In a tick no write of the used index is refused. -/
def Faulty.indexWritten (device : VirtioBlock σ) (dma : δ) : Prop :=
  ¬IndexRefused device.rings (device.tick (Recorded.start dma)).2.2

variable {initial : Disk σ}

theorem Faulty.Run.agreed
    (run : Run (indexWritten : VirtioBlock σ → δ → Prop) initial device consumed) :
    Agreed device consumed := by
  induction run with
  | start => exact ⟨rfl, rfl⟩
  | write _ ih => exact ih.write _ _ _
  | @tick _ _ memory _ written ih =>
    cases (ih.tick memory).1 with
    | agreed agreed _ _ => exact agreed
    | refused _ refused => exact absurd refused written

/-- As long as no write of the used index is refused, a chain that is consumed is completed under
its own position, and the indices count the chains. A tick that comes next keeps this if and only
if no such write is refused in it. -/
theorem Faulty.indices_agree
    (run : Run (indexWritten : VirtioBlock σ → δ → Prop) initial device consumed) :
    (device.usedIndex = device.lastAvailableIndex ∧ device.usedIndex = BitVec.ofNat 16 consumed) ∧
      ∀ dma : δ, (∀ round ∈ tickRounds device (Recorded.start dma),
          round.usedIndex = round.lastAvailableIndex) ∧
        (indexWritten device dma ↔ (device.tick (Recorded.start dma)).2.1.usedIndex =
          (device.tick (Recorded.start dma)).2.1.lastAvailableIndex) := by
  have agreed := run.agreed
  refine ⟨⟨agreed.equal, agreed.used⟩, fun dma => ?_⟩
  obtain ⟨ends, equal⟩ := agreed.tick dma
  exact ⟨equal, ends.equal_iff⟩

namespace Faulty

/-- Memory that refuses to write the halfword at one address. -/
structure Refusing where
  bus : SystemBus Ram
  refused : PhysAddr

instance : DmaAccess Refusing where
  dmaRead address width dma :=
    let read := SystemBus.read address width .dma dma.bus
    (read.1, { dma with bus := read.2 })
  dmaWrite address width value dma :=
    if address = dma.refused ∧ width = .halfWord then (.unmapped, dma)
    else
      let stored := SystemBus.write address width value .dma dma.bus
      (stored.1, { dma with bus := stored.2 })

def sampleDisk : Disk MemoryBlockStorage := { storage := ⟨List.replicate 512 7⟩ }

/-- A queue of four entries at `0x80000000`, notified. -/
def notified : VirtioBlock MemoryBlockStorage :=
  [(0x028, 0x1000), (0x038, 4), (0x03C, 8), (0x040, 0x80000), (0x050, 0)].foldl
    (fun device entry => (device.write entry.1 .word entry.2).2) { disk := sampleDisk }

/-- A request to read four bytes of the first sector; the used index cannot be written. -/
def withoutIndex : Refusing where
  bus := .ofProgram 0x80000000 0x1000
    [0x80000080, 0, 16, 0x00010001, 0x80000090, 0, 4, 0x00020003, 0x80000094, 0, 1, 2,
      0, 0, 0, 0, 0x00010000]
  refused := 0x80000052

/-- The device tries again, and everything can be written. -/
def retried : VirtioBlock MemoryBlockStorage × Refusing :=
  let failed := notified.tick withoutIndex
  let again := (failed.2.1.write Register.queueNotify .word 0).2
  (again.tick { failed.2.2 with refused := 0 }).2

end Faulty

/-- The chain is completed under its own position. -/
theorem Faulty.indices_agree_sample :
    (notified.tick (Recorded.start withoutIndex.bus)).2.1.usedIndex = 1 ∧
      (notified.tick (Recorded.start withoutIndex.bus)).2.1.lastAvailableIndex = 1 := by
  have setUp : Run (indexWritten : VirtioBlock MemoryBlockStorage → SystemBus Ram → Prop)
      sampleDisk notified _ := .write (.write (.write (.write (.write .start))))
  have used : (notified.tick (Recorded.start withoutIndex.bus)).2.1.usedIndex = 1 := by
    decide +kernel
  have last : (notified.tick (Recorded.start withoutIndex.bus)).2.1.lastAvailableIndex = 1 := by
    decide +kernel
  have written : indexWritten notified withoutIndex.bus :=
    ((indices_agree setUp).2 withoutIndex.bus).2.mpr (used.trans last.symm)
  have run : Run (indexWritten : VirtioBlock MemoryBlockStorage → SystemBus Ram → Prop) sampleDisk
      (notified.tick (Recorded.start withoutIndex.bus)).2.1 _ := .tick setUp written
  exact ⟨used, (indices_agree run).1.1.symm.trans used⟩

/-- A chain is completed twice, under two positions, when the used index could not be written
the first time. -/
theorem Faulty.indices_disagree :
    (∃ device consumed, Run (fun _ (_ : Refusing) => True) sampleDisk device consumed ∧
      device.usedIndex ≠ device.lastAvailableIndex) ∧
    retried.1.usedIndex = 2 ∧ retried.1.lastAvailableIndex = 1 := by
  have run : Run (fun _ (_ : Refusing) => True) sampleDisk
      (notified.tick (Recorded.start withoutIndex)).2.1 _ :=
    .tick (.write (.write (.write (.write (.write .start))))) trivial
  exact ⟨⟨_, _, run, by decide +kernel⟩, by decide +kernel, by decide +kernel⟩

end RvEmulator.Devices.VirtioBlock
