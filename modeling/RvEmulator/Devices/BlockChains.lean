import RvEmulator.Devices.BlockFaults
import RvEmulator.Devices.BlockIntegrity

/-! Chains that do not end, at the block device. It rejects them like the network device,
unless the chain goes on after as many descriptors as the queue has. -/

namespace RvEmulator.Devices

open Library Platform

/-! ### Writing -/

/-- Writes one after the other, until one is refused. -/
def storeAll [DmaAccess δ] : List Store → StateM δ Bool
  | [] => fun dma => (true, dma)
  | store :: rest => fun dma =>
    let written := DmaAccess.dmaWrite store.address store.width store.value dma
    if written.1 ≠ .none then (false, written.2) else storeAll rest written.2

/-- No more is written than what is asked for. -/
theorem stores_storeAll [DmaAccess δ] (stores : List Store) (recorded : Recorded δ) :
    ∃ done, done <+: stores ∧ (storeAll stores recorded).2.stores = recorded.stores ++ done := by
  induction stores generalizing recorded with
  | nil => exact ⟨[], List.prefix_refl _, (List.append_nil _).symm⟩
  | cons store rest ih =>
    unfold storeAll
    dsimp only
    split
    · rename_i refused
      exact ⟨[], List.nil_prefix, (Recorded.stores_refused refused).trans (List.append_nil _).symm⟩
    · rename_i accepted
      obtain ⟨done, part, written⟩ := ih
        (DmaAccess.dmaWrite store.address store.width store.value recorded).2
      refine ⟨store :: done, List.cons_prefix_cons.mpr ⟨rfl, part⟩, ?_⟩
      rw [written, Recorded.stores_write (not_not.mp accepted), List.append_assoc]
      rfl

namespace VirtioBlock

section

variable [DmaAccess δ] {memory : DmaMemory δ}

theorem stores_loadChain (queueNum : BitVec 16) (rings : Rings) (count : Nat)
    (visited : List (BitVec 16)) (current : BitVec 16) (recorded : Recorded δ) :
    (loadChain queueNum rings count visited current recorded).2.stores = recorded.stores :=
  Recorded.stores_of_reads (accessed_loadChain .refl queueNum rings count visited current)

/-- A chain that is loaded ends in time, or goes on. -/
theorem chain_of_loadChain {dma : δ} (sound : memory.sound dma) (queueNum : BitVec 16)
    (rings : Rings) (count : Nat) (visited : List (BitVec 16)) (current : BitVec 16)
    {chain : List Descriptor}
    (loaded : (loadChain queueNum rings count visited current dma).1 = some chain) :
    rings.chainOf queueNum (memory.contents dma) count visited current = some chain ∨
      rings.endlessChain queueNum (memory.contents dma) count visited current = some chain := by
  have shown := followed_of_loadChain sound queueNum rings count visited current loaded
  rw [Rings.chainOf_eq, Rings.endlessChain_eq]
  generalize rings.followed queueNum (memory.contents dma) count visited current = followed at shown
  cases followed with
  | ended => exact .inl shown
  | unended => exact .inr shown
  | invalid => cases shown
  | refused => cases shown

/-- The descriptors of a chain are read one after the other, and no read is refused. -/
inductive Walked (rings : Rings) : BitVec 16 → List Descriptor → δ → δ → Prop where
  | nil {index : BitVec 16} {dma : δ} : Walked rings index [] dma dma
  | cons {index : BitVec 16} {descriptor : Descriptor} {rest : List Descriptor}
      {before middle after : δ} : rings.readDescriptor index before = (some descriptor, middle) →
      Walked rings descriptor.next rest middle after →
      Walked rings index (descriptor :: rest) before after

/-- A chain that is loaded was walked. -/
theorem walked_of_loadChain {queueNum : BitVec 16} {rings : Rings} {count : Nat}
    {visited : List (BitVec 16)} {current : BitVec 16} {chain : List Descriptor} {dma after : δ}
    (loaded : loadChain queueNum rings count visited current dma = (some chain, after)) :
    Walked rings current chain dma after := by
  induction count generalizing visited current chain dma with
  | zero =>
    cases loaded
    exact .nil
  | succ count ih =>
    rw [loadChain_succ] at loaded
    split at loaded
    · cases loaded
    rename_i inside
    have entry : loadDescriptor queueNum rings current dma = rings.readDescriptor current dma :=
      if_neg fun outside => inside (.inl outside)
    rw [entry] at loaded
    split at loaded
    · cases loaded
    rename_i descriptor middle read
    split at loaded
    · cases loaded
      exact .cons read .nil
    split at loaded
    · cases loaded
    · rename_i rest walked
      cases loaded
      exact .cons read (ih walked)

/-- A chain that goes on is loaded as far as the queue allows, if it can be walked. -/
theorem loadChain_of_walked {queueNum : BitVec 16} {rings : Rings} {count : Nat}
    {visited : List (BitVec 16)} {current : BitVec 16} {chain : List Descriptor} {dma after : δ}
    (sound : memory.sound dma)
    (endless : rings.endlessChain queueNum (memory.contents dma) count visited current = some chain)
    (walked : Walked rings current chain dma after) :
    loadChain queueNum rings count visited current dma = (some chain, after) := by
  induction count generalizing visited current chain dma with
  | zero =>
    cases endless
    cases walked
    rfl
  | succ count ih =>
    rw [Rings.endlessChain_succ] at endless
    split at endless
    · cases endless
    rename_i inside
    dsimp only at endless
    split at endless
    · cases endless
    rename_i goesOn
    obtain ⟨rest, later, rfl⟩ := Option.map_eq_some_iff.mp endless
    obtain ⟨soundRead, sameRead, _⟩ := Rings.readDescriptor_spec sound rings current
    cases walked with
    | cons read others =>
      have entry : loadDescriptor queueNum rings current dma = _ :=
        (if_neg fun outside => inside (.inl outside)).trans read
      rename_i middle
      rw [read] at soundRead sameRead
      have further : rings.endlessChain queueNum (memory.contents middle) count (current :: visited)
          (rings.descriptorAt (memory.contents dma) current).next = some rest := by
        rw [← later]
        exact congrArg (rings.endlessChain queueNum · _ _ _) sameRead
      rw [loadChain_succ]
      rw [if_neg inside, entry]
      dsimp only
      rw [if_neg goesOn, ih soundRead further others]

/-- The checks of a chain before its header is read. -/
def Served : List Descriptor → Prop
  | header :: next :: others =>
    ¬(header.length < 16 ∨ ((next :: others).getLast (List.cons_ne_nil _ _)).length < 1 ∨
      ((next :: others).getLast (List.cons_ne_nil _ _)).isWrite = false)
  | _ => False

/-- The two reads of a header are not refused. -/
def HeaderRead (dma : δ) : List Descriptor → Prop
  | [] => False
  | header :: _ =>
    let requestType := DmaAccess.dmaRead header.address .word dma
    requestType.1.ok = true ∧
      (DmaAccess.dmaRead (header.address + 8) .doubleWord requestType.2).1.ok = true

/-- The writes that complete a chain. -/
def completionStores (device : VirtioBlock σ) (head : BitVec 16) (written : BitVec 32) :
    List Store :=
  [⟨device.rings.usedElement device.queueNum device.usedIndex, .word, head.setWidth 64⟩,
    ⟨device.rings.usedElement device.queueNum device.usedIndex + 4, .word, written.setWidth 64⟩,
    ⟨device.rings.usedRing + 2, .halfWord, (device.usedIndex + 1).setWidth 64⟩]

/-- The read of the head that comes next. -/
def readHead (device : VirtioBlock σ) (dma : δ) : ReadResult × δ :=
  DmaAccess.dmaRead (device.rings.ringEntry device.queueNum device.lastAvailableIndex) .halfWord dma

variable [BlockStorage σ]

/-- A head is rejected. Nothing is written to the disk. Nothing is written to guest memory before
the chain is completed with length zero, and nothing after it; a write of the completion that is
refused ends the round. -/
structure Rejected (device : VirtioBlock σ) (recorded : Recorded δ) (head : BitVec 16) : Prop where
  storage : (processHead device recorded).2.1.disk.storage = device.disk.storage
  dirty : (processHead device recorded).2.1.disk.dirty = device.disk.dirty
  unread : (readHead device recorded).1.ok = false → (processHead device recorded).1 = none ∧
    (processHead device recorded).2.2.stores = recorded.stores
  completed : (readHead device recorded).1.ok = true → ∃ middle : Recorded δ,
    middle.stores = recorded.stores ∧
      (processHead device recorded).1 =
        (if (storeAll (completionStores device head 0) middle).1 = true then
          some { head, written := 0 } else none) ∧
      (processHead device recorded).2.2 = (storeAll (completionStores device head 0) middle).2

/-- No other writes than those of the completion. -/
theorem Rejected.stores {device : VirtioBlock σ} {recorded : Recorded δ} {head : BitVec 16}
    (rejected : Rejected device recorded head) :
    (processHead device recorded).2.2.stores <+:
      recorded.stores ++ completionStores device head 0 := by
  cases answered : (readHead device recorded).1.ok with
  | false =>
    rw [(rejected.unread answered).2]
    exact List.prefix_append _ _
  | true =>
    obtain ⟨middle, same, _, ended⟩ := rejected.completed answered
    obtain ⟨done, part, written⟩ := stores_storeAll (completionStores device head 0) middle
    rw [ended, written, same]
    exact (List.prefix_append_right_inj _).mpr part

theorem processRequest_rejected {recorded : Recorded δ} (sound : memory.sound recorded.dma)
    {queueNum : BitVec 16} {rings : Rings} {head : BitVec 16} (disk : Disk σ)
    (unended : rings.validChain queueNum (memory.contents recorded.dma) head = none)
    (unserved : ∀ chain after, rings.endlessChain queueNum (memory.contents recorded.dma)
        queueNum.toNat [] head = some chain → Served chain → Walked rings head chain recorded after →
      ¬HeaderRead after chain) :
    ∃ after : Recorded δ, processRequest queueNum rings head (disk, recorded) =
        ((false, 0), disk, after) ∧ after.stores = recorded.stores := by
  unfold processRequest
  dsimp only
  split
  · exact ⟨recorded, rfl, rfl⟩
  have soundRecorded : (Recorded.memory memory).sound recorded := sound
  have found := fun chain => @chain_of_loadChain _ _ _ _ soundRecorded queueNum rings
    queueNum.toNat [] head chain
  have loaded := stores_loadChain queueNum rings queueNum.toNat [] head recorded
  rcases walk : loadChain queueNum rings queueNum.toNat [] head recorded with ⟨_ | chain, after⟩
  all_goals rw [walk] at found loaded
  · exact ⟨after, rfl, loaded⟩
  have endless : rings.endlessChain queueNum (memory.contents recorded.dma) queueNum.toNat []
      head = some chain := by
    obtain ended | endless := found chain rfl
    · rw [Rings.validChain] at unended
      exact absurd (ended.symm.trans unended) (by simp)
    · exact endless
  dsimp only
  split
  · rename_i header next others
    split
    · exact ⟨after, rfl, loaded⟩
    rename_i served
    have refused := unserved _ after endless served (walked_of_loadChain walk)
    dsimp only [HeaderRead] at refused
    rw [← Bool.and_eq_true] at refused
    rw [if_neg refused]
    exact ⟨_, rfl, by rw [Recorded.stores_read, Recorded.stores_read]; exact loaded⟩
  · exact ⟨after, rfl, loaded⟩

/-- The completion after a request that wrote nothing. -/
theorem rejected_of_quiet {device : VirtioBlock σ} {recorded : Recorded δ} {head : BitVec 16}
    (entry : (readHead device recorded).1.ok = true →
      (readHead device recorded).1.value.setWidth 16 = head)
    (quiet : (readHead device recorded).1.ok = true → ∀ disk : Disk σ, ∃ after : Recorded δ,
      processRequest device.queueNum device.rings head (disk, (readHead device recorded).2) =
          ((false, 0), disk, after) ∧
        after.stores = recorded.stores) : Rejected device recorded head := by
  have unread : (readHead device recorded).2.stores = recorded.stores := Recorded.stores_read ..
  cases answered : (readHead device recorded).1.ok with
  | false =>
    have ended : processHead device recorded = (none, device, (readHead device recorded).2) := by
      unfold processHead
      exact if_pos (by rw [readHead] at answered; rw [answered]; rfl)
    refine ⟨by rw [ended], by rw [ended], fun _ => by rw [ended]; exact ⟨rfl, unread⟩, ?_⟩
    rw [answered]
    exact fun other => absurd other Bool.false_ne_true
  | true =>
    obtain ⟨middle, processed, same⟩ := quiet answered (countChain device.disk)
    have head' := entry answered
    unfold readHead at answered head' processed
    suffices outcome : (processHead device recorded).2.1.disk.storage = device.disk.storage ∧
        (processHead device recorded).2.1.disk.dirty = device.disk.dirty ∧
        (processHead device recorded).1 =
          (if (storeAll (completionStores device head 0) middle).1 = true then
            some { head, written := 0 } else none) ∧
        (processHead device recorded).2.2 = (storeAll (completionStores device head 0) middle).2 by
      refine ⟨outcome.1, outcome.2.1, ?_, fun _ => ⟨middle, same, outcome.2.2.1, outcome.2.2.2⟩⟩
      unfold readHead
      rw [answered]
      exact fun other => absurd other.symm Bool.false_ne_true
    unfold processHead completionStores
    dsimp only
    rw [answered, head', processed]
    simp only [storeAll, Bool.not_true, Bool.false_eq_true, if_false]
    split
    · exact ⟨rfl, rfl, rfl, rfl⟩
    split
    · exact ⟨rfl, rfl, rfl, rfl⟩
    split
    · exact ⟨rfl, rfl, rfl, rfl⟩
    · exact ⟨rfl, rfl, rfl, rfl⟩

/-- The head that comes next. -/
def headOf (memory : DmaMemory δ) (device : VirtioBlock σ) (dma : δ) : BitVec 16 :=
  device.rings.headAt (memory.contents dma)
    (device.lastAvailableIndex.toNat % device.queueNum.toNat)

/-- The head that comes next is that of a chain that goes on after as many descriptors as the
queue has and would be served if it ended there; and no read is refused up to its header. -/
def Overlong (memory : DmaMemory δ) (device : VirtioBlock σ) (dma : δ) : Prop :=
  (readHead device dma).1.ok = true ∧
    ∃ chain after, device.rings.endlessChain device.queueNum (memory.contents dma)
        device.queueNum.toNat [] (headOf memory device dma) = some chain ∧ Served chain ∧
      Walked device.rings (headOf memory device dma) chain (readHead device dma).2 after ∧
      HeaderRead after chain

/-- A write of the byte that would be the status of such a chain is not refused. -/
def StatusAnswered (memory : DmaMemory δ) (device : VirtioBlock σ) (dma : δ) : Prop :=
  ∀ chain, device.rings.endlessChain device.queueNum (memory.contents dma) device.queueNum.toNat []
      (headOf memory device dma) = some chain →
    ∀ status, chain.getLast? = some status → memory.answers status.address .byte

omit [BlockStorage σ] in
theorem readHead_spec (memory : DmaMemory δ) (device : VirtioBlock σ) {dma : δ}
    (sound : memory.sound dma) :
    memory.sound (readHead device dma).2 ∧
      memory.contents (readHead device dma).2 = memory.contents dma ∧
      ((readHead device dma).1.ok = true →
        (readHead device dma).1.value.setWidth 16 = headOf memory device dma) := by
  obtain ⟨soundRead, sameRead, value⟩ := DmaMemory.read_spec sound
    (device.rings.ringEntry device.queueNum device.lastAvailableIndex) .halfWord
  refine ⟨soundRead, sameRead, fun answered => ?_⟩
  unfold readHead at answered ⊢
  rw [value answered, Rings.ringEntry_eq]
  rfl

theorem rejected_of_fitting {device : VirtioBlock σ} {recorded : Recorded δ}
    (sound : memory.sound recorded.dma)
    (unended : device.rings.validChain device.queueNum (memory.contents recorded.dma)
      (headOf memory device recorded.dma) = none)
    (fits : ¬Overlong (Recorded.memory memory) device recorded) :
    Rejected device recorded (headOf memory device recorded.dma) := by
  obtain ⟨soundRead, sameRead, entered⟩ :=
    readHead_spec (Recorded.memory memory) device (show (Recorded.memory memory).sound recorded from sound)
  refine rejected_of_quiet entered fun answered disk => ?_
  have stores : (readHead device recorded).2.stores = recorded.stores := Recorded.stores_read ..
  rw [← stores]
  change memory.contents (readHead device recorded).2.dma = memory.contents recorded.dma at sameRead
  refine processRequest_rejected soundRead disk (by rw [sameRead]; exact unended) ?_
  rw [sameRead]
  exact fun chain after endless served walked read =>
    fits ⟨answered, chain, after, endless, served, walked, read⟩

/-- A request that is performed writes its status byte. -/
theorem status_stored {recorded : Recorded δ} (sound : memory.sound recorded.dma) (disk : Disk σ)
    (requestType : BitVec 32) (sector : BitVec 64) (data : List Descriptor)
    {statusDescriptor : Descriptor} (answers : memory.answers statusDescriptor.address .byte) :
    ∃ (before : List Store) (value : BitVec 64), recorded.stores <+: before ∧
      (performRequest requestType sector data statusDescriptor (disk, recorded)).2.2.stores =
        before ++ [⟨statusDescriptor.address, .byte, value⟩] := by
  unfold performRequest
  dsimp only
  have accessed : Accessed (· = AccessWidth.byte) recorded
      (if requestType ≠ requestRead ∧ requestType ≠ requestWrite then
        (({ status := statusUnsupported }, disk, recorded) : Progress × Disk σ × Recorded δ)
      else if BitVec.allOnes 64 / sectorSize < sector then
        ({ status := statusIoError }, disk, recorded)
      else transferAll requestType data (sector * sectorSize) 0 (disk, recorded)).2.2 := by
    split
    · exact .refl
    split
    · exact .refl
    · exact accessed_transferAll .refl _ _ _ _
  generalize (if requestType ≠ requestRead ∧ requestType ≠ requestWrite then
        (({ status := statusUnsupported }, disk, recorded) : Progress × Disk σ × Recorded δ)
      else if BitVec.allOnes 64 / sectorSize < sector then
        ({ status := statusIoError }, disk, recorded)
      else transferAll requestType data (sector * sectorSize) 0 (disk, recorded)) = progress at *
  have soundRecorded : (Recorded.memory memory).sound recorded := sound
  have soundLater := accessed.sound soundRecorded
  exact ⟨progress.2.2.stores, _, Recorded.stores_of_accessed accessed,
    Recorded.stores_write ((Recorded.memory memory).writable soundLater answers)⟩

/-- What follows the request in a round. -/
theorem accessed_processHead {device : VirtioBlock σ} {dma : δ}
    (answered : (readHead device dma).1.ok = true) :
    Accessed (fun _ => True) (processRequest device.queueNum device.rings
      ((readHead device dma).1.value.setWidth 16) (countChain device.disk, (readHead device dma).2)).2.2
      (processHead device dma).2.2 := by
  unfold readHead at *
  unfold processHead
  dsimp only
  rw [if_neg (by simp [answered])]
  split
  · exact .write .refl trivial
  split
  · exact .write (.write .refl trivial) trivial
  split <;> exact .write (.write (.write .refl trivial) trivial) trivial

/-- A chain that goes on is served as if it ended at the bound. -/
theorem processRequest_overlong {recorded after : Recorded δ} (sound : memory.sound recorded.dma)
    {queueNum : BitVec 16} {rings : Rings} {head : BitVec 16} (disk : Disk σ)
    {chain : List Descriptor} (endless : rings.endlessChain queueNum
      (memory.contents recorded.dma) queueNum.toNat [] head = some chain)
    (inside : ¬queueNum ≤ head) (served : Served chain)
    (walked : Walked rings head chain recorded after) (read : HeaderRead after chain)
    (answers : ∀ status, chain.getLast? = some status → memory.answers status.address .byte) :
    ∃ before address value, recorded.stores <+: before ∧
      (processRequest queueNum rings head (disk, recorded)).2.2.stores =
        before ++ [⟨address, .byte, value⟩] := by
  have soundRecorded : (Recorded.memory memory).sound recorded := sound
  have loaded := loadChain_of_walked soundRecorded endless walked
  have kept := stores_loadChain queueNum rings queueNum.toNat [] head recorded
  have reached := accessed_loadChain (.refl : Accessed (· = .byte) recorded recorded)
    queueNum rings queueNum.toNat [] head
  rw [loaded] at kept reached
  unfold processRequest
  dsimp only
  rw [if_neg inside, loaded]
  match chain, served, read, answers with
  | header :: next :: others, served, read, answers =>
    dsimp only [HeaderRead] at read ⊢
    rw [if_neg served, read.1, read.2, Bool.and_self, if_pos rfl]
    have soundKnown : memory.sound (DmaAccess.dmaRead (header.address + 8) .doubleWord
        (DmaAccess.dmaRead header.address .word after).2).2.dma :=
      reached.read.read.sound soundRecorded
    obtain ⟨before, value, grown, stores⟩ := status_stored soundKnown
      (countRequest disk ((DmaAccess.dmaRead header.address .word after).1.value.setWidth 32))
      ((DmaAccess.dmaRead header.address .word after).1.value.setWidth 32)
      (DmaAccess.dmaRead (header.address + 8) .doubleWord
        (DmaAccess.dmaRead header.address .word after).2).1.value
      (next :: others).dropLast
      (answers _ ((List.getLast?_cons_cons ..).trans
        (List.getLast?_eq_some_getLast (List.cons_ne_nil next others))))
    rw [Recorded.stores_read, Recorded.stores_read] at grown
    exact ⟨before, _, value, kept ▸ grown, stores⟩

/-- Then the guest memory has more than a completion written to it. -/
theorem Overlong.not_rejected {device : VirtioBlock σ} {recorded : Recorded δ}
    (sound : memory.sound recorded.dma)
    (status : StatusAnswered memory device recorded.dma)
    (overlong : Overlong (Recorded.memory memory) device recorded) :
    ¬Rejected device recorded (headOf memory device recorded.dma) := by
  obtain ⟨answered, chain, after, endless, served, walked, read⟩ := overlong
  obtain ⟨soundRead, sameRead, value⟩ :=
    readHead_spec (Recorded.memory memory) device (show (Recorded.memory memory).sound recorded from sound)
  have later := accessed_processHead answered
  have untouched : (readHead device recorded).2.stores = recorded.stores :=
    Recorded.stores_read ..
  rw [value answered] at later
  change memory.contents (readHead device recorded).2.dma = memory.contents recorded.dma at sameRead
  have inside : ¬device.queueNum ≤ headOf memory device recorded.dma := by
    refine Rings.head_of_endlessChain endless ?_
    rintro rfl
    exact served
  obtain ⟨before, address, value, grown, stores⟩ := processRequest_overlong soundRead
    (countChain device.disk) (by rw [sameRead]; exact endless) inside served walked read
    (status chain endless)
  intro rejected
  have whole := ((stores ▸ Recorded.stores_of_accessed later : before ++ [_] <+: _)).trans
    rejected.stores
  obtain ⟨old, rfl⟩ := untouched ▸ grown
  rw [List.append_assoc, List.prefix_append_right_inj] at whole
  have member : (⟨address, .byte, value⟩ : Store) ∈
      completionStores device (headOf memory device recorded.dma) 0 :=
    whole.subset (List.mem_append_right _ (List.mem_singleton_self _))
  unfold completionStores at member
  simp at member

/-- A chain that does not end within the queue is rejected, unless it goes on after as many
descriptors as the queue has, would be served if it ended there, and no read is refused up to its
header. Where the status byte can be written such a chain is not rejected. -/
theorem rejects_unterminated_iff {device : VirtioBlock σ} {recorded : Recorded δ}
    (sound : memory.sound recorded.dma)
    (unended : device.rings.validChain device.queueNum (memory.contents recorded.dma)
      (headOf memory device recorded.dma) = none) :
    (¬Overlong (Recorded.memory memory) device recorded →
      Rejected device recorded (headOf memory device recorded.dma)) ∧
    (StatusAnswered memory device recorded.dma →
      (Rejected device recorded (headOf memory device recorded.dma) ↔
        ¬Overlong (Recorded.memory memory) device recorded)) := by
  have fitting := rejected_of_fitting sound unended
  refine ⟨fitting, fun status => ⟨?_, fitting⟩⟩
  intro rejected overlong
  exact overlong.not_rejected sound status rejected

end

namespace Sample

/-- All four descriptors have successors: a header, four bytes for the first sector, nothing,
and a status byte. -/
def endless : Recorded (SystemBus Ram) where
  dma := .ofProgram 0x80000000 0x1000
    ([0x80000080, 0, 16, 0x00010001, 0x80000090, 0, 4, 0x00020001, 0x80000098, 0, 0, 0x00030001,
      0x80000094, 0, 1, 0x00000003, 0x00010000] ++ List.replicate 15 0 ++ [1, 0, 0, 0, 0x04030201])

/-- The same, but the third descriptor leads back to the first. -/
def looping : Recorded (SystemBus Ram) where
  dma := .ofProgram 0x80000000 0x1000
    ([0x80000080, 0, 16, 0x00010001, 0x80000090, 0, 4, 0x00020001, 0x80000098, 0, 0, 0x00000001,
      0x80000094, 0, 1, 0x00000003, 0x00010000] ++ List.replicate 15 0 ++ [1, 0, 0, 0, 0x04030201])

end Sample

theorem rejects_unterminated_sample :
    Rejected Sample.device Sample.looping (headOf Sample.memory Sample.device Sample.looping.dma) := by
  have sound : Sample.memory.sound Sample.looping.dma := ⟨rfl, SystemBus.sized_ofProgram _ _ _⟩
  refine (rejects_unterminated_iff sound (by decide)).1 ?_
  rintro ⟨_, chain, _, endless, _⟩
  have none : Sample.device.rings.endlessChain Sample.device.queueNum
      (Sample.memory.contents Sample.looping.dma) Sample.device.queueNum.toNat []
      (headOf Sample.memory Sample.device Sample.looping.dma) = none := by decide
  cases none.symm.trans endless

/-- An unterminated chain that changes the disk. -/
theorem rejects_unterminated_fails :
    Sample.device.rings.validChain Sample.device.queueNum
        (Sample.memory.contents Sample.endless.dma)
        (headOf Sample.memory Sample.device Sample.endless.dma) = none ∧
      ¬Rejected Sample.device Sample.endless
        (headOf Sample.memory Sample.device Sample.endless.dma) ∧
      (processHead Sample.device Sample.endless).1 = some { head := 0, written := 1 } ∧
      (processHead Sample.device Sample.endless).2.1.disk.storage.bytes.take 4 = [1, 2, 3, 4] := by
  refine ⟨by decide, ?_, by decide +kernel, by decide +kernel⟩
  intro rejected
  have stored : (processHead Sample.device Sample.endless).2.1.disk.storage.bytes.take 4 =
      [1, 2, 3, 4] := by decide +kernel
  rw [rejected.storage] at stored
  exact absurd stored (by decide)

end VirtioBlock

end RvEmulator.Devices
