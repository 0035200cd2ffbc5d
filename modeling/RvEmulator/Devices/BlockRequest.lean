import RvEmulator.Devices.Chains
import RvEmulator.Devices.RingMemory
import RvEmulator.Devices.VirtioBlock

/-! A request of the block device changes no guest memory but the buffers of its chain. -/

namespace RvEmulator.Devices.VirtioBlock

open Library Platform

variable {σ δ : Type} [BlockStorage σ] [DmaAccess δ] {memory : DmaMemory δ}
  {kept : PhysAddr → Prop} {dma : δ}

/-! ### Chains -/

omit [BlockStorage σ] in
theorem followed_of_loadChain (sound : memory.sound dma) (queueNum : BitVec 16) (rings : Rings)
    (count : Nat) (visited : List (BitVec 16)) (current : BitVec 16) {chain : List Descriptor}
    (loaded : (loadChain queueNum rings count visited current dma).1 = some chain) :
    (rings.followed queueNum (memory.contents dma) count visited current).loaded = some chain := by
  rw [loadChain_follow] at loaded
  have answered : (rings.follow queueNum count visited current dma).1 ≠ .refused := by
    intro refused
    rw [refused] at loaded
    cases loaded
  rw [← Rings.follow_shown sound _ _ _ _ _ answered]
  exact loaded

omit [BlockStorage σ] in
/-- The descriptors that were loaded are those in memory. -/
theorem loadChain_spec (sound : memory.sound dma) (queueNum : BitVec 16) (rings : Rings)
    (count : Nat) (visited : List (BitVec 16)) (current : BitVec 16) :
    memory.sound (loadChain queueNum rings count visited current dma).2 ∧
      memory.contents (loadChain queueNum rings count visited current dma).2 =
        memory.contents dma ∧
      ∀ chain, (loadChain queueNum rings count visited current dma).1 = some chain →
        chain = rings.chainAt queueNum (memory.contents dma) count current := by
  obtain ⟨soundAfter, sameAfter⟩ :=
    (Accessed.refl.follow rings queueNum count visited current).reads sound
  refine ⟨?_, ?_, fun chain loaded => (Rings.chainAt_of_followed
    (followed_of_loadChain sound queueNum rings count visited current loaded)).symm⟩
  · rw [loadChain_follow]
    exact soundAfter
  · rw [loadChain_follow]
    exact sameAfter

/-! ### Data -/

/-- Bytes are written only where they belong. -/
theorem preserves_scatter (sound : memory.sound dma) (address : PhysAddr)
    (bytes : List (BitVec 8))
    (apart : ∀ index < bytes.length, ¬kept (address + BitVec.ofNat 64 index)) :
    memory.Preserves kept dma (scatter address bytes dma).2 := by
  induction bytes generalizing address dma with
  | nil => exact .refl sound
  | cons byte rest ih =>
    have stored : memory.Preserves kept dma
        (DmaAccess.dmaWrite address .byte (byte.setWidth 64) dma).2 := by
      apply DmaMemory.preserves_write sound
      intro other inside
      have first := apart 0 (by simp)
      rw [Memory.eq_of_region_one inside]
      simpa using first
    unfold scatter
    dsimp only
    split
    · exact stored
    · refine stored.trans (ih stored.sound (address + 1) fun index inside => ?_)
      rw [Memory.add_succ]
      exact apart (index + 1) (by simpa using inside)

theorem preserves_transferChunk (sound : memory.sound dma) (disk : Disk σ)
    (requestType : BitVec 32) (address : PhysAddr) (diskOffset : BitVec 64) {count : Nat}
    (written : BitVec 32) (apart : ∀ index < count, ¬kept (address + BitVec.ofNat 64 index)) :
    memory.Preserves kept dma
      (transferChunk requestType address diskOffset count written (disk, dma)).2.2 := by
  unfold transferChunk
  dsimp only
  split
  · split
    · exact .refl sound
    · rename_i bytes storage _
      exact preserves_scatter sound address bytes.toList
        (fun index inside => apart index (by simpa using inside))
  · obtain ⟨soundHere, sameHere⟩ := (Accessed.refl.gather address count).reads sound
    generalize gather address count dma = gathered at *
    obtain ⟨bytes, after⟩ := gathered
    cases bytes with
    | none => exact .of_eq soundHere sameHere
    | some bytes =>
      dsimp only
      split <;> exact .of_eq soundHere sameHere

theorem preserves_transfer (sound : memory.sound dma) (disk : Disk σ) (requestType : BitVec 32)
    (address : PhysAddr) (diskOffset : BitVec 64) {length : Nat} (fuel transferred : Nat)
    (written : BitVec 32) (apart : ∀ index < length, ¬kept (address + BitVec.ofNat 64 index)) :
    memory.Preserves kept dma
      (transfer requestType address diskOffset length fuel transferred written
        (disk, dma)).2.2 := by
  induction fuel generalizing dma disk transferred written with
  | zero => exact .refl sound
  | succ fuel ih =>
    unfold transfer
    split
    · exact .refl sound
    rename_i more
    dsimp only
    have free : ∀ index < min (length - transferred) transferBufferSize,
        ¬kept (address + BitVec.ofNat 64 transferred + BitVec.ofNat 64 index) := by
      intro index inside
      rw [BitVec.add_assoc, ← BitVec.ofNat_add]
      exact apart _ (by omega)
    have round := preserves_transferChunk sound disk requestType
      (address + BitVec.ofNat 64 transferred) (diskOffset + BitVec.ofNat 64 transferred) written
      free
    split
    · exact round
    · exact round.trans (ih round.sound _ _ _)

theorem preserves_transferAll (sound : memory.sound dma) (disk : Disk σ) (requestType : BitVec 32)
    (data : List Descriptor) (diskOffset : BitVec 64) (written : BitVec 32)
    (apart : ∀ descriptor ∈ data, ∀ address, descriptor.Holds address → ¬kept address) :
    memory.Preserves kept dma
      (transferAll requestType data diskOffset written (disk, dma)).2.2 := by
  induction data generalizing dma disk diskOffset written with
  | nil => exact .refl sound
  | cons descriptor rest ih =>
    unfold transferAll
    dsimp only
    split
    · exact .refl sound
    split
    · exact .refl sound
    have free : ∀ index < descriptor.length.toNat,
        ¬kept (descriptor.address + BitVec.ofNat 64 index) :=
      fun index inside => apart descriptor List.mem_cons_self _ ⟨index, inside, rfl⟩
    have here := preserves_transfer sound disk requestType descriptor.address diskOffset
      descriptor.length.toNat 0 written free
    split
    · exact here
    · exact here.trans (ih here.sound _ _ _
        fun other member => apart other (List.mem_cons_of_mem _ member))

theorem preserves_performRequest (sound : memory.sound dma) (disk : Disk σ)
    (requestType : BitVec 32) (sector : BitVec 64) (data : List Descriptor)
    {statusDescriptor : Descriptor} (long : ¬statusDescriptor.length < 1)
    (apart : ∀ descriptor ∈ statusDescriptor :: data, ∀ address, descriptor.Holds address →
      ¬kept address) :
    memory.Preserves kept dma
      (performRequest requestType sector data statusDescriptor (disk, dma)).2.2 := by
  have byte : ∀ other, Memory.Region statusDescriptor.address 1 other → ¬kept other := by
    intro other inside
    refine apart statusDescriptor List.mem_cons_self other ⟨0, ?_, ?_⟩
    · have some : ¬statusDescriptor.length.toNat < 1 := fun none => long (BitVec.lt_def.mpr none)
      omega
    · rw [Memory.eq_of_region_one inside, BitVec.add_zero]
  have transferred : memory.Preserves kept dma
      (if requestType ≠ requestRead ∧ requestType ≠ requestWrite then
        (({ status := statusUnsupported }, disk, dma) : Progress × Disk σ × δ)
      else if BitVec.allOnes 64 / sectorSize < sector then
        ({ status := statusIoError }, disk, dma)
      else transferAll requestType data (sector * sectorSize) 0 (disk, dma)).2.2 := by
    split
    · exact .refl sound
    split
    · exact .refl sound
    · exact preserves_transferAll sound disk requestType data _ _
        fun descriptor member => apart descriptor (List.mem_cons_of_mem _ member)
  exact transferred.trans (DmaMemory.preserves_write transferred.sound _ byte)

/-- A request writes to the buffers of its chain only. -/
theorem preserves_processRequest (sound : memory.sound dma) (disk : Disk σ) (queueNum : BitVec 16)
    (rings : Rings) (head : BitVec 16)
    (apart : ∀ descriptor ∈
      rings.chainAt queueNum (memory.contents dma) queueNum.toNat head,
      ∀ address, descriptor.Holds address → ¬kept address) :
    memory.Preserves kept dma (processRequest queueNum rings head (disk, dma)).2.2 := by
  unfold processRequest
  dsimp only
  split
  · exact .refl sound
  obtain ⟨soundChain, sameChain, members⟩ :=
    loadChain_spec sound queueNum rings queueNum.toNat [] head
  generalize loadChain queueNum rings queueNum.toNat [] head dma = loaded at *
  obtain ⟨loaded, after⟩ := loaded
  have followed : memory.Preserves kept dma after := .of_eq soundChain sameChain
  cases loaded with
  | none => exact followed
  | some chain =>
    dsimp only at followed ⊢
    split
    · rename_i header next others
      split
      · exact followed
      rename_i proper
      obtain ⟨soundType, sameType, _⟩ := DmaMemory.read_spec soundChain header.address .word
      obtain ⟨soundSector, sameSector, _⟩ :=
        DmaMemory.read_spec soundType (header.address + 8) .doubleWord
      have known : memory.Preserves kept dma
          (DmaAccess.dmaRead (header.address + 8) .doubleWord
            (DmaAccess.dmaRead header.address .word after).2).2 :=
        .of_eq soundSector (sameSector.trans (sameType.trans sameChain))
      split
      · refine known.trans (preserves_performRequest soundSector _ _ _ _ ?_ ?_)
        · exact fun short => proper (.inr (.inl short))
        · intro descriptor member
          apply apart descriptor
          rw [← members _ rfl]
          obtain rfl | data := List.mem_cons.mp member
          · exact List.mem_cons_of_mem _ (List.getLast_mem _)
          · exact List.mem_cons_of_mem _ (List.dropLast_subset _ data)
      · exact known
    · exact followed

end RvEmulator.Devices.VirtioBlock
