import RvEmulator.Devices.BlockIntegrity

/-! Writes that leave the disk, or have a buffer for the device to write. They fail at the
first such buffer, and what the buffers before it hold is on the disk by then. -/

namespace RvEmulator.Devices.VirtioBlock

open Library Platform

/-- What is wrong with a write: some byte of its range is not on the disk, or a buffer is
for the device to write. -/
def Misdirected (size : Nat) (sector : BitVec 64) (data : List Descriptor) : Prop :=
  (0 < capacity data ∧ size < sector.toNat * 512 + capacity data) ∨
    ∃ descriptor ∈ data, descriptor.isWrite = true

theorem fits_of_accepted {size : Nat} {data : List Descriptor} {offset : Nat}
    (all : accepted size offset data = data) :
    (∀ descriptor ∈ data, descriptor.isWrite = false) ∧
      (0 < capacity data → offset + capacity data ≤ size) := by
  induction data generalizing offset with
  | nil => exact ⟨fun _ member => absurd member List.not_mem_nil, fun some => absurd some (by decide)⟩
  | cons descriptor rest ih =>
    unfold accepted at all
    split at all
    · rename_i good
      obtain ⟨readable, inside⟩ := ih (List.cons.inj all).2
      rw [capacity_cons]
      refine ⟨?_, fun _ => ?_⟩
      · intro other member
        obtain rfl | later := List.mem_cons.mp member
        · exact good.1
        · exact readable other later
      · by_cases more : 0 < capacity rest
        · have whole := inside more
          omega
        · have room := good.2
          omega
    · cases all

theorem Misdirected.not_accepted {size : Nat} {sector : BitVec 64} {data : List Descriptor}
    (misdirected : Misdirected size sector data) :
    accepted size (sector.toNat * 512) data ≠ data := by
  intro all
  obtain ⟨readable, inside⟩ := fits_of_accepted all
  obtain ⟨some, beyond⟩ | ⟨descriptor, member, writable⟩ := misdirected
  · have whole := inside some
    omega
  · rw [readable descriptor member] at writable
    cases writable

/-- No buffer is accepted beyond the end. -/
theorem accepted_beyond {size offset : Nat} (data : List Descriptor) (beyond : size < offset) :
    accepted size offset data = [] := by
  cases data with
  | nil => rfl
  | cons descriptor rest => exact if_neg fun good => by omega

theorem accepted_inside (size : Nat) (data : List Descriptor) (offset : Nat) :
    accepted size offset data = [] ∨ offset + capacity (accepted size offset data) ≤ size := by
  induction data generalizing offset with
  | nil => exact .inl rfl
  | cons descriptor rest ih =>
    unfold accepted
    split
    · rename_i good
      rw [capacity_cons]
      obtain none | inside := ih (offset + descriptor.length.toNat)
      · rw [none]
        exact .inr good.2
      · exact .inr (by omega)
    · exact .inl rfl

theorem accepted_initial {size : Nat} (data : List Descriptor) (offset : Nat) :
    accepted size offset data <+: data := by
  induction data generalizing offset with
  | nil => exact List.prefix_refl _
  | cons descriptor rest ih =>
    unfold accepted
    split
    · exact List.cons_prefix_cons.mpr ⟨rfl, ih _⟩
    · exact List.nil_prefix

section

variable {δ : Type} [DmaAccess δ] {memory : DmaMemory δ} {dma : δ} {queueNum : BitVec 16}
  {rings : Rings} {head : BitVec 16} {sector : BitVec 64} {header status : Descriptor}
  {data : List Descriptor}

/-- The data of a write that fails. -/
theorem performRequest_misdirected (disk : Disk MemoryBlockStorage)
    (small : disk.storage.bytes.length < 2 ^ 64)
    (misdirected : Misdirected disk.storage.bytes.length sector data) {known : δ}
    (sound : memory.sound known) (statusAnswered : memory.answers status.address .byte)
    (answers : ∀ address ∈
        addresses (accepted disk.storage.bytes.length (sector.toNat * 512) data),
      memory.answers address .byte) :
    ∃ final after, performRequest requestWrite sector data status (disk, known) =
        ((true, 1), final, after) ∧
      memory.contents after =
        Function.update (memory.contents known) status.address statusIoError ∧
      final.storage.bytes = overlay disk.storage.bytes (sector.toNat * 512)
        ((addresses (accepted disk.storage.bytes.length (sector.toNat * 512) data)).map
          (memory.contents known)) ∧
      final.dirty = (disk.dirty || decide
        (0 < capacity (accepted disk.storage.bytes.length (sector.toNat * 512) data))) := by
  have limit : (BitVec.allOnes 64 / sectorSize).toNat = 36028797018963967 := by decide
  unfold performRequest
  dsimp only
  rw [if_neg (by decide)]
  by_cases unaddressable : BitVec.allOnes 64 / sectorSize < sector
  · have beyond : disk.storage.bytes.length < sector.toNat * 512 := by
      rw [BitVec.lt_def, limit] at unaddressable
      omega
    rw [if_pos unaddressable, accepted_beyond data beyond]
    have written : (DmaAccess.dmaWrite status.address .byte (statusIoError.setWidth 64) known).1 =
        .none := memory.writable sound statusAnswered
    refine ⟨countCompletion disk statusIoError true,
      (DmaAccess.dmaWrite status.address .byte (statusIoError.setWidth 64) known).2, ?_, ?_,
      (overlay_nil _ _).symm, (Bool.or_false _).symm⟩
    · dsimp only
      rw [written]
      rfl
    exact (memory.written sound written).trans (Memory.put_one _ _ _)
  · have place : (sector * sectorSize).toNat = sector.toNat * 512 := by
      rw [BitVec.lt_def, limit] at unaddressable
      rw [BitVec.toNat_mul, show sectorSize.toNat = 512 from rfl, Nat.mod_eq_of_lt (by omega)]
    rw [if_neg unaddressable]
    obtain ⟨stored, middle, moved, bytes, dirty, soundMiddle, sameMiddle⟩ :=
      transferAll_accepted disk small (sector * sectorSize) data sound 0 (by rw [place]; exact answers)
    rw [place] at moved bytes dirty
    rw [if_neg misdirected.not_accepted] at moved
    have written : (DmaAccess.dmaWrite status.address .byte (statusIoError.setWidth 64) middle).1 =
        .none := memory.writable soundMiddle statusAnswered
    refine ⟨countCompletion stored statusIoError true,
      (DmaAccess.dmaWrite status.address .byte (statusIoError.setWidth 64) middle).2, ?_, ?_, bytes,
      dirty⟩
    · rw [moved]
      dsimp only
      rw [written]
      rfl
    rw [memory.written soundMiddle written, sameMiddle]
    exact Memory.put_one _ _ _

/-- A misdirected write completes with IOERR. Of the disk, only what the buffers before the
first bad one stand for has changed, and these are stored; the disk is dirty afterwards if
it was before, or if these buffers hold any bytes. So nothing changes if the first buffer
is bad. -/
theorem misdirected_write
    (announced : Announced memory queueNum rings head requestWrite sector header data status dma)
    (sound : memory.sound dma) (disk : Disk MemoryBlockStorage)
    (small : disk.storage.bytes.length < 2 ^ 64)
    (misdirected : Misdirected disk.storage.bytes.length sector data)
    (answers : ∀ address ∈ addresses data, memory.answers address .byte) :
    let good := accepted disk.storage.bytes.length (sector.toNat * 512) data
    ∃ final after, processRequest queueNum rings head (disk, dma) = ((true, 1), final, after) ∧
      memory.contents after =
        Function.update (memory.contents dma) status.address statusIoError ∧
      final.storage.bytes = overlay disk.storage.bytes (sector.toNat * 512)
        ((addresses good).map (memory.contents dma)) ∧
      (∀ index, index < sector.toNat * 512 ∨ sector.toNat * 512 + capacity good ≤ index →
        final.storage.bytes[index]? = disk.storage.bytes[index]?) ∧
      final.dirty = (disk.dirty || decide (0 < capacity good)) := by
  intro good
  obtain ⟨known, processed, soundKnown, sameKnown⟩ := announced.processRequest disk sound rfl
  have answersGood : ∀ address ∈ addresses good, memory.answers address .byte := by
    intro address member
    obtain ⟨descriptor, found, inside⟩ := List.mem_flatMap.mp member
    exact answers address
      (List.mem_flatMap.mpr ⟨descriptor, (accepted_initial data _).subset found, inside⟩)
  obtain ⟨final, after, performed, contents, bytes, dirty⟩ := performRequest_misdirected
    (countRequest disk requestWrite) small misdirected soundKnown announced.statusAnswered
    answersGood
  rw [sameKnown] at contents bytes
  have stored : final.storage.bytes = overlay disk.storage.bytes (sector.toNat * 512)
      ((addresses good).map (memory.contents dma)) := bytes
  refine ⟨final, after, processed.trans performed, contents, stored, ?_, dirty⟩
  intro index apart
  rw [stored]
  obtain none | inside := accepted_inside disk.storage.bytes.length data
    (sector.toNat * 512)
  · have empty : good = [] := none
    rw [empty]
    exact congrArg (·[index]?) (overlay_nil _ _)
  · have full : ((addresses good).map (memory.contents dma)).length = capacity good := by
      rw [List.length_map, length_addresses]
    exact getElem?_overlay (by rw [full]; exact inside) (by rw [full]; exact apart)

end

namespace Sample

/-- A request to write to the first sector: four bytes, and four more from a buffer that is
for the device to write. -/
def misdirected : SystemBus Ram :=
  .ofProgram 0x80000000 0x1000
    ([0x80000080, 0, 16, 0x00010001, 0x80000090, 0, 4, 0x00020001, 0x80000098, 0, 4, 0x00030003,
      0x80000094, 0, 1, 2, 0x00010000] ++ List.replicate 15 0 ++ [1, 0, 0, 0, 0x04030201])

def buffers : List Descriptor := [⟨0x80000090, 4, 1, 2⟩, ⟨0x80000098, 4, 3, 3⟩]

theorem announced : Announced memory device.queueNum device.rings 0 requestWrite 0
    ⟨0x80000080, 16, 1, 1⟩ buffers ⟨0x80000094, 1, 2, 0⟩ misdirected where
  table := tableAnswered
  chain := by decide
  headerLength := by decide
  headerAnswered := ⟨answers (by decide), answers (by decide)⟩
  typeAt := by decide
  sectorAt := by decide
  statusLength := by decide
  statusWritable := by decide
  statusAnswered := answers (by decide)

theorem buffersAnswered : ∀ address ∈ addresses buffers, memory.answers address .byte := by
  intro address member
  have inside : address ∈ [(0x80000090 : PhysAddr), 0x80000091, 0x80000092, 0x80000093,
    0x80000098, 0x80000099, 0x8000009A, 0x8000009B] := member
  simp only [List.mem_cons, List.not_mem_nil, or_false] at inside
  obtain rfl | rfl | rfl | rfl | rfl | rfl | rfl | rfl := inside <;> exact answers (by decide)

end Sample

theorem misdirected_write_sample :
    ∃ final after, processRequest Sample.device.queueNum Sample.device.rings 0
        (Sample.device.disk, Sample.misdirected) = ((true, 1), final, after) ∧
      Sample.memory.contents after 0x80000094 = statusIoError ∧ final.dirty = true := by
  obtain ⟨final, after, processed, contents, _, _, dirty⟩ := misdirected_write Sample.announced
    ⟨rfl, SystemBus.sized_ofProgram _ _ _⟩ Sample.device.disk (by decide +kernel)
    (.inr ⟨⟨0x80000098, 4, 3, 3⟩, by decide, by decide⟩) Sample.buffersAnswered
  exact ⟨final, after, processed, by rw [contents, Function.update_self],
    dirty.trans (by decide +kernel)⟩

/-- The first four bytes are on the disk although the request fails. -/
theorem misdirected_write_stores :
    Announced Sample.memory Sample.device.queueNum Sample.device.rings 0 requestWrite 0
        ⟨0x80000080, 16, 1, 1⟩ Sample.buffers ⟨0x80000094, 1, 2, 0⟩ Sample.misdirected ∧
      Misdirected Sample.device.disk.storage.bytes.length 0 Sample.buffers ∧
      let ended := processRequest Sample.device.queueNum Sample.device.rings 0
        (Sample.device.disk, Sample.misdirected)
      ended.1 = (true, 1) ∧ Sample.memory.contents ended.2.2 0x80000094 = statusIoError ∧
        Sample.device.disk.storage.bytes.take 4 = [7, 7, 7, 7] ∧
        ended.2.1.storage.bytes.take 4 = [1, 2, 3, 4] ∧
        Sample.device.disk.dirty = false ∧ ended.2.1.dirty = true := by
  refine ⟨Sample.announced, .inr ⟨⟨0x80000098, 4, 3, 3⟩, by decide, by decide⟩, ?_⟩
  decide +kernel

end RvEmulator.Devices.VirtioBlock
