import RvEmulator.Devices.BlockData
import RvEmulator.Devices.BlockRun

/-! Requests to a disk in memory. What one stores, a later one reads back. -/

namespace RvEmulator.Devices.VirtioBlock

open Library Platform

section

variable {δ : Type} [DmaAccess δ] {memory : DmaMemory δ} {dma : δ}

/-- What is loaded when the table answers: a chain that ends in time, or one that goes on. -/
theorem loadChain_answered {queueNum : BitVec 16} {rings : Rings}
    (table : rings.TableAnswered memory queueNum) (sound : memory.sound dma) (count : Nat)
    (visited : List (BitVec 16)) (current : BitVec 16) :
    ∃ after, loadChain queueNum rings count visited current dma =
        (rings.chainOf queueNum (memory.contents dma) count visited current <|>
          rings.endlessChain queueNum (memory.contents dma) count visited current, after) ∧
      memory.sound after ∧ memory.contents after = memory.contents dma := by
  obtain ⟨after, followed, kept⟩ := Rings.follow_answered table sound count visited current
  refine ⟨after, ?_, kept⟩
  rw [loadChain_follow, followed, Rings.chainOf_eq, Rings.endlessChain_eq, ← Following.loaded_eq]

/-- The chain of a head, when the table answers. -/
theorem loadChain_eq {queueNum : BitVec 16} {rings : Rings}
    (table : rings.TableAnswered memory queueNum) (sound : memory.sound dma) (count : Nat)
    (visited : List (BitVec 16)) (current : BitVec 16) {chain : List Descriptor}
    (found : rings.chainOf queueNum (memory.contents dma) count visited current = some chain) :
    ∃ after, loadChain queueNum rings count visited current dma = (some chain, after) ∧
      memory.sound after ∧ memory.contents after = memory.contents dma := by
  have answered := loadChain_answered table sound count visited current
  rw [found] at answered
  exact answered

/-- A chain is a request: a header, data and a status byte. The table, the header and the
status byte are in memory that answers. -/
structure Announced (memory : DmaMemory δ) (queueNum : BitVec 16) (rings : Rings)
    (head : BitVec 16) (requestType : BitVec 32) (sector : BitVec 64) (header : Descriptor)
    (data : List Descriptor) (status : Descriptor) (dma : δ) : Prop where
  table : rings.TableAnswered memory queueNum
  chain : rings.validChain queueNum (memory.contents dma) head =
    some (header :: (data ++ [status]))
  headerLength : 16 ≤ header.length
  headerAnswered : memory.answers header.address .word ∧
    memory.answers (header.address + 8) .doubleWord
  typeAt : ((memory.contents dma).get header.address 4).setWidth 32 = requestType
  sectorAt : (memory.contents dma).get (header.address + 8) 8 = sector
  statusLength : 1 ≤ status.length
  statusWritable : status.isWrite = true
  statusAnswered : memory.answers status.address .byte

/-- A request is performed with what its header says. -/
theorem Announced.processRequest {queueNum : BitVec 16} {rings : Rings} {head : BitVec 16}
    {requestType : BitVec 32} {sector : BitVec 64} {header status : Descriptor}
    {data : List Descriptor}
    (announced : Announced memory queueNum rings head requestType sector header data status dma)
    (disk : Disk MemoryBlockStorage) {entered : δ} (sound : memory.sound entered)
    (same : memory.contents entered = memory.contents dma) :
    ∃ known, VirtioBlock.processRequest queueNum rings head (disk, entered) =
        performRequest requestType sector data status (countRequest disk requestType, known) ∧
      memory.sound known ∧ memory.contents known = memory.contents dma := by
  have found := announced.chain
  rw [← same] at found
  have inside := Rings.head_of_validChain found
  obtain ⟨loaded, chain, soundLoaded, sameLoaded⟩ := loadChain_eq announced.table sound _ _ _ found
  obtain ⟨typeOk, typeValue, soundType, sameType⟩ :=
    DmaMemory.read_answered soundLoaded announced.headerAnswered.1
  obtain ⟨sectorOk, sectorValue, soundSector, sameSector⟩ :=
    DmaMemory.read_answered soundType announced.headerAnswered.2
  have kind : (DmaAccess.dmaRead header.address .word loaded).1.value.setWidth 32 =
      requestType := by
    rw [typeValue, sameLoaded, same]
    exact announced.typeAt
  have place : (DmaAccess.dmaRead (header.address + 8) .doubleWord
      (DmaAccess.dmaRead header.address .word loaded).2).1.value = sector := by
    rw [sectorValue, sameType, sameLoaded, same]
    exact announced.sectorAt
  refine ⟨_, ?_, soundSector, sameSector.trans (sameType.trans (sameLoaded.trans same))⟩
  obtain ⟨next, others, split⟩ : ∃ next others, data ++ [status] = next :: others := by
    cases data with
    | nil => exact ⟨_, _, rfl⟩
    | cons first rest => exact ⟨_, _, rfl⟩
  have last : ∀ nonempty, (next :: others).getLast nonempty = status := by
    rw [← split]
    exact fun _ => List.getLast_concat
  have front : (next :: others).dropLast = data := by
    rw [← split]
    exact List.dropLast_concat
  have proper : ¬(header.length < 16 ∨ status.length < 1 ∨ status.isWrite = false) := by
    rintro (short | short | readOnly)
    · exact absurd announced.headerLength (BitVec.not_le.mpr short)
    · exact absurd announced.statusLength (BitVec.not_le.mpr short)
    · rw [announced.statusWritable] at readOnly
      cases readOnly
  rw [split] at chain
  unfold VirtioBlock.processRequest
  dsimp only
  rw [if_neg inside, chain]
  dsimp only
  rw [last, front, if_neg proper, typeOk, sectorOk, kind, place]
  rfl

/-- The chain that a configured device serves next. -/
def nextHead (memory : DmaMemory δ) (device : VirtioBlock MemoryBlockStorage) (dma : δ) :
    BitVec 16 :=
  device.rings.headAt (memory.contents dma)
    (device.lastAvailableIndex.toNat % device.queueNum.toNat)

/-- A well-formed request is next: a header, data and a status byte, in memory that
answers, with the data within the disk. The buffers overlap neither each other nor the
status byte nor the used ring. -/
structure Request (memory : DmaMemory δ) (device : VirtioBlock MemoryBlockStorage) (dma : δ)
    (requestType : BitVec 32) (sector : BitVec 64) (header : Descriptor) (data : List Descriptor)
    (status : Descriptor) : Prop where
  configured : device.queueConfigured = true
  placed : device.rings = device.updateQueueAddresses.rings
  sound : memory.sound dma
  answered : device.rings.Answered memory device.queueNum
  table : device.rings.TableAnswered memory device.queueNum
  chain : device.rings.validChain device.queueNum (memory.contents dma)
    (nextHead memory device dma) = some (header :: (data ++ [status]))
  headerLength : 16 ≤ header.length
  headerAnswered : memory.answers header.address .word ∧
    memory.answers (header.address + 8) .doubleWord
  typeAt : ((memory.contents dma).get header.address 4).setWidth 32 = requestType
  sectorAt : (memory.contents dma).get (header.address + 8) 8 = sector
  statusLength : 1 ≤ status.length
  statusWritable : status.isWrite = true
  statusAnswered : memory.answers status.address .byte
  direction : ∀ descriptor ∈ data, descriptor.isWrite = decide (requestType = requestRead)
  dataAnswered : ∀ address ∈ addresses data, memory.answers address .byte
  distinct : (addresses data).Nodup
  statusApart : status.address ∉ addresses data
  ringApart : ∀ address ∈ status.address :: addresses data,
    ¬device.rings.InUsed device.queueNum address
  addressable : device.disk.storage.bytes.length < 2 ^ 64
  within : sector.toNat * 512 + capacity data ≤ device.disk.storage.bytes.length

/-- How a request ends: its status byte is OK, and the used ring shows its head and a
length. -/
structure Completed (memory : DmaMemory δ) (device : VirtioBlock MemoryBlockStorage) (dma : δ)
    (status : Descriptor) (written : BitVec 32) (after : δ) : Prop where
  status : memory.contents after status.address = statusOk
  element : device.rings.elementAt (memory.contents after)
      (device.usedIndex.toNat % device.queueNum.toNat) =
    ((nextHead memory device dma).setWidth 32, written)
  usedIndex : device.rings.usedIndexAt (memory.contents after) = device.usedIndex + 1

variable {device : VirtioBlock MemoryBlockStorage} {requestType : BitVec 32} {sector : BitVec 64}
  {header status : Descriptor} {data : List Descriptor}

theorem Request.follows
    (request : Request memory device dma requestType sector header data status) :
    ∃ gap, device.rings.Follows device.queueNum.toNat gap := by
  obtain ⟨some, small, aligned, _⟩ := size_of_configured request.configured
  have placed : device.rings = .place device.queuePfn device.guestPageSize device.queueNum
      device.queueAlign := by
    rw [request.placed]
    exact if_pos request.configured
  rw [placed]
  exact Rings.follows_place _ _ _ some small aligned

/-- Where the data of a request is on the disk. -/
theorem Request.offset
    (request : Request memory device dma requestType sector header data status) :
    ¬BitVec.allOnes 64 / sectorSize < sector ∧
      (sector * sectorSize).toNat = sector.toNat * 512 := by
  have within := request.within
  have addressable := request.addressable
  have sectors : (BitVec.allOnes 64 / sectorSize).toNat = 36028797018963967 := by decide
  refine ⟨?_, ?_⟩
  · rw [BitVec.lt_def, sectors]
    omega
  · rw [BitVec.toNat_mul, show sectorSize.toNat = 512 from rfl, Nat.mod_eq_of_lt (by omega)]

theorem Request.announced
    (request : Request memory device dma requestType sector header data status) :
    Announced memory device.queueNum device.rings (nextHead memory device dma) requestType sector
      header data status dma where
  table := request.table
  chain := request.chain
  headerLength := request.headerLength
  headerAnswered := request.headerAnswered
  typeAt := request.typeAt
  sectorAt := request.sectorAt
  statusLength := request.statusLength
  statusWritable := request.statusWritable
  statusAnswered := request.statusAnswered

/-- A write request, and the memory before its completion. -/
theorem Request.performWrite
    (request : Request memory device dma requestWrite sector header data status)
    {disk : Disk MemoryBlockStorage} (storage : disk.storage = device.disk.storage) {known : δ}
    (sound : memory.sound known) (same : memory.contents known = memory.contents dma) :
    ∃ final after, performRequest requestWrite sector data status (disk, known) =
        ((true, 1), final, after) ∧
      final.storage = ⟨overlay device.disk.storage.bytes (sector.toNat * 512)
        ((addresses data).map (memory.contents dma))⟩ ∧
      memory.sound after ∧
      memory.contents after = Function.update (memory.contents dma) status.address statusOk := by
  obtain ⟨representable, place⟩ := request.offset
  obtain ⟨stored, middle, moved, bytes, soundMiddle, sameMiddle⟩ := transferAll_write disk
    (storage ▸ request.addressable) (sector * sectorSize) data
    (by rw [place, storage]; exact request.within) sound request.dataAnswered 0 request.direction
  have written : (DmaAccess.dmaWrite status.address .byte (statusOk.setWidth 64) middle).1 = .none :=
    memory.writable soundMiddle request.statusAnswered
  refine ⟨countCompletion stored statusOk true,
    (DmaAccess.dmaWrite status.address .byte (statusOk.setWidth 64) middle).2, ?_, ?_,
    memory.sound_write soundMiddle, ?_⟩
  · unfold performRequest
    dsimp only
    rw [if_neg (by decide), if_neg representable, moved]
    dsimp only
    rw [written]
    rfl
  · rw [place, same, storage] at bytes
    exact congrArg MemoryBlockStorage.mk bytes
  · rw [memory.written soundMiddle written, sameMiddle, same]
    exact Memory.put_one _ _ _

/-- A read request, and the memory before its completion. -/
theorem Request.performRead
    (request : Request memory device dma requestRead sector header data status)
    {disk : Disk MemoryBlockStorage} (storage : disk.storage = device.disk.storage) {known : δ}
    (sound : memory.sound known) (same : memory.contents known = memory.contents dma) :
    ∃ final after, performRequest requestRead sector data status (disk, known) =
        ((true, BitVec.ofNat 32 (capacity data + 1)), final, after) ∧
      final.storage = device.disk.storage ∧
      memory.sound after ∧
      memory.contents after = Function.update ((memory.contents dma).pour (addresses data)
        (slice device.disk.storage.bytes (sector.toNat * 512) (capacity data)))
        status.address statusOk := by
  obtain ⟨representable, place⟩ := request.offset
  obtain ⟨passed, middle, moved, bytes, soundMiddle, poured⟩ := transferAll_read disk
    (storage ▸ request.addressable) (sector * sectorSize) data
    (by rw [place, storage]; exact request.within) sound request.dataAnswered 0 request.direction
  have written : (DmaAccess.dmaWrite status.address .byte (statusOk.setWidth 64) middle).1 = .none :=
    memory.writable soundMiddle request.statusAnswered
  refine ⟨countCompletion passed statusOk true,
    (DmaAccess.dmaWrite status.address .byte (statusOk.setWidth 64) middle).2, ?_,
    bytes.trans storage, memory.sound_write soundMiddle, ?_⟩
  · unfold performRequest
    dsimp only
    rw [if_neg (by decide), if_neg representable, moved]
    dsimp only
    rw [written, show (0 : BitVec 32) + BitVec.ofNat 32 (capacity data) =
      BitVec.ofNat 32 (capacity data) from BitVec.zero_add _, BitVec.ofNat_add]
    rfl
  · rw [memory.written soundMiddle written, poured, same, place, storage]
    exact Memory.put_one _ _ _

/-- A round of the queue serves the request. -/
theorem Request.processHead
    (request : Request memory device dma requestType sector header data status)
    {written : BitVec 32} {storage : MemoryBlockStorage} {requested : Memory}
    (performed : ∀ disk known, disk.storage = device.disk.storage → memory.sound known →
      memory.contents known = memory.contents dma →
      ∃ final after, performRequest requestType sector data status (disk, known) =
          ((true, written), final, after) ∧
        final.storage = storage ∧ memory.sound after ∧ memory.contents after = requested) :
    ∃ served after, VirtioBlock.processHead device dma =
        (some { head := nextHead memory device dma, written }, served, after) ∧
      served.disk.storage = storage ∧
      memory.contents after = device.rings.completed device.queueNum device.usedIndex
        (nextHead memory device dma) written requested := by
  obtain ⟨ok, value, sound, same⟩ := DmaMemory.read_answered request.sound
    (request.answered.head device.lastAvailableIndex)
  have head : (DmaAccess.dmaRead (device.rings.ringEntry device.queueNum
      device.lastAvailableIndex) .halfWord dma).1.value.setWidth 16 =
      nextHead memory device dma := by
    rw [value, Rings.ringEntry_eq]
    rfl
  obtain ⟨known, processed, soundKnown, sameKnown⟩ :=
    request.announced.processRequest (countChain device.disk) sound same
  have kept : (countRequest (countChain device.disk) requestType).storage =
      device.disk.storage := by
    unfold countRequest
    split
    · rfl
    · split <;> rfl
  obtain ⟨final, middle, ended, stored, soundMiddle, contents⟩ :=
    performed _ known kept soundKnown sameKnown
  obtain ⟨id, length, index, _, whole⟩ := request.answered.complete soundMiddle device.usedIndex
    (nextHead memory device dma) written
  unfold VirtioBlock.processHead
  dsimp only
  rw [ok, head, processed, ended]
  dsimp only
  rw [id, length, index]
  refine ⟨_, _, rfl, stored, ?_⟩
  rw [whole, contents]

/-- The used ring and the status byte after a completed request. -/
theorem Request.completed
    (request : Request memory device dma requestType sector header data status)
    {written : BitVec 32} {requested : Memory} {after : δ}
    (contents : memory.contents after = device.rings.completed device.queueNum device.usedIndex
      (nextHead memory device dma) written (Function.update requested status.address statusOk)) :
    Completed memory device dma status written after ∧
      ∀ address, address ≠ status.address → ¬device.rings.InUsed device.queueNum address →
        memory.contents after address = requested address := by
  obtain ⟨gap, follows⟩ := request.follows
  refine ⟨⟨?_, ?_, ?_⟩, fun address other outside => ?_⟩
  · rw [contents, follows.completed_outside _ _ _ _
      (request.ringApart status.address List.mem_cons_self), Function.update_self]
  · rw [contents]
    exact Rings.elementAt_completed _ follows.positive _ _ _ _
  · rw [contents]
    exact Rings.usedIndexAt_completed _ _ _ _ _ _
  · rw [contents, follows.completed_outside _ _ _ _ outside, Function.update_of_ne other]

/-- A read request puts the bytes of the disk into its buffers. -/
theorem Request.read
    (request : Request memory device dma requestRead sector header data status) :
    ∃ served after, VirtioBlock.processHead device dma =
        (some { head := nextHead memory device dma
                written := BitVec.ofNat 32 (capacity data + 1) }, served, after) ∧
      Completed memory device dma status (BitVec.ofNat 32 (capacity data + 1)) after ∧
      served.disk.storage = device.disk.storage ∧
      (addresses data).map (memory.contents after) =
        slice device.disk.storage.bytes (sector.toNat * 512) (capacity data) ∧
      ∀ address, address ∉ addresses data → address ≠ status.address →
        ¬device.rings.InUsed device.queueNum address →
        memory.contents after address = memory.contents dma address := by
  obtain ⟨served, after, round, stored, contents⟩ := request.processHead
    fun disk known storage sound same => request.performRead storage sound same
  obtain ⟨completed, outside⟩ := request.completed contents
  have full : (slice device.disk.storage.bytes (sector.toNat * 512) (capacity data)).length =
      (addresses data).length := by
    rw [length_addresses, length_slice request.within]
  refine ⟨served, after, round, completed, stored, ?_, ?_⟩
  · refine Eq.trans (List.map_congr_left fun address member => ?_)
      (Memory.map_pour (memory.contents dma) request.distinct full)
    apply outside
    · rintro rfl
      exact request.statusApart member
    · exact request.ringApart address (List.mem_cons_of_mem _ member)
  · intro address other notStatus notUsed
    rw [outside address notStatus notUsed]
    exact Memory.pour_of_not_mem fun member => other (List.mem_of_mem_take member)

/-- Data integrity. A write request stores the bytes of its buffers at its sector and
changes no other byte of the disk, and of the guest only the status byte and the used
ring. A read request of the same range, however its buffers are cut, gets these bytes as
long as they are on the disk, and leaves the disk as it is. -/
theorem request_integrity
    (request : Request memory device dma requestWrite sector header data status) :
    ∃ served after, VirtioBlock.processHead device dma =
        (some { head := nextHead memory device dma, written := 1 }, served, after) ∧
      Completed memory device dma status 1 after ∧
      slice served.disk.storage.bytes (sector.toNat * 512) (capacity data) =
        (addresses data).map (memory.contents dma) ∧
      served.disk.storage.bytes.length = device.disk.storage.bytes.length ∧
      (∀ index, index < sector.toNat * 512 ∨ sector.toNat * 512 + capacity data ≤ index →
        served.disk.storage.bytes[index]? = device.disk.storage.bytes[index]?) ∧
      (∀ address, address ≠ status.address → ¬device.rings.InUsed device.queueNum address →
        memory.contents after address = memory.contents dma address) ∧
      ∀ later laterDma otherHeader others otherStatus,
        Request memory later laterDma requestRead sector otherHeader others otherStatus →
        capacity others = capacity data →
        slice later.disk.storage.bytes (sector.toNat * 512) (capacity data) =
          slice served.disk.storage.bytes (sector.toNat * 512) (capacity data) →
        ∃ again final, VirtioBlock.processHead later laterDma =
            (some { head := nextHead memory later laterDma
                    written := BitVec.ofNat 32 (capacity data + 1) }, again, final) ∧
          Completed memory later laterDma otherStatus (BitVec.ofNat 32 (capacity data + 1)) final ∧
          again.disk.storage = later.disk.storage ∧
          (addresses others).map (memory.contents final) =
            (addresses data).map (memory.contents dma) ∧
          ∀ address, address ∉ addresses others → address ≠ otherStatus.address →
            ¬later.rings.InUsed later.queueNum address →
            memory.contents final address = memory.contents laterDma address := by
  obtain ⟨served, after, round, stored, contents⟩ := request.processHead
    fun disk known storage sound same => request.performWrite storage sound same
  obtain ⟨completed, outside⟩ := request.completed contents
  have full : ((addresses data).map (memory.contents dma)).length = capacity data := by
    rw [List.length_map, length_addresses]
  have within : sector.toNat * 512 + ((addresses data).map (memory.contents dma)).length ≤
      device.disk.storage.bytes.length := by
    rw [full]
    exact request.within
  have bytes : slice served.disk.storage.bytes (sector.toNat * 512) (capacity data) =
      (addresses data).map (memory.contents dma) := by
    rw [stored, ← full]
    exact slice_overlay (Nat.le_of_add_right_le within) _
  refine ⟨served, after, round, completed, bytes, ?_, ?_, outside, ?_⟩
  · rw [stored]
    exact length_overlay within
  · intro index apart
    rw [stored]
    exact getElem?_overlay within (by rw [full]; exact apart)
  · intro later laterDma otherHeader others otherStatus reading same kept
    obtain ⟨again, final, round, completed, disk, read, frame⟩ := reading.read
    rw [same] at round completed read
    exact ⟨again, final, round, completed, disk, read.trans (kept.trans bytes), frame⟩

end

namespace Sample

/-- The driver has published a request to write five bytes to the first sector, from two
buffers. -/
def writing : SystemBus Ram :=
  .ofProgram 0x80000000 0x1000
    ([0x80000080, 0, 16, 0x00010001, 0x80000090, 0, 3, 0x00020001, 0x80000098, 0, 2, 0x00030001,
      0x800000A0, 0, 1, 2, 0x00010000] ++ List.replicate 15 0 ++
      [1, 0, 0, 0, 0x00030201, 0, 0x0504])

/-- It has published a second one, to read them back into buffers of other lengths. -/
def reading : SystemBus Ram :=
  .ofProgram 0x80000000 0x1000
    [0x80000080, 0, 16, 0x00010001, 0x80000090, 0, 1, 0x00020003, 0x80000094, 0, 4, 0x00030003,
      0x800000A0, 0, 1, 2, 0x00020000]

/-- The device after the first request. -/
def served : VirtioBlock MemoryBlockStorage := (processHead device writing).2.1

theorem tableAnswered : device.rings.TableAnswered memory device.queueNum := by
  have size : device.queueNum = 4 := by decide
  have placed : device.rings.descriptorTable = 0x80000000 := by decide
  intro index inside address place
  rw [size] at inside
  rw [placed] at place
  have entries : index = 0 ∨ index = 1 ∨ index = 2 ∨ index = 3 := by bv_omega
  obtain rfl | rfl | rfl | rfl := entries <;> subst place <;>
    exact ⟨answers (by decide), answers (by decide), answers (by decide), answers (by decide)⟩

/-- Every byte of the buffers is in memory and behind the queue. -/
theorem behind {bytes : List PhysAddr}
    (inside : (bytes.all fun address => 0x80000090 ≤ address ∧ address < 0x800000A0) = true) :
    ∀ address ∈ bytes, memory.answers address .byte ∧
      ¬device.rings.InUsed device.queueNum address := by
  intro address member
  have bounds := of_decide_eq_true (List.all_eq_true.mp inside address member)
  have placed : device.rings = ⟨0x80000000, 0x80000040, 0x80000050⟩ := by decide
  have size : device.queueNum = 4 := by decide
  refine ⟨answers ?_, ?_⟩
  · simp only [AccessWidth.bytes]
    bv_omega
  · rw [placed, size]
    unfold Rings.InUsed Memory.Region
    simp
    bv_omega

/-- The four descriptors of the two requests. -/
def header : Descriptor := ⟨0x80000080, 16, 1, 1⟩

def status : Descriptor := ⟨0x800000A0, 1, 2, 0⟩

def sources : List Descriptor := [⟨0x80000090, 3, 1, 2⟩, ⟨0x80000098, 2, 1, 3⟩]

def targets : List Descriptor := [⟨0x80000090, 1, 3, 2⟩, ⟨0x80000094, 4, 3, 3⟩]

/-- A request to a device with this queue. What is left to check is what it says. -/
theorem request {next : VirtioBlock MemoryBlockStorage} {dma : SystemBus Ram}
    {requestType : BitVec 32} {data : List Descriptor}
    (rings : next.rings = device.rings) (number : next.queueNum = device.queueNum)
    (configured : next.queueConfigured = true ∧ next.rings = next.updateQueueAddresses.rings)
    (sound : memory.sound dma)
    (chain : next.rings.validChain next.queueNum (memory.contents dma)
      (nextHead memory next dma) = some (header :: (data ++ [status])))
    (typeAt : ((memory.contents dma).get header.address 4).setWidth 32 = requestType)
    (sectorAt : (memory.contents dma).get (header.address + 8) 8 = 0)
    (direction : (data.all fun descriptor =>
      descriptor.isWrite == decide (requestType = requestRead)) = true)
    (inside : ((addresses data).all fun address =>
      0x80000090 ≤ address ∧ address < 0x800000A0) = true)
    (distinct : (addresses data).Nodup)
    (within : next.disk.storage.bytes.length = 512 ∧ capacity data ≤ 512) :
    Request memory next dma requestType 0 header data status where
  configured := configured.1
  placed := configured.2
  sound := sound
  answered := by rw [rings, number]; exact answered
  table := by rw [rings, number]; exact tableAnswered
  chain := chain
  headerLength := by decide
  headerAnswered := ⟨answers (by decide), answers (by decide)⟩
  typeAt := typeAt
  sectorAt := sectorAt
  statusLength := by decide
  statusWritable := by decide
  statusAnswered := answers (by decide)
  direction := fun descriptor member => beq_iff_eq.mp (List.all_eq_true.mp direction _ member)
  dataAnswered := fun address member => (behind inside address member).1
  distinct := distinct
  statusApart := fun member =>
    absurd (of_decide_eq_true (List.all_eq_true.mp inside _ member)) (by decide)
  ringApart := by
    rw [rings, number]
    intro address member
    cases member with
    | head => unfold Rings.InUsed Memory.Region; decide
    | tail _ member => exact (behind inside address member).2
  addressable := by rw [within.1]; decide
  within := by rw [within.1]; simpa using within.2

theorem writes : Request memory device writing requestWrite 0 header sources status :=
  request rfl rfl ⟨by decide, by decide⟩ ⟨rfl, SystemBus.sized_ofProgram _ _ _⟩
    (by decide) (by decide) (by decide) (by decide) (by decide) (by decide)
    (by decide +kernel)

theorem reads : Request memory served reading requestRead 0 header targets status :=
  request (by decide +kernel) (by decide +kernel) (by decide +kernel)
    ⟨rfl, SystemBus.sized_ofProgram _ _ _⟩
    (by decide +kernel) (by decide) (by decide) (by decide) (by decide) (by decide)
    (by decide +kernel)

end Sample

theorem request_integrity_sample :
    ∃ served after again final,
      VirtioBlock.processHead Sample.device Sample.writing =
        (some { head := 0, written := 1 }, served, after) ∧
      slice served.disk.storage.bytes 0 5 = [1, 2, 3, 4, 5] ∧
      VirtioBlock.processHead served Sample.reading =
        (some { head := 0, written := 6 }, again, final) ∧
      [0x80000090, 0x80000094, 0x80000095, 0x80000096, 0x80000097].map
        (Sample.memory.contents final) = [1, 2, 3, 4, 5] := by
  obtain ⟨served, after, round, _, stored, _, _, _, back⟩ := request_integrity Sample.writes
  have same : served = Sample.served := by
    unfold Sample.served
    rw [round]
  obtain ⟨again, final, reread, _, _, bytes, _⟩ :=
    back Sample.served Sample.reading _ _ _ Sample.reads (by decide) (by rw [same])
  have head : nextHead Sample.memory Sample.device Sample.writing = 0 := by decide
  have next : nextHead Sample.memory Sample.served Sample.reading = 0 := by decide +kernel
  have written : (addresses Sample.sources).map
      (Sample.memory.contents Sample.writing) = [1, 2, 3, 4, 5] := by decide
  rw [head] at round
  rw [next] at reread
  rw [← same] at reread
  exact ⟨_, after, again, final, round, stored.trans written, reread, bytes.trans written⟩

end RvEmulator.Devices.VirtioBlock
