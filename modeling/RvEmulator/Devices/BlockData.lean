import RvEmulator.Devices.BlockRequest
import RvEmulator.Library.Overlay

/-! The data of block requests, when nothing is refused. However the buffers are cut,
and whatever the chunks of a transfer, a write stores their bytes in order and a read
puts the stored bytes back. -/

namespace RvEmulator.Devices

open Library Platform

namespace MemoryBlockStorage

variable {storage : MemoryBlockStorage} {offset : BitVec 64}

theorem inBounds_of_le {size length : Nat} (inside : offset.toNat + length ≤ size)
    (small : size < 2 ^ 64) : inBounds (BitVec.ofNat 64 size) offset length = true := by
  have whole : (BitVec.ofNat 64 size).toNat = size := by
    rw [BitVec.toNat_ofNat, Nat.mod_eq_of_lt small]
  have before : offset ≤ BitVec.ofNat 64 size := by
    rw [BitVec.le_def, whole]
    omega
  rw [inBounds, decide_eq_true_eq, BitVec.toNat_sub_of_le before, whole]
  exact ⟨before, by omega⟩

theorem write_eq {source : List (BitVec 8)}
    (inside : offset.toNat + source.length ≤ storage.bytes.length)
    (small : storage.bytes.length < 2 ^ 64) :
    BlockStorage.write offset source storage =
      (true, { bytes := overlay storage.bytes offset.toNat source }) :=
  if_pos (inBounds_of_le inside small)

theorem read_eq {count : Nat} (inside : offset.toNat + count ≤ storage.bytes.length)
    (small : storage.bytes.length < 2 ^ 64) :
    ∃ bytes, BlockStorage.read offset count storage = (some bytes, storage) ∧
      bytes.toList = slice storage.bytes offset.toNat count := by
  refine ⟨_, if_pos (inBounds_of_le inside small), ?_⟩
  apply List.ext_getElem
  · rw [Vector.length_toList, length_slice inside]
  · intro index here there
    rw [Vector.length_toList] at here
    simp only [Vector.getElem_toList, Vector.getElem_ofFn, slice, List.getElem_take,
      List.getElem_drop]
    rw [List.getD_eq_getElem?_getD, List.getElem?_eq_getElem (by omega), Option.getD_some]

end MemoryBlockStorage

namespace VirtioBlock

variable {δ : Type} [DmaAccess δ] {memory : DmaMemory δ} {dma : δ}

/-! ### Bytes -/

theorem scatter_eq (sound : memory.sound dma) (address : PhysAddr) (bytes : List (BitVec 8))
    (answers : ∀ other ∈ Memory.span address bytes.length, memory.answers other .byte) :
    ∃ after, scatter address bytes dma = ((true, bytes.length), after) ∧ memory.sound after ∧
      memory.contents after =
        (memory.contents dma).pour (Memory.span address bytes.length) bytes := by
  induction bytes generalizing address dma with
  | nil => exact ⟨dma, rfl, sound, rfl⟩
  | cons byte rest ih =>
    have stored : (DmaAccess.dmaWrite address .byte (byte.setWidth 64) dma).1 = .none :=
      memory.writable sound (answers address List.mem_cons_self)
    obtain ⟨after, others, soundAfter, contents⟩ := ih
      (memory.sound_write sound : memory.sound
        (DmaAccess.dmaWrite address .byte (byte.setWidth 64) dma).2)
      (address + 1) (fun other member => answers other (List.mem_cons_of_mem _ member))
    refine ⟨after, ?_, soundAfter, ?_⟩
    · unfold scatter
      dsimp only
      rw [stored, others]
      rfl
    · rw [contents, memory.written sound stored]
      exact congrArg (Memory.pour · _ _) (Memory.put_one _ _ _)

/-! ### Transfers

Both directions are followed by the bytes that are still to be transferred. -/

theorem offset_add (offset : BitVec 64) (count : Nat) {size : Nat}
    (inside : offset.toNat + count ≤ size) (small : size < 2 ^ 64) : (offset + BitVec.ofNat 64 count).toNat = offset.toNat + count := by
  rw [BitVec.toNat_add, BitVec.toNat_ofNat, Nat.mod_eq_of_lt (by omega : count < 2 ^ 64),
    Nat.mod_eq_of_lt (by omega)]

/-- The disk after bytes were stored. -/
def Disk.store (disk : Disk MemoryBlockStorage) (offset : Nat) (source : List (BitVec 8)) :
    Disk MemoryBlockStorage :=
  { disk with storage := { bytes := overlay disk.storage.bytes offset source }, dirty := true }

section

variable (disk : Disk MemoryBlockStorage) (address : PhysAddr) (diskOffset : BitVec 64)
  (count length : Nat) (written : BitVec 32) (sound : memory.sound dma)

include sound

theorem transferChunk_write (small : disk.storage.bytes.length < 2 ^ 64)
    (inside : diskOffset.toNat + count ≤ disk.storage.bytes.length)
    (answers : ∀ other ∈ Memory.span address count, memory.answers other .byte) :
    ∃ after, transferChunk requestWrite address diskOffset count written (disk, dma) =
        ({ written }, disk.store diskOffset.toNat
          ((Memory.span address count).map (memory.contents dma)), after) ∧
      memory.sound after ∧ memory.contents after = memory.contents dma := by
  obtain ⟨after, gathered, soundAfter, sameAfter⟩ := gather_eq sound address count answers
  refine ⟨after, ?_, soundAfter, sameAfter⟩
  have full : ((Memory.span address count).map (memory.contents dma)).length = count := by
    rw [List.length_map, Memory.length_span]
  have stored := MemoryBlockStorage.write_eq (full.symm ▸ inside) small
  unfold transferChunk
  dsimp only
  rw [if_neg (by decide), gathered]
  dsimp only
  rw [stored]
  rfl

theorem transferChunk_read (small : disk.storage.bytes.length < 2 ^ 64)
    (inside : diskOffset.toNat + count ≤ disk.storage.bytes.length)
    (answers : ∀ other ∈ Memory.span address count, memory.answers other .byte) :
    ∃ after, transferChunk requestRead address diskOffset count written (disk, dma) =
        ({ written := written + BitVec.ofNat 32 count }, disk, after) ∧
      memory.sound after ∧
      memory.contents after = (memory.contents dma).pour (Memory.span address count)
        (slice disk.storage.bytes diskOffset.toNat count) := by
  obtain ⟨bytes, read, list⟩ := MemoryBlockStorage.read_eq inside small
  have full : bytes.toList.length = count := Vector.length_toList
  obtain ⟨after, scattered, soundAfter, contents⟩ := scatter_eq sound address bytes.toList
    (by rw [full]; exact answers)
  rw [full, list] at contents
  rw [full] at scattered
  refine ⟨after, ?_, soundAfter, contents⟩
  unfold transferChunk
  dsimp only
  rw [if_pos rfl, read]
  dsimp only
  rw [scattered]
  rfl

end

/-- A round does not overtake the end, and the rounds add up. -/
theorem chunk_le {length transferred : Nat} (more : ¬length ≤ transferred) :
    ∃ chunk rest, min (length - transferred) transferBufferSize = chunk ∧ 0 < chunk ∧
      length - transferred = chunk + rest ∧ length - (transferred + chunk) = rest := by
  refine ⟨_, length - transferred - min (length - transferred) transferBufferSize, rfl, ?_, ?_, ?_⟩
  · unfold transferBufferSize
    omega
  · omega
  · omega

section

variable (disk : Disk MemoryBlockStorage) {diskOffset : BitVec 64} {length : Nat}
  (small : disk.storage.bytes.length < 2 ^ 64)
  (inside : diskOffset.toNat + length ≤ disk.storage.bytes.length)
  (sound : memory.sound dma)

include small inside sound

/-- The loop of one descriptor of a write, from any round on. -/
theorem transfer_write (address : PhysAddr) (written : BitVec 32) (fuel transferred : Nat)
    (enough : length ≤ transferred + fuel) (begun : transferred ≤ length)
    (answers : ∀ other ∈ Memory.span (address + BitVec.ofNat 64 transferred) (length - transferred),
      memory.answers other .byte) :
    ∃ final after,
      transfer requestWrite address diskOffset length fuel transferred written (disk, dma) =
        ({ written }, final, after) ∧
      final.storage.bytes = overlay disk.storage.bytes (diskOffset.toNat + transferred)
        ((Memory.span (address + BitVec.ofNat 64 transferred) (length - transferred)).map
          (memory.contents dma)) ∧
      final.dirty = (disk.dirty || decide (0 < length - transferred)) ∧
      memory.sound after ∧ memory.contents after = memory.contents dma := by
  induction fuel generalizing disk dma transferred with
  | zero =>
    have none : length - transferred = 0 := by omega
    rw [none]
    exact ⟨disk, dma, rfl, (overlay_nil _ _).symm, (Bool.or_false _).symm, sound, rfl⟩
  | succ fuel ih =>
    unfold transfer
    by_cases ended : length ≤ transferred
    · have none : length - transferred = 0 := by omega
      rw [if_pos ended, none]
      exact ⟨disk, dma, rfl, (overlay_nil _ _).symm, (Bool.or_false _).symm, sound, rfl⟩
    rw [if_neg ended]
    obtain ⟨chunk, rest, size, positive, whole, left⟩ := chunk_le ended
    have place := offset_add diskOffset transferred (by omega) small
    rw [whole, Memory.span_add] at answers
    obtain ⟨middle, round, soundMiddle, sameMiddle⟩ := transferChunk_write disk
      (address + BitVec.ofNat 64 transferred) (diskOffset + BitVec.ofNat 64 transferred) chunk
      written sound small (by omega) fun other member => answers other (List.mem_append_left _ member)
    have next : address + BitVec.ofNat 64 (transferred + chunk) =
        address + BitVec.ofNat 64 transferred + BitVec.ofNat 64 chunk := by
      rw [BitVec.ofNat_add, BitVec.add_assoc]
    have full : ((Memory.span (address + BitVec.ofNat 64 transferred) chunk).map
        (memory.contents dma)).length = chunk := by rw [List.length_map, Memory.length_span]
    have kept : (disk.store (diskOffset.toNat + transferred)
        ((Memory.span (address + BitVec.ofNat 64 transferred) chunk).map
          (memory.contents dma))).storage.bytes.length = disk.storage.bytes.length :=
      length_overlay (by rw [full]; omega)
    rw [place] at round
    obtain ⟨final, after, others, bytes, dirty, soundAfter, sameAfter⟩ := ih
      (countTransferred (disk.store (diskOffset.toNat + transferred)
        ((Memory.span (address + BitVec.ofNat 64 transferred) chunk).map
          (memory.contents dma))) chunk) (kept.trans_lt small) (kept.symm ▸ inside) soundMiddle
      (transferred + chunk) (by omega) (by omega) (by
        rw [left, next]
        exact fun other member => answers other (List.mem_append_right _ member))
    refine ⟨final, after, ?_, ?_, ?_, soundAfter, sameAfter.trans sameMiddle⟩
    · dsimp only
      rw [size, round]
      exact others
    · rw [bytes, left, next, whole, Memory.span_add, List.map_append, sameMiddle,
        ← overlay_overlay (by omega), full, Nat.add_assoc]
      rfl
    · have stored : (countTransferred (disk.store (diskOffset.toNat + transferred)
          ((Memory.span (address + BitVec.ofNat 64 transferred) chunk).map
            (memory.contents dma))) chunk).dirty = true := rfl
      rw [dirty, stored, decide_eq_true (by omega : 0 < length - transferred), Bool.true_or,
        Bool.or_true]

/-- The loop of one descriptor of a read, from any round on. -/
theorem transfer_read (address : PhysAddr) (written : BitVec 32) (fuel transferred : Nat)
    (enough : length ≤ transferred + fuel) (begun : transferred ≤ length)
    (answers : ∀ other ∈ Memory.span (address + BitVec.ofNat 64 transferred) (length - transferred),
      memory.answers other .byte) :
    ∃ final after,
      transfer requestRead address diskOffset length fuel transferred written (disk, dma) =
        ({ written := written + BitVec.ofNat 32 (length - transferred) }, final, after) ∧
      final.storage = disk.storage ∧
      memory.sound after ∧
      memory.contents after = (memory.contents dma).pour
        (Memory.span (address + BitVec.ofNat 64 transferred) (length - transferred))
        (slice disk.storage.bytes (diskOffset.toNat + transferred) (length - transferred)) := by
  induction fuel generalizing disk dma written transferred with
  | zero =>
    have none : length - transferred = 0 := by omega
    rw [none, BitVec.add_zero]
    exact ⟨disk, dma, rfl, rfl, sound, rfl⟩
  | succ fuel ih =>
    unfold transfer
    by_cases ended : length ≤ transferred
    · have none : length - transferred = 0 := by omega
      rw [if_pos ended, none, BitVec.add_zero]
      exact ⟨disk, dma, rfl, rfl, sound, rfl⟩
    rw [if_neg ended]
    obtain ⟨chunk, rest, size, positive, whole, left⟩ := chunk_le ended
    have place := offset_add diskOffset transferred (by omega) small
    rw [whole, Memory.span_add] at answers
    obtain ⟨middle, round, soundMiddle, poured⟩ := transferChunk_read disk
      (address + BitVec.ofNat 64 transferred) (diskOffset + BitVec.ofNat 64 transferred) chunk
      written sound small (by omega) fun other member => answers other (List.mem_append_left _ member)
    have next : address + BitVec.ofNat 64 (transferred + chunk) =
        address + BitVec.ofNat 64 transferred + BitVec.ofNat 64 chunk := by
      rw [BitVec.ofNat_add, BitVec.add_assoc]
    rw [place] at poured
    obtain ⟨final, after, others, bytes, soundAfter, contents⟩ := ih
      (countTransferred disk chunk) small inside soundMiddle (written + BitVec.ofNat 32 chunk)
      (transferred + chunk) (by omega) (by omega) (by
        rw [left, next]
        exact fun other member => answers other (List.mem_append_right _ member))
    refine ⟨final, after, ?_, bytes, soundAfter, ?_⟩
    · dsimp only
      rw [size, round, whole, BitVec.ofNat_add, ← BitVec.add_assoc, ← left]
      exact others
    · have full : (slice disk.storage.bytes (diskOffset.toNat + transferred) chunk).length =
          (Memory.span (address + BitVec.ofNat 64 transferred) chunk).length := by
        rw [Memory.length_span, length_slice (by omega)]
      rw [contents, left, next, whole, Memory.span_add, slice_add,
        Memory.pour_append_append _ _ _ full, poured, Nat.add_assoc]
      rfl

end

/-! ### The descriptors of a request -/

theorem addresses_cons (descriptor : Descriptor) (rest : List Descriptor) :
    addresses (descriptor :: rest) =
      Memory.span descriptor.address descriptor.length.toNat ++ addresses rest := rfl

theorem capacity_cons (descriptor : Descriptor) (rest : List Descriptor) :
    capacity (descriptor :: rest) = descriptor.length.toNat + capacity rest := rfl

theorem length_addresses (data : List Descriptor) : (addresses data).length = capacity data := by
  induction data with
  | nil => rfl
  | cons descriptor rest ih =>
    rw [addresses_cons, capacity_cons, List.length_append, Memory.length_span, ih]

/-- The check of a buffer is whether the disk has room for it. -/
theorem overruns_iff {size : Nat} (length : BitVec 32) (diskOffset : BitVec 64)
    (small : size < 2 ^ 64) :
    (BitVec.ofNat 64 size < length.setWidth 64 ∨
      BitVec.ofNat 64 size - length.setWidth 64 < diskOffset) ↔
        size < diskOffset.toNat + length.toNat := by
  have whole : (BitVec.ofNat 64 size).toNat = size := by
    rw [BitVec.toNat_ofNat, Nat.mod_eq_of_lt small]
  have extended : (length.setWidth 64).toNat = length.toNat := by
    rw [BitVec.toNat_setWidth, Nat.mod_eq_of_lt (by omega)]
  rw [BitVec.lt_def, whole, extended]
  by_cases below : size < length.toNat
  · exact ⟨fun _ => by omega, fun _ => .inl below⟩
  · have least : length.setWidth 64 ≤ BitVec.ofNat 64 size := by
      rw [BitVec.le_def, whole, extended]
      omega
    rw [BitVec.lt_def, BitVec.toNat_sub_of_le least, whole, extended]
    omega

/-- The buffers of a write before the first one that is for the device to write, or that
the disk has no room for at its place. -/
def accepted (size : Nat) : (offset : Nat) → List Descriptor → List Descriptor
  | _, [] => []
  | offset, descriptor :: rest =>
    if descriptor.isWrite = false ∧ offset + descriptor.length.toNat ≤ size then
      descriptor :: accepted size (offset + descriptor.length.toNat) rest
    else []

theorem accepted_eq {size : Nat} (data : List Descriptor) (offset : Nat)
    (inside : offset + capacity data ≤ size)
    (readable : ∀ descriptor ∈ data, descriptor.isWrite = false) :
    accepted size offset data = data := by
  induction data generalizing offset with
  | nil => rfl
  | cons descriptor rest ih =>
    rw [capacity_cons] at inside
    unfold accepted
    rw [if_pos ⟨readable descriptor List.mem_cons_self, by omega⟩, ih _ (by omega)
      fun other member => readable other (List.mem_cons_of_mem _ member)]

section

variable (disk : Disk MemoryBlockStorage) (small : disk.storage.bytes.length < 2 ^ 64)
  (diskOffset : BitVec 64) (data : List Descriptor) (sound : memory.sound dma)

include small sound

/-- A write stores the bytes of the buffers that are accepted, in order, and fails unless
these are all. -/
theorem transferAll_accepted (written : BitVec 32)
    (answers : ∀ address ∈ addresses (accepted disk.storage.bytes.length diskOffset.toNat data),
      memory.answers address .byte) :
    ∃ final after,
      transferAll requestWrite data diskOffset written (disk, dma) =
        ({ status := if accepted disk.storage.bytes.length diskOffset.toNat data = data then statusOk
             else statusIoError
           written }, final, after) ∧
      final.storage.bytes = overlay disk.storage.bytes diskOffset.toNat
        ((addresses (accepted disk.storage.bytes.length diskOffset.toNat data)).map
          (memory.contents dma)) ∧
      final.dirty = (disk.dirty ||
        decide (0 < capacity (accepted disk.storage.bytes.length diskOffset.toNat data))) ∧
      memory.sound after ∧ memory.contents after = memory.contents dma := by
  induction data generalizing disk dma diskOffset with
  | nil => exact ⟨disk, dma, rfl, (overlay_nil _ _).symm, (Bool.or_false _).symm, sound, rfl⟩
  | cons descriptor rest ih =>
    have overruns : (BlockStorage.size disk.storage < descriptor.length.setWidth 64 ∨
        BlockStorage.size disk.storage - descriptor.length.setWidth 64 < diskOffset) ↔ _ :=
      overruns_iff descriptor.length diskOffset small
    by_cases good : descriptor.isWrite = false ∧
        diskOffset.toNat + descriptor.length.toNat ≤ disk.storage.bytes.length
    · obtain ⟨readable, here⟩ := good
      have chosen : accepted disk.storage.bytes.length diskOffset.toNat (descriptor :: rest) =
          descriptor :: accepted disk.storage.bytes.length
            (diskOffset.toNat + descriptor.length.toNat) rest := if_pos ⟨readable, here⟩
      rw [chosen, addresses_cons] at answers
      rw [chosen, addresses_cons]
      obtain ⟨stored, middle, moved, bytes, dirty, soundMiddle, sameMiddle⟩ := transfer_write disk
        small here sound descriptor.address written descriptor.length.toNat 0 (by omega)
        (Nat.zero_le _) (by
          rw [BitVec.add_zero, Nat.sub_zero]
          exact fun other member => answers other (List.mem_append_left _ member))
      rw [BitVec.add_zero, Nat.sub_zero, Nat.add_zero] at bytes
      have full : ((Memory.span descriptor.address descriptor.length.toNat).map
          (memory.contents dma)).length = descriptor.length.toNat := by
        rw [List.length_map, Memory.length_span]
      have kept : stored.storage.bytes.length = disk.storage.bytes.length := by
        rw [bytes]
        exact length_overlay (by rw [full]; omega)
      have place := offset_add diskOffset descriptor.length.toNat here small
      rw [BitVec.ofNat_toNat] at place
      obtain ⟨final, after, others, whole, changed, soundAfter, sameAfter⟩ := ih stored
        (kept.trans_lt small) (diskOffset + descriptor.length.setWidth 64) soundMiddle (by
          rw [place, kept]
          exact fun other member => answers other (List.mem_append_right _ member))
      rw [place, kept] at others whole changed
      refine ⟨final, after, ?_, ?_, ?_, soundAfter, sameAfter.trans sameMiddle⟩
      · unfold transferAll
        dsimp only
        rw [if_neg fun beyond => absurd (overruns.mp beyond) (Nat.not_lt.mpr here),
          if_neg (by simp [readable, requestWrite, requestRead]), moved]
        simp only [List.cons.injEq, true_and]
        exact others
      · rw [whole, bytes, sameMiddle, List.map_append, ← overlay_overlay (by omega), full]
      · rw [changed, dirty, capacity_cons, Nat.sub_zero, Bool.or_assoc, ← Bool.decide_or]
        congr 2
        exact propext (by omega)
    · have none : accepted disk.storage.bytes.length diskOffset.toNat (descriptor :: rest) = [] :=
        if_neg good
      rw [none]
      refine ⟨disk, dma, ?_, (overlay_nil _ _).symm, (Bool.or_false _).symm, sound, rfl⟩
      rw [if_neg (List.cons_ne_nil _ _).symm]
      unfold transferAll
      by_cases room : diskOffset.toNat + descriptor.length.toNat ≤ disk.storage.bytes.length
      · have writable : descriptor.isWrite = true := by
          cases direction : descriptor.isWrite with
          | true => rfl
          | false => exact absurd ⟨direction, room⟩ good
        dsimp only
        rw [if_neg fun beyond => absurd (overruns.mp beyond) (Nat.not_lt.mpr room),
          if_pos (.inr ⟨rfl, writable⟩)]
      · dsimp only
        rw [if_pos (overruns.mpr (Nat.lt_of_not_le room))]

end

section

variable (disk : Disk MemoryBlockStorage) (small : disk.storage.bytes.length < 2 ^ 64)
  (diskOffset : BitVec 64) (data : List Descriptor)
  (inside : diskOffset.toNat + capacity data ≤ disk.storage.bytes.length)
  (sound : memory.sound dma)
  (answers : ∀ address ∈ addresses data, memory.answers address .byte)

include small inside sound answers

/-- A write stores the bytes of its buffers, in order. -/
theorem transferAll_write (written : BitVec 32)
    (readable : ∀ descriptor ∈ data, descriptor.isWrite = false) :
    ∃ final after,
      transferAll requestWrite data diskOffset written (disk, dma) = ({ written }, final, after) ∧
      final.storage.bytes = overlay disk.storage.bytes diskOffset.toNat
        ((addresses data).map (memory.contents dma)) ∧
      memory.sound after ∧ memory.contents after = memory.contents dma := by
  have all := accepted_eq data diskOffset.toNat inside readable
  obtain ⟨final, after, moved, bytes, _, soundAfter, sameAfter⟩ :=
    transferAll_accepted disk small diskOffset data sound written (by rw [all]; exact answers)
  rw [all, if_pos rfl] at moved
  rw [all] at bytes
  exact ⟨final, after, moved, bytes, soundAfter, sameAfter⟩

/-- A read puts the stored bytes into its buffers, in order. -/
theorem transferAll_read (written : BitVec 32)
    (writable : ∀ descriptor ∈ data, descriptor.isWrite = true) :
    ∃ final after,
      transferAll requestRead data diskOffset written (disk, dma) =
        ({ written := written + BitVec.ofNat 32 (capacity data) }, final, after) ∧
      final.storage = disk.storage ∧
      memory.sound after ∧
      memory.contents after = (memory.contents dma).pour (addresses data)
        (slice disk.storage.bytes diskOffset.toNat (capacity data)) := by
  induction data generalizing disk dma diskOffset written with
  | nil => exact ⟨disk, dma, by rw [capacity, List.map_nil, List.sum_nil, BitVec.add_zero]; rfl, rfl,
      sound, rfl⟩
  | cons descriptor rest ih =>
    rw [capacity_cons] at inside ⊢
    rw [addresses_cons] at answers ⊢
    have writableHere := writable descriptor List.mem_cons_self
    have here : diskOffset.toNat + descriptor.length.toNat ≤ disk.storage.bytes.length := by omega
    obtain ⟨passed, middle, moved, bytes, soundMiddle, poured⟩ := transfer_read disk small
      here sound descriptor.address written descriptor.length.toNat 0 (by omega)
      (Nat.zero_le _) (by
        rw [BitVec.add_zero, Nat.sub_zero]
        exact fun other member => answers other (List.mem_append_left _ member))
    rw [Nat.sub_zero] at moved
    rw [BitVec.add_zero, Nat.sub_zero, Nat.add_zero] at poured
    have place := offset_add diskOffset descriptor.length.toNat here small
    have fits : ¬(BlockStorage.size disk.storage < descriptor.length.setWidth 64 ∨
        BlockStorage.size disk.storage - descriptor.length.setWidth 64 < diskOffset) := by
      intro overrun
      have beyond := (overruns_iff descriptor.length diskOffset small).mp overrun
      omega
    rw [BitVec.ofNat_toNat] at place
    obtain ⟨final, after, others, whole, soundAfter, contents⟩ := ih passed
      (by rw [bytes]; exact small) (diskOffset + descriptor.length.setWidth 64)
      (by rw [place, bytes]; omega) soundMiddle
      (fun other member => answers other (List.mem_append_right _ member))
      (written + BitVec.ofNat 32 descriptor.length.toNat)
      (fun other member => writable other (List.mem_cons_of_mem _ member))
    refine ⟨final, after, ?_, whole.trans bytes, soundAfter, ?_⟩
    · unfold transferAll
      dsimp only
      rw [if_neg fits, if_neg (by simp [writableHere, requestWrite, requestRead]), moved,
        BitVec.ofNat_add, ← BitVec.add_assoc]
      exact others
    · have full : (slice disk.storage.bytes diskOffset.toNat descriptor.length.toNat).length =
          (Memory.span descriptor.address descriptor.length.toNat).length := by
        rw [Memory.length_span, length_slice (by omega)]
      rw [contents, bytes, place, slice_add, Memory.pour_append_append _ _ _ full, poured]

end

end VirtioBlock

end RvEmulator.Devices
