import RvEmulator.Devices.Virtqueue

/-! The two rings of a queue as they stand in guest memory, and how a completed chain
changes them. -/

namespace RvEmulator.Devices.Rings

open Library Platform

/-- `avail.idx`. -/
def availableIndexAt (rings : Rings) (memory : Memory) : BitVec 16 :=
  (memory.get (rings.availableRing + 2) 2).setWidth 16

/-- A head in the available ring. -/
def headAt (rings : Rings) (memory : Memory) (slot : Nat) : BitVec 16 :=
  (memory.get (rings.availableRing + 4 + BitVec.ofNat 64 (slot * 2)) 2).setWidth 16

/-- `used.idx`. -/
def usedIndexAt (rings : Rings) (memory : Memory) : BitVec 16 :=
  (memory.get (rings.usedRing + 2) 2).setWidth 16

/-- An element of the used ring: the head of a chain and a length. -/
def elementAt (rings : Rings) (memory : Memory) (slot : Nat) : BitVec 32 × BitVec 32 :=
  let element := rings.usedRing + 4 + BitVec.ofNat 64 (slot * 8)
  ((memory.get element 4).setWidth 32, (memory.get (element + 4) 4).setWidth 32)

def InAvailable (rings : Rings) (size : BitVec 16) (address : PhysAddr) : Prop :=
  Memory.Region rings.availableRing (4 + 2 * size.toNat) address

def InUsed (rings : Rings) (size : BitVec 16) (address : PhysAddr) : Prop :=
  Memory.Region rings.usedRing (4 + 8 * size.toNat) address

/-- The addresses of the queue itself. -/
def Contains (rings : Rings) (size : BitVec 16) (address : PhysAddr) : Prop :=
  rings.InTable size address ∨ rings.InAvailable size address ∨ rings.InUsed size address

/-- A counter and its cell. -/
theorem slot_eq (size index : BitVec 16) (scale : Nat) :
    (index % size).setWidth 64 * BitVec.ofNat 64 scale =
      BitVec.ofNat 64 (index.toNat % size.toNat * scale) := by
  rw [BitVec.ofNat_mul, ← BitVec.toNat_umod, BitVec.ofNat_toNat]

theorem ringEntry_eq (rings : Rings) (size index : BitVec 16) :
    rings.ringEntry size index =
      rings.availableRing + 4 + BitVec.ofNat 64 (index.toNat % size.toNat * 2) := by
  rw [← slot_eq]
  rfl

theorem usedElement_eq (rings : Rings) (size index : BitVec 16) :
    rings.usedElement size index =
      rings.usedRing + 4 + BitVec.ofNat 64 (index.toNat % size.toNat * 8) := by
  rw [← slot_eq]
  rfl

section

variable {rings : Rings} {size : BitVec 16} {memory other : Memory}

/-! Memories with the same rings show the same. -/

theorem available_congr
    (same : ∀ address, rings.InAvailable size address → other address = memory address)
    (offset : Nat) (part : offset + 2 ≤ 4 + 2 * size.toNat) :
    other.get (rings.availableRing + BitVec.ofNat 64 offset) 2 =
      memory.get (rings.availableRing + BitVec.ofNat 64 offset) 2 := by
  have limit := size.isLt
  exact Memory.get_congr (by decide) fun address member =>
    same address (Memory.region_of_part part (by omega) member)

theorem availableIndexAt_congr
    (same : ∀ address, rings.InAvailable size address → other address = memory address) :
    rings.availableIndexAt other = rings.availableIndexAt memory :=
  congrArg (BitVec.setWidth 16) (available_congr same 2 (by omega))

theorem headAt_congr
    (same : ∀ address, rings.InAvailable size address → other address = memory address)
    {slot : Nat} (inside : slot < size.toNat) :
    rings.headAt other slot = rings.headAt memory slot := by
  have entry : rings.availableRing + 4 + BitVec.ofNat 64 (slot * 2) =
      rings.availableRing + BitVec.ofNat 64 (4 + slot * 2) := by
    rw [BitVec.add_assoc, BitVec.ofNat_add]
    rfl
  unfold headAt
  rw [entry, available_congr same _ (by omega)]

theorem used_congr (same : ∀ address, rings.InUsed size address → other address = memory address)
    (offset : Nat) {length : Nat} (short : length ≤ 8) (part : offset + length ≤ 4 + 8 * size.toNat) :
    other.get (rings.usedRing + BitVec.ofNat 64 offset) length =
      memory.get (rings.usedRing + BitVec.ofNat 64 offset) length := by
  have limit := size.isLt
  exact Memory.get_congr short fun address member =>
    same address (Memory.region_of_part part (by omega) member)

theorem usedIndexAt_congr
    (same : ∀ address, rings.InUsed size address → other address = memory address) :
    rings.usedIndexAt other = rings.usedIndexAt memory :=
  congrArg (BitVec.setWidth 16) (used_congr same 2 (by decide) (by omega))

/-- The places of the two words of an element. -/
theorem element_offset (rings : Rings) (slot : Nat) :
    rings.usedRing + 4 + BitVec.ofNat 64 (slot * 8) =
        rings.usedRing + BitVec.ofNat 64 (4 + slot * 8) ∧
      rings.usedRing + 4 + BitVec.ofNat 64 (slot * 8) + 4 =
        rings.usedRing + BitVec.ofNat 64 (8 + slot * 8) := by
  have first : rings.usedRing + 4 + BitVec.ofNat 64 (slot * 8) =
      rings.usedRing + BitVec.ofNat 64 (4 + slot * 8) := by
    rw [BitVec.add_assoc, BitVec.ofNat_add]
    rfl
  refine ⟨first, ?_⟩
  rw [first, BitVec.add_assoc, show 8 + slot * 8 = 4 + slot * 8 + 4 by omega,
    BitVec.ofNat_add (4 + slot * 8) 4]
  rfl

theorem elementAt_congr
    (same : ∀ address, rings.InUsed size address → other address = memory address)
    {slot : Nat} (inside : slot < size.toNat) :
    rings.elementAt other slot = rings.elementAt memory slot := by
  obtain ⟨first, second⟩ := element_offset rings slot
  unfold elementAt
  dsimp only
  rw [second, first, used_congr same _ (by decide) (by omega),
    used_congr same _ (by decide) (by omega)]

end

section

variable {rings : Rings} {size : BitVec 16} {gap : Nat} (follows : rings.Follows size.toNat gap)

include follows

/-- A part of the available ring, from the beginning of the queue. -/
theorem Follows.available_region (offset length : Nat) (part : offset + length ≤ 4 + 2 * size.toNat)
    (address : PhysAddr) :
    Memory.Region (rings.availableRing + BitVec.ofNat 64 offset) length address ↔
      16 * size.toNat + offset ≤ (address - rings.descriptorTable).toNat ∧
        (address - rings.descriptorTable).toNat < 16 * size.toNat + offset + length := by
  have small := follows.small
  rw [follows.available, BitVec.add_assoc, ← BitVec.ofNat_add,
    Memory.region_offset _ (by omega)]

/-- A part of the used ring, from the beginning of the queue. -/
theorem Follows.used_region (offset length : Nat) (part : offset + length ≤ 4 + 8 * size.toNat)
    (address : PhysAddr) :
    Memory.Region (rings.usedRing + BitVec.ofNat 64 offset) length address ↔
      18 * size.toNat + 4 + gap + offset ≤ (address - rings.descriptorTable).toNat ∧
        (address - rings.descriptorTable).toNat < 18 * size.toNat + 4 + gap + offset + length := by
  have small := follows.small
  have bounded := follows.gap
  rw [follows.used, BitVec.add_assoc, ← BitVec.ofNat_add, Memory.region_offset _ (by omega)]

theorem Follows.inAvailable_iff (address : PhysAddr) :
    rings.InAvailable size address ↔
      16 * size.toNat ≤ (address - rings.descriptorTable).toNat ∧
        (address - rings.descriptorTable).toNat < 16 * size.toNat + (4 + 2 * size.toNat) := by
  have region := follows.available_region 0 (4 + 2 * size.toNat) (by omega) address
  rwa [BitVec.add_zero] at region

theorem Follows.inUsed_iff (address : PhysAddr) :
    rings.InUsed size address ↔
      18 * size.toNat + 4 + gap ≤ (address - rings.descriptorTable).toNat ∧
        (address - rings.descriptorTable).toNat <
          18 * size.toNat + 4 + gap + (4 + 8 * size.toNat) := by
  have region := follows.used_region 0 (4 + 8 * size.toNat) (by omega) address
  rwa [BitVec.add_zero] at region

omit follows in
/-- The memory after a chain was put on the used ring: its head, its length, and
the index. -/
def completed (rings : Rings) (size index head : BitVec 16) (written : BitVec 32)
    (memory : Memory) : Memory :=
  ((memory.put (rings.usedElement size index) 4 (head.setWidth 64)).put
    (rings.usedElement size index + 4) 4 (written.setWidth 64)).put
    (rings.usedRing + 2) 2 ((index + 1).setWidth 64)

omit follows in
theorem usedIndexAt_completed (rings : Rings) (size index head : BitVec 16) (written : BitVec 32)
    (memory : Memory) :
    rings.usedIndexAt (rings.completed size index head written memory) = index + 1 := by
  unfold usedIndexAt completed
  rw [Memory.get_put _ _ _ (by decide) (by decide), BitVec.setWidth_setWidth_of_le _ (by decide),
    BitVec.setWidth_eq]

/-- The used ring is no part of the rest of the queue. -/
theorem Follows.not_inUsed {address : PhysAddr}
    (member : rings.InTable size address ∨ rings.InAvailable size address) :
    ¬rings.InUsed size address := by
  rw [follows.inAvailable_iff] at member
  rw [follows.inUsed_iff]
  unfold InTable Memory.Region at member
  omega

/-- The two words of an element, from the beginning of the queue. -/
theorem Follows.element_regions {slot : Nat} (inside : slot < size.toNat) (address : PhysAddr) :
    (Memory.Region (rings.usedRing + 4 + BitVec.ofNat 64 (slot * 8)) 4 address ↔
        18 * size.toNat + 4 + gap + (4 + slot * 8) ≤ (address - rings.descriptorTable).toNat ∧
          (address - rings.descriptorTable).toNat <
            18 * size.toNat + 4 + gap + (4 + slot * 8) + 4) ∧
      (Memory.Region (rings.usedRing + 4 + BitVec.ofNat 64 (slot * 8) + 4) 4 address ↔
        18 * size.toNat + 4 + gap + (8 + slot * 8) ≤ (address - rings.descriptorTable).toNat ∧
          (address - rings.descriptorTable).toNat <
            18 * size.toNat + 4 + gap + (8 + slot * 8) + 4) := by
  obtain ⟨first, second⟩ := element_offset rings slot
  rw [second, first]
  exact ⟨follows.used_region _ _ (by omega) address, follows.used_region _ _ (by omega) address⟩

theorem Follows.index_region (address : PhysAddr) :
    Memory.Region (rings.usedRing + 2) 2 address ↔
      18 * size.toNat + 4 + gap + 2 ≤ (address - rings.descriptorTable).toNat ∧
        (address - rings.descriptorTable).toNat < 18 * size.toNat + 4 + gap + 2 + 2 :=
  follows.used_region 2 2 (by omega) address

omit follows in
/-- The element at the used index is that of the chain, however the queue is laid out. -/
theorem elementAt_completed (rings : Rings) (positive : 0 < size.toNat) (index head : BitVec 16)
    (written : BitVec 32) (memory : Memory) :
    rings.elementAt (rings.completed size index head written memory)
      (index.toNat % size.toNat) = (head.setWidth 32, written) := by
  have inside := Nat.mod_lt index.toNat positive
  have limit := size.isLt
  unfold elementAt completed
  dsimp only
  rw [usedElement_eq]
  generalize index.toNat % size.toNat = slot at inside
  obtain ⟨first, second⟩ := element_offset rings slot
  rw [second, first]
  have region : ∀ offset length address, offset + length ≤ 2 ^ 64 →
      (Memory.Region (rings.usedRing + BitVec.ofNat 64 offset) length address ↔
        offset ≤ (address - rings.usedRing).toNat ∧
          (address - rings.usedRing).toNat < offset + length) :=
    fun _ _ address bounded => Memory.region_offset _ bounded address
  have indexRegion := fun address => region 2 2 address (by decide)
  have headRegion := fun address => region (4 + slot * 8) 4 address (by omega)
  have lengthRegion := fun address => region (8 + slot * 8) 4 address (by omega)
  change ∀ address, Memory.Region (rings.usedRing + 2) 2 address ↔ _ at indexRegion
  congr 1
  · rw [Memory.get_put_of_apart _ _ (by decide) fun address member => by
        rw [indexRegion]
        rw [headRegion] at member
        omega,
      Memory.get_put_of_apart _ _ (by decide) fun address member => by
        rw [lengthRegion]
        rw [headRegion] at member
        omega,
      Memory.get_put _ _ _ (by decide) (by decide), BitVec.setWidth_setWidth_of_le _ (by decide)]
  · rw [Memory.get_put_of_apart _ _ (by decide) fun address member => by
        rw [indexRegion]
        rw [lengthRegion] at member
        omega,
      Memory.get_put _ _ _ (by decide) (by decide), BitVec.setWidth_setWidth_of_le _ (by decide),
      BitVec.setWidth_eq]

/-- Only the used ring changes. -/
theorem Follows.completed_outside (index head : BitVec 16) (written : BitVec 32)
    (memory : Memory) {address : PhysAddr} (outside : ¬rings.InUsed size address) :
    rings.completed size index head written memory address = memory address := by
  have inside := Nat.mod_lt index.toNat follows.positive
  rw [follows.inUsed_iff] at outside
  unfold completed
  rw [usedElement_eq]
  generalize index.toNat % size.toNat = slot at inside
  obtain ⟨first, second⟩ := follows.element_regions inside address
  have indexRegion := follows.index_region address
  rw [Memory.put_of_apart (by rw [indexRegion]; omega), Memory.put_of_apart (by rw [second]; omega),
    Memory.put_of_apart (by rw [first]; omega)]

theorem Follows.elementAt_other (index head : BitVec 16) (written : BitVec 32) (memory : Memory)
    {slot : Nat} (present : slot < size.toNat) (other : slot ≠ index.toNat % size.toNat) :
    rings.elementAt (rings.completed size index head written memory) slot =
      rings.elementAt memory slot := by
  have inside := Nat.mod_lt index.toNat follows.positive
  have regions := follows.element_regions present
  have indexRegion := follows.index_region
  have same : ∀ address, (Memory.Region (rings.usedRing + 4 + BitVec.ofNat 64 (slot * 8)) 4 address ∨
      Memory.Region (rings.usedRing + 4 + BitVec.ofNat 64 (slot * 8) + 4) 4 address) →
      rings.completed size index head written memory address = memory address := by
    intro address member
    rw [(regions address).1, (regions address).2] at member
    unfold completed
    rw [usedElement_eq]
    generalize index.toNat % size.toNat = changed at inside other
    obtain ⟨first, second⟩ := follows.element_regions inside address
    rw [Memory.put_of_apart (by rw [indexRegion]; omega),
      Memory.put_of_apart (by rw [second]; omega), Memory.put_of_apart (by rw [first]; omega)]
  unfold elementAt
  dsimp only
  rw [Memory.get_congr (by decide) fun address member => same address (.inl member),
    Memory.get_congr (by decide) fun address member => same address (.inr member)]

end

/-- The accesses to the rings are never refused. -/
structure Answered [DmaAccess δ] (rings : Rings) (memory : DmaMemory δ) (size : BitVec 16) :
    Prop where
  availableIndex : memory.answers (rings.availableRing + 2) .halfWord
  head : ∀ index, memory.answers (rings.ringEntry size index) .halfWord
  id : ∀ index, memory.answers (rings.usedElement size index) .word
  length : ∀ index, memory.answers (rings.usedElement size index + 4) .word
  usedIndex : memory.answers (rings.usedRing + 2) .halfWord

/-- Only the slots of the rings are accessed. -/
theorem Answered.of_slots [DmaAccess δ] {rings : Rings} {memory : DmaMemory δ} {size : BitVec 16}
    (positive : 0 < size.toNat) (availableIndex : memory.answers (rings.availableRing + 2) .halfWord)
    (usedIndex : memory.answers (rings.usedRing + 2) .halfWord)
    (slots : ∀ slot < size.toNat,
      memory.answers (rings.availableRing + 4 + BitVec.ofNat 64 (slot * 2)) .halfWord ∧
      memory.answers (rings.usedRing + 4 + BitVec.ofNat 64 (slot * 8)) .word ∧
      memory.answers (rings.usedRing + 4 + BitVec.ofNat 64 (slot * 8) + 4) .word) :
    rings.Answered memory size := by
  have inside : ∀ index : BitVec 16, index.toNat % size.toNat < size.toNat :=
    fun index => Nat.mod_lt _ positive
  refine ⟨availableIndex, fun index => ?_, fun index => ?_, fun index => ?_, usedIndex⟩
  · rw [ringEntry_eq]
    exact (slots _ (inside index)).1
  · rw [usedElement_eq]
    exact (slots _ (inside index)).2.1
  · rw [usedElement_eq]
    exact (slots _ (inside index)).2.2

/-- The three writes that complete a chain. -/
theorem Answered.complete [DmaAccess δ] {rings : Rings} {memory : DmaMemory δ} {size : BitVec 16}
    (answered : rings.Answered memory size) {dma : δ} (sound : memory.sound dma)
    (index head : BitVec 16) (written : BitVec 32) :
    let element := rings.usedElement size index
    let id := DmaAccess.dmaWrite element .word (head.setWidth 64) dma
    let length := DmaAccess.dmaWrite (element + 4) .word (written.setWidth 64) id.2
    let stored := DmaAccess.dmaWrite (rings.usedRing + 2) .halfWord ((index + 1).setWidth 64)
      length.2
    id.1 = .none ∧ length.1 = .none ∧ stored.1 = .none ∧ memory.sound stored.2 ∧
      memory.contents stored.2 = rings.completed size index head written (memory.contents dma) := by
  intro element id length stored
  have idFault : id.1 = .none := memory.writable sound (answered.id index)
  have idSound : memory.sound id.2 := memory.sound_write sound
  have lengthFault : length.1 = .none := memory.writable idSound (answered.length index)
  have lengthSound : memory.sound length.2 := memory.sound_write idSound
  have storedFault : stored.1 = .none := memory.writable lengthSound answered.usedIndex
  refine ⟨idFault, lengthFault, storedFault, memory.sound_write lengthSound, ?_⟩
  rw [memory.written lengthSound storedFault, memory.written idSound lengthFault,
    memory.written sound idFault]
  rfl

end RvEmulator.Devices.Rings
