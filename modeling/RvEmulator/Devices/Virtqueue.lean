import RvEmulator.Devices.Dma
import RvEmulator.Library.Alignment
import RvEmulator.Library.Ring

/-! The queues of the legacy VirtIO transport, as both devices lay them out in guest
memory (`devices/src/virtio_block.cpp`, `virtio_net.cpp`). -/

namespace RvEmulator.Devices

open Library Platform

def alignUp (value alignment : BitVec 64) : BitVec 64 :=
  (value + alignment - 1) &&& ~~~(alignment - 1)

def isPowerOfTwo (value : BitVec 64) : Bool := value != 0 && (value &&& (value - 1)) == 0

structure Descriptor where
  address : BitVec 64 := 0
  length : BitVec 32 := 0
  flags : BitVec 16 := 0
  next : BitVec 16 := 0
deriving DecidableEq, Repr

def descriptorHasNext : BitVec 16 := 0x1
def descriptorIsWrite : BitVec 16 := 0x2

namespace Descriptor

def hasNext (descriptor : Descriptor) : Bool := descriptor.flags &&& descriptorHasNext != 0
def isWrite (descriptor : Descriptor) : Bool := descriptor.flags &&& descriptorIsWrite != 0

/-- The guest addresses that a descriptor gives the device. -/
def Holds (descriptor : Descriptor) (address : PhysAddr) : Prop :=
  ∃ index < descriptor.length.toNat, address = descriptor.address + BitVec.ofNat 64 index

end Descriptor

/-- The three parts of a queue in guest memory. -/
structure Rings where
  descriptorTable : PhysAddr := 0
  availableRing : PhysAddr := 0
  usedRing : PhysAddr := 0
deriving DecidableEq, Repr

namespace Rings

/-- The parts of a configured queue, as `update_queue_addresses` computes them. -/
def place (pageFrameNumber guestPageSize : BitVec 32) (size : BitVec 16) (alignment : BitVec 32) :
    Rings :=
  let descriptorTable := pageFrameNumber.setWidth 64 * guestPageSize.setWidth 64
  let availableRing := descriptorTable + size.setWidth 64 * 16
  let availableSize := 4 + size.setWidth 64 * 2
  { descriptorTable
    availableRing
    usedRing := alignUp (availableRing + availableSize) (alignment.setWidth 64) }

/-- `available_ring + 4 + (index % size) * 2`. -/
def ringEntry (rings : Rings) (size index : BitVec 16) : PhysAddr :=
  rings.availableRing + 4 + (index % size).setWidth 64 * 2

/-- `used_ring + 4 + (index % size) * 8`. -/
def usedElement (rings : Rings) (size index : BitVec 16) : PhysAddr :=
  rings.usedRing + 4 + (index % size).setWidth 64 * 8

/-- The four reads of a descriptor; `none` if one of them is refused. -/
def readDescriptor [DmaAccess δ] (rings : Rings) (index : BitVec 16) :
    StateM δ (Option Descriptor) := fun dma =>
  let address := rings.descriptorTable + index.setWidth 64 * 16
  let guestAddress := DmaAccess.dmaRead address .doubleWord dma
  let length := DmaAccess.dmaRead (address + 8) .word guestAddress.2
  let flags := DmaAccess.dmaRead (address + 12) .halfWord length.2
  let next := DmaAccess.dmaRead (address + 14) .halfWord flags.2
  if guestAddress.1.ok && length.1.ok && flags.1.ok && next.1.ok then
    (some
      { address := guestAddress.1.value
        length := length.1.value.setWidth 32
        flags := flags.1.value.setWidth 16
        next := next.1.value.setWidth 16 }, next.2)
  else (none, next.2)

end Rings

/-- What following a chain comes to. It is `unended` where the last descriptor that was read
has a successor, and `invalid` where it leaves the table or comes back to itself. -/
inductive Following where
  | ended (chain : List Descriptor)
  | unended (chain : List Descriptor)
  | invalid
  | refused
deriving DecidableEq, Repr

namespace Following

/-- With one more descriptor at the front. -/
def cons (descriptor : Descriptor) : Following → Following
  | .ended chain => .ended (descriptor :: chain)
  | .unended chain => .unended (descriptor :: chain)
  | .invalid => .invalid
  | .refused => .refused

/-- The descriptors that were read, where nothing went wrong. -/
def loaded : Following → Option (List Descriptor)
  | .ended chain | .unended chain => some chain
  | .invalid | .refused => none

/-- The chain, if it ended. -/
def whole : Following → Option (List Descriptor)
  | .ended chain => some chain
  | _ => none

/-- The descriptors of a chain that did not end. -/
def part : Following → Option (List Descriptor)
  | .unended chain => some chain
  | _ => none

@[simp]
theorem loaded_cons (descriptor : Descriptor) (rest : Following) :
    (rest.cons descriptor).loaded = rest.loaded.map (descriptor :: ·) := by
  cases rest <;> rfl

@[simp]
theorem whole_cons (descriptor : Descriptor) (rest : Following) :
    (rest.cons descriptor).whole = rest.whole.map (descriptor :: ·) := by
  cases rest <;> rfl

@[simp]
theorem part_cons (descriptor : Descriptor) (rest : Following) :
    (rest.cons descriptor).part = rest.part.map (descriptor :: ·) := by
  cases rest <;> rfl

@[simp]
theorem cons_eq_refused (descriptor : Descriptor) (rest : Following) :
    rest.cons descriptor = .refused ↔ rest = .refused := by
  cases rest <;> simp [cons]

theorem loaded_eq (following : Following) :
    following.loaded = (following.whole <|> following.part) := by
  cases following <;> rfl

end Following

/-- What the loops of both devices that follow a chain have in common: descriptor after
descriptor is read, at most `count` of them. -/
def Rings.follow [DmaAccess δ] (rings : Rings) (size : BitVec 16) :
    (count : Nat) → (visited : List (BitVec 16)) → (current : BitVec 16) → StateM δ Following
  | 0, _, _ => fun dma => (.unended [], dma)
  | count + 1, visited, current => fun dma =>
    if size ≤ current ∨ current ∈ visited then (.invalid, dma)
    else
      match rings.readDescriptor current dma with
      | (none, dma) => (.refused, dma)
      | (some descriptor, dma) =>
        if !descriptor.hasNext then (.ended [descriptor], dma)
        else
          let rest := rings.follow size count (current :: visited) descriptor.next dma
          (rest.1.cons descriptor, rest.2)

theorem Rings.follow_succ [DmaAccess δ] (rings : Rings) (size : BitVec 16) (count : Nat)
    (visited : List (BitVec 16)) (current : BitVec 16) (dma : δ) :
    rings.follow size (count + 1) visited current dma =
      if size ≤ current ∨ current ∈ visited then (.invalid, dma)
      else
        match rings.readDescriptor current dma with
        | (none, dma) => (.refused, dma)
        | (some descriptor, dma) =>
          if !descriptor.hasNext then (.ended [descriptor], dma)
          else
            let rest := rings.follow size count (current :: visited) descriptor.next dma
            (rest.1.cons descriptor, rest.2) := rfl

/-- Reads guest bytes, until one is refused. -/
def gather [DmaAccess δ] (address : PhysAddr) : Nat → StateM δ (Option (List (BitVec 8)))
  | 0 => fun dma => (some [], dma)
  | count + 1 => fun dma =>
    let byte := DmaAccess.dmaRead address .byte dma
    if !byte.1.ok then (none, byte.2)
    else
      let rest := gather (address + 1) count byte.2
      (rest.1.map (byte.1.value.setWidth 8 :: ·), rest.2)

/-! ### The layout -/

/-- What `queue_configured` asks of a size and an alignment. -/
theorem dvd_of_powers {size : BitVec 16} {alignment : BitVec 32}
    (power : isPowerOfTwo (size.setWidth 64) = true)
    (aligned : isPowerOfTwo (alignment.setWidth 64) = true) :
    alignment ≠ 0 ∧ size.toNat ∣ 2 ^ 16 := by
  refine ⟨?_, ?_⟩
  · rintro rfl
    cases aligned
  · rw [isPowerOfTwo, Bool.and_eq_true, bne_iff_ne, beq_iff_eq] at power
    obtain ⟨k, single⟩ := exists_two_pow power.1 power.2
    have limit := size.isLt
    rw [BitVec.toNat_setWidth, Nat.mod_eq_of_lt (by omega)] at single
    rw [single] at limit ⊢
    exact Nat.pow_dvd_pow 2 ((Nat.pow_lt_pow_iff_right (by decide)).mp limit).le

namespace Rings

/-- The parts of a queue follow each other, with a gap before the last. -/
structure Follows (rings : Rings) (size gap : Nat) : Prop where
  available : rings.availableRing = rings.descriptorTable + BitVec.ofNat 64 (16 * size)
  used : rings.usedRing = rings.descriptorTable + BitVec.ofNat 64 (18 * size + 4 + gap)
  small : size ≤ 256
  positive : 0 < size
  gap : gap < 2 ^ 32

/-- Aligning goes up by less than the alignment, even where the sum wraps around. -/
theorem alignUp_eq (value alignment : BitVec 64) :
    ∃ gap : BitVec 64, alignUp value alignment = value + gap ∧ gap ≤ alignment - 1 := by
  obtain ⟨mask, masked⟩ : ∃ mask, mask = alignment - 1 := ⟨_, rfl⟩
  have sum : value + alignment - 1 = value + mask := by
    rw [masked, BitVec.sub_eq_add_neg, BitVec.sub_eq_add_neg, BitVec.add_assoc]
  have below : (value + mask &&& mask) ≤ mask := by
    rw [BitVec.le_def, BitVec.toNat_and]
    exact Nat.and_le_right
  refine ⟨mask - (value + mask &&& mask), ?_, ?_⟩
  · rw [alignUp, ← masked, sum, and_not_eq_sub, BitVec.sub_eq_add_neg, BitVec.sub_eq_add_neg,
      BitVec.add_assoc]
  · rw [← masked, BitVec.le_def, BitVec.toNat_sub_of_le below]
    omega

theorem follows_place (pageFrameNumber guestPageSize alignment : BitVec 32) {size : BitVec 16}
    (positive : size ≠ 0) (small : size ≤ 256) (aligned : alignment ≠ 0) :
    ∃ gap, (place pageFrameNumber guestPageSize size alignment).Follows size.toNat gap := by
  obtain ⟨gap, used, below⟩ := alignUp_eq
    (pageFrameNumber.setWidth 64 * guestPageSize.setWidth 64 + size.setWidth 64 * 16 +
      (4 + size.setWidth 64 * 2)) (alignment.setWidth 64)
  have bounded : size.toNat ≤ 256 := BitVec.le_def.mp small
  have nonzero : 0 < size.toNat :=
    Nat.pos_of_ne_zero fun zero => positive (BitVec.eq_of_toNat_eq zero)
  have entries : ∀ scale : Nat,
      size.setWidth 64 * BitVec.ofNat 64 scale = BitVec.ofNat 64 (scale * size.toNat) := by
    intro scale
    rw [Nat.mul_comm, BitVec.ofNat_mul, BitVec.ofNat_toNat]
  refine ⟨gap.toNat, ?_, ?_, bounded, nonzero, ?_⟩
  · rw [← entries 16]
    rfl
  · have total : 18 * size.toNat + 4 + gap.toNat =
        16 * size.toNat + (4 + 2 * size.toNat) + gap.toNat := by omega
    rw [total, BitVec.ofNat_add, BitVec.ofNat_add, BitVec.ofNat_add, ← entries 16, ← entries 2,
      BitVec.ofNat_toNat, BitVec.setWidth_eq, ← BitVec.add_assoc, ← BitVec.add_assoc]
    exact used
  · have one : 1 ≤ alignment.setWidth 64 := by
      rw [BitVec.le_def, BitVec.toNat_setWidth]
      have nonzeroAlignment : 0 < alignment.toNat :=
        Nat.pos_of_ne_zero fun zero => aligned (BitVec.eq_of_toNat_eq zero)
      simp
      omega
    rw [BitVec.le_def, BitVec.toNat_sub_of_le one, BitVec.toNat_setWidth] at below
    have limit := alignment.isLt
    have unit : (1 : BitVec 64).toNat = 1 := rfl
    omega

/-! ### The chains in memory -/

/-- The entry of the descriptor table at an index. -/
def descriptorAt (rings : Rings) (memory : Memory) (index : BitVec 16) : Descriptor :=
  let address := rings.descriptorTable + index.setWidth 64 * 16
  { address := memory.get address 8
    length := (memory.get (address + 8) 4).setWidth 32
    flags := (memory.get (address + 12) 2).setWidth 16
    next := (memory.get (address + 14) 2).setWidth 16 }

theorem readDescriptor_spec [DmaAccess δ] {memory : DmaMemory δ} {dma : δ}
    (sound : memory.sound dma) (rings : Rings) (index : BitVec 16) :
    memory.sound (rings.readDescriptor index dma).2 ∧
      memory.contents (rings.readDescriptor index dma).2 = memory.contents dma ∧
      ∀ descriptor, (rings.readDescriptor index dma).1 = some descriptor →
        descriptor = rings.descriptorAt (memory.contents dma) index := by
  unfold readDescriptor descriptorAt
  dsimp only
  generalize rings.descriptorTable + index.setWidth 64 * 16 = address
  obtain ⟨soundAddress, sameAddress, address'⟩ := DmaMemory.read_spec sound address .doubleWord
  generalize DmaAccess.dmaRead address .doubleWord dma = guestAddress at *
  obtain ⟨soundLength, sameLength, length'⟩ :=
    DmaMemory.read_spec soundAddress (address + 8) .word
  generalize DmaAccess.dmaRead (address + 8) .word guestAddress.2 = length at *
  obtain ⟨soundFlags, sameFlags, flags'⟩ :=
    DmaMemory.read_spec soundLength (address + 12) .halfWord
  generalize DmaAccess.dmaRead (address + 12) .halfWord length.2 = flags at *
  obtain ⟨soundNext, sameNext, next'⟩ :=
    DmaMemory.read_spec soundFlags (address + 14) .halfWord
  generalize DmaAccess.dmaRead (address + 14) .halfWord flags.2 = next at *
  rw [sameAddress] at sameLength length'
  rw [sameLength] at sameFlags flags'
  rw [sameFlags] at sameNext next'
  split
  · rename_i answered
    simp only [Bool.and_eq_true] at answered
    obtain ⟨⟨⟨first, second⟩, third⟩, fourth⟩ := answered
    refine ⟨soundNext, sameNext, fun descriptor found => ?_⟩
    rw [← Option.some.inj found, address' first, length' second, flags' third, next' fourth]
    rfl
  · exact ⟨soundNext, sameNext, fun _ none => by cases none⟩

/-- The accesses to the descriptor table are never refused. -/
def TableAnswered [DmaAccess δ] (rings : Rings) (memory : DmaMemory δ) (size : BitVec 16) : Prop :=
  ∀ index < size, ∀ address, address = rings.descriptorTable + index.setWidth 64 * 16 →
    memory.answers address .doubleWord ∧ memory.answers (address + 8) .word ∧
      memory.answers (address + 12) .halfWord ∧ memory.answers (address + 14) .halfWord

/-- A descriptor is read when the table answers. -/
theorem TableAnswered.readDescriptor [DmaAccess δ] {memory : DmaMemory δ} {dma : δ} {rings : Rings}
    {size index : BitVec 16} (table : rings.TableAnswered memory size) (inside : index < size)
    (sound : memory.sound dma) :
    ∃ after, rings.readDescriptor index dma =
        (some (rings.descriptorAt (memory.contents dma) index), after) ∧
      memory.sound after ∧ memory.contents after = memory.contents dma := by
  obtain ⟨soundAfter, same, value⟩ := readDescriptor_spec sound rings index
  obtain ⟨first, second, third, fourth⟩ := table index inside _ rfl
  have found : ∃ descriptor, (rings.readDescriptor index dma).1 = some descriptor := by
    obtain ⟨okAddress, _, soundAddress, _⟩ := DmaMemory.read_answered sound first
    obtain ⟨okLength, _, soundLength, _⟩ := DmaMemory.read_answered soundAddress second
    obtain ⟨okFlags, _, soundFlags, _⟩ := DmaMemory.read_answered soundLength third
    obtain ⟨okNext, _⟩ := DmaMemory.read_answered soundFlags fourth
    unfold Rings.readDescriptor
    dsimp only
    rw [okAddress, okLength, okFlags, okNext]
    exact ⟨_, rfl⟩
  obtain ⟨descriptor, found⟩ := found
  refine ⟨(rings.readDescriptor index dma).2, ?_, soundAfter, same⟩
  rw [← value descriptor found, ← found]
  rfl

/-- The first `count` descriptors of the chain that starts at an index. -/
def chainAt (rings : Rings) (size : BitVec 16) (memory : Memory) :
    (count : Nat) → (current : BitVec 16) → List Descriptor
  | 0, _ => []
  | count + 1, current =>
    if size ≤ current then []
    else
      let descriptor := rings.descriptorAt memory current
      descriptor ::
        if descriptor.hasNext then rings.chainAt size memory count descriptor.next else []

/-- The descriptor table, of `size` entries. -/
def InTable (rings : Rings) (size : BitVec 16) (address : PhysAddr) : Prop :=
  Memory.Region rings.descriptorTable (16 * size.toNat) address

/-- A part of an entry is a part of the table. -/
theorem inTable_of_field {rings : Rings} {size index : BitVec 16} (inside : index < size)
    {offset length : Nat} (part : offset + length ≤ 16) {address : PhysAddr}
    (member : Memory.Region
      (rings.descriptorTable + index.setWidth 64 * 16 + BitVec.ofNat 64 offset) length address) :
    rings.InTable size address := by
  have entry : index.setWidth 64 * 16 = BitVec.ofNat 64 (index.toNat * 16) := by
    rw [BitVec.ofNat_mul, BitVec.ofNat_toNat]
    rfl
  have bound := BitVec.lt_def.mp inside
  have limit := size.isLt
  rw [entry, BitVec.add_assoc, ← BitVec.ofNat_add, Memory.region_offset _ (by omega)] at member
  unfold InTable Memory.Region
  omega

/-- Memories with the same table have the same chains. -/
theorem descriptorAt_congr {rings : Rings} {size index : BitVec 16} {memory other : Memory}
    (inside : index < size)
    (same : ∀ address, rings.InTable size address → other address = memory address) :
    rings.descriptorAt other index = rings.descriptorAt memory index := by
  have field : ∀ offset length : Nat, offset + length ≤ 16 → length ≤ 8 →
      other.get (rings.descriptorTable + index.setWidth 64 * 16 + BitVec.ofNat 64 offset) length =
        memory.get (rings.descriptorTable + index.setWidth 64 * 16 + BitVec.ofNat 64 offset)
          length := by
    intro offset length part short
    apply Memory.get_congr short
    intro address member
    exact same address (inTable_of_field inside part member)
  have first := field 0 8 (by decide) (by decide)
  rw [BitVec.add_zero] at first
  have length := field 8 4 (by decide) (by decide)
  have flags := field 12 2 (by decide) (by decide)
  have next := field 14 2 (by decide) (by decide)
  unfold descriptorAt
  dsimp only
  rw [first]
  congr 1
  · exact congrArg (BitVec.setWidth 32) length
  · exact congrArg (BitVec.setWidth 16) flags
  · exact congrArg (BitVec.setWidth 16) next

theorem chainAt_congr {rings : Rings} {size : BitVec 16} {memory other : Memory}
    (same : ∀ address, rings.InTable size address → other address = memory address)
    (count : Nat) (current : BitVec 16) :
    rings.chainAt size other count current = rings.chainAt size memory count current := by
  induction count generalizing current with
  | zero => rfl
  | succ count ih =>
    unfold chainAt
    by_cases outside : size ≤ current
    · rw [if_pos outside, if_pos outside]
    · rw [if_neg outside, if_neg outside,
        descriptorAt_congr (BitVec.not_le.mp outside) same]
      simp only [ih]

end Rings

end RvEmulator.Devices
