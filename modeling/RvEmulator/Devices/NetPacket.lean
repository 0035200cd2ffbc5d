import RvEmulator.Devices.NetChain

/-! What the network device sends of a chain. -/

namespace RvEmulator.Devices.VirtioNet

open Library Platform

/-! ### The length of a packet -/

/-- A chain that a frame is sent from: all of it is for reading, and it is longer than the
header but not too long. -/
structure Sendable (chain : List Descriptor) : Prop where
  readable : ∀ descriptor ∈ chain, descriptor.isWrite = false
  long : netHeaderSize < capacity chain
  short : capacity chain ≤ maximumFrameSize + netHeaderSize

instance (chain : List Descriptor) : Decidable (Sendable chain) :=
  decidable_of_iff ((∀ descriptor ∈ chain, descriptor.isWrite = false) ∧
      netHeaderSize < capacity chain ∧ capacity chain ≤ maximumFrameSize + netHeaderSize)
    ⟨fun ⟨readable, long, short⟩ => ⟨readable, long, short⟩,
      fun ⟨readable, long, short⟩ => ⟨readable, long, short⟩⟩

/-- The bytes of a chain. -/
def bytesOf (chain : List Descriptor) (memory : Memory) : List (BitVec 8) :=
  (addresses chain).map memory

/-- The bytes of a chain without the header. -/
def frameOf (chain : List Descriptor) (memory : Memory) : Frame :=
  (bytesOf chain memory).drop netHeaderSize

theorem length_bytesOf (chain : List Descriptor) (memory : Memory) :
    (bytesOf chain memory).length = capacity chain := by
  unfold bytesOf addresses capacity
  rw [List.length_map]
  induction chain with
  | nil => rfl
  | cons descriptor rest ih =>
    rw [List.flatMap_cons, List.length_append, Memory.length_span, ih, List.map_cons, List.sum_cons]

/-- The length of a packet, with a difference that has to exist; `none` where more is subtracted
than there is. -/
def checkedPacketSize : List Descriptor → (total : Nat) → Option (Option Nat)
  | [], total => some (some total)
  | descriptor :: rest, total =>
    if maximumFrameSize + netHeaderSize < total then none
    else if descriptor.isWrite = true ∨
        maximumFrameSize + netHeaderSize - total < descriptor.length.toNat then some none
    else checkedPacketSize rest (total + descriptor.length.toNat)

/-- No more is subtracted than there is. -/
theorem checkedPacketSize_eq (chain : List Descriptor) {total : Nat}
    (bounded : total ≤ maximumFrameSize + netHeaderSize) :
    checkedPacketSize chain total = some (packetSize chain total) := by
  induction chain generalizing total with
  | nil => rfl
  | cons descriptor rest ih =>
    unfold checkedPacketSize packetSize
    rw [if_neg (Nat.not_lt_of_le bounded)]
    by_cases refused : descriptor.isWrite = true ∨
        maximumFrameSize + netHeaderSize - total < descriptor.length.toNat
    · rw [if_pos refused, if_pos refused]
    · rw [if_neg refused, if_neg refused]
      have fits := Nat.le_of_not_lt fun beyond => refused (.inr beyond)
      exact ih (by omega)

/-- The length is that of the whole chain. -/
theorem packetSize_eq (chain : List Descriptor) {total : Nat}
    (bounded : total ≤ maximumFrameSize + netHeaderSize) :
    packetSize chain total =
      if (∀ descriptor ∈ chain, descriptor.isWrite = false) ∧
          total + capacity chain ≤ maximumFrameSize + netHeaderSize then
        some (total + capacity chain)
      else none := by
  induction chain generalizing total with
  | nil => simpa [packetSize, capacity] using bounded
  | cons descriptor rest ih =>
    have sum : capacity (descriptor :: rest) = descriptor.length.toNat + capacity rest := rfl
    unfold packetSize
    by_cases refused : descriptor.isWrite = true ∨
        maximumFrameSize + netHeaderSize - total < descriptor.length.toNat
    · rw [if_pos refused, if_neg]
      rintro ⟨readable, short⟩
      obtain written | beyond := refused
      · rw [readable descriptor (List.mem_cons_self ..)] at written
        cases written
      · omega
    · rw [if_neg refused]
      obtain ⟨readable, within⟩ := not_or.mp refused
      rw [ih (by omega), sum, Nat.add_assoc]
      refine if_congr ?_ rfl rfl
      rw [List.forall_mem_cons]
      exact and_congr_left fun _ => (and_iff_right (Bool.eq_false_iff.mpr readable)).symm

section

variable {δ : Type} [DmaAccess δ] {memory : DmaMemory δ} {dma : δ}

/-! ### Reading a packet -/

/-- The bytes of the descriptors one after the other, however they are split. -/
theorem gatherChain_eq (sound : memory.sound dma) (chain : List Descriptor)
    (answers : ∀ address ∈ addresses chain, memory.answers address .byte) :
    ∃ after, gatherChain chain dma = (some (bytesOf chain (memory.contents dma)), after) ∧
      memory.sound after ∧ memory.contents after = memory.contents dma := by
  induction chain generalizing dma with
  | nil => exact ⟨dma, rfl, sound, rfl⟩
  | cons descriptor rest ih =>
    unfold addresses at answers
    rw [List.flatMap_cons] at answers
    obtain ⟨middle, here, soundMiddle, sameMiddle⟩ := gather_eq sound descriptor.address
      descriptor.length.toNat fun other member => answers other (List.mem_append_left _ member)
    obtain ⟨after, others, soundAfter, sameAfter⟩ := ih soundMiddle
      fun other member => answers other (List.mem_append_right _ member)
    rw [sameMiddle] at others sameAfter
    refine ⟨after, ?_, soundAfter, sameAfter⟩
    unfold gatherChain
    rw [here]
    dsimp only
    rw [others]
    refine congrArg (fun bytes => (some bytes, after)) ?_
    unfold bytesOf addresses
    rw [List.flatMap_cons, List.map_append]

variable {ν : Type} [NetworkBackend ν]

/-- The frame of a chain that can be sent from is sent. -/
theorem transmitChain_of_sendable (sound : memory.sound dma) (device : VirtioNet ν) {backend : ν}
    (attached : device.backend = some backend) {chain : List Descriptor} (sendable : Sendable chain)
    (answers : ∀ address ∈ addresses chain, memory.answers address .byte) :
    ∃ statistics after, transmitChain device chain dma =
        (true, { device with
          backend := some (NetworkBackend.sendFrame
            (frameOf chain (memory.contents dma)) backend)
          statistics }, after) ∧
      memory.sound after ∧ memory.contents after = memory.contents dma ∧
      statistics.droppedTransmitFrames = device.statistics.droppedTransmitFrames := by
  obtain ⟨after, gathered, soundAfter, sameAfter⟩ := gatherChain_eq sound chain answers
  unfold transmitChain
  rw [packetSize_eq chain (Nat.zero_le _), Nat.zero_add, if_pos ⟨sendable.readable, sendable.short⟩]
  dsimp only
  rw [if_neg (Nat.not_le_of_lt sendable.long), gathered]
  dsimp only
  rw [attached]
  exact ⟨_, after, rfl, soundAfter, sameAfter, rfl⟩

/-- Of other chains nothing is even read. -/
theorem transmitChain_of_not_sendable (device : VirtioNet ν)
    {chain : List Descriptor} (unsendable : ¬Sendable chain) (dma : δ) :
    transmitChain device chain dma = (false, device, dma) := by
  unfold transmitChain
  rw [packetSize_eq chain (Nat.zero_le _), Nat.zero_add]
  by_cases fits : (∀ descriptor ∈ chain, descriptor.isWrite = false) ∧
      capacity chain ≤ maximumFrameSize + netHeaderSize
  · rw [if_pos fits]
    exact if_pos (Nat.le_of_not_lt fun long => unsendable ⟨fits.1, long, fits.2⟩)
  · rw [if_neg fits]

end

end RvEmulator.Devices.VirtioNet
