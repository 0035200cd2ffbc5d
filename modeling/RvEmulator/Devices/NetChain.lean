import RvEmulator.Devices.Chains
import RvEmulator.Devices.RingMemory
import RvEmulator.Devices.VirtioNetQueues

/-! What the network device does to guest memory when it receives a frame. -/

namespace RvEmulator.Devices

open Library Platform

namespace VirtioNet

variable [DmaAccess δ] {memory : DmaMemory δ} {dma : δ}

theorem loadChain_eq (queue : Queue) (table : queue.rings.TableAnswered memory queue.size)
    (sound : memory.sound dma) (statistics : VirtioNetStatistics) (count : Nat)
    (visited : List (BitVec 16)) (current : BitVec 16) :
    ∃ after, loadChain queue count visited current (statistics, dma) =
        (queue.rings.chainOf queue.size (memory.contents dma) count visited current, statistics,
          after) ∧
      memory.sound after ∧ memory.contents after = memory.contents dma := by
  obtain ⟨after, followed, kept⟩ := Rings.follow_answered table sound count visited current
  refine ⟨after, ?_, kept⟩
  rw [loadChain_follow, followed, Rings.chainOf_eq]
  exact congrArg (fun counted => (_, counted, after)) (if_neg (Rings.followed_answered))

/-! ### Filling a chain -/

theorem fill_eq (sound : memory.sound dma) (address : PhysAddr) (count : Nat)
    (bytes : List (BitVec 8))
    (answers : ∀ other ∈ Memory.span address count, memory.answers other .byte) :
    ∃ after, fill address count bytes dma = (some (bytes.drop count), after) ∧
      memory.sound after ∧
      memory.contents after = (memory.contents dma).pour (Memory.span address count) bytes := by
  induction count generalizing address bytes dma with
  | zero => exact ⟨dma, rfl, sound, rfl⟩
  | succ count ih =>
    cases bytes with
    | nil => exact ⟨dma, rfl, sound, rfl⟩
    | cons byte rest =>
      have stored : (DmaAccess.dmaWrite address .byte (byte.setWidth 64) dma).1 = .none :=
        memory.writable sound (answers address List.mem_cons_self)
      obtain ⟨after, others, soundAfter, contents⟩ := ih
        (memory.sound_write sound : memory.sound
          (DmaAccess.dmaWrite address .byte (byte.setWidth 64) dma).2)
        (address + 1) rest (fun other member => answers other (List.mem_cons_of_mem _ member))
      refine ⟨after, ?_, soundAfter, ?_⟩
      · unfold fill
        dsimp only
        rw [stored]
        exact others
      · rw [contents, memory.written sound stored]
        exact congrArg (Memory.pour · _ _) (Memory.put_one _ _ _)

theorem fillChain_eq (sound : memory.sound dma) (chain : List Descriptor)
    (bytes : List (BitVec 8))
    (answers : ∀ address ∈ addresses chain, memory.answers address .byte) :
    ∃ after, fillChain chain bytes dma = (true, after) ∧ memory.sound after ∧
      memory.contents after = (memory.contents dma).pour (addresses chain) bytes := by
  induction chain generalizing bytes dma with
  | nil => exact ⟨dma, rfl, sound, rfl⟩
  | cons descriptor rest ih =>
    unfold addresses at answers ⊢
    rw [List.flatMap_cons] at answers ⊢
    obtain ⟨middle, filled, soundMiddle, here⟩ := fill_eq sound descriptor.address
      descriptor.length.toNat bytes fun other member =>
        answers other (List.mem_append_left _ member)
    obtain ⟨after, others, soundAfter, contents⟩ := ih soundMiddle
      (bytes.drop descriptor.length.toNat) fun other member =>
        answers other (List.mem_append_right _ member)
    refine ⟨after, ?_, soundAfter, ?_⟩
    · unfold fillChain
      rw [filled]
      exact others
    · rw [contents, here, Memory.pour_append, Memory.length_span]
      rfl

/-- The room that was counted is the room of the chain. -/
theorem capacity_of_chainCapacity {chain : List Descriptor} {total room : Nat}
    (counted : chainCapacity chain total = some room) : room = total + capacity chain := by
  induction chain generalizing total with
  | nil =>
    cases counted
    rfl
  | cons descriptor rest ih =>
    have sum : capacity (descriptor :: rest) = descriptor.length.toNat + capacity rest := rfl
    unfold chainCapacity at counted
    split at counted
    · cases counted
    · rw [ih counted, sum, Nat.add_assoc]

/-- A chain of a queue is too short for its capacity to overflow. -/
theorem chainCapacity_eq (chain : List Descriptor) (total : Nat)
    (bounded : total + chain.length * 2 ^ 32 < 2 ^ 64) :
    chainCapacity chain total =
      if ∀ descriptor ∈ chain, descriptor.isWrite = true then some (total + capacity chain)
      else none := by
  induction chain generalizing total with
  | nil => simp [chainCapacity, capacity]
  | cons descriptor rest ih =>
    have limit := descriptor.length.isLt
    rw [List.length_cons] at bounded
    unfold chainCapacity
    cases writable : descriptor.isWrite with
    | false => simp [writable]
    | true =>
      have fits : ¬(true = false ∨ 2 ^ 64 - 1 - total < descriptor.length.toNat) := by
        rintro (no | beyond)
        · cases no
        · omega
      rw [if_neg fits, ih _ (by omega)]
      simp [writable, capacity, Nat.add_assoc]

/-- A chain that a frame fits into. -/
def Takes (chain : List Descriptor) (frame : Frame) : Prop :=
  (∀ descriptor ∈ chain, descriptor.isWrite = true) ∧
    netHeaderSize + frame.length ≤ capacity chain

instance (chain : List Descriptor) (frame : Frame) : Decidable (Takes chain frame) :=
  inferInstanceAs (Decidable (_ ∧ _))

/-- A frame is received by a chain if and only if it fits. -/
theorem receiveChain_eq (sound : memory.sound dma) {chain : List Descriptor} {frame : Frame}
    (short : chain.length ≤ 256) (small : frame.length ≤ maximumFrameSize)
    (answers : ∀ address ∈ addresses chain, memory.answers address .byte)
    (statistics : VirtioNetStatistics) :
    ∃ counted after,
      receiveChain chain frame (statistics, dma) =
        (if Takes chain frame then some (BitVec.ofNat 32 (netHeaderSize + frame.length)) else none,
          counted, after) ∧
      memory.sound after ∧
      memory.contents after =
        (if Takes chain frame then
          (memory.contents dma).pour (addresses chain) (packet frame)
        else memory.contents dma) ∧
      counted.droppedReceiveFrames = statistics.droppedReceiveFrames := by
  unfold receiveChain
  dsimp only
  rw [chainCapacity_eq chain 0 (by omega), Nat.zero_add]
  by_cases writable : ∀ descriptor ∈ chain, descriptor.isWrite = true
  · rw [if_pos writable]
    dsimp only
    have required : ¬2 ^ 32 - 1 < netHeaderSize + frame.length := by
      unfold maximumFrameSize at small
      unfold netHeaderSize
      omega
    by_cases room : capacity chain < netHeaderSize + frame.length
    · have refused : ¬Takes chain frame := fun taken => absurd taken.2 (Nat.not_le_of_lt room)
      rw [if_pos (.inl room), if_neg refused, if_neg refused]
      exact ⟨statistics, dma, rfl, sound, rfl, rfl⟩
    · have taken : Takes chain frame := ⟨writable, Nat.le_of_not_lt room⟩
      obtain ⟨after, filled, soundAfter, contents⟩ :=
        fillChain_eq sound chain (packet frame) answers
      rw [if_neg (not_or.mpr ⟨room, required⟩), if_pos taken, if_pos taken, filled]
      exact ⟨_, after, rfl, soundAfter, contents, rfl⟩
  · have refused : ¬Takes chain frame := fun taken => writable taken.1
    rw [if_neg writable, if_neg refused, if_neg refused]
    exact ⟨statistics, dma, rfl, sound, rfl, rfl⟩

end VirtioNet

end RvEmulator.Devices
