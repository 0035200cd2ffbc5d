import RvEmulator.Devices.NetFaults
import RvEmulator.Devices.NetTransmit

/-! Addresses at which the network device stores nothing when it receives frames. -/

namespace RvEmulator.Devices.VirtioNet

open Library Platform

/-- The chains that reception may take from a queue, and its used ring, are apart from some
addresses. -/
structure Spares (queue : Queue) (contents : Memory) (kept : PhysAddr → Prop) : Prop where
  used : ∀ address, queue.rings.InUsed queue.size address → ¬kept address
  chains : ∀ j < (queue.rings.availableIndexAt contents - queue.lastAvailableIndex).toNat,
    ∀ chain, queue.rings.validChain queue.size contents (queue.rings.headAt contents
        ((queue.lastAvailableIndex + BitVec.ofNat 16 j).toNat % queue.size.toNat)) = some chain →
      ∀ address ∈ addresses chain, ¬kept address

/-- Nothing is stored in the descriptor table and in the available ring either. -/
def Listed (queue : Queue) (kept : PhysAddr → Prop) (address : PhysAddr) : Prop :=
  kept address ∨ queue.rings.InTable queue.size address ∨
    queue.rings.InAvailable queue.size address

variable {ν δ : Type} [DmaAccess δ] {memory : DmaMemory δ} {kept : PhysAddr → Prop} {dma : δ}

/-! ### Filling a chain -/

theorem preserves_fill (sound : memory.sound dma) (address : PhysAddr) (count : Nat)
    (bytes : List (BitVec 8)) (apart : ∀ other ∈ Memory.span address count, ¬kept other) :
    memory.Preserves kept dma (fill address count bytes dma).2 := by
  induction count generalizing address bytes dma with
  | zero => exact .refl sound
  | succ count ih =>
    cases bytes with
    | nil => exact .refl sound
    | cons byte rest =>
      have stored : memory.Preserves kept dma
          (DmaAccess.dmaWrite address .byte (byte.setWidth 64) dma).2 := by
        refine DmaMemory.preserves_write sound _ fun other inside => ?_
        rw [Memory.eq_of_region_one inside]
        exact apart address List.mem_cons_self
      unfold fill
      dsimp only
      split
      · exact stored
      · exact stored.trans (ih stored.sound (address + 1) rest fun other member =>
          apart other (List.mem_cons_of_mem _ member))

/-- Only the buffers of a chain are written to. -/
theorem preserves_fillChain (sound : memory.sound dma) (chain : List Descriptor)
    (bytes : List (BitVec 8)) (apart : ∀ address ∈ addresses chain, ¬kept address) :
    memory.Preserves kept dma (fillChain chain bytes dma).2 := by
  induction chain generalizing bytes dma with
  | nil => exact .refl sound
  | cons descriptor rest ih =>
    unfold addresses at apart
    rw [List.flatMap_cons] at apart
    have here := preserves_fill sound descriptor.address descriptor.length.toNat bytes
      fun other member => apart other (List.mem_append_left _ member)
    unfold fillChain
    generalize fill descriptor.address descriptor.length.toNat bytes dma = filled at here ⊢
    obtain ⟨left, after⟩ := filled
    cases left with
    | none => exact here
    | some left =>
      exact here.trans (ih here.sound left fun other member =>
        apart other (List.mem_append_right _ member))

theorem preserves_receiveIfValid (sound : memory.sound dma) (chain : Option (List Descriptor))
    (frame : Frame) (statistics : VirtioNetStatistics)
    (apart : ∀ found, chain = some found → ∀ address ∈ addresses found, ¬kept address) :
    memory.Preserves kept dma (receiveIfValid chain frame (statistics, dma)).2.2 := by
  unfold receiveIfValid
  cases chain with
  | none => exact .refl sound
  | some chain =>
    have filled := preserves_fillChain sound chain (packet frame) (apart chain rfl)
    dsimp only
    unfold receiveChain
    dsimp only
    split
    · exact .refl sound
    split
    · exact .refl sound
    split <;> exact filled

/-! ### Taking a chain -/

/-- A chain that was loaded, with or without refusals, is one that memory shows. -/
theorem loadChain_shown (queue : Queue) (sound : memory.sound dma)
    (statistics : VirtioNetStatistics) {count : Nat} {visited : List (BitVec 16)}
    {current : BitVec 16} {chain : List Descriptor}
    (loaded : (loadChain queue count visited current (statistics, dma)).1 = some chain) :
    queue.rings.chainOf queue.size (memory.contents dma) count visited current = some chain := by
  rw [loadChain_follow] at loaded
  have answered : (queue.rings.follow queue.size count visited current dma).1 ≠ .refused := by
    intro refused
    rw [refused] at loaded
    cases loaded
  rw [Rings.chainOf_eq, ← Rings.follow_shown sound _ _ _ _ _ answered]
  exact loaded

theorem loadWholeChain_shown (queue : Queue) (sound : memory.sound dma) (head : BitVec 16)
    (statistics : VirtioNetStatistics) (chain : List Descriptor)
    (loaded : (loadWholeChain queue head (statistics, dma)).1 = some chain) :
    queue.rings.validChain queue.size (memory.contents dma) head = some chain := by
  unfold loadWholeChain at loaded
  split at loaded
  · cases loaded
  · exact loadChain_shown queue sound statistics loaded

theorem readAvailableHead_shown (queue : Queue) (sound : memory.sound dma)
    (statistics : VirtioNetStatistics) (head : BitVec 16)
    (read : (readAvailableHead queue (statistics, dma)).1 = some head) :
    head = queue.rings.headAt (memory.contents dma)
      (queue.lastAvailableIndex.toNat % queue.size.toNat) := by
  obtain ⟨_, _, value⟩ := DmaMemory.read_spec sound
    (queue.rings.ringEntry queue.size queue.lastAvailableIndex) .halfWord
  unfold readAvailableHead at read
  dsimp only at read
  split at read
  · cases read
  · rename_i answered
    rw [← Option.some.inj read, value (by simpa using answered), Rings.ringEntry_eq]
    rfl

section

variable {queue : Queue} {contents other : Memory}

theorem left_ne_zero {last index : BitVec 16} (available : last ≠ index) : index - last ≠ 0#16 := by
  intro none
  refine available ?_
  rw [BitVec.sub_eq_iff_eq_add.mp none, BitVec.zero_add]

/-- The next chain is spared. -/
theorem Spares.first (spares : Spares queue contents kept)
    (available : queue.lastAvailableIndex ≠ queue.rings.availableIndexAt contents)
    {chain : List Descriptor}
    (valid : queue.rings.validChain queue.size contents (queue.rings.headAt contents
      (queue.lastAvailableIndex.toNat % queue.size.toNat)) = some chain) :
    ∀ address ∈ addresses chain, ¬kept address := by
  refine spares.chains 0 ?_ chain ?_
  · refine Nat.pos_of_ne_zero fun none => left_ne_zero available ?_
    exact BitVec.eq_of_toNat_eq none
  · rwa [BitVec.add_zero]

/-- Another memory with the same chains. -/
theorem Spares.congr (spares : Spares queue contents kept) (positive : 0 < queue.size.toNat)
    (same : ∀ address, queue.rings.InTable queue.size address ∨
      queue.rings.InAvailable queue.size address → other address = contents address) :
    Spares queue other kept := by
  have inAvailable := fun address member => same address (.inr member)
  refine ⟨spares.used, fun j near chain valid => ?_⟩
  rw [Rings.availableIndexAt_congr inAvailable] at near
  rw [Rings.headAt_congr inAvailable (Nat.mod_lt _ positive)] at valid
  unfold Rings.validChain at valid
  rw [Rings.chainOf_congr fun address member => same address (.inl member)] at valid
  exact spares.chains j near chain valid

/-- The chains after the next one are spared too. -/
theorem Spares.next {after : Queue} (spares : Spares queue contents kept)
    (available : queue.lastAvailableIndex ≠ queue.rings.availableIndexAt contents)
    (size : after.size = queue.size) (rings : after.rings = queue.rings)
    (last : after.lastAvailableIndex = queue.lastAvailableIndex + 1) :
    Spares after contents kept := by
  refine ⟨by rw [size, rings]; exact spares.used, fun j near chain valid => ?_⟩
  have shift : queue.lastAvailableIndex + 1 + BitVec.ofNat 16 j =
      queue.lastAvailableIndex + BitVec.ofNat 16 (j + 1) := by
    rw [BitVec.add_assoc, BitVec.add_comm 1, BitVec.ofNat_add]
    rfl
  rw [rings, last] at near
  rw [rings, size, last, shift] at valid
  refine spares.chains (j + 1) ?_ chain valid
  -- The index is not yet that of the ring, so one chain less is left.
  have left := left_ne_zero available
  generalize queue.rings.availableIndexAt contents = index at near left ⊢
  bv_omega

end

section

variable {device : VirtioNet ν}

/-! ### A round, the loop and the tick -/

theorem preserves_receiveServed (sound : memory.sound dma) (frame : Frame) (rest : List Frame)
    (spares : Spares device.receive (memory.contents dma) kept) :
    memory.Preserves kept dma (receiveServed device frame rest dma).2.2 ∧
      (receiveServed device frame rest dma).2.1.receive = device.receive ∧
      ((receiveServed device frame rest dma).1.isSome = true →
        device.receive.lastAvailableIndex ≠
          device.receive.rings.availableIndexAt (memory.contents dma)) := by
  obtain ⟨soundIndex, sameIndex, value⟩ := DmaMemory.read_spec sound
    (device.receive.rings.availableRing + 2) .halfWord
  unfold receiveServed
  dsimp only
  split
  · exact ⟨.of_eq soundIndex sameIndex, rfl, fun none => absurd none Bool.false_ne_true⟩
  rename_i answered
  rw [value (by simpa using answered)]
  split
  · exact ⟨.of_eq soundIndex sameIndex, rfl, fun none => absurd none Bool.false_ne_true⟩
  rename_i available
  change ¬device.receive.lastAvailableIndex =
    device.receive.rings.availableIndexAt (memory.contents dma) at available
  generalize (DmaAccess.dmaRead (device.receive.rings.availableRing + 2) .halfWord dma).2 =
    indexed at soundIndex sameIndex ⊢
  have headed := reads_readAvailableHead device.receive device.statistics soundIndex
  have place := readAvailableHead_shown device.receive soundIndex device.statistics
  generalize readAvailableHead device.receive (device.statistics, indexed) = read
    at headed place ⊢
  obtain ⟨_ | head, statistics, entered⟩ := read
  · exact ⟨.of_eq headed.sound (headed.contents.trans sameIndex), rfl,
      fun none => absurd none Bool.false_ne_true⟩
  have entrance : memory.contents entered = memory.contents dma := headed.contents.trans sameIndex
  obtain rfl := place head rfl
  rw [sameIndex]
  dsimp only
  generalize headIs : device.receive.rings.headAt (memory.contents dma)
    (device.receive.lastAvailableIndex.toNat % device.receive.size.toNat) = head
  have chained := reads_loadWholeChain device.receive head (countChain statistics) headed.sound
  have shown := loadWholeChain_shown device.receive headed.sound head (countChain statistics)
  generalize loadWholeChain device.receive head (countChain statistics, entered) = chain
    at chained shown ⊢
  obtain ⟨chain, counted, loaded⟩ := chain
  dsimp only at chained shown ⊢
  have loadedSame : memory.contents loaded = memory.contents dma := chained.contents.trans entrance
  have filled : memory.Preserves kept loaded
      (receiveIfValid chain frame (counted, loaded)).2.2 := by
    refine preserves_receiveIfValid chained.sound chain frame counted fun found same => ?_
    have valid := shown found same
    rw [entrance, ← headIs] at valid
    exact spares.first available valid
  exact ⟨(DmaMemory.Preserves.of_eq chained.sound loadedSame).trans filled, rfl, fun _ => available⟩

/-- A round of reception. -/
theorem spares_receiveNext (some : device.receive.size ≠ 0) (sound : memory.sound dma)
    (frame : Frame) (rest : List Frame)
    (spares : Spares device.receive (memory.contents dma) kept)
    (listed : ∀ address, device.receive.rings.InTable device.receive.size address ∨
      device.receive.rings.InAvailable device.receive.size address → kept address) :
    let ended := receiveNext device frame rest dma
    memory.Preserves kept dma ended.2.2 ∧
      (ended.1.isSome = true → Spares ended.2.1.receive (memory.contents ended.2.2) kept ∧
        ended.2.1.receive.size = device.receive.size ∧
        ended.2.1.receive.rings = device.receive.rings) := by
  have positive : 0 < device.receive.size.toNat :=
    Nat.pos_of_ne_zero fun zero => some (BitVec.eq_of_toNat_eq zero)
  obtain ⟨served, _, available⟩ := preserves_receiveServed sound frame rest spares
  intro ended
  have round : ended = receiveNext device frame rest dma := rfl
  rw [receiveNext_served] at round
  generalize receiveServed device frame rest dma = read at served available round
  obtain ⟨_ | ⟨head, written⟩, partly, after⟩ := read
  · rw [round]
    exact ⟨served, fun none => absurd none Bool.false_ne_true⟩
  obtain ⟨outside, _, moved⟩ := preserves_completeChain some head (written.getD 0)
    partly.statistics served.sound
  have completed : memory.Preserves kept after
      (completeChain device.receive head (written.getD 0) (partly.statistics, after)).2.2 :=
    ⟨outside.sound, fun address member =>
      outside.bytes address fun inside => spares.used address inside member⟩
  dsimp only at round
  generalize completeChain device.receive head (written.getD 0) (partly.statistics, after) = final
    at completed moved round
  obtain ⟨_ | queue, statistics, stored⟩ := final
  · rw [round]
    exact ⟨served.trans completed, fun none => absurd none Bool.false_ne_true⟩
  obtain ⟨usedIndex, rfl⟩ := moved queue rfl
  have preserved := served.trans completed
  rw [round]
  have next : Spares { device.receive with
      usedIndex, lastAvailableIndex := device.receive.lastAvailableIndex + 1 }
      (memory.contents dma) kept := spares.next (available rfl) rfl rfl rfl
  refine ⟨preserved, fun _ => ⟨?_, rfl, rfl⟩⟩
  exact next.congr positive fun address member => preserved.bytes address (listed address member)

theorem preserves_receiveLoop (count : Nat) (some : device.receive.size ≠ 0)
    (sound : memory.sound dma) (spares : Spares device.receive (memory.contents dma) kept)
    (listed : ∀ address, device.receive.rings.InTable device.receive.size address ∨
      device.receive.rings.InAvailable device.receive.size address → kept address) :
    memory.Preserves kept dma (receiveLoop count device dma).2.2 := by
  induction count generalizing device dma with
  | zero => exact .refl sound
  | succ count ih =>
    unfold receiveLoop
    split
    · exact .refl sound
    rename_i frame rest _
    obtain ⟨preserved, next⟩ := spares_receiveNext some sound frame rest spares listed
    generalize receiveNext device frame rest dma = ended at preserved next ⊢
    obtain ⟨_ | delivery, later, after⟩ := ended
    · exact preserved
    · obtain ⟨spared, size, rings⟩ := next rfl
      dsimp only at spared size rings
      refine preserved.trans (ih (by rw [size]; exact some) preserved.sound spared ?_)
      rw [size, rings]
      exact listed

/-- Reception keeps what its queue spares. -/
theorem preserves_processReceiveQueue (sound : memory.sound dma)
    (spares : device.queueConfigured device.receive = true →
      Spares device.receive (memory.contents dma) (Listed device.receive kept)) :
    memory.Preserves kept dma (processReceiveQueue device dma).2.2 := by
  unfold processReceiveQueue
  split
  · exact .refl sound
  rename_i configured
  rw [Bool.not_eq_true', Bool.not_eq_false] at configured
  have some : device.receive.size ≠ 0 := fun zero => by simp [queueConfigured, zero] at configured
  have preserved := preserves_receiveLoop device.receive.size.toNat some sound (spares configured)
    fun _ => .inr
  exact ⟨preserved.sound, fun address member => preserved.bytes address (.inl member)⟩

end

end RvEmulator.Devices.VirtioNet
