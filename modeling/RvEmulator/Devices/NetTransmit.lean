import RvEmulator.Devices.NetReceive

/-! Transmission and polling leave the receive side of the network device alone. -/

namespace RvEmulator.Devices.VirtioNet

open Library Platform

variable {ν δ : Type} [DmaAccess δ] {memory : DmaMemory δ} {dma : δ}

/-- The statistics of the receive side are the same. -/
structure SameCounts (before after : VirtioNetStatistics) : Prop where
  pending : after.pendingReceiveFrames = before.pendingReceiveFrames
  dropped : after.droppedReceiveFrames = before.droppedReceiveFrames

theorem SameCounts.trans {first second third : VirtioNetStatistics}
    (before : SameCounts first second) (after : SameCounts second third) :
    SameCounts first third :=
  ⟨after.pending.trans before.pending, after.dropped.trans before.dropped⟩

/-! ### Reading -/

/-- Reading changes neither memory nor the statistics of the receive side. -/
structure Reads (memory : DmaMemory δ) (before after : VirtioNetStatistics × δ) : Prop where
  sound : memory.sound after.2
  contents : memory.contents after.2 = memory.contents before.2
  counts : SameCounts before.1 after.1

theorem reads_loadChain (queue : Queue) (count : Nat) (visited : List (BitVec 16))
    (current : BitVec 16) (statistics : VirtioNetStatistics) (sound : memory.sound dma) :
    Reads memory (statistics, dma) (loadChain queue count visited current (statistics, dma)).2 := by
  obtain ⟨soundAfter, sameAfter⟩ :=
    (Accessed.refl.follow queue.rings queue.size count visited current).reads sound
  rw [loadChain_follow]
  refine ⟨soundAfter, sameAfter, ?_⟩
  dsimp only
  split <;> exact ⟨rfl, rfl⟩

theorem reads_loadWholeChain (queue : Queue) (head : BitVec 16) (statistics : VirtioNetStatistics)
    (sound : memory.sound dma) :
    Reads memory (statistics, dma) (loadWholeChain queue head (statistics, dma)).2 := by
  unfold loadWholeChain
  split
  · exact ⟨sound, rfl, rfl, rfl⟩
  · exact reads_loadChain queue _ [] head statistics sound

theorem reads_readAvailableHead (queue : Queue) (statistics : VirtioNetStatistics)
    (sound : memory.sound dma) :
    Reads memory (statistics, dma) (readAvailableHead queue (statistics, dma)).2 := by
  obtain ⟨soundRead, sameRead, _⟩ := DmaMemory.read_spec sound
    (queue.rings.ringEntry queue.size queue.lastAvailableIndex) .halfWord
  unfold readAvailableHead
  dsimp only
  split <;> exact ⟨soundRead, sameRead, rfl, rfl⟩

theorem gatherChain_reads (chain : List Descriptor) (sound : memory.sound dma) :
    memory.sound (gatherChain chain dma).2 ∧
      memory.contents (gatherChain chain dma).2 = memory.contents dma := by
  induction chain generalizing dma with
  | nil => exact ⟨sound, rfl⟩
  | cons descriptor rest ih =>
    obtain ⟨soundRead, sameRead⟩ :=
      (Accessed.refl.gather descriptor.address descriptor.length.toNat).reads sound
    unfold gatherChain
    generalize gather descriptor.address descriptor.length.toNat dma = read at soundRead sameRead ⊢
    obtain ⟨read, after⟩ := read
    cases read with
    | none => exact ⟨soundRead, sameRead⟩
    | some bytes =>
      obtain ⟨soundRest, sameRest⟩ := ih soundRead
      exact ⟨soundRest, sameRest.trans sameRead⟩

/-! ### Transmitting -/

/-- Completing a chain writes to the used ring only. -/
theorem preserves_completeChain {queue : Queue} (some : queue.size ≠ 0) (head : BitVec 16)
    (written : BitVec 32) (statistics : VirtioNetStatistics) (sound : memory.sound dma) :
    let ended := completeChain queue head written (statistics, dma)
    memory.Preserves (fun address => ¬queue.rings.InUsed queue.size address) dma ended.2.2 ∧
      SameCounts statistics ended.2.1 ∧
      ∀ after, ended.1 = Option.some after → ∃ usedIndex, after = { queue with usedIndex } := by
  have positive : 0 < queue.size.toNat :=
    Nat.pos_of_ne_zero fun zero => some (BitVec.eq_of_toNat_eq zero)
  have inside := Nat.mod_lt queue.usedIndex.toNat positive
  have limit := queue.size.isLt
  obtain ⟨first, second⟩ := Rings.element_offset queue.rings
    (queue.usedIndex.toNat % queue.size.toNat)
  rw [← Rings.usedElement_eq] at first second
  have write : ∀ {before : δ} (offset : Nat) (width : AccessWidth) (value : BitVec 64)
      (address : PhysAddr), memory.sound before →
      address = queue.rings.usedRing + BitVec.ofNat 64 offset →
      offset + width.bytes ≤ 4 + 8 * queue.size.toNat →
      memory.Preserves (fun address => ¬queue.rings.InUsed queue.size address) before
        (DmaAccess.dmaWrite address width value before).2 := by
    intro before offset width value address soundBefore place part
    refine DmaMemory.preserves_write soundBefore value fun other member outside => outside ?_
    rw [place] at member
    exact Memory.region_of_part part (by omega) member
  have id := write _ .word (head.setWidth 64) _ sound first (by dsimp only [AccessWidth.bytes]; omega)
  have length := id.trans (write _ .word (written.setWidth 64) _ id.sound second
    (by dsimp only [AccessWidth.bytes]; omega))
  have index := length.trans (write 2 .halfWord ((queue.usedIndex + 1).setWidth 64) _ length.sound
    rfl (by dsimp only [AccessWidth.bytes]; omega))
  unfold completeChain
  dsimp only
  split
  · exact ⟨id, ⟨rfl, rfl⟩, fun _ none => by cases none⟩
  split
  · exact ⟨length, ⟨rfl, rfl⟩, fun _ none => by cases none⟩
  split
  · exact ⟨index, ⟨rfl, rfl⟩, fun _ none => by cases none⟩
  · exact ⟨index, ⟨rfl, rfl⟩, fun _ same => ⟨_, (Option.some.inj same).symm⟩⟩

variable [NetworkBackend ν] {device : VirtioNet ν}

/-- A backend that was given some frames to send. -/
def Gives (before after : Option ν) : Prop :=
  ∃ frames : List Frame, after = before.map fun backend =>
    frames.foldl (fun backend frame => NetworkBackend.sendFrame frame backend) backend

theorem Gives.refl (backend : Option ν) : Gives backend backend := ⟨[], by cases backend <;> rfl⟩

theorem Gives.trans {first second third : Option ν} (before : Gives first second)
    (after : Gives second third) : Gives first third := by
  obtain ⟨early, rfl⟩ := before
  obtain ⟨late, rfl⟩ := after
  refine ⟨early ++ late, ?_⟩
  cases first with
  | none => rfl
  | some backend => exact congrArg some (List.foldl_append ..).symm

/-- What transmission leaves alone: the receive queue, the pending frames and what was
counted about them, and all memory but the used ring of the transmit queue. The backend is only
given frames to send. -/
structure Transmitted (memory : DmaMemory δ) (before after : VirtioNet ν × δ) : Prop where
  receive : after.1.receive = before.1.receive
  pending : after.1.pendingReceiveFrames = before.1.pendingReceiveFrames
  guestPageSize : after.1.guestPageSize = before.1.guestPageSize
  size : after.1.transmit.size = before.1.transmit.size
  rings : after.1.transmit.rings = before.1.transmit.rings
  backend : Gives before.1.backend after.1.backend
  counts : SameCounts before.1.statistics after.1.statistics
  memory : memory.Preserves
    (fun address => ¬before.1.transmit.rings.InUsed before.1.transmit.size address)
    before.2 after.2

theorem Transmitted.refl (sound : memory.sound dma) :
    Transmitted memory (device, dma) (device, dma) :=
  ⟨rfl, rfl, rfl, rfl, rfl, .refl _, ⟨rfl, rfl⟩, .refl sound⟩

theorem Transmitted.trans {first second third : VirtioNet ν × δ}
    (before : Transmitted memory first second) (after : Transmitted memory second third) :
    Transmitted memory first third := by
  refine ⟨after.receive.trans before.receive, after.pending.trans before.pending,
    after.guestPageSize.trans before.guestPageSize, after.size.trans before.size,
    after.rings.trans before.rings, before.backend.trans after.backend,
    before.counts.trans after.counts, ?_⟩
  have later := after.memory
  rw [before.size, before.rings] at later
  exact before.memory.trans later

/-- Reading is transmitting nothing. -/
theorem Transmitted.of_reads {statistics : VirtioNetStatistics} {after : δ}
    (reads : Reads memory (device.statistics, dma) (statistics, after)) :
    Transmitted memory (device, dma) ({ device with statistics }, after) :=
  ⟨rfl, rfl, rfl, rfl, rfl, .refl _, reads.counts, .of_eq reads.sound reads.contents⟩

theorem transmitted_transmitChain (chain : List Descriptor) (sound : memory.sound dma) :
    Transmitted memory (device, dma) (transmitChain device chain dma).2 := by
  unfold transmitChain
  split
  · exact .refl sound
  split
  · exact .refl sound
  obtain ⟨soundRead, sameRead⟩ := gatherChain_reads chain sound
  generalize gatherChain chain dma = read at soundRead sameRead ⊢
  obtain ⟨read, after⟩ := read
  cases read with
  | none => exact .of_reads ⟨soundRead, sameRead, rfl, rfl⟩
  | some packet =>
    dsimp only
    split
    · exact .of_reads ⟨soundRead, sameRead, rfl, rfl⟩
    · rename_i backend attached
      have given : Gives device.backend
          (some (NetworkBackend.sendFrame (packet.drop netHeaderSize) backend)) :=
        ⟨[packet.drop netHeaderSize], by rw [attached]; rfl⟩
      exact ⟨rfl, rfl, rfl, rfl, rfl, given, ⟨rfl, rfl⟩, .of_eq soundRead sameRead⟩

theorem transmitted_transmitNext (some : device.transmit.size ≠ 0) (sound : memory.sound dma) :
    Transmitted memory (device, dma) (transmitNext device dma).2 := by
  obtain ⟨soundIndex, sameIndex, _⟩ := DmaMemory.read_spec sound
    (device.transmit.rings.availableRing + 2) .halfWord
  unfold transmitNext
  dsimp only
  split
  · exact .of_reads ⟨soundIndex, sameIndex, rfl, rfl⟩
  split
  · exact .of_reads ⟨soundIndex, sameIndex, rfl, rfl⟩
  generalize (DmaAccess.dmaRead (device.transmit.rings.availableRing + 2) .halfWord dma).2 =
    indexed at *
  have headed := reads_readAvailableHead device.transmit device.statistics soundIndex
  generalize readAvailableHead device.transmit (device.statistics, indexed) = read at headed ⊢
  obtain ⟨read, statistics, entered⟩ := read
  have reached : Transmitted memory (device, dma) ({ device with statistics }, entered) :=
    .of_reads ⟨headed.sound, headed.contents.trans sameIndex, headed.counts⟩
  cases read with
  | none => exact reached
  | some head =>
    dsimp only
    have chained := reads_loadWholeChain device.transmit head (countChain statistics) headed.sound
    generalize loadWholeChain device.transmit head (countChain statistics, entered) = chain
      at chained ⊢
    obtain ⟨chain, counted, loaded⟩ := chain
    dsimp only at chained ⊢
    have followed : Transmitted memory (device, dma) ({ device with statistics := counted }, loaded) :=
      reached.trans ⟨rfl, rfl, rfl, rfl, rfl, .refl _, ⟨chained.counts.pending, chained.counts.dropped⟩,
        .of_eq chained.sound chained.contents⟩
    have sent : Transmitted memory (device, dma)
        (transmitIfValid { device with statistics := counted } chain loaded).2 := by
      unfold transmitIfValid
      split
      · exact followed
      · exact followed.trans (transmitted_transmitChain _ chained.sound)
    generalize transmitIfValid { device with statistics := counted } chain loaded = ended at sent ⊢
    obtain ⟨done, after, final⟩ := ended
    dsimp only at sent ⊢
    generalize counting : (if done = true then after.statistics else
      { after.statistics with
        droppedTransmitFrames := after.statistics.droppedTransmitFrames + 1 }) = recounted
    have recount : SameCounts after.statistics recounted := by
      subst counting
      split <;> exact ⟨rfl, rfl⟩
    obtain ⟨preserved, counts, completed⟩ :=
      preserves_completeChain some head 0 recounted sent.memory.sound
    generalize completeChain device.transmit head 0 (recounted, final) = complete at *
    obtain ⟨queue, statistics', stored⟩ := complete
    dsimp only at preserved counts completed
    have total : SameCounts device.statistics statistics' :=
      (sent.counts.trans recount).trans counts
    cases queue with
    | none =>
      exact ⟨sent.receive, sent.pending, sent.guestPageSize, sent.size, sent.rings, sent.backend,
        total, sent.memory.trans preserved⟩
    | some queue =>
      obtain ⟨usedIndex, rfl⟩ := completed queue rfl
      exact ⟨sent.receive, sent.pending, sent.guestPageSize, rfl, rfl, sent.backend,
        ⟨total.pending, total.dropped⟩, sent.memory.trans preserved⟩

theorem transmitted_transmitLoop (count : Nat) (some : device.transmit.size ≠ 0)
    (sound : memory.sound dma) :
    Transmitted memory (device, dma) (transmitLoop count device dma) := by
  induction count generalizing device dma with
  | zero => exact .refl sound
  | succ count ih =>
    have round := transmitted_transmitNext some sound
    unfold transmitLoop
    dsimp only
    split
    · exact round.trans (ih (by rw [round.size]; exact some) round.memory.sound)
    · exact round

theorem transmitted_processTransmitQueue (sound : memory.sound dma) :
    Transmitted memory (device, dma) (processTransmitQueue device dma) := by
  unfold processTransmitQueue
  split
  · exact .refl sound
  · rename_i configured
    refine transmitted_transmitLoop _ (fun zero => configured ?_) sound
    simp [queueConfigured, zero]

end RvEmulator.Devices.VirtioNet
