import RvEmulator.Devices.NetChain

/-! Frames that are taken off the pending ones, one chain for each. -/

namespace RvEmulator.Devices.VirtioNet

open Library Platform

/-- Whether a frame fits into the chain of a head. -/
def Accepts (rings : Rings) (size : BitVec 16) (memory : Memory) (head : BitVec 16)
    (frame : Frame) : Prop :=
  ∃ chain, rings.validChain size memory head = some chain ∧ Takes chain frame

/-- What a delivery does to guest memory: a frame that fits into its chain is there,
behind an empty header; nothing else has changed but the used ring, which shows the chain
and its length. -/
structure Delivered (rings : Rings) (size index : BitVec 16) (delivery : Delivery)
    (before after : Memory) : Prop where
  head : delivery.head = rings.headAt before (index.toNat % size.toNat)
  element : rings.elementAt after (index.toNat % size.toNat) =
    (delivery.head.setWidth 32, delivery.written)
  elements : ∀ slot < size.toNat, slot ≠ index.toNat % size.toNat →
    rings.elementAt after slot = rings.elementAt before slot
  usedIndex : rings.usedIndexAt after = index + 1
  received : ∀ chain, rings.validChain size before delivery.head = some chain →
    Takes chain delivery.frame →
    delivery.written = BitVec.ofNat 32 (netHeaderSize + delivery.frame.length) ∧
      (∀ (i : Nat) address byte, (addresses chain)[i]? = some address →
        (packet delivery.frame)[i]? = some byte → after address = byte) ∧
      ∀ address, address ∉ (addresses chain).take (netHeaderSize + delivery.frame.length) →
        ¬rings.InUsed size address → after address = before address
  dropped : ¬Accepts rings size before delivery.head delivery.frame →
    delivery.written = 0 ∧ ∀ address, ¬rings.InUsed size address → after address = before address

/-- A frame that the device keeps if there is room for it. -/
def Fits (frame : Frame) : Prop := frame ≠ [] ∧ frame.length ≤ maximumFrameSize

instance : DecidablePred Fits := fun _ => inferInstanceAs (Decidable (_ ∧ _))

/-- The pending frames and what is counted about them. -/
structure Counted (pending : List Frame) (statistics : VirtioNetStatistics) : Prop where
  bounded : pending.length ≤ maximumPendingFrames
  counted : statistics.pendingReceiveFrames = BitVec.ofNat 64 pending.length
  fits : ∀ frame ∈ pending, Fits frame

section

variable {ν δ : Type} [DmaAccess δ] {memory : DmaMemory δ}

/-- What a driver must not do: give a buffer twice in a chain, or one that overlaps the
queue. -/
structure Free (memory : DmaMemory δ) (rings : Rings) (size : BitVec 16)
    (chain : List Descriptor) : Prop where
  distinct : (addresses chain).Nodup
  apart : ∀ address ∈ addresses chain, ¬rings.Contains size address
  answered : ∀ address ∈ addresses chain, memory.answers address .byte

/-- A frame was taken off the pending ones. -/
structure Consumed (memory : DmaMemory δ) (before : VirtioNet ν × δ) (delivery : Delivery)
    (after : VirtioNet ν × δ) : Prop where
  pending : before.1.pendingReceiveFrames = delivery.frame :: after.1.pendingReceiveFrames
  delivered : Delivered before.1.receive.rings before.1.receive.size before.1.receive.usedIndex
    delivery (memory.contents before.2) (memory.contents after.2)
  kept : Accepts before.1.receive.rings before.1.receive.size (memory.contents before.2)
      delivery.head delivery.frame →
    after.1.statistics.droppedReceiveFrames = before.1.statistics.droppedReceiveFrames
  dropped : ¬Accepts before.1.receive.rings before.1.receive.size (memory.contents before.2)
      delivery.head delivery.frame →
    after.1.statistics.droppedReceiveFrames = before.1.statistics.droppedReceiveFrames + 1

/-- No frame was taken off the pending ones, and guest memory is as it was. -/
structure Idle (memory : DmaMemory δ) (before after : VirtioNet ν × δ) : Prop where
  pending : after.1.pendingReceiveFrames = before.1.pendingReceiveFrames
  dropped : after.1.statistics.droppedReceiveFrames = before.1.statistics.droppedReceiveFrames
  contents : memory.contents after.2 = memory.contents before.2

/-- Frames were taken off the pending ones, one after the other. -/
inductive Consumes (memory : DmaMemory δ) :
    VirtioNet ν × δ → List Delivery → VirtioNet ν × δ → Prop where
  | nil : Idle memory before after → Consumes memory before [] after
  | cons : Consumed memory before delivery middle → Consumes memory middle deliveries after →
      Consumes memory before (delivery :: deliveries) after

/-- What stays fixed about the receive queue. -/
structure Wired (memory : DmaMemory δ) (size : BitVec 16) (rings : Rings) : Prop where
  follows : ∃ gap, rings.Follows size.toNat gap
  divides : size.toNat ∣ 2 ^ 16
  small : size.toNat ≤ 256
  answered : rings.Answered memory size
  table : rings.TableAnswered memory size

/-- The receive side of the device after `count` frames were consumed. -/
structure Receiving (memory : DmaMemory δ) (size : BitVec 16) (rings : Rings) (count : Nat)
    (device : VirtioNet ν) (dma : δ) : Prop where
  size : device.receive.size = size
  placed : device.receive.rings = rings
  configured : device.queueConfigured device.receive = true
  lastAvailableIndex : device.receive.lastAvailableIndex = BitVec.ofNat 16 count
  usedIndex : device.receive.usedIndex = BitVec.ofNat 16 count
  frames : Counted device.pendingReceiveFrames device.statistics
  sound : memory.sound dma

/-- The chains that a driver has made available, from `count` on, are free: at least
the next `rounds` of them. -/
def Offers (memory : DmaMemory δ) (size : BitVec 16) (rings : Rings) (count rounds : Nat)
    (contents : Memory) : Prop :=
  ∀ j < (rings.availableIndexAt contents - BitVec.ofNat 16 count).toNat, j < rounds →
    ∀ chain, rings.validChain size contents
        (rings.headAt contents ((count + j) % size.toNat)) = some chain →
      Free memory rings size chain

variable {size : BitVec 16} {rings : Rings} {count : Nat} {device : VirtioNet ν} {dma : δ}

theorem completeChain_eq {queue : Queue} (answered : queue.rings.Answered memory queue.size)
    (sound : memory.sound dma) (head : BitVec 16) (written : BitVec 32)
    (statistics : VirtioNetStatistics) :
    ∃ after, completeChain queue head written (statistics, dma) =
        (some { queue with usedIndex := queue.usedIndex + 1 }, statistics, after) ∧
      memory.sound after ∧
      memory.contents after = queue.rings.completed queue.size queue.usedIndex head written
        (memory.contents dma) := by
  obtain ⟨id, length, index, soundAfter, contents⟩ :=
    answered.complete sound queue.usedIndex head written
  unfold completeChain
  dsimp only
  rw [id, length, index]
  exact ⟨_, rfl, soundAfter, contents⟩

theorem readAvailableHead_eq {queue : Queue} (answered : queue.rings.Answered memory queue.size)
    (sound : memory.sound dma) (statistics : VirtioNetStatistics) :
    ∃ after, readAvailableHead queue (statistics, dma) =
        (some (queue.rings.headAt (memory.contents dma)
          (queue.lastAvailableIndex.toNat % queue.size.toNat)), statistics, after) ∧
      memory.sound after ∧ memory.contents after = memory.contents dma := by
  obtain ⟨ok, value, soundAfter, same⟩ :=
    DmaMemory.read_answered sound (answered.head queue.lastAvailableIndex)
  unfold readAvailableHead
  dsimp only
  rw [ok, value, Rings.ringEntry_eq]
  rw [Rings.ringEntry_eq] at soundAfter same
  exact ⟨_, rfl, soundAfter, same⟩

/-- The whole chain of a head. -/
theorem loadWholeChain_eq {queue : Queue} (table : queue.rings.TableAnswered memory queue.size)
    (sound : memory.sound dma) (head : BitVec 16) (statistics : VirtioNetStatistics) :
    ∃ after, loadWholeChain queue head (statistics, dma) =
        (queue.rings.validChain queue.size (memory.contents dma) head, statistics, after) ∧
      memory.sound after ∧ memory.contents after = memory.contents dma := by
  unfold loadWholeChain
  by_cases outside : queue.size ≤ head
  · rw [if_pos outside]
    refine ⟨dma, ?_, sound, rfl⟩
    have none : queue.rings.validChain queue.size (memory.contents dma) head = none := by
      unfold Rings.validChain
      cases queue.size.toNat with
      | zero => rfl
      | succ count => exact if_pos (.inl outside)
    rw [none]
  · rw [if_neg outside]
    exact loadChain_eq queue table sound statistics _ [] head

/-- The memory after a delivery, in terms of what the chain took. -/
theorem delivered_of_completed (wired : Wired memory size rings) {before request after : Memory}
    {index : BitVec 16} {delivery : Delivery}
    (head : delivery.head = rings.headAt before (index.toNat % size.toNat))
    (completed : after = rings.completed size index delivery.head delivery.written request)
    (free : ∀ chain, rings.validChain size before delivery.head = some chain →
      Free memory rings size chain)
    (received : ∀ chain, rings.validChain size before delivery.head = some chain →
      Takes chain delivery.frame →
      delivery.written = BitVec.ofNat 32 (netHeaderSize + delivery.frame.length) ∧
        request = before.pour (addresses chain) (packet delivery.frame))
    (dropped : ¬Accepts rings size before delivery.head delivery.frame →
      delivery.written = 0 ∧ request = before) :
    Delivered rings size index delivery before after := by
  obtain ⟨gap, follows⟩ := wired.follows
  have length : (packet delivery.frame).length = netHeaderSize + delivery.frame.length := by
    rw [packet, List.length_append, List.length_replicate]
  -- A delivery leaves the used ring to the completion.
  have used : ∀ address, rings.InUsed size address → request address = before address := by
    intro address inside
    by_cases accepted : Accepts rings size before delivery.head delivery.frame
    · obtain ⟨chain, valid, taken⟩ := accepted
      rw [(received chain valid taken).2]
      apply Memory.pour_of_not_mem
      intro member
      exact (free chain valid).apart address (List.mem_of_mem_take member) (.inr (.inr inside))
    · rw [(dropped accepted).2]
  subst completed
  refine ⟨head, Rings.elementAt_completed _ follows.positive _ _ _ _, ?_, Rings.usedIndexAt_completed _ _ _ _ _ _,
    ?_, ?_⟩
  · intro slot inside other
    rw [follows.elementAt_other _ _ _ _ inside other, Rings.elementAt_congr used inside]
  · intro chain valid taken
    obtain ⟨written, poured⟩ := received chain valid taken
    refine ⟨written, ?_, ?_⟩
    · intro i address byte place value
      have outside : ¬rings.InUsed size address := fun inside =>
        (free chain valid).apart address (List.mem_of_getElem? place) (.inr (.inr inside))
      rw [follows.completed_outside _ _ _ _ outside, poured]
      exact Memory.pour_getElem (free chain valid).distinct place value
    · intro address untouched outside
      rw [follows.completed_outside _ _ _ _ outside, poured]
      apply Memory.pour_of_not_mem
      rwa [length]
  · intro refused
    obtain ⟨written, same⟩ := dropped refused
    refine ⟨written, fun address outside => ?_⟩
    rw [follows.completed_outside _ _ _ _ outside, same]

/-- The frame is received, or it is not. -/
theorem received_eq (wired : Wired memory size rings) (sound : memory.sound dma) {frame : Frame}
    (small : frame.length ≤ maximumFrameSize) {head : BitVec 16}
    (free : ∀ chain, rings.validChain size (memory.contents dma) head = some chain →
      Free memory rings size chain)
    (statistics : VirtioNetStatistics) :
    ∃ result counted after,
      receiveIfValid (rings.validChain size (memory.contents dma) head) frame (statistics, dma) =
        (result, counted, after) ∧
      memory.sound after ∧ counted.droppedReceiveFrames = statistics.droppedReceiveFrames ∧
      (∀ chain, rings.validChain size (memory.contents dma) head = some chain →
        Takes chain frame →
        result = some (BitVec.ofNat 32 (netHeaderSize + frame.length)) ∧
          memory.contents after =
            (memory.contents dma).pour (addresses chain) (packet frame)) ∧
      (¬Accepts rings size (memory.contents dma) head frame →
        result = none ∧ memory.contents after = memory.contents dma) := by
  cases valid : rings.validChain size (memory.contents dma) head with
  | none =>
    refine ⟨none, statistics, dma, rfl, sound, rfl, fun chain found => ?_, fun _ => ⟨rfl, rfl⟩⟩
    cases found
  | some chain =>
    have short := Nat.le_trans (Rings.length_chainOf valid) wired.small
    obtain ⟨counted, after, received, soundAfter, contents, same⟩ :=
      receiveChain_eq sound short small (free chain valid).answered statistics
    refine ⟨_, counted, after, received, soundAfter, same, ?_, ?_⟩
    · intro other found taken
      cases found
      rw [if_pos taken] at contents ⊢
      exact ⟨rfl, contents⟩
    · intro refused
      have untaken : ¬Takes chain frame := fun taken => refused ⟨chain, valid, taken⟩
      rw [if_neg untaken] at contents ⊢
      exact ⟨rfl, contents⟩

/-- A round delivers the first pending frame. -/
theorem receiveNext_eq (wired : Wired memory size rings)
    (receiving : Receiving memory size rings count device dma)
    {frame : Frame} {rest : List Frame} (pending : device.pendingReceiveFrames = frame :: rest)
    (available : rings.availableIndexAt (memory.contents dma) ≠ BitVec.ofNat 16 count)
    (free : ∀ chain, rings.validChain size (memory.contents dma)
        (rings.headAt (memory.contents dma) (count % size.toNat)) = some chain →
      Free memory rings size chain) :
    ∃ delivery device' dma', receiveNext device frame rest dma = (some delivery, device', dma') ∧
      Consumed memory (device, dma) delivery (device', dma') ∧
      Receiving memory size rings (count + 1) device' dma' := by
  obtain ⟨rfl, rfl, configured, last, used, ⟨bounded, _, fits⟩, sound⟩ := receiving
  have slot : device.receive.lastAvailableIndex.toNat % device.receive.size.toNat =
      count % device.receive.size.toNat := by
    rw [last, Ring.counter_slot wired.divides]
  have usedSlot : device.receive.usedIndex.toNat % device.receive.size.toNat =
      count % device.receive.size.toNat := by
    rw [used, Ring.counter_slot wired.divides]
  rw [pending] at fits bounded
  obtain ⟨ok, value, soundIndex, sameIndex⟩ :=
    DmaMemory.read_answered sound wired.answered.availableIndex
  have index : (DmaAccess.dmaRead (device.receive.rings.availableRing + 2) .halfWord
      dma).1.value.setWidth 16 = device.receive.rings.availableIndexAt (memory.contents dma) := by
    rw [value]
    rfl
  have another : ¬device.receive.lastAvailableIndex =
      device.receive.rings.availableIndexAt (memory.contents dma) := by
    rw [last]
    exact available.symm
  unfold receiveNext
  dsimp only
  rw [ok, index, if_neg another]
  obtain ⟨readHead, headEq, soundHead, sameHead⟩ :=
    readAvailableHead_eq wired.answered soundIndex device.statistics
  rw [sameIndex, slot] at headEq
  rw [headEq]
  generalize wholeHead : device.receive.rings.headAt (memory.contents dma)
    (count % device.receive.size.toNat) = head at *
  obtain ⟨loaded, loadedEq, soundLoaded, sameLoaded⟩ :=
    loadWholeChain_eq wired.table soundHead head (countChain device.statistics)
  dsimp only
  rw [loadedEq]
  dsimp only
  have same : memory.contents loaded = memory.contents dma :=
    sameLoaded.trans (sameHead.trans sameIndex)
  rw [← sameLoaded]
  obtain ⟨result, measured, after, received, soundAfter, uncounted, taken, refused⟩ :=
    received_eq wired soundLoaded (fits frame List.mem_cons_self).2
      (by rw [same]; exact free) (countChain device.statistics)
  rw [received]
  rw [same] at taken refused
  dsimp only
  generalize counting : (if result.isSome = true then measured else measured.dropReceived).setPending
    rest.length = statistics
  obtain ⟨final, completed, soundFinal, contents⟩ :=
    completeChain_eq wired.answered soundAfter head (result.getD 0) statistics
  rw [completed]
  refine ⟨_, _, final, rfl, ⟨pending, ?_, ?_, ?_⟩, ?_⟩
  · refine delivered_of_completed wired ?_ contents free ?_ ?_
    · rw [usedSlot]
      exact wholeHead.symm
    · intro chain valid fit
      obtain ⟨some, poured⟩ := taken chain valid fit
      exact ⟨by rw [some]; rfl, poured⟩
    · intro unfit
      obtain ⟨none, unchanged⟩ := refused unfit
      exact ⟨by rw [none]; rfl, unchanged⟩
  · rintro ⟨chain, valid, fit⟩
    obtain ⟨some, _⟩ := taken chain valid fit
    subst counting
    rw [some]
    exact uncounted
  · intro unfit
    obtain ⟨none, _⟩ := refused unfit
    subst counting
    rw [none]
    exact congrArg (· + 1) uncounted
  · refine ⟨rfl, rfl, configured, ?_, ?_, ?_, soundFinal⟩
    · exact (congrArg (· + 1) last).trans (by rw [BitVec.ofNat_add]; rfl)
    · exact (congrArg (· + 1) used).trans (by rw [BitVec.ofNat_add]; rfl)
    · subst counting
      exact ⟨Nat.le_of_succ_le bounded, rfl,
        fun other member => fits other (List.mem_cons_of_mem _ member)⟩

/-! ### The loop -/

/-- A delivery leaves the descriptors and the available ring alone. -/
theorem Delivered.same {index : BitVec 16} {delivery : Delivery} {before after : Memory}
    (delivered : Delivered rings size index delivery before after)
    (wired : Wired memory size rings)
    (free : ∀ chain, rings.validChain size before delivery.head = some chain →
      Free memory rings size chain) {address : PhysAddr}
    (member : rings.InTable size address ∨ rings.InAvailable size address) :
    after address = before address := by
  obtain ⟨gap, follows⟩ := wired.follows
  have outside := follows.not_inUsed member
  by_cases accepted : Accepts rings size before delivery.head delivery.frame
  · obtain ⟨chain, valid, taken⟩ := accepted
    refine (delivered.received chain valid taken).2.2 address (fun inside => ?_) outside
    exact (free chain valid).apart address (List.mem_of_mem_take inside) (member.imp_right Or.inl)
  · exact (delivered.dropped accepted).2 address outside

/-- The chains are offered by the descriptors and the available ring. -/
theorem Offers.congr {rounds : Nat} {before after : Memory}
    (offers : Offers memory size rings count rounds before) (wired : Wired memory size rings)
    (same : ∀ address, rings.InTable size address ∨ rings.InAvailable size address →
      after address = before address) :
    Offers memory size rings count rounds after := by
  obtain ⟨gap, follows⟩ := wired.follows
  have index := Rings.availableIndexAt_congr fun address member => same address (.inr member)
  intro j near inside chain valid
  rw [index] at near
  apply offers j near inside chain
  rw [← valid]
  unfold Rings.validChain
  rw [Rings.chainOf_congr fun address member => same address (.inl member),
    Rings.headAt_congr (fun address member => same address (.inr member))
      (Nat.mod_lt _ follows.positive)]

/-- The chains behind the first are still offered after it was used. -/
theorem Offers.next {rounds : Nat} {contents : Memory}
    (offers : Offers memory size rings count (rounds + 1) contents)
    (available : rings.availableIndexAt contents ≠ BitVec.ofNat 16 count) :
    Offers memory size rings (count + 1) rounds contents := by
  intro j near inside chain valid
  have different : (rings.availableIndexAt contents).toNat ≠ (BitVec.ofNat 16 count).toNat :=
    fun equal => available (BitVec.eq_of_toNat_eq equal)
  have distance : j + 1 < (rings.availableIndexAt contents - BitVec.ofNat 16 count).toNat := by
    have limit := (rings.availableIndexAt contents).isLt
    rw [BitVec.toNat_sub, BitVec.toNat_ofNat] at near ⊢
    rw [BitVec.toNat_ofNat] at different
    omega
  apply offers (j + 1) distance (by omega) chain
  rwa [Nat.add_assoc, Nat.add_comm 1 j] at valid

/-- The driver has made no chain available. -/
theorem receiveNext_starved (wired : Wired memory size rings)
    (receiving : Receiving memory size rings count device dma) (frame : Frame)
    (rest : List Frame)
    (starved : rings.availableIndexAt (memory.contents dma) = BitVec.ofNat 16 count) :
    ∃ device' dma', receiveNext device frame rest dma = (none, device', dma') ∧
      Idle memory (device, dma) (device', dma') ∧
      Receiving memory size rings count device' dma' := by
  obtain ⟨rfl, rfl, configured, last, used, frames, sound⟩ := receiving
  obtain ⟨ok, value, soundIndex, sameIndex⟩ :=
    DmaMemory.read_answered sound wired.answered.availableIndex
  have index : (DmaAccess.dmaRead (device.receive.rings.availableRing + 2) .halfWord
      dma).1.value.setWidth 16 = BitVec.ofNat 16 count := by
    rw [value]
    exact starved
  unfold receiveNext
  dsimp only
  rw [ok, index, if_pos last]
  exact ⟨_, _, rfl, ⟨rfl, rfl, sameIndex⟩,
    ⟨rfl, rfl, configured, last, used, ⟨frames.bounded, frames.counted, frames.fits⟩, soundIndex⟩⟩

/-- Frames were delivered, as many as there were chains for. -/
structure Received (memory : DmaMemory δ) (size : BitVec 16) (rings : Rings) (count rounds : Nat)
    (before : VirtioNet ν × δ) (ended : List Delivery × VirtioNet ν × δ) : Prop where
  consumes : Consumes memory before ended.1 ended.2
  receiving : Receiving memory size rings (count + ended.1.length) ended.2.1 ended.2.2
  exhausted : ended.2.1.pendingReceiveFrames = [] ∨ ended.1.length = rounds ∨
    rings.availableIndexAt (memory.contents ended.2.2) = BitVec.ofNat 16 (count + ended.1.length)

theorem Received.cons {rounds : Nat} {before middle : VirtioNet ν × δ} {delivery : Delivery}
    {ended : List Delivery × VirtioNet ν × δ} (consumed : Consumed memory before delivery middle)
    (received : Received memory size rings (count + 1) rounds middle ended) :
    Received memory size rings count (rounds + 1) before (delivery :: ended.1, ended.2) := by
  have total : count + (delivery :: ended.1).length = count + 1 + ended.1.length := by
    rw [List.length_cons]
    omega
  refine ⟨.cons consumed received.consumes, ?_, ?_⟩
  · rw [total]
    exact received.receiving
  · rw [total]
    exact received.exhausted.imp_right (Or.imp_left (congrArg (· + 1)))

/-- Frames are consumed in their order. -/
theorem Consumes.pending {before after : VirtioNet ν × δ} {deliveries : List Delivery}
    (consumes : Consumes memory before deliveries after) :
    before.1.pendingReceiveFrames =
      deliveries.map (·.frame) ++ after.1.pendingReceiveFrames := by
  induction consumes with
  | nil idle => exact idle.pending.symm
  | cons consumed _ ih =>
    rw [consumed.pending, ih]
    rfl

/-- The loop delivers pending frames as long as there are chains for them. -/
theorem receiveLoop_spec (wired : Wired memory size rings) (rounds : Nat)
    (receiving : Receiving memory size rings count device dma)
    (offers : Offers memory size rings count rounds (memory.contents dma)) :
    Received memory size rings count rounds (device, dma) (receiveLoop rounds device dma) := by
  induction rounds generalizing count device dma with
  | zero => exact ⟨.nil ⟨rfl, rfl, rfl⟩, receiving, .inr (.inl rfl)⟩
  | succ rounds ih =>
    unfold receiveLoop
    split
    · rename_i none
      exact ⟨.nil ⟨rfl, rfl, rfl⟩, receiving, .inl none⟩
    rename_i frame rest pending
    by_cases starved : rings.availableIndexAt (memory.contents dma) = BitVec.ofNat 16 count
    · obtain ⟨device', dma', round, idle, same⟩ :=
        receiveNext_starved wired receiving frame rest starved
      rw [round]
      exact ⟨.nil idle, same, .inr (.inr (idle.contents.symm ▸ starved))⟩
    · have different : (rings.availableIndexAt (memory.contents dma)).toNat ≠
          (BitVec.ofNat 16 count).toNat := fun equal => starved (BitVec.eq_of_toNat_eq equal)
      have some : 0 < (rings.availableIndexAt (memory.contents dma) -
          BitVec.ofNat 16 count).toNat := by
        have limit := (rings.availableIndexAt (memory.contents dma)).isLt
        rw [BitVec.toNat_ofNat] at different
        rw [BitVec.toNat_sub, BitVec.toNat_ofNat]
        omega
      have first := offers 0 some (Nat.succ_pos _)
      rw [Nat.add_zero] at first
      obtain ⟨delivery, device', dma', round, consumed, next⟩ :=
        receiveNext_eq wired receiving pending starved first
      have head : delivery.head =
          rings.headAt (memory.contents dma) (count % size.toNat) := by
        have place := consumed.delivered.head
        dsimp only at place
        rwa [receiving.size, receiving.placed, receiving.usedIndex,
          Ring.counter_slot wired.divides] at place
      have delivered := consumed.delivered
      dsimp only at delivered
      rw [receiving.size, receiving.placed] at delivered
      rw [round]
      exact Received.cons consumed (ih next ((offers.next starved).congr wired
        fun address member => delivered.same wired (head ▸ first) member))

end

end RvEmulator.Devices.VirtioNet
