import RvEmulator.Devices.VirtioNet

/-! The queues of the network device: transmission, reception and the tick. -/

namespace RvEmulator.Devices

open Platform

namespace VirtioNet

variable {ν δ : Type}

/-! ### Chains -/

section

variable [DmaAccess δ]

/-- The loop that follows a chain; `none` for a chain that leaves the table, comes back
to itself or does not end, and for a refused access, which is counted. -/
def loadChain (queue : Queue) :
    (count : Nat) → (visited : List (BitVec 16)) → (current : BitVec 16) →
      StateM (VirtioNetStatistics × δ) (Option (List Descriptor))
  | 0, _, _ => fun state => (none, state)
  | count + 1, visited, current => fun (statistics, dma) =>
    if queue.size ≤ current ∨ current ∈ visited then (none, statistics, dma)
    else
      match queue.rings.readDescriptor current dma with
      | (none, dma) => (none, statistics.failDma, dma)
      | (some descriptor, dma) =>
        if !descriptor.hasNext then (some [descriptor], statistics, dma)
        else
          let rest := loadChain queue count (current :: visited) descriptor.next (statistics, dma)
          (rest.1.map (descriptor :: ·), rest.2)

theorem loadChain_succ (queue : Queue) (count : Nat) (visited : List (BitVec 16))
    (current : BitVec 16) (statistics : VirtioNetStatistics) (dma : δ) :
    loadChain queue (count + 1) visited current (statistics, dma) =
      if queue.size ≤ current ∨ current ∈ visited then (none, statistics, dma)
      else
        match queue.rings.readDescriptor current dma with
        | (none, dma) => (none, statistics.failDma, dma)
        | (some descriptor, dma) =>
          if !descriptor.hasNext then (some [descriptor], statistics, dma)
          else
            let rest :=
              loadChain queue count (current :: visited) descriptor.next (statistics, dma)
            (rest.1.map (descriptor :: ·), rest.2) := rfl

/-- A chain that does not end is dropped. -/
theorem loadChain_follow (queue : Queue) (count : Nat) (visited : List (BitVec 16))
    (current : BitVec 16) (statistics : VirtioNetStatistics) (dma : δ) :
    loadChain queue count visited current (statistics, dma) =
      ((queue.rings.follow queue.size count visited current dma).1.whole,
        if (queue.rings.follow queue.size count visited current dma).1 = .refused then
          statistics.failDma else statistics,
        (queue.rings.follow queue.size count visited current dma).2) := by
  induction count generalizing dma visited current with
  | zero => rfl
  | succ count ih =>
    rw [loadChain_succ, Rings.follow_succ]
    split
    · rfl
    generalize queue.rings.readDescriptor current dma = read
    obtain ⟨_ | descriptor, after⟩ := read
    · rfl
    dsimp only
    split
    · rfl
    · rw [ih]
      simp only [Following.whole_cons, Following.cons_eq_refused]

/-- `count` is the size of the queue, and nothing has been visited yet. -/
def loadWholeChain (queue : Queue) (head : BitVec 16) :
    StateM (VirtioNetStatistics × δ) (Option (List Descriptor)) := fun state =>
  if queue.size ≤ head then (none, state)
  else loadChain queue queue.size.toNat [] head state

def readAvailableHead (queue : Queue) :
    StateM (VirtioNetStatistics × δ) (Option (BitVec 16)) := fun (statistics, dma) =>
  let entry := DmaAccess.dmaRead (queue.rings.ringEntry queue.size queue.lastAvailableIndex)
    .halfWord dma
  if !entry.1.ok then (none, statistics.failDma, entry.2)
  else (some (entry.1.value.setWidth 16), statistics, entry.2)

/-- The queue after its chain was put on the used ring; `none` where that was refused. -/
def completeChain (queue : Queue) (head : BitVec 16) (bytesWritten : BitVec 32) :
    StateM (VirtioNetStatistics × δ) (Option Queue) := fun (statistics, dma) =>
  let element := queue.rings.usedElement queue.size queue.usedIndex
  let id := DmaAccess.dmaWrite element .word (head.setWidth 64) dma
  if id.1 ≠ .none then (none, statistics.failDma, id.2)
  else
    let length := DmaAccess.dmaWrite (element + 4) .word (bytesWritten.setWidth 64) id.2
    if length.1 ≠ .none then (none, statistics.failDma, length.2)
    else
      let nextUsed := queue.usedIndex + 1
      let index := DmaAccess.dmaWrite (queue.rings.usedRing + 2) .halfWord
        (nextUsed.setWidth 64) length.2
      if index.1 ≠ .none then (none, statistics.failDma, index.2)
      else (some { queue with usedIndex := nextUsed }, statistics, index.2)

/-- A chain was used up. -/
def raiseInterrupt (device : VirtioNet ν) : VirtioNet ν :=
  { device with
    interruptStatus := device.interruptStatus ||| 0x1
    statistics := { device.statistics with
      interruptsRaised := device.statistics.interruptsRaised + 1 } }

def countChain (statistics : VirtioNetStatistics) : VirtioNetStatistics :=
  { statistics with descriptorChains := statistics.descriptorChains + 1 }

/-! ### Transmission -/

/-- The length of a packet, if no descriptor is for writing and none is too long. -/
def packetSize : List Descriptor → (total : Nat) → Option Nat
  | [], total => some total
  | descriptor :: rest, total =>
    if descriptor.isWrite = true ∨
        maximumFrameSize + netHeaderSize - total < descriptor.length.toNat then none
    else packetSize rest (total + descriptor.length.toNat)

def gatherChain : List Descriptor → StateM δ (Option (List (BitVec 8)))
  | [] => fun dma => (some [], dma)
  | descriptor :: rest => fun dma =>
    match gather descriptor.address descriptor.length.toNat dma with
    | (none, dma) => (none, dma)
    | (some bytes, dma) =>
      let others := gatherChain rest dma
      (others.1.map (bytes ++ ·), others.2)

end

section

variable [DmaAccess δ] [NetworkBackend ν]

/-- Whether the frame of a chain was sent. -/
def transmitChain (device : VirtioNet ν) (chain : List Descriptor) (dma : δ) :
    Bool × VirtioNet ν × δ :=
  match packetSize chain 0 with
  | none => (false, device, dma)
  | some total =>
    if total ≤ netHeaderSize then (false, device, dma)
    else
      match gatherChain chain dma with
      | (none, dma) => (false, { device with statistics := device.statistics.failDma }, dma)
      | (some packet, dma) =>
        let frame := packet.drop netHeaderSize
        match device.backend with
        | none => (false, device, dma)
        | some backend =>
          (true,
            { device with
              backend := some (NetworkBackend.sendFrame frame backend)
              statistics := { device.statistics with
                transmittedFrames := device.statistics.transmittedFrames + 1
                transmittedBytes := device.statistics.transmittedBytes +
                  BitVec.ofNat 64 frame.length } }, dma)

/-- `chain_valid && transmit_chain(...)`. -/
def transmitIfValid (device : VirtioNet ν) (chain : Option (List Descriptor)) (dma : δ) :
    Bool × VirtioNet ν × δ :=
  match chain with
  | none => (false, device, dma)
  | some chain => transmitChain device chain dma

/-- One round of the loop of `process_transmit_queue`; `false` where it breaks off. -/
def transmitNext (device : VirtioNet ν) (dma : δ) : Bool × VirtioNet ν × δ :=
  let available := DmaAccess.dmaRead (device.transmit.rings.availableRing + 2) .halfWord dma
  if !available.1.ok then
    (false, { device with statistics := device.statistics.failDma }, available.2)
  else if device.transmit.lastAvailableIndex = available.1.value.setWidth 16 then
    (false, device, available.2)
  else
    match readAvailableHead device.transmit (device.statistics, available.2) with
    | (none, statistics, dma) => (false, { device with statistics }, dma)
    | (some head, statistics, dma) =>
      let chain := loadWholeChain device.transmit head (countChain statistics, dma)
      let sent := transmitIfValid { device with statistics := chain.2.1 } chain.1 chain.2.2
      let counted := if sent.1 then sent.2.1.statistics else
        { sent.2.1.statistics with
          droppedTransmitFrames := sent.2.1.statistics.droppedTransmitFrames + 1 }
      match completeChain device.transmit head 0 (counted, sent.2.2) with
      | (none, statistics, dma) => (false, { sent.2.1 with statistics }, dma)
      | (some queue, statistics, dma) =>
        (true, raiseInterrupt { sent.2.1 with
          statistics
          transmit := { queue with lastAvailableIndex := queue.lastAvailableIndex + 1 } }, dma)

def transmitLoop : (count : Nat) → VirtioNet ν → δ → VirtioNet ν × δ
  | 0, device, dma => (device, dma)
  | count + 1, device, dma =>
    let round := transmitNext device dma
    if round.1 then transmitLoop count round.2.1 round.2.2 else round.2

def processTransmitQueue (device : VirtioNet ν) (dma : δ) : VirtioNet ν × δ :=
  if !device.queueConfigured device.transmit then (device, dma)
  else transmitLoop device.transmit.size.toNat device dma

end

/-! ### Reception -/

section

variable [DmaAccess δ]

/-- The room of a chain, if all of it is for writing. -/
def chainCapacity : List Descriptor → (capacity : Nat) → Option Nat
  | [], capacity => some capacity
  | descriptor :: rest, capacity =>
    if descriptor.isWrite = false ∨ 2 ^ 64 - 1 - capacity < descriptor.length.toNat then none
    else chainCapacity rest (capacity + descriptor.length.toNat)

/-- Writes bytes to at most `count` addresses; returns the bytes that are left, or `none`
where a write was refused. -/
def fill (address : PhysAddr) :
    (count : Nat) → List (BitVec 8) → StateM δ (Option (List (BitVec 8)))
  | 0, bytes => fun dma => (some bytes, dma)
  | _ + 1, [] => fun dma => (some [], dma)
  | count + 1, byte :: rest => fun dma =>
    let stored := DmaAccess.dmaWrite address .byte (byte.setWidth 64) dma
    if stored.1 ≠ .none then (none, stored.2) else fill (address + 1) count rest stored.2

/-- Spreads bytes over the descriptors of a chain. -/
def fillChain : List Descriptor → List (BitVec 8) → StateM δ Bool
  | [], _ => fun dma => (true, dma)
  | descriptor :: rest, bytes => fun dma =>
    match fill descriptor.address descriptor.length.toNat bytes dma with
    | (none, dma) => (false, dma)
    | (some left, dma) => fillChain rest left dma

/-- What the guest receives: an empty header, and the frame. -/
def packet (frame : Frame) : List (BitVec 8) := List.replicate netHeaderSize 0 ++ frame

/-- The number of bytes written, if the frame was received. -/
def receiveChain (chain : List Descriptor) (frame : Frame) :
    StateM (VirtioNetStatistics × δ) (Option (BitVec 32)) := fun (statistics, dma) =>
  match chainCapacity chain 0 with
  | none => (none, statistics, dma)
  | some capacity =>
    let required := netHeaderSize + frame.length
    if capacity < required ∨ 2 ^ 32 - 1 < required then (none, statistics, dma)
    else
      let filled := fillChain chain (packet frame) dma
      if filled.1 then
        (some (BitVec.ofNat 32 required),
          { statistics with
            receivedFrames := statistics.receivedFrames + 1
            receivedBytes := statistics.receivedBytes + BitVec.ofNat 64 frame.length },
          filled.2)
      else (none, statistics.failDma, filled.2)

/-- `chain_valid && receive_chain(...)`. -/
def receiveIfValid (chain : Option (List Descriptor)) (frame : Frame) :
    StateM (VirtioNetStatistics × δ) (Option (BitVec 32)) := fun state =>
  match chain with
  | none => (none, state)
  | some chain => receiveChain chain frame state

/-- A frame that was taken off the pending ones, and the used element for its chain. -/
structure Delivery where
  frame : Frame
  head : BitVec 16
  written : BitVec 32
deriving DecidableEq, Repr

/-- One round of the loop of `process_receive_queue`; `none` where it breaks off. -/
def receiveNext (device : VirtioNet ν) (frame : Frame) (rest : List Frame) (dma : δ) :
    Option Delivery × VirtioNet ν × δ :=
  let available := DmaAccess.dmaRead (device.receive.rings.availableRing + 2) .halfWord dma
  if !available.1.ok then
    (none, { device with statistics := device.statistics.failDma }, available.2)
  else if device.receive.lastAvailableIndex = available.1.value.setWidth 16 then
    (none, { device with
      statistics := { device.statistics with
        receiveQueueStarvations := device.statistics.receiveQueueStarvations + 1 } }, available.2)
  else
    match readAvailableHead device.receive (device.statistics, available.2) with
    | (none, statistics, dma) => (none, { device with statistics }, dma)
    | (some head, statistics, dma) =>
      let chain := loadWholeChain device.receive head (countChain statistics, dma)
      let received := receiveIfValid chain.1 frame chain.2
      let counted := if received.1.isSome then received.2.1 else received.2.1.dropReceived
      let written := received.1.getD 0
      let popped := { device with pendingReceiveFrames := rest }
      match completeChain device.receive head written
          (counted.setPending rest.length, received.2.2) with
      | (none, statistics, dma) => (none, { popped with statistics }, dma)
      | (some queue, statistics, dma) =>
        (some { frame, head, written }, raiseInterrupt { popped with
          statistics
          receive := { queue with lastAvailableIndex := queue.lastAvailableIndex + 1 } }, dma)

/-- The frames that were taken off the pending ones are returned too. -/
def receiveLoop : (count : Nat) → VirtioNet ν → δ → List Delivery × VirtioNet ν × δ
  | 0, device, dma => ([], device, dma)
  | count + 1, device, dma =>
    match device.pendingReceiveFrames with
    | [] => ([], device, dma)
    | frame :: rest =>
      match receiveNext device frame rest dma with
      | (none, device, dma) => ([], device, dma)
      | (some delivery, device, dma) =>
        let others := receiveLoop count device dma
        (delivery :: others.1, others.2)

def processReceiveQueue (device : VirtioNet ν) (dma : δ) : List Delivery × VirtioNet ν × δ :=
  if !device.queueConfigured device.receive then ([], device, dma)
  else receiveLoop device.receive.size.toNat device dma

end

section

variable [DmaAccess δ] [NetworkBackend ν]

/-- The part of a tick before frames are received. -/
def pollAndTransmit (device : VirtioNet ν) (cycles : BitVec 64) (dma : δ) :
    List Frame × VirtioNet ν × δ :=
  let forced := device.backendPollRequested
  let polled := collectBackendFrames { device with backendPollRequested := false } cycles forced
  if polled.2.transmit.notificationPending then
    let transmitted := processTransmitQueue
      { polled.2 with transmit := { polled.2.transmit with notificationPending := false } } dma
    (polled.1,
      { transmitted.1 with backendPollRequested := transmitted.1.backend.isSome },
      transmitted.2)
  else (polled.1, polled.2, dma)

/-- The frames that were kept from the backend, and those that were taken off the pending
ones, are returned too. -/
def tick (device : VirtioNet ν) (cycles : BitVec 64) (dma : δ) :
    (List Frame × List Delivery) × VirtioNet ν × δ :=
  let polled := pollAndTransmit device cycles dma
  let device : VirtioNet ν := { polled.2.1 with
    receive := { polled.2.1.receive with notificationPending := false } }
  if device.pendingReceiveFrames.isEmpty then ((polled.1, []), device, polled.2.2)
  else
    let received := processReceiveQueue device polled.2.2
    ((polled.1, received.1), received.2)

end

end VirtioNet

end RvEmulator.Devices
