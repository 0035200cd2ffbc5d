import RvEmulator.Devices.Reentrancy

/-! The tick of the network device where its writes may reach its own registers
(`devices/src/virtio_net.cpp`). Every member is read where the source reads it, if a write
lies in between. -/

namespace RvEmulator.Devices.VirtioNet.Reentrant

open Platform Hazardous

variable {ν δ : Type}

/-- The two entries of `queues_`. -/
inductive Side where
  | receive
  | transmit
deriving DecidableEq, Repr

namespace Side

def queue (device : VirtioNet ν) : Side → Queue
  | receive => device.receive
  | transmit => device.transmit

def update (edit : Queue → Queue) (device : VirtioNet ν) : Side → VirtioNet ν
  | receive => { device with receive := edit device.receive }
  | transmit => { device with transmit := edit device.transmit }

end Side

def record (edit : VirtioNetStatistics → VirtioNetStatistics) : Hazardous (VirtioNet ν) δ Unit :=
  change fun device => { device with statistics := edit device.statistics }

section

variable [Surroundings (VirtioNet ν) δ]

/-! ### Chains -/

/-- The loop of `load_chain`. `visited` has an entry for each descriptor of the table. -/
def loadLoop (side : Side) :
    (fuel : Nat) → (count : BitVec 16) → (visited : List Bool) → (current : BitVec 16) →
      Hazardous (VirtioNet ν) δ (Option (List Descriptor))
  | 0, _, _, _ => .stop .endless
  | fuel + 1, count, visited, current => do
    let device ← device
    let queue := side.queue device
    if queue.size ≤ count then pure none
    else if queue.size ≤ current then pure none
    else do
      let seen ← elementAt visited current.toNat
      if seen then pure none
      else do
        let descriptor ← readDescriptor queue.rings.descriptorTable current
        match descriptor with
        | none => do
          record (·.failDma)
          pure none
        | some descriptor =>
          if !descriptor.hasNext then pure (some [descriptor])
          else do
            let rest ← loadLoop side fuel (count + 1) (visited.set current.toNat true)
              descriptor.next
            pure (rest.map (descriptor :: ·))

def loadWholeChain (side : Side) (head : BitVec 16) :
    Hazardous (VirtioNet ν) δ (Option (List Descriptor)) := do
  let device ← device
  let size := (side.queue device).size
  if size ≤ head then pure none
  else loadLoop side (2 ^ 16) 0 (List.replicate size.toNat false) head

def readAvailableHead (side : Side) : Hazardous (VirtioNet ν) δ (Option (BitVec 16)) := do
  let device ← device
  let queue := side.queue device
  let slot ← modulo queue.lastAvailableIndex queue.size
  let entry ← dmaRead (queue.rings.availableRing + 4 + slot.setWidth 64 * 2) .halfWord
  if !entry.ok then do
    record (·.failDma)
    pure none
  else pure (some (entry.value.setWidth 16))

/-- Whether the chain was put on the used ring. The members are read again after the
writes of whole words. -/
def completeChain (side : Side) (head : BitVec 16) (bytesWritten : BitVec 32) :
    Hazardous (VirtioNet ν) δ Bool := do
  let before ← device
  let queue := side.queue before
  let slot ← modulo queue.usedIndex queue.size
  let element := queue.rings.usedRing + 4 + slot.setWidth 64 * 8
  let stored ← writeElement element head bytesWritten
  if !stored then do
    record (·.failDma)
    pure false
  else do
    let after ← device
    let queue := side.queue after
    let nextUsed := queue.usedIndex + 1
    let index ← dmaWrite (queue.rings.usedRing + 2) .halfWord (nextUsed.setWidth 64)
    if !index then do
      record (·.failDma)
      pure false
    else do
      change fun device => side.update (fun queue => { queue with usedIndex := nextUsed }) device
      pure true

/-- What ends a round of either loop. -/
def finishRound (side : Side) : Hazardous (VirtioNet ν) δ Unit :=
  change fun device => raiseInterrupt (side.update
    (fun queue => { queue with lastAvailableIndex := queue.lastAvailableIndex + 1 }) device)

/-! ### Transmission -/

def gather (address : PhysAddr) : Nat → Hazardous (VirtioNet ν) δ (Option (List (BitVec 8)))
  | 0 => pure (some [])
  | count + 1 => do
    let byte ← dmaRead address .byte
    if !byte.ok then pure none
    else do
      let rest ← gather (address + 1) count
      pure (rest.map (byte.value.setWidth 8 :: ·))

def gatherChain : List Descriptor → Hazardous (VirtioNet ν) δ (Option (List (BitVec 8)))
  | [] => pure (some [])
  | descriptor :: rest => do
    let bytes ← gather descriptor.address descriptor.length.toNat
    match bytes with
    | none => pure none
    | some bytes => do
      let others ← gatherChain rest
      pure (others.map (bytes ++ ·))

/-- Whether the frame of a packet was sent. The header is cut off the packet. -/
def sendPacket [NetworkBackend ν] (packet : List (BitVec 8)) : Hazardous (VirtioNet ν) δ Bool :=
  if packet.length < netHeaderSize then .stop .outOfRange
  else do
    let frame := packet.drop netHeaderSize
    let device ← device
    match device.backend with
    | none => pure false
    | some backend => do
      change fun device =>
        { device with
          backend := some (NetworkBackend.sendFrame frame backend)
          statistics := { device.statistics with
            transmittedFrames := device.statistics.transmittedFrames + 1
            transmittedBytes := device.statistics.transmittedBytes +
              BitVec.ofNat 64 frame.length } }
      pure true

def transmitChain [NetworkBackend ν] (chain : List Descriptor) : Hazardous (VirtioNet ν) δ Bool :=
  match packetSize chain 0 with
  | none => pure false
  | some total =>
    if total ≤ netHeaderSize then pure false
    else do
      let packet ← gatherChain chain
      match packet with
      | none => do
        record (·.failDma)
        pure false
      | some packet => sendPacket packet

/-- `chain_valid && transmit_chain(...)`. -/
def transmitIfValid [NetworkBackend ν] (chain : Option (List Descriptor)) :
    Hazardous (VirtioNet ν) δ Bool :=
  match chain with
  | none => pure false
  | some chain => transmitChain chain

def countDropped (sent : Bool) (statistics : VirtioNetStatistics) : VirtioNetStatistics :=
  if sent then statistics
  else { statistics with droppedTransmitFrames := statistics.droppedTransmitFrames + 1 }

/-- The chain of a head is served and completed. -/
def transmitHead [NetworkBackend ν] (head : BitVec 16) : Hazardous (VirtioNet ν) δ Bool := do
  record countChain
  let chain ← loadWholeChain .transmit head
  let sent ← transmitIfValid chain
  record (countDropped sent)
  completeChain .transmit head 0

def transmitLoop [NetworkBackend ν] :
    (fuel : Nat) → (processed : BitVec 16) → Hazardous (VirtioNet ν) δ Unit
  | 0, _ => .stop .endless
  | fuel + 1, processed => do
    let device ← device
    if device.transmit.size ≤ processed then pure ()
    else do
      let available ← dmaRead (device.transmit.rings.availableRing + 2) .halfWord
      if !available.ok then record (·.failDma)
      else if device.transmit.lastAvailableIndex = available.value.setWidth 16 then pure ()
      else do
        let head ← readAvailableHead .transmit
        match head with
        | none => pure ()
        | some head => do
          let completed ← transmitHead head
          if !completed then pure ()
          else do
            finishRound .transmit
            transmitLoop fuel (processed + 1)

def processTransmitQueue [NetworkBackend ν] : Hazardous (VirtioNet ν) δ Unit := do
  let device ← device
  if !device.queueConfigured device.transmit then pure () else transmitLoop (2 ^ 16) 0

/-! ### Reception -/

/-- `pending_receive_frames_.front()`. -/
def front : Hazardous (VirtioNet ν) δ Frame := do
  let device ← device
  match device.pendingReceiveFrames with
  | [] => .stop .frameGone
  | frame :: _ => pure frame

/-- `pending_receive_frames_.pop_front()`. -/
def popFront : Hazardous (VirtioNet ν) δ Unit := do
  let device ← device
  match device.pendingReceiveFrames with
  | [] => .stop .frameGone
  | _ :: rest => change fun device =>
      { device with
        pendingReceiveFrames := rest
        statistics := device.statistics.setPending rest.length }

/-- The byte at an index of the packet. The frame is looked up where it is pending. -/
def packetByte (source : Nat) : Hazardous (VirtioNet ν) δ (BitVec 8) :=
  if source < netHeaderSize then pure 0
  else do
    let frame ← front
    elementAt frame (source - netHeaderSize)

/-- Writes bytes of the packet to at most `count` addresses; returns the index that comes
next, or `none` where a write was refused. -/
def fill (required : Nat) (address : PhysAddr) :
    (count : Nat) → (source : Nat) → Hazardous (VirtioNet ν) δ (Option Nat)
  | 0, source => pure (some source)
  | count + 1, source =>
    if required ≤ source then pure (some source)
    else do
      let byte ← packetByte source
      let stored ← dmaWrite address .byte (byte.setWidth 64)
      if !stored then pure none else fill required (address + 1) count (source + 1)

def fillChain (required : Nat) : List Descriptor → (source : Nat) → Hazardous (VirtioNet ν) δ Bool
  | [], _ => pure true
  | descriptor :: rest, source => do
    let filled ← fill required descriptor.address descriptor.length.toNat source
    match filled with
    | none => pure false
    | some source => fillChain required rest source

/-- The number of bytes written, if the frame was received. -/
def receiveChain (chain : List Descriptor) : Hazardous (VirtioNet ν) δ (Option (BitVec 32)) := do
  let frame ← front
  match chainCapacity chain 0 with
  | none => pure none
  | some capacity =>
    let required := netHeaderSize + frame.length
    if capacity < required ∨ 2 ^ 32 - 1 < required then pure none
    else do
      let filled ← fillChain required chain 0
      if !filled then do
        record (·.failDma)
        pure none
      else do
        record fun statistics =>
          { statistics with
            receivedFrames := statistics.receivedFrames + 1
            receivedBytes := statistics.receivedBytes + BitVec.ofNat 64 frame.length }
        pure (some (BitVec.ofNat 32 required))

/-- `chain_valid && receive_chain(...)`. -/
def receiveIfValid (chain : Option (List Descriptor)) :
    Hazardous (VirtioNet ν) δ (Option (BitVec 32)) :=
  match chain with
  | none => pure none
  | some chain => receiveChain chain

def countRefused (received : Bool) (statistics : VirtioNetStatistics) : VirtioNetStatistics :=
  if received then statistics else statistics.dropReceived

/-- The chain of a head takes the first pending frame, and is completed. -/
def receiveHead (head : BitVec 16) : Hazardous (VirtioNet ν) δ Bool := do
  record countChain
  let chain ← loadWholeChain .receive head
  let written ← receiveIfValid chain
  record (countRefused written.isSome)
  popFront
  completeChain .receive head (written.getD 0)

def receiveLoop : (fuel : Nat) → (processed : BitVec 16) → Hazardous (VirtioNet ν) δ Unit
  | 0, _ => .stop .endless
  | fuel + 1, processed => do
    let device ← device
    if device.pendingReceiveFrames = [] ∨ device.receive.size ≤ processed then pure ()
    else do
      let available ← dmaRead (device.receive.rings.availableRing + 2) .halfWord
      if !available.ok then record (·.failDma)
      else if device.receive.lastAvailableIndex = available.value.setWidth 16 then
        record fun statistics =>
          { statistics with receiveQueueStarvations := statistics.receiveQueueStarvations + 1 }
      else do
        let head ← readAvailableHead .receive
        match head with
        | none => pure ()
        | some head => do
          let completed ← receiveHead head
          if !completed then pure ()
          else do
            finishRound .receive
            receiveLoop fuel (processed + 1)

def processReceiveQueue : Hazardous (VirtioNet ν) δ Unit := do
  let device ← device
  if !device.queueConfigured device.receive then pure () else receiveLoop (2 ^ 16) 0

/-! ### The tick -/

variable [NetworkBackend ν]

def transmitIfNotified : Hazardous (VirtioNet ν) δ Unit := do
  let device ← device
  if device.transmit.notificationPending then do
    change fun device =>
      { device with transmit := { device.transmit with notificationPending := false } }
    processTransmitQueue
    change fun device => { device with backendPollRequested := device.backend.isSome }
  else pure ()

def receiveIfPending : Hazardous (VirtioNet ν) δ Unit := do
  change fun device =>
    { device with receive := { device.receive with notificationPending := false } }
  let device ← device
  if device.pendingReceiveFrames.isEmpty then pure () else processReceiveQueue

def tick (cycles : BitVec 64) : Hazardous (VirtioNet ν) δ Unit := do
  change fun device => (collectBackendFrames { device with backendPollRequested := false } cycles
    device.backendPollRequested).2
  transmitIfNotified
  receiveIfPending

end

end RvEmulator.Devices.VirtioNet.Reentrant
