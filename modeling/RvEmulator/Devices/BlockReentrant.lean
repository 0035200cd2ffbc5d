import RvEmulator.Devices.Reentrancy

/-! The tick of the block device where its writes may reach its own registers
(`devices/src/virtio_block.cpp`). Every member is read where the source reads it, if a write
lies in between. -/

namespace RvEmulator.Devices.VirtioBlock.Reentrant

open Platform Hazardous

variable {σ δ : Type} [Surroundings (VirtioBlock σ) δ]

/-! ### Chains -/

def loadDescriptor (index : BitVec 16) : Hazardous (VirtioBlock σ) δ (Option Descriptor) := do
  let device ← device
  if device.queueNum ≤ index then pure none
  else readDescriptor device.rings.descriptorTable index

/-- The loop that follows a chain. `visited` has an entry for each descriptor of the
table. -/
def loadLoop :
    (fuel : Nat) → (count : BitVec 16) → (visited : List Bool) → (current : BitVec 16) →
      Hazardous (VirtioBlock σ) δ (Option (List Descriptor))
  | 0, _, _, _ => .stop .endless
  | fuel + 1, count, visited, current => do
    let device ← device
    if device.queueNum ≤ count then pure (some [])
    else if device.queueNum ≤ current then pure none
    else do
      let seen ← elementAt visited current.toNat
      if seen then pure none
      else do
        let descriptor ← loadDescriptor current
        match descriptor with
        | none => pure none
        | some descriptor =>
          if !descriptor.hasNext then pure (some [descriptor])
          else do
            let rest ← loadLoop fuel (count + 1) (visited.set current.toNat true) descriptor.next
            pure (rest.map (descriptor :: ·))

/-! ### Data -/

def changeDisk (edit : Disk σ → Disk σ) : Hazardous (VirtioBlock σ) δ Unit :=
  change fun device => { device with disk := edit device.disk }

/-- Reads guest bytes into the chunk, until one is refused. -/
def gather (address : PhysAddr) :
    (remaining : Nat) → (byte : Nat) → (chunk : List (BitVec 8)) →
      Hazardous (VirtioBlock σ) δ (Option (List (BitVec 8)))
  | 0, _, chunk => pure (some chunk)
  | remaining + 1, byte, chunk => do
    let result ← dmaRead (address + BitVec.ofNat 64 byte) .byte
    if !result.ok then pure none
    else do
      let chunk ← storeAt chunk byte (result.value.setWidth 8)
      gather address remaining (byte + 1) chunk

/-- Writes the bytes of the chunk to the guest, until one is refused. -/
def scatter (address : PhysAddr) (chunk : List (BitVec 8)) :
    (remaining : Nat) → (byte : Nat) → (written : BitVec 32) →
      Hazardous (VirtioBlock σ) δ Progress
  | 0, _, written => pure { written }
  | remaining + 1, byte, written => do
    let value ← elementAt chunk byte
    let stored ← dmaWrite (address + BitVec.ofNat 64 byte) .byte (value.setWidth 64)
    if !stored then pure { status := statusIoError, written }
    else scatter address chunk remaining (byte + 1) (written + 1)

/-- One round of the transfer loop. All of the chunk is filled before any of it is used. -/
def transferChunk [BlockStorage σ] (requestType : BitVec 32) (address : PhysAddr)
    (diskOffset : BitVec 64) (count : Nat) (written : BitVec 32) :
    Hazardous (VirtioBlock σ) δ Progress := do
  let chunk ← firstOf (List.replicate transferBufferSize 0) count
  let device ← device
  if requestType = requestRead then
    match BlockStorage.read diskOffset chunk.length device.disk.storage with
    | (none, storage) => do
      changeDisk fun disk => { disk with storage }
      pure { status := statusIoError, written }
    | (some bytes, storage) => do
      changeDisk fun disk => { disk with storage }
      scatter address bytes.toList count 0 written
  else do
    let gathered ← gather address count 0 chunk
    match gathered with
    | none => pure { status := statusIoError, written }
    | some bytes => do
      let stored := BlockStorage.write diskOffset bytes device.disk.storage
      if stored.1 then do
        changeDisk fun disk => { disk with storage := stored.2, dirty := true }
        pure { written }
      else do
        changeDisk fun disk => { disk with storage := stored.2 }
        pure { status := statusIoError, written }

def transfer [BlockStorage σ] (requestType : BitVec 32) (address : PhysAddr)
    (diskOffset : BitVec 64) (length : Nat) :
    (fuel transferred : Nat) → (written : BitVec 32) → Hazardous (VirtioBlock σ) δ Progress
  | 0, _, _ => .stop .endless
  | fuel + 1, transferred, written =>
    if length ≤ transferred then pure { written }
    else do
      let count := min (length - transferred) transferBufferSize
      let round ← transferChunk requestType (address + BitVec.ofNat 64 transferred)
        (diskOffset + BitVec.ofNat 64 transferred) count written
      if round.status ≠ statusOk then pure round
      else do
        changeDisk (countTransferred · count)
        transfer requestType address diskOffset length fuel (transferred + count) round.written

/-- The loop over the descriptors of a request but the first and the last one. -/
def transferAll [BlockStorage σ] (requestType : BitVec 32) (chain : List Descriptor) :
    (fuel index : Nat) → (diskOffset : BitVec 64) → (written : BitVec 32) →
      Hazardous (VirtioBlock σ) δ Progress
  | 0, _, _, _ => .stop .endless
  | fuel + 1, index, diskOffset, written =>
    if chain.length ≤ index + 1 then pure { written }
    else do
      let descriptor ← elementAt chain index
      let device ← device
      let length : BitVec 64 := descriptor.length.setWidth 64
      let diskSize := BlockStorage.size device.disk.storage
      if diskSize < length ∨ diskSize - length < diskOffset then
        pure { status := statusIoError, written }
      else if (requestType = requestRead ∧ descriptor.isWrite = false) ∨
          (requestType = requestWrite ∧ descriptor.isWrite = true) then
        pure { status := statusIoError, written }
      else do
        let data ← transfer requestType descriptor.address diskOffset descriptor.length.toNat
          (descriptor.length.toNat + 1) 0 written
        if data.status ≠ statusOk then pure data
        else transferAll requestType chain fuel (index + 1) (diskOffset + length) data.written

/-! ### Requests -/

/-- The data of a request, if it is one that the device serves. -/
def performData [BlockStorage σ] (requestType : BitVec 32) (sector : BitVec 64)
    (chain : List Descriptor) : Hazardous (VirtioBlock σ) δ Progress :=
  if requestType ≠ requestRead ∧ requestType ≠ requestWrite then
    pure { status := statusUnsupported }
  else if BitVec.allOnes 64 / sectorSize < sector then pure { status := statusIoError }
  else transferAll requestType chain chain.length 1 (sector * sectorSize) 0

/-- A request and its completion status, once its header is known. -/
def performRequest [BlockStorage σ] (requestType : BitVec 32) (sector : BitVec 64)
    (chain : List Descriptor) (statusDescriptor : Descriptor) :
    Hazardous (VirtioBlock σ) δ (BitVec 32) := do
  let progress ← performData requestType sector chain
  let stored ← dmaWrite statusDescriptor.address .byte (progress.status.setWidth 64)
  changeDisk (countCompletion · progress.status stored)
  pure (if stored then progress.written + 1 else progress.written)

/-- The request of a chain of at least two descriptors. -/
def serveChain [BlockStorage σ] (chain : List Descriptor) :
    Hazardous (VirtioBlock σ) δ (BitVec 32) := do
  let header ← elementAt chain 0
  let statusDescriptor ← elementAt chain (chain.length - 1)
  if header.length < 16 ∨ statusDescriptor.length < 1 ∨ statusDescriptor.isWrite = false then
    pure 0
  else do
    let typeResult ← dmaRead header.address .word
    let sectorResult ← dmaRead (header.address + 8) .doubleWord
    if !(typeResult.ok && sectorResult.ok) then pure 0
    else do
      let requestType : BitVec 32 := typeResult.value.setWidth 32
      changeDisk (countRequest · requestType)
      performRequest requestType sectorResult.value chain statusDescriptor

/-- What `process_request` leaves in `bytes_written`. -/
def processRequest [BlockStorage σ] (head : BitVec 16) :
    Hazardous (VirtioBlock σ) δ (BitVec 32) := do
  let device ← device
  if device.queueNum ≤ head then pure 0
  else do
    let chain ← loadLoop (2 ^ 16) 0 (List.replicate device.queueNum.toNat false) head
    match chain with
    | none => pure 0
    | some chain => if chain.length < 2 then pure 0 else serveChain chain

/-! ### The queue -/

/-- Whether the chain was put on the used ring. The members are read again after the
writes of whole words. -/
def completeChain (head : BitVec 16) (bytesWritten : BitVec 32) :
    Hazardous (VirtioBlock σ) δ Bool := do
  let before ← device
  let slot ← modulo before.usedIndex before.queueNum
  let element := before.rings.usedRing + 4 + slot.setWidth 64 * 8
  let stored ← writeElement element head bytesWritten
  if !stored then pure false
  else do
    change fun device => { device with usedIndex := device.usedIndex + 1 }
    let after ← device
    dmaWrite (after.rings.usedRing + 2) .halfWord (after.usedIndex.setWidth 64)

/-- The chain of a head is served and completed. -/
def processHead [BlockStorage σ] (head : BitVec 16) : Hazardous (VirtioBlock σ) δ Bool := do
  changeDisk countChain
  let written ← processRequest head
  completeChain head written

def processHeads [BlockStorage σ] (availableIndex : BitVec 16) :
    (fuel : Nat) → (processed : BitVec 16) → Hazardous (VirtioBlock σ) δ Unit
  | 0, _ => .stop .endless
  | fuel + 1, processed => do
    let device ← device
    if device.lastAvailableIndex = availableIndex ∨ device.queueNum ≤ processed then pure ()
    else do
      let slot ← modulo device.lastAvailableIndex device.queueNum
      let entry ← dmaRead (device.rings.availableRing + 4 + slot.setWidth 64 * 2) .halfWord
      if !entry.ok then pure ()
      else do
        let completed ← processHead (entry.value.setWidth 16)
        if !completed then pure ()
        else do
          change fun device => raiseInterrupt
            { device with lastAvailableIndex := device.lastAvailableIndex + 1 }
          processHeads availableIndex fuel (processed + 1)

def processQueue [BlockStorage σ] : Hazardous (VirtioBlock σ) δ Unit := do
  let device ← device
  if !device.queueConfigured then pure ()
  else do
    let available ← dmaRead (device.rings.availableRing + 2) .halfWord
    if !available.ok then pure ()
    else processHeads (available.value.setWidth 16) (2 ^ 16) 0

/-- The cycles that have passed do not matter. -/
def tick [BlockStorage σ] : Hazardous (VirtioBlock σ) δ Unit := do
  let device ← device
  if !device.notificationPending then pure ()
  else do
    change fun device => { device with notificationPending := false }
    processQueue

end RvEmulator.Devices.VirtioBlock.Reentrant
