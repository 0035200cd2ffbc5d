import RvEmulator.Devices.Virtqueue

/-! The VirtIO block device (`devices/src/virtio_block.cpp`, `block_storage.cpp`). -/

namespace RvEmulator.Devices

open Platform

/-- The virtual methods of `BlockStorage` that transfer data. -/
class BlockStorage (σ : Type) where
  size : σ → BitVec 64
  read : BitVec 64 → (count : Nat) → StateM σ (Option (Vector (BitVec 8) count))
  write : BitVec 64 → List (BitVec 8) → StateM σ Bool

structure MemoryBlockStorage where
  bytes : List (BitVec 8)
deriving DecidableEq

namespace MemoryBlockStorage

def inBounds (storageSize offset : BitVec 64) (length : Nat) : Bool :=
  decide (offset ≤ storageSize ∧ length ≤ (storageSize - offset).toNat)

instance : BlockStorage MemoryBlockStorage where
  size storage := BitVec.ofNat 64 storage.bytes.length
  read offset count := fun storage =>
    if inBounds (BitVec.ofNat 64 storage.bytes.length) offset count then
      (some (.ofFn fun index => storage.bytes.getD (offset.toNat + index) 0), storage)
    else (none, storage)
  write offset source := fun storage =>
    if inBounds (BitVec.ofNat 64 storage.bytes.length) offset source.length then
      (true, { bytes := storage.bytes.take offset.toNat ++ source ++
        storage.bytes.drop (offset.toNat + source.length) })
    else (false, storage)

end MemoryBlockStorage

structure VirtioBlockStatistics where
  queueNotifyWrites : BitVec 64 := 0
  queueNotifications : BitVec 64 := 0
  rejectedNotifications : BitVec 64 := 0
  descriptorChains : BitVec 64 := 0
  completedRequests : BitVec 64 := 0
  readRequests : BitVec 64 := 0
  writeRequests : BitVec 64 := 0
  failedRequests : BitVec 64 := 0
  bytesTransferred : BitVec 64 := 0
  interruptsRaised : BitVec 64 := 0
  interruptAcknowledgements : BitVec 64 := 0
deriving DecidableEq, Repr

/-- What a request can change in the device: the storage, `disk_dirty_` and the
statistics. -/
structure VirtioBlock.Disk (σ : Type) where
  storage : σ
  dirty : Bool := false
  statistics : VirtioBlockStatistics := {}

structure VirtioBlock (σ : Type) where
  disk : VirtioBlock.Disk σ
  deviceFeaturesSelect : BitVec 32 := 0
  driverFeaturesSelect : BitVec 32 := 0
  driverFeatures : BitVec 32 := 0
  guestPageSize : BitVec 32 := 0
  queueSelect : BitVec 32 := 0
  queueNum : BitVec 16 := 0
  queueAlign : BitVec 32 := 4096
  queuePfn : BitVec 32 := 0
  interruptStatus : BitVec 8 := 0
  deviceStatus : BitVec 8 := 0
  rings : Rings := {}
  lastAvailableIndex : BitVec 16 := 0
  usedIndex : BitVec 16 := 0
  notificationPending : Bool := false

namespace VirtioBlock

def sectorSize : BitVec 64 := 512
def maximumQueueSize : BitVec 16 := 128

namespace Register

def magicValue : BitVec 64 := 0x000
def version : BitVec 64 := 0x004
def deviceId : BitVec 64 := 0x008
def vendorId : BitVec 64 := 0x00C
def deviceFeatures : BitVec 64 := 0x010
def deviceFeaturesSelect : BitVec 64 := 0x014
def driverFeatures : BitVec 64 := 0x020
def driverFeaturesSelect : BitVec 64 := 0x024
def guestPageSize : BitVec 64 := 0x028
def queueSelect : BitVec 64 := 0x030
def queueNumMax : BitVec 64 := 0x034
def queueNum : BitVec 64 := 0x038
def queueAlign : BitVec 64 := 0x03C
def queuePfn : BitVec 64 := 0x040
def queueNotify : BitVec 64 := 0x050
def interruptStatus : BitVec 64 := 0x060
def interruptAck : BitVec 64 := 0x064
def status : BitVec 64 := 0x070
def config : BitVec 64 := 0x100

end Register

def magicValue : BitVec 32 := 0x74726976
def legacyVersion : BitVec 32 := 1
def blockDeviceId : BitVec 32 := 2
def vendorId : BitVec 32 := 0x554D4551

def requestRead : BitVec 32 := 0
def requestWrite : BitVec 32 := 1
def statusOk : BitVec 8 := 0
def statusIoError : BitVec 8 := 1
def statusUnsupported : BitVec 8 := 2

variable {σ δ : Type}

def queueConfigured (device : VirtioBlock σ) : Bool :=
  device.queueSelect == 0 && device.guestPageSize != 0 && device.queuePfn != 0 &&
    device.queueNum != 0 && decide (device.queueNum ≤ maximumQueueSize) &&
    isPowerOfTwo (device.queueNum.setWidth 64) && isPowerOfTwo (device.queueAlign.setWidth 64)

def updateQueueAddresses (device : VirtioBlock σ) : VirtioBlock σ :=
  { device with
    rings := if device.queueConfigured then
        .place device.queuePfn device.guestPageSize device.queueNum device.queueAlign
      else {} }

/-- The storage, the dirty flag and the statistics outlive a reset. -/
def reset (device : VirtioBlock σ) : VirtioBlock σ := { disk := device.disk }

/-- The registers; the configuration space holds the number of sectors. -/
def read [BlockStorage σ] (device : VirtioBlock σ) (offset : BitVec 64) (width : AccessWidth) :
    ReadResult :=
  if Register.config ≤ offset then
    let sectors := BlockStorage.size device.disk.storage / sectorSize
    Bytes.readLittleEndian { size := 8, byte := Library.byteOf sectors } (offset - Register.config)
      width
  else if width ≠ .word ∨ (offset &&& 0x3) ≠ 0 then { fault := .unsupported }
  else
    let value : BitVec 32 :=
      if offset = Register.magicValue then magicValue
      else if offset = Register.version then legacyVersion
      else if offset = Register.deviceId then blockDeviceId
      else if offset = Register.vendorId then vendorId
      else if offset = Register.deviceFeatures then 0
      else if offset = Register.queueNumMax then
        if device.queueSelect = 0 then maximumQueueSize.setWidth 32 else 0
      else if offset = Register.queuePfn then device.queuePfn
      else if offset = Register.interruptStatus then device.interruptStatus.setWidth 32
      else if offset = Register.status then device.deviceStatus.setWidth 32
      else 0
    { value := value.setWidth 64 }

/-- A write of the notification register. -/
def notify (device : VirtioBlock σ) (word : BitVec 32) : VirtioBlock σ :=
  let statistics := device.disk.statistics
  let counted := { statistics with queueNotifyWrites := statistics.queueNotifyWrites + 1 }
  if word == 0 && device.queueConfigured then
    { device with
      notificationPending := true
      disk := { device.disk with
        statistics := { counted with queueNotifications := counted.queueNotifications + 1 } } }
  else
    { device with
      disk := { device.disk with
        statistics := { counted with rejectedNotifications := counted.rejectedNotifications + 1 } } }

/-- A write of the interrupt acknowledgement register. -/
def acknowledge (device : VirtioBlock σ) (word : BitVec 32) : VirtioBlock σ :=
  let statistics := device.disk.statistics
  { device with
    interruptStatus := device.interruptStatus &&& (~~~word).setWidth 8
    disk := { device.disk with
      statistics := if (word &&& 0x1) ≠ 0 then
          { statistics with interruptAcknowledgements := statistics.interruptAcknowledgements + 1 }
        else statistics } }

def writeRegister (device : VirtioBlock σ) (offset : BitVec 64) (word : BitVec 32) :
    VirtioBlock σ :=
  if offset = Register.deviceFeaturesSelect then { device with deviceFeaturesSelect := word }
  else if offset = Register.driverFeatures then
    if device.driverFeaturesSelect = 0 then { device with driverFeatures := word } else device
  else if offset = Register.driverFeaturesSelect then { device with driverFeaturesSelect := word }
  else if offset = Register.guestPageSize then
    updateQueueAddresses { device with guestPageSize := word }
  else if offset = Register.queueSelect then
    updateQueueAddresses { device with queueSelect := word }
  else if offset = Register.queueNum then
    updateQueueAddresses { device with queueNum := word.setWidth 16 }
  else if offset = Register.queueAlign then
    updateQueueAddresses { device with queueAlign := word }
  else if offset = Register.queuePfn then
    updateQueueAddresses { device with queuePfn := word }
  else if offset = Register.queueNotify then device.notify word
  else if offset = Register.interruptAck then device.acknowledge word
  else if offset = Register.status then
    -- Linux writes the guest page size before it resets the device.
    if word = 0 then { device.reset with guestPageSize := device.guestPageSize }
    else { device with deviceStatus := word.setWidth 8 }
  else device

def write (device : VirtioBlock σ) (offset : BitVec 64) (width : AccessWidth) (value : BitVec 64) :
    BusFault × VirtioBlock σ :=
  if Register.config ≤ offset then (.readOnly, device)
  else if width ≠ .word ∨ (offset &&& 0x3) ≠ 0 then (.unsupported, device)
  else (.none, device.writeRegister offset (value.setWidth 32))

section

variable [BlockStorage σ] [DmaAccess δ]

def loadDescriptor (queueNum : BitVec 16) (rings : Rings) (index : BitVec 16) :
    StateM δ (Option Descriptor) := fun dma =>
  if queueNum ≤ index then (none, dma)
  else rings.readDescriptor index dma

/-- The loop that follows a chain; it ends after `count` descriptors even if the last
one has a successor. -/
def loadChain (queueNum : BitVec 16) (rings : Rings) :
    (count : Nat) → (visited : List (BitVec 16)) → (current : BitVec 16) →
      StateM δ (Option (List Descriptor))
  | 0, _, _ => fun dma => (some [], dma)
  | count + 1, visited, current => fun dma =>
    if queueNum ≤ current ∨ current ∈ visited then (none, dma)
    else
      match loadDescriptor queueNum rings current dma with
      | (none, dma) => (none, dma)
      | (some descriptor, dma) =>
        if !descriptor.hasNext then (some [descriptor], dma)
        else
          match loadChain queueNum rings count (current :: visited) descriptor.next dma with
          | (none, dma) => (none, dma)
          | (some rest, dma) => (some (descriptor :: rest), dma)

theorem loadChain_succ (queueNum : BitVec 16) (rings : Rings) (count : Nat)
    (visited : List (BitVec 16)) (current : BitVec 16) (dma : δ) :
    loadChain queueNum rings (count + 1) visited current dma =
      if queueNum ≤ current ∨ current ∈ visited then (none, dma)
      else
        match loadDescriptor queueNum rings current dma with
        | (none, dma) => (none, dma)
        | (some descriptor, dma) =>
          if !descriptor.hasNext then (some [descriptor], dma)
          else
            match loadChain queueNum rings count (current :: visited) descriptor.next dma with
            | (none, dma) => (none, dma)
            | (some rest, dma) => (some (descriptor :: rest), dma) := rfl

/-- A chain that goes on is taken as far as it was read. -/
theorem loadChain_follow (queueNum : BitVec 16) (rings : Rings) (count : Nat)
    (visited : List (BitVec 16)) (current : BitVec 16) (dma : δ) :
    loadChain queueNum rings count visited current dma =
      ((rings.follow queueNum count visited current dma).1.loaded,
        (rings.follow queueNum count visited current dma).2) := by
  induction count generalizing dma visited current with
  | zero => rfl
  | succ count ih =>
    rw [Rings.follow_succ]
    rw [loadChain_succ]
    split
    · rfl
    rename_i inside
    rw [loadDescriptor, if_neg fun outside => inside (.inl outside)]
    generalize rings.readDescriptor current dma = read
    obtain ⟨_ | descriptor, after⟩ := read
    · rfl
    dsimp only
    split
    · rfl
    · rw [ih]
      generalize rings.follow queueNum count (current :: visited) descriptor.next after = rest
      obtain ⟨rest, final⟩ := rest
      cases rest <;> rfl

/-- Writes guest bytes until one is refused; returns whether none was, and how many
were written. -/
def scatter (address : PhysAddr) : List (BitVec 8) → StateM δ (Bool × Nat)
  | [] => fun dma => ((true, 0), dma)
  | byte :: rest => fun dma =>
    let stored := DmaAccess.dmaWrite address .byte (byte.setWidth 64) dma
    if stored.1 ≠ .none then ((false, 0), stored.2)
    else
      let others := scatter (address + 1) rest stored.2
      ((others.1.1, others.1.2 + 1), others.2)

/-- The completion status so far, and the bytes written to the guest. -/
structure Progress where
  status : BitVec 8 := statusOk
  written : BitVec 32 := 0
deriving DecidableEq, Repr

def transferBufferSize : Nat := 4096

/-- One round of the transfer loop: between the storage and the guest. -/
def transferChunk (requestType : BitVec 32) (address : PhysAddr) (diskOffset : BitVec 64)
    (count : Nat) (written : BitVec 32) : StateM (Disk σ × δ) Progress := fun (disk, dma) =>
  if requestType = requestRead then
    match BlockStorage.read diskOffset count disk.storage with
    | (none, storage) => ({ status := statusIoError, written }, { disk with storage }, dma)
    | (some bytes, storage) =>
      let stored := scatter address bytes.toList dma
      ({ status := if stored.1.1 then statusOk else statusIoError
         written := written + BitVec.ofNat 32 stored.1.2 }, { disk with storage }, stored.2)
  else
    match gather address count dma with
    | (none, dma) => ({ status := statusIoError, written }, disk, dma)
    | (some bytes, dma) =>
      let stored := BlockStorage.write diskOffset bytes disk.storage
      if stored.1 then
        ({ written }, { disk with storage := stored.2, dirty := true }, dma)
      else ({ status := statusIoError, written }, { disk with storage := stored.2 }, dma)

def countTransferred (disk : Disk σ) (count : Nat) : Disk σ :=
  { disk with
    statistics := { disk.statistics with
      bytesTransferred := disk.statistics.bytesTransferred + BitVec.ofNat 64 count } }

/-- The transfer loop of one descriptor. A round transfers at least one byte, so the
length is enough fuel. -/
def transfer (requestType : BitVec 32) (address : PhysAddr) (diskOffset : BitVec 64)
    (length : Nat) :
    (fuel transferred : Nat) → (written : BitVec 32) → StateM (Disk σ × δ) Progress
  | 0, _, written => fun machine => ({ written }, machine)
  | fuel + 1, transferred, written => fun machine =>
    if length ≤ transferred then ({ written }, machine)
    else
      let count := min (length - transferred) transferBufferSize
      let round := transferChunk requestType (address + BitVec.ofNat 64 transferred)
        (diskOffset + BitVec.ofNat 64 transferred) count written machine
      if round.1.status ≠ statusOk then round
      else
        transfer requestType address diskOffset length fuel (transferred + count) round.1.written
          (countTransferred round.2.1 count, round.2.2)

/-- The loop over the data descriptors of a request. -/
def transferAll (requestType : BitVec 32) :
    List Descriptor → (diskOffset : BitVec 64) → (written : BitVec 32) →
      StateM (Disk σ × δ) Progress
  | [], _, written => fun machine => ({ written }, machine)
  | descriptor :: rest, diskOffset, written => fun machine =>
    let length : BitVec 64 := descriptor.length.setWidth 64
    let diskSize := BlockStorage.size machine.1.storage
    if diskSize < length ∨ diskSize - length < diskOffset then
      ({ status := statusIoError, written }, machine)
    else if (requestType = requestRead ∧ descriptor.isWrite = false) ∨
        (requestType = requestWrite ∧ descriptor.isWrite = true) then
      ({ status := statusIoError, written }, machine)
    else
      let data := transfer requestType descriptor.address diskOffset descriptor.length.toNat
        descriptor.length.toNat 0 written machine
      if data.1.status ≠ statusOk then data
      else transferAll requestType rest (diskOffset + length) data.1.written data.2

def countRequest (disk : Disk σ) (requestType : BitVec 32) : Disk σ :=
  if requestType = requestRead then
    { disk with
      statistics := { disk.statistics with readRequests := disk.statistics.readRequests + 1 } }
  else if requestType = requestWrite then
    { disk with
      statistics := { disk.statistics with writeRequests := disk.statistics.writeRequests + 1 } }
  else disk

def countCompletion (disk : Disk σ) (status : BitVec 8) (statusWritten : Bool) : Disk σ :=
  let statistics := disk.statistics
  { disk with
    statistics := { statistics with
      failedRequests := if status ≠ statusOk ∨ statusWritten = false then
          statistics.failedRequests + 1 else statistics.failedRequests
      completedRequests := if statusWritten then
          statistics.completedRequests + 1 else statistics.completedRequests } }

/-- The data of a request and its completion status, once its header is known. -/
def performRequest (requestType : BitVec 32) (sector : BitVec 64) (data : List Descriptor)
    (statusDescriptor : Descriptor) : StateM (Disk σ × δ) (Bool × BitVec 32) := fun machine =>
  let unaddressable := BitVec.allOnes 64 / sectorSize < sector
  let progress : Progress × Disk σ × δ :=
    if requestType ≠ requestRead ∧ requestType ≠ requestWrite then
      ({ status := statusUnsupported }, machine)
    else if unaddressable then ({ status := statusIoError }, machine)
    else transferAll requestType data (sector * sectorSize) 0 machine
  let stored := DmaAccess.dmaWrite statusDescriptor.address .byte
    (progress.1.status.setWidth 64) progress.2.2
  let statusWritten := stored.1 == .none
  ((statusWritten, if statusWritten then progress.1.written + 1 else progress.1.written),
    countCompletion progress.2.1 progress.1.status statusWritten, stored.2)

/-- Whether the status was written, and `bytes_written`. -/
def processRequest (queueNum : BitVec 16) (rings : Rings) (head : BitVec 16) :
    StateM (Disk σ × δ) (Bool × BitVec 32) := fun (disk, dma) =>
  if queueNum ≤ head then ((false, 0), disk, dma)
  else
    match loadChain queueNum rings queueNum.toNat [] head dma with
    | (none, dma) => ((false, 0), disk, dma)
    | (some chain, dma) =>
      match chain with
      | header :: next :: others =>
        let statusDescriptor := (next :: others).getLast (List.cons_ne_nil _ _)
        if header.length < 16 ∨ statusDescriptor.length < 1 ∨
            statusDescriptor.isWrite = false then ((false, 0), disk, dma)
        else
          let typeResult := DmaAccess.dmaRead header.address .word dma
          let sectorResult := DmaAccess.dmaRead (header.address + 8) .doubleWord typeResult.2
          if typeResult.1.ok && sectorResult.1.ok then
            let requestType : BitVec 32 := typeResult.1.value.setWidth 32
            performRequest requestType sectorResult.1.value (next :: others).dropLast
              statusDescriptor (countRequest disk requestType, sectorResult.2)
          else ((false, 0), disk, sectorResult.2)
      | _ => ((false, 0), disk, dma)

/-- A chain that was put on the used ring. -/
structure Completion where
  head : BitVec 16
  written : BitVec 32
deriving DecidableEq, Repr

def countChain (disk : Disk σ) : Disk σ :=
  { disk with
    statistics := { disk.statistics with
      descriptorChains := disk.statistics.descriptorChains + 1 } }

def raiseInterrupt (device : VirtioBlock σ) : VirtioBlock σ :=
  { device with
    interruptStatus := device.interruptStatus ||| 0x1
    disk := { device.disk with
      statistics := { device.disk.statistics with
        interruptsRaised := device.disk.statistics.interruptsRaised + 1 } } }

/-- One round of the loop of `process_queue`; `none` where it breaks off. -/
def processHead (device : VirtioBlock σ) (dma : δ) : Option Completion × VirtioBlock σ × δ :=
  let entry := DmaAccess.dmaRead
    (device.rings.ringEntry device.queueNum device.lastAvailableIndex) .halfWord dma
  if !entry.1.ok then (none, device, entry.2)
  else
    let head : BitVec 16 := entry.1.value.setWidth 16
    let request := processRequest device.queueNum device.rings head
      (countChain device.disk, entry.2)
    let device := { device with disk := request.2.1 }
    let element := device.rings.usedElement device.queueNum device.usedIndex
    let id := DmaAccess.dmaWrite element .word (head.setWidth 64) request.2.2
    if id.1 ≠ .none then (none, device, id.2)
    else
      let length := DmaAccess.dmaWrite (element + 4) .word (request.1.2.setWidth 64) id.2
      if length.1 ≠ .none then (none, device, length.2)
      else
        let device := { device with usedIndex := device.usedIndex + 1 }
        let index := DmaAccess.dmaWrite (device.rings.usedRing + 2) .halfWord
          (device.usedIndex.setWidth 64) length.2
        if index.1 ≠ .none then (none, device, index.2)
        else
          (some { head, written := request.1.2 },
            raiseInterrupt { device with lastAvailableIndex := device.lastAvailableIndex + 1 },
            index.2)

/-- The loop of `process_queue`, for at most `count` rounds more. The chains that it
served are returned too. -/
def processHeads (availableIndex : BitVec 16) :
    (count : Nat) → VirtioBlock σ → δ → List Completion × VirtioBlock σ × δ
  | 0, device, dma => ([], device, dma)
  | count + 1, device, dma =>
    if device.lastAvailableIndex = availableIndex then ([], device, dma)
    else
      match processHead device dma with
      | (none, device, dma) => ([], device, dma)
      | (some completion, device, dma) =>
        let others := processHeads availableIndex count device dma
        (completion :: others.1, others.2)

def processQueue (device : VirtioBlock σ) (dma : δ) : List Completion × VirtioBlock σ × δ :=
  if !device.queueConfigured then ([], device, dma)
  else
    let available := DmaAccess.dmaRead (device.rings.availableRing + 2) .halfWord dma
    if !available.1.ok then ([], device, available.2)
    else processHeads (available.1.value.setWidth 16) device.queueNum.toNat device available.2

/-- The cycles that have passed do not matter. -/
def tick (device : VirtioBlock σ) (dma : δ) : List Completion × VirtioBlock σ × δ :=
  if !device.notificationPending then ([], device, dma)
  else processQueue { device with notificationPending := false } dma

end

end VirtioBlock

end RvEmulator.Devices
