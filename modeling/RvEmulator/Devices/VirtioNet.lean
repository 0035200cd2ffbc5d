import RvEmulator.Devices.Virtqueue

/-! The VirtIO network device (`devices/src/virtio_net.cpp`). -/

namespace RvEmulator.Devices

open Platform

abbrev Frame := List (BitVec 8)

/-- The virtual methods of `NetworkBackend`. A backend hands out the frames that wait in
it, so that it cannot hand them out for ever. -/
class NetworkBackend (ν : Type) where
  tickIntervalCycles : ν → BitVec 64 := fun _ => 1
  tick : BitVec 64 → ν → ν := fun _ backend => backend
  sendFrame : Frame → ν → ν
  receiveFrame : ν → Option Frame × ν
  waiting : ν → Nat
  receiveFrame_waiting : receiveFrame backend = (some frame, rest) → waiting rest < waiting backend

structure VirtioNetStatistics where
  queueNotifyWrites : BitVec 64 := 0
  acceptedNotifications : BitVec 64 := 0
  rejectedNotifications : BitVec 64 := 0
  descriptorChains : BitVec 64 := 0
  transmittedFrames : BitVec 64 := 0
  transmittedBytes : BitVec 64 := 0
  receivedFrames : BitVec 64 := 0
  receivedBytes : BitVec 64 := 0
  droppedTransmitFrames : BitVec 64 := 0
  droppedReceiveFrames : BitVec 64 := 0
  pendingReceiveFrames : BitVec 64 := 0
  peakPendingReceiveFrames : BitVec 64 := 0
  receiveQueueStarvations : BitVec 64 := 0
  dmaFailures : BitVec 64 := 0
  interruptsRaised : BitVec 64 := 0
  interruptAcknowledgements : BitVec 64 := 0
  backendTickCalls : BitVec 64 := 0
  backendTickCycles : BitVec 64 := 0
deriving DecidableEq, Repr

/-- Adding two counts, up to the largest one. -/
def addSaturating (count other : BitVec 64) : BitVec 64 :=
  if BitVec.allOnes 64 - other < count then BitVec.allOnes 64 else count + other

namespace VirtioNetStatistics

def failDma (statistics : VirtioNetStatistics) : VirtioNetStatistics :=
  { statistics with dmaFailures := statistics.dmaFailures + 1 }

def dropReceived (statistics : VirtioNetStatistics) : VirtioNetStatistics :=
  { statistics with droppedReceiveFrames := statistics.droppedReceiveFrames + 1 }

/-- The number of pending frames has changed. -/
def setPending (statistics : VirtioNetStatistics) (count : Nat) : VirtioNetStatistics :=
  { statistics with pendingReceiveFrames := BitVec.ofNat 64 count }

/-- A frame was added to the pending ones. -/
def addPending (statistics : VirtioNetStatistics) (count : Nat) : VirtioNetStatistics :=
  let statistics := statistics.setPending count
  { statistics with
    peakPendingReceiveFrames :=
      if statistics.peakPendingReceiveFrames < statistics.pendingReceiveFrames then
        statistics.pendingReceiveFrames else statistics.peakPendingReceiveFrames }

def countPoll (statistics : VirtioNetStatistics) (elapsed : BitVec 64) : VirtioNetStatistics :=
  { statistics with
    backendTickCalls := statistics.backendTickCalls + 1
    backendTickCycles := addSaturating statistics.backendTickCycles elapsed }

end VirtioNetStatistics

structure VirtioNet.Queue where
  size : BitVec 16 := 0
  alignment : BitVec 32 := 4096
  pageFrameNumber : BitVec 32 := 0
  rings : Rings := {}
  lastAvailableIndex : BitVec 16 := 0
  usedIndex : BitVec 16 := 0
  notificationPending : Bool := false
deriving DecidableEq, Repr

/-- `receive` and `transmit` are the two entries of `queues_`. -/
structure VirtioNet (ν : Type) where
  mac : Vector (BitVec 8) 6
  receive : VirtioNet.Queue := {}
  transmit : VirtioNet.Queue := {}
  pendingReceiveFrames : List Frame := []
  backend : Option ν := none
  backendTickCycles : BitVec 64 := 0
  backendTickIntervalCycles : BitVec 64 := 1
  backendPollRequested : Bool := false
  deviceFeaturesSelect : BitVec 32 := 0
  driverFeaturesSelect : BitVec 32 := 0
  driverFeatures : BitVec 32 := 0
  guestPageSize : BitVec 32 := 0
  queueSelect : BitVec 32 := 0
  interruptStatus : BitVec 8 := 0
  deviceStatus : BitVec 8 := 0
  statistics : VirtioNetStatistics := {}

namespace VirtioNet

def maximumQueueSize : BitVec 16 := 256
def maximumFrameSize : Nat := 65550
def maximumPendingFrames : Nat := 256
def netHeaderSize : Nat := 10

def featureMac : BitVec 32 := 1 <<< 5
def featureStatus : BitVec 32 := 1 <<< 16
def linkUp : BitVec 16 := 1
def magicValue : BitVec 32 := 0x74726976
def legacyVersion : BitVec 32 := 1
def networkDeviceId : BitVec 32 := 1
def vendorId : BitVec 32 := 0x554D4551

namespace Register

def magicValue : BitVec 64 := 0x000
def version : BitVec 64 := 0x004
def deviceId : BitVec 64 := 0x008
def vendorId : BitVec 64 := 0x00C
def deviceFeatures : BitVec 64 := 0x010
def deviceFeaturesSelect : BitVec 64 := 0x014
def driverFeatures : BitVec 64 := 0x020
def driverFeaturesSelect : BitVec 64 := 0x024
def guestPageSize : BitVec 64 := 0x028
def queueSelect : BitVec 64 := 0x030
def queueNumMax : BitVec 64 := 0x034
def queueNum : BitVec 64 := 0x038
def queueAlign : BitVec 64 := 0x03C
def queuePfn : BitVec 64 := 0x040
def queueNotify : BitVec 64 := 0x050
def interruptStatus : BitVec 64 := 0x060
def interruptAck : BitVec 64 := 0x064
def status : BitVec 64 := 0x070
def config : BitVec 64 := 0x100

end Register

variable {ν δ : Type}

/-! ### Registers -/

def queueConfigured (device : VirtioNet ν) (queue : Queue) : Bool :=
  device.guestPageSize != 0 && isPowerOfTwo (device.guestPageSize.setWidth 64) &&
    queue.pageFrameNumber != 0 && queue.size != 0 && decide (queue.size ≤ maximumQueueSize) &&
    isPowerOfTwo (queue.size.setWidth 64) && isPowerOfTwo (queue.alignment.setWidth 64)

def updateQueueAddresses (device : VirtioNet ν) (queue : Queue) : Queue :=
  { queue with
    rings := if device.queueConfigured queue then
        .place queue.pageFrameNumber device.guestPageSize queue.size queue.alignment
      else {} }

/-- `queues_[index]`. -/
def queue? (device : VirtioNet ν) (index : BitVec 32) : Option Queue :=
  if index = 0 then some device.receive else if index = 1 then some device.transmit else none

/-- The entry of `queues_` that `queue_select_` names changes, if there is one. -/
def updateSelected (device : VirtioNet ν) (change : Queue → Queue) : VirtioNet ν :=
  if device.queueSelect = 0 then
    { device with receive := device.updateQueueAddresses (change device.receive) }
  else if device.queueSelect = 1 then
    { device with transmit := device.updateQueueAddresses (change device.transmit) }
  else device

/-- The backend and the statistics but one outlive a reset. -/
def reset (device : VirtioNet ν) : VirtioNet ν :=
  { mac := device.mac
    backend := device.backend
    backendTickIntervalCycles := device.backendTickIntervalCycles
    backendPollRequested := device.backend.isSome
    statistics := { device.statistics with pendingReceiveFrames := 0 } }

/-- The registers; the configuration space holds the address and the link status. -/
def read (device : VirtioNet ν) (offset : BitVec 64) (width : AccessWidth) : ReadResult :=
  if Register.config ≤ offset then
    let config := fun index =>
      if index < 6 then device.mac.toList.getD index 0
      else if index = 6 then linkUp.setWidth 8 else (linkUp >>> 8).setWidth 8
    Bytes.readLittleEndian { size := 8, byte := config } (offset - Register.config) width
  else if width ≠ .word ∨ (offset &&& 0x3) ≠ 0 then { fault := .unsupported }
  else
    let queue := device.queue? device.queueSelect
    let value : BitVec 32 :=
      if offset = Register.magicValue then magicValue
      else if offset = Register.version then legacyVersion
      else if offset = Register.deviceId then networkDeviceId
      else if offset = Register.vendorId then vendorId
      else if offset = Register.deviceFeatures then
        if device.deviceFeaturesSelect = 0 then featureMac ||| featureStatus else 0
      else if offset = Register.queueNumMax then
        if queue.isSome then maximumQueueSize.setWidth 32 else 0
      else if offset = Register.queueNum then queue.elim 0 (·.size.setWidth 32)
      else if offset = Register.queueAlign then queue.elim 0 (·.alignment)
      else if offset = Register.queuePfn then queue.elim 0 (·.pageFrameNumber)
      else if offset = Register.interruptStatus then device.interruptStatus.setWidth 32
      else if offset = Register.status then device.deviceStatus.setWidth 32
      else 0
    { value := value.setWidth 64 }

/-- A write of the notification register. -/
def notify (device : VirtioNet ν) (word : BitVec 32) : VirtioNet ν :=
  let statistics := { device.statistics with
    queueNotifyWrites := device.statistics.queueNotifyWrites + 1 }
  let accepted := { statistics with
    acceptedNotifications := statistics.acceptedNotifications + 1 }
  if word = 0 ∧ device.queueConfigured device.receive = true then
    { device with
      receive := { device.receive with notificationPending := true }
      statistics := accepted }
  else if word = 1 ∧ device.queueConfigured device.transmit = true then
    { device with
      transmit := { device.transmit with notificationPending := true }
      statistics := accepted }
  else
    { device with
      statistics := { statistics with
        rejectedNotifications := statistics.rejectedNotifications + 1 } }

/-- A write of the interrupt acknowledgement register. -/
def acknowledge (device : VirtioNet ν) (word : BitVec 32) : VirtioNet ν :=
  let statistics := device.statistics
  { device with
    interruptStatus := device.interruptStatus &&& (~~~word).setWidth 8
    statistics := if (word &&& 0x1) ≠ 0 then
        { statistics with interruptAcknowledgements := statistics.interruptAcknowledgements + 1 }
      else statistics }

def writeRegister (device : VirtioNet ν) (offset : BitVec 64) (word : BitVec 32) : VirtioNet ν :=
  if offset = Register.deviceFeaturesSelect then { device with deviceFeaturesSelect := word }
  else if offset = Register.driverFeatures then
    if device.driverFeaturesSelect = 0 then
      { device with driverFeatures := word &&& (featureMac ||| featureStatus) }
    else device
  else if offset = Register.driverFeaturesSelect then { device with driverFeaturesSelect := word }
  else if offset = Register.guestPageSize then
    let device := { device with guestPageSize := word }
    { device with
      receive := device.updateQueueAddresses device.receive
      transmit := device.updateQueueAddresses device.transmit }
  else if offset = Register.queueSelect then { device with queueSelect := word }
  else if offset = Register.queueNum then
    device.updateSelected fun queue => { queue with size := word.setWidth 16 }
  else if offset = Register.queueAlign then
    device.updateSelected fun queue => { queue with alignment := word }
  else if offset = Register.queuePfn then
    device.updateSelected fun queue => { queue with pageFrameNumber := word }
  else if offset = Register.queueNotify then device.notify word
  else if offset = Register.interruptAck then device.acknowledge word
  else if offset = Register.status then
    if word = 0 then { device.reset with guestPageSize := device.guestPageSize }
    else { device with deviceStatus := word.setWidth 8 }
  else device

def write (device : VirtioNet ν) (offset : BitVec 64) (width : AccessWidth) (value : BitVec 64) :
    BusFault × VirtioNet ν :=
  if Register.config ≤ offset then (.readOnly, device)
  else if width ≠ .word ∨ (offset &&& 0x3) ≠ 0 then (.unsupported, device)
  else (.none, device.writeRegister offset (value.setWidth 32))

/-! ### Frames from outside -/

/-- A frame that fits is put behind the pending ones; a frame is refused when there are
too many. -/
def injectReceivedFrame (device : VirtioNet ν) (frame : Frame) : Bool × VirtioNet ν :=
  if frame = [] ∨ maximumFrameSize < frame.length ∨
      maximumPendingFrames ≤ device.pendingReceiveFrames.length then
    (false, { device with statistics := device.statistics.dropReceived })
  else
    let pending := device.pendingReceiveFrames ++ [frame]
    (true, { device with
      pendingReceiveFrames := pending
      statistics := device.statistics.addPending pending.length })

section

variable [NetworkBackend ν]

def setBackend (device : VirtioNet ν) (backend : Option ν) : VirtioNet ν :=
  { device with
    backend
    backendTickCycles := 0
    backendTickIntervalCycles := backend.elim 1 fun backend =>
      if 1 < NetworkBackend.tickIntervalCycles backend then
        NetworkBackend.tickIntervalCycles backend else 1
    backendPollRequested := backend.isSome }

/-- The loop that takes frames from the backend while there is room for them. The frames
that it kept are returned too. -/
def takeFrames (backend : ν) (pending : List Frame) (statistics : VirtioNetStatistics) :
    List Frame × List Frame × VirtioNetStatistics × ν :=
  if maximumPendingFrames ≤ pending.length then ([], pending, statistics, backend)
  else
    match received : NetworkBackend.receiveFrame backend with
    | (none, backend) => ([], pending, statistics, backend)
    | (some frame, rest) =>
      have := NetworkBackend.receiveFrame_waiting received
      if frame = [] ∨ maximumFrameSize < frame.length then
        takeFrames rest pending statistics.dropReceived
      else
        let kept := pending ++ [frame]
        let others := takeFrames rest kept (statistics.addPending kept.length)
        (frame :: others.1, others.2)
termination_by NetworkBackend.waiting backend

/-- The second half of `collectBackendFrames`: the backend is due. -/
def pollBackend (device : VirtioNet ν) (backend : ν) (elapsed : BitVec 64) :
    List Frame × VirtioNet ν :=
  let taken := takeFrames (NetworkBackend.tick elapsed backend) device.pendingReceiveFrames
    (device.statistics.countPoll elapsed)
  (taken.1,
    { device with
      backendTickCycles := 0
      pendingReceiveFrames := taken.2.1
      statistics := taken.2.2.1
      backend := some taken.2.2.2 })

/-- The frames that were kept are returned too. -/
def collectBackendFrames (device : VirtioNet ν) (cycles : BitVec 64) (forcePoll : Bool) :
    List Frame × VirtioNet ν :=
  match device.backend with
  | none => ([], device)
  | some backend =>
    let elapsed := addSaturating device.backendTickCycles cycles
    if forcePoll = false ∧ elapsed < device.backendTickIntervalCycles then
      ([], { device with backendTickCycles := elapsed })
    else pollBackend device backend elapsed

end

end VirtioNet

end RvEmulator.Devices
