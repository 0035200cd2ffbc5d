import RvEmulator.Devices.NetFaults
import RvEmulator.Devices.NetRun

/-! What register writes, frames from outside and ticks do to the frames of the network
device, whatever memory accesses are refused. -/

namespace RvEmulator.Devices.VirtioNet

open Platform

variable {ν δ : Type}

/-! ### Registers -/

/-- A write to the status register that resets the device. -/
def Resets (offset : BitVec 64) (width : AccessWidth) (value : BitVec 64) : Prop :=
  offset = Register.status ∧ width = .word ∧ value.setWidth 32 = (0 : BitVec 32)

instance (offset : BitVec 64) (width : AccessWidth) (value : BitVec 64) :
    Decidable (Resets offset width value) :=
  inferInstanceAs (Decidable (_ ∧ _ ∧ _))

/-- What register writes leave alone. -/
structure Keeps (before after : VirtioNet ν) : Prop where
  usedIndex : after.receive.usedIndex = before.receive.usedIndex
  lastAvailableIndex : after.transmit.lastAvailableIndex = before.transmit.lastAvailableIndex
  pending : after.pendingReceiveFrames = before.pendingReceiveFrames
  received : after.statistics.received = before.statistics.received

theorem Keeps.refl (device : VirtioNet ν) : Keeps device device :=
  ⟨rfl, rfl, rfl, rfl⟩

theorem Keeps.ite {condition : Prop} [Decidable condition] {before device other : VirtioNet ν}
    (holds : condition → Keeps before device) (fails : ¬condition → Keeps before other) :
    Keeps before (if condition then device else other) := by
  split
  · exact holds ‹_›
  · exact fails ‹_›

theorem keeps_updateSelected (device : VirtioNet ν) {change : Queue → Queue}
    (last : ∀ queue, (change queue).lastAvailableIndex = queue.lastAvailableIndex)
    (used : ∀ queue, (change queue).usedIndex = queue.usedIndex) :
    Keeps device (device.updateSelected change) := by
  unfold updateSelected
  refine .ite (fun _ => ⟨used _, rfl, rfl, rfl⟩) fun _ => .ite (fun _ => ?_) fun _ => .refl _
  exact ⟨rfl, last _, rfl, rfl⟩

theorem keeps_writeRegister (device : VirtioNet ν) (offset : BitVec 64) (word : BitVec 32)
    (works : ¬(offset = Register.status ∧ word = 0)) :
    Keeps device (device.writeRegister offset word) := by
  have same : Keeps device device := .refl device
  have selected : ∀ {change : Queue → Queue},
      (∀ queue, (change queue).lastAvailableIndex = queue.lastAvailableIndex) →
      (∀ queue, (change queue).usedIndex = queue.usedIndex) →
      Keeps device (device.updateSelected change) := keeps_updateSelected device
  have notified : Keeps device (device.notify word) :=
    .ite (fun _ => ⟨rfl, rfl, rfl, rfl⟩) fun _ =>
      .ite (fun _ => ⟨rfl, rfl, rfl, rfl⟩) fun _ => ⟨rfl, rfl, rfl, rfl⟩
  have acknowledged : Keeps device (device.acknowledge word) := by
    refine ⟨rfl, rfl, rfl, ?_⟩
    unfold acknowledge
    dsimp only
    split <;> rfl
  unfold writeRegister
  refine .ite (fun _ => ⟨rfl, rfl, rfl, rfl⟩) fun _ =>
    .ite (fun _ => .ite (fun _ => ⟨rfl, rfl, rfl, rfl⟩) fun _ => same) fun _ =>
    .ite (fun _ => ⟨rfl, rfl, rfl, rfl⟩) fun _ => .ite (fun _ => ⟨rfl, rfl, rfl, rfl⟩) fun _ =>
    .ite (fun _ => ⟨rfl, rfl, rfl, rfl⟩) fun _ => ?_
  refine .ite (fun _ => selected (fun _ => rfl) fun _ => rfl) fun _ =>
    .ite (fun _ => selected (fun _ => rfl) fun _ => rfl) fun _ =>
    .ite (fun _ => selected (fun _ => rfl) fun _ => rfl) fun _ =>
    .ite (fun _ => notified) fun _ => .ite (fun _ => acknowledged) fun _ => ?_
  exact .ite (fun status => .ite (fun zero => absurd ⟨status, zero⟩ works)
    fun _ => ⟨rfl, rfl, rfl, rfl⟩) fun _ => same

theorem keeps_write {device : VirtioNet ν} {offset value : BitVec 64} {width : AccessWidth}
    (works : ¬Resets offset width value) : Keeps device (device.write offset width value).2 := by
  unfold write
  split
  · exact .refl device
  split
  · exact .refl device
  · rename_i aligned
    refine keeps_writeRegister device offset _ fun ⟨status, zero⟩ => works ⟨status, ?_, zero⟩
    exact not_not.mp fun other => aligned (.inl other)

theorem write_of_resets {device : VirtioNet ν} {offset value : BitVec 64} {width : AccessWidth}
    (resets : Resets offset width value) : (device.write offset width value).2 =
      { device.reset with guestPageSize := device.guestPageSize } := by
  obtain ⟨rfl, rfl, zero⟩ := resets
  unfold write
  rw [if_neg (by decide), if_neg (by decide), zero]
  rfl

/-! ### Polling -/

section

variable [NetworkBackend ν]

/-- The number of frames of a backend that do not fit. -/
def refusals (backend : ν) (pending : List Frame) : Nat :=
  if maximumPendingFrames ≤ pending.length then 0
  else
    match received : NetworkBackend.receiveFrame backend with
    | (none, _) => 0
    | (some frame, rest) =>
      have := NetworkBackend.receiveFrame_waiting received
      if frame = [] ∨ maximumFrameSize < frame.length then refusals rest pending + 1
      else refusals rest (pending ++ [frame])
termination_by NetworkBackend.waiting backend

/-- The frames of a backend that are refused in a tick. -/
def refusing (device : VirtioNet ν) (cycles : BitVec 64) : Nat :=
  match device.backend with
  | none => 0
  | some backend =>
    let elapsed := addSaturating device.backendTickCycles cycles
    if device.backendPollRequested = false ∧ elapsed < device.backendTickIntervalCycles then 0
    else refusals (NetworkBackend.tick elapsed backend) device.pendingReceiveFrames

/-- What frames from outside do: some are kept, and some are refused and counted. -/
structure Admits (before after : VirtioNet ν) (kept : List Frame) (refused : Nat) : Prop where
  receive : after.receive = before.receive
  transmit : after.transmit = before.transmit
  pending : after.pendingReceiveFrames = before.pendingReceiveFrames ++ kept
  receivedFrames : after.statistics.receivedFrames = before.statistics.receivedFrames
  dropped : after.statistics.droppedReceiveFrames =
    before.statistics.droppedReceiveFrames + BitVec.ofNat 64 refused

theorem refusals_of_none {backend rest : ν} {pending : List Frame}
    (received : NetworkBackend.receiveFrame backend = (none, rest)) :
    refusals backend pending = 0 := by
  rw [refusals]
  split
  · rfl
  split
  · rfl
  · rename_i other
    rw [received] at other
    cases other

theorem refusals_of_some {backend rest : ν} {frame : Frame} {pending : List Frame}
    (room : ¬maximumPendingFrames ≤ pending.length)
    (received : NetworkBackend.receiveFrame backend = (some frame, rest)) :
    refusals backend pending =
      if frame = [] ∨ maximumFrameSize < frame.length then refusals rest pending + 1
      else refusals rest (pending ++ [frame]) := by
  rw [refusals, if_neg room]
  split
  · rename_i other
    rw [received] at other
    cases other
  · rename_i other
    rw [received] at other
    cases other
    rfl

theorem takeFrames_counts (backend : ν) (pending : List Frame) (statistics : VirtioNetStatistics) :
    (takeFrames backend pending statistics).2.1 =
        pending ++ (takeFrames backend pending statistics).1 ∧
      (takeFrames backend pending statistics).2.2.1.received =
        (statistics.receivedFrames,
          statistics.droppedReceiveFrames + BitVec.ofNat 64 (refusals backend pending)) := by
  fun_induction takeFrames backend pending statistics with
  | case1 backend pending statistics full =>
    rw [refusals, if_pos full]
    exact ⟨(List.append_nil _).symm, Prod.ext rfl (BitVec.add_zero _).symm⟩
  | case2 backend pending statistics room rest received =>
    rw [refusals_of_none received]
    exact ⟨(List.append_nil _).symm, Prod.ext rfl (BitVec.add_zero _).symm⟩
  | case3 backend pending statistics room frame rest received _ unfit ih =>
    obtain ⟨grown, counts⟩ := ih
    refine ⟨grown, counts.trans (Prod.ext rfl ?_)⟩
    rw [refusals_of_some room received, if_pos unfit, BitVec.ofNat_add, BitVec.add_comm _ 1#64,
      ← BitVec.add_assoc]
    rfl
  | case4 backend pending statistics room frame rest received _ fit kept others ih =>
    obtain ⟨grown, counts⟩ := ih
    rw [refusals_of_some room received, if_neg fit]
    exact ⟨grown.trans (List.append_assoc _ _ _), counts⟩

theorem admits_collectBackendFrames (device : VirtioNet ν) (cycles : BitVec 64) :
    Admits device
      (collectBackendFrames { device with backendPollRequested := false } cycles
        device.backendPollRequested).2
      (collectBackendFrames { device with backendPollRequested := false } cycles
        device.backendPollRequested).1 (refusing device cycles) := by
  unfold collectBackendFrames refusing
  cases device.backend with
  | none =>
    exact ⟨rfl, rfl, (List.append_nil _).symm, rfl, (BitVec.add_zero _).symm⟩
  | some backend =>
    dsimp only
    split
    · exact ⟨rfl, rfl, (List.append_nil _).symm, rfl, (BitVec.add_zero _).symm⟩
    · obtain ⟨grown, counts⟩ := takeFrames_counts
        (NetworkBackend.tick (addSaturating device.backendTickCycles cycles) backend)
        device.pendingReceiveFrames
        (device.statistics.countPoll (addSaturating device.backendTickCycles cycles))
      obtain ⟨receivedFrames, dropped⟩ := Prod.mk.inj counts
      exact ⟨rfl, rfl, grown, receivedFrames, dropped⟩

omit [NetworkBackend ν] in
/-- A frame from the host is kept, or it is refused and counted. -/
theorem admits_inject (device : VirtioNet ν) (frame : Frame) :
    Admits device (device.injectReceivedFrame frame).2
      (if (device.injectReceivedFrame frame).1 then [frame] else [])
      (if (device.injectReceivedFrame frame).1 then 0 else 1) := by
  unfold injectReceivedFrame
  split
  · exact ⟨rfl, rfl, (List.append_nil _).symm, rfl, rfl⟩
  · exact ⟨rfl, rfl, rfl, rfl, (BitVec.add_zero _).symm⟩

end

/-! ### Ticks -/

section

variable [DmaAccess δ]

/-- What a tick adds up to. -/
structure Adds (before after : VirtioNet ν) (kept : List Frame) (refused : Nat)
    (sent received : List (Round ν δ)) : Prop where
  lastAvailableIndex : after.transmit.lastAvailableIndex =
    before.transmit.lastAvailableIndex + BitVec.ofNat 16 ((sent.map (·.taken)).sum)
  pending : before.pendingReceiveFrames ++ kept =
    received.flatMap (·.popped) ++ after.pendingReceiveFrames
  receivedFrames : after.statistics.receivedFrames =
    before.statistics.receivedFrames + BitVec.ofNat 64 (received.countP (·.received))
  dropped : after.statistics.droppedReceiveFrames =
    before.statistics.droppedReceiveFrames +
      BitVec.ofNat 64 (refused + received.countP (·.dropped))
  usedIndex : after.receive.usedIndex =
    before.receive.usedIndex + BitVec.ofNat 16 (received.countP (·.completed))

variable [NetworkBackend ν]

theorem processTransmitQueue_rounds (device : VirtioNet ν) (dma : δ) :
    SameReceive device (processTransmitQueue device dma).1 ∧
      (processTransmitQueue device dma).1.transmit.lastAvailableIndex =
        device.transmit.lastAvailableIndex + BitVec.ofNat 16
          (((if device.queueConfigured device.transmit = true then
            transmitRounds device.transmit.size.toNat device dma else []).map (·.taken)).sum) := by
  unfold processTransmitQueue
  cases device.queueConfigured device.transmit with
  | true =>
    exact ⟨sameReceive_transmitLoop _ device dma, (linked_transmitLoop _ device dma).taken⟩
  | false => exact ⟨⟨rfl, rfl, rfl⟩, (BitVec.add_zero _).symm⟩

/-- What polling and transmission add up to. -/
theorem adds_pollAndTransmit (device : VirtioNet ν) (cycles : BitVec 64) (dma : δ) :
    Adds device (pollAndTransmit device cycles dma).2.1 (pollAndTransmit device cycles dma).1
      (refusing device cycles) (sending device cycles dma) [] := by
  have admits := admits_collectBackendFrames device cycles
  unfold pollAndTransmit sending
  dsimp only
  generalize collectBackendFrames { device with backendPollRequested := false } cycles
    device.backendPollRequested = collected at admits ⊢
  obtain ⟨kept, polled⟩ := collected
  obtain ⟨receive, transmit, pending, receivedFrames, dropped⟩ := admits
  dsimp only at receive transmit pending receivedFrames dropped ⊢
  cases polled.transmit.notificationPending with
  | false =>
    refine ⟨?_, pending.symm, receivedFrames.trans (BitVec.add_zero _).symm, dropped, ?_⟩
    · rw [if_neg Bool.false_ne_true, transmit]
      exact (BitVec.add_zero _).symm
    · rw [if_neg Bool.false_ne_true, receive]
      exact (BitVec.add_zero _).symm
  | true =>
    obtain ⟨⟨sameReceive, samePending, sameCounts⟩, moved⟩ := processTransmitQueue_rounds
      { polled with transmit := { polled.transmit with notificationPending := false } } dma
    obtain ⟨sameReceived, sameDropped⟩ := Prod.mk.inj sameCounts
    rw [if_pos rfl]
    refine ⟨?_, ?_, ?_, ?_, ?_⟩
    · rw [← transmit]
      simpa only [true_and] using moved
    · exact pending.symm.trans samePending.symm
    · exact (sameReceived.trans receivedFrames).trans (BitVec.add_zero _).symm
    · exact sameDropped.trans dropped
    · exact ((congrArg (·.usedIndex) sameReceive).trans (congrArg (·.usedIndex) receive)).trans
        (BitVec.add_zero _).symm

omit [NetworkBackend ν] in
theorem settles_processReceiveQueue (kept : List Frame) (waiting : VirtioNet ν) (dma : δ) :
    Settles waiting
      (if waiting.pendingReceiveFrames.isEmpty then ((kept, ([] : List Delivery)), waiting, dma)
        else ((kept, (processReceiveQueue waiting dma).1), (processReceiveQueue waiting dma).2)).2.1
      (if waiting.queueConfigured waiting.receive = true then
        receiveRounds waiting.receive.size.toNat waiting dma else []) := by
  have same : Settles waiting waiting ([] : List (Round ν δ)) :=
    .of_sameReceive ⟨rfl, rfl, rfl⟩ rfl
  have loop := settles_receiveLoop waiting.receive.size.toNat waiting dma
  unfold processReceiveQueue
  split
  · rename_i empty
    rw [receiveLoop_of_none (List.isEmpty_iff.mp empty)] at loop
    split
    · exact loop
    · exact same
  · cases waiting.queueConfigured waiting.receive with
    | true => exact loop
    | false => exact same

/-- What reception adds up to in a tick. -/
theorem settles_tick (device : VirtioNet ν) (cycles : BitVec 64) (dma : δ) :
    ∃ waiting : VirtioNet ν, { (pollAndTransmit device cycles dma).2.1 with
        receive := { (pollAndTransmit device cycles dma).2.1.receive with
          notificationPending := false } } = waiting ∧
      (device.tick cycles dma).1.1 = (pollAndTransmit device cycles dma).1 ∧
      Settles waiting (device.tick cycles dma).2.1 (receiving device cycles dma) := by
  refine ⟨_, rfl, ?_, settles_processReceiveQueue _ _ _⟩
  unfold VirtioNet.tick
  dsimp only
  split <;> rfl

theorem adds_tick (device : VirtioNet ν) (cycles : BitVec 64) (dma : δ) :
    Adds device (device.tick cycles dma).2.1 (device.tick cycles dma).1.1
      (refusing device cycles) (sending device cycles dma) (receiving device cycles dma) := by
  obtain ⟨last, pending, receivedFrames, dropped, usedIndex⟩ :=
    adds_pollAndTransmit device cycles dma
  obtain ⟨waiting, rfl, kept, settles⟩ := settles_tick device cycles dma
  obtain ⟨transmit, samePending, sameReceived, sameDropped, sameUsed⟩ := settles
  rw [kept]
  refine ⟨?_, ?_, ?_, ?_, ?_⟩
  · rw [transmit]
    exact last
  · exact pending.trans samePending
  · rw [sameReceived]
    exact congrArg (· + _) (receivedFrames.trans (BitVec.add_zero _))
  · rw [sameDropped, BitVec.ofNat_add, ← BitVec.add_assoc]
    exact congrArg (· + _) dropped
  · rw [sameUsed]
    exact congrArg (· + _) (usedIndex.trans (BitVec.add_zero _))

end

end RvEmulator.Devices.VirtioNet
