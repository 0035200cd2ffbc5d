import RvEmulator.Devices.NetTransmit

/-! Where the frames of the network device come from, and how its queues are set up. -/

namespace RvEmulator.Devices.VirtioNet

open Library Platform

variable {ν δ : Type}

/-! ### Polling -/

/-- The frames that a backend hands out are taken one by one, until it has no more or there is
no room behind the pending ones. Each one that fits is accepted, any other one is dropped. -/
inductive Accepted [NetworkBackend ν] : Nat → ν → List Frame → ν → Prop where
  | full {source : ν} : maximumPendingFrames ≤ pending → Accepted pending source [] source
  | none {source rest : ν} : pending < maximumPendingFrames →
      NetworkBackend.receiveFrame source = (none, rest) → Accepted pending source [] rest
  | frame {source middle rest : ν} : pending < maximumPendingFrames →
      NetworkBackend.receiveFrame source = (some frame, middle) → Fits frame →
      Accepted (pending + 1) middle frames rest → Accepted pending source (frame :: frames) rest
  | unfit {source middle rest : ν} : pending < maximumPendingFrames →
      NetworkBackend.receiveFrame source = (some frame, middle) → ¬Fits frame →
      Accepted pending middle frames rest → Accepted pending source frames rest

theorem Counted.add {pending : List Frame} {statistics : VirtioNetStatistics} {frame : Frame}
    (counted : Counted pending statistics) (room : pending.length < maximumPendingFrames)
    (fits : Fits frame) :
    Counted (pending ++ [frame]) (statistics.addPending (pending ++ [frame]).length) := by
  refine ⟨?_, rfl, ?_⟩
  · rw [List.length_append, List.length_singleton]
    exact room
  · intro other member
    obtain old | new := List.mem_append.mp member
    · exact counted.fits other old
    · rw [List.mem_singleton.mp new]
      exact fits

theorem unfit_iff (frame : Frame) :
    (frame = [] ∨ maximumFrameSize < frame.length) ↔ ¬Fits frame := by
  unfold Fits
  rw [not_and_or, not_not, Nat.not_le]

/-- What polling a backend does. -/
structure Polled [NetworkBackend ν] (backend : ν) (held : List Frame)
    (ended : List Frame × List Frame × VirtioNetStatistics × ν) : Prop where
  pending : ended.2.1 = held ++ ended.1
  counted : Counted ended.2.1 ended.2.2.1
  accepted : Accepted held.length backend ended.1 ended.2.2.2

theorem takeFrames_polled [NetworkBackend ν] (backend : ν) (pending : List Frame)
    (statistics : VirtioNetStatistics) (counted : Counted pending statistics) :
    Polled backend pending (takeFrames backend pending statistics) := by
  fun_induction takeFrames backend pending statistics with
  | case1 backend pending statistics full =>
    exact ⟨(List.append_nil _).symm, counted, .full full⟩
  | case2 backend pending statistics room rest received =>
    exact ⟨(List.append_nil _).symm, counted, .none (Nat.lt_of_not_le room) received⟩
  | case3 backend pending statistics room frame rest received _ unfit ih =>
    obtain ⟨grown, recounted, accepted⟩ := ih ⟨counted.bounded, counted.counted, counted.fits⟩
    exact ⟨grown, recounted,
      .unfit (Nat.lt_of_not_le room) received ((unfit_iff frame).mp unfit) accepted⟩
  | case4 backend pending statistics room frame rest received _ fit kept others ih =>
    have fits : Fits frame := not_not.mp fun not => fit ((unfit_iff frame).mpr not)
    obtain ⟨grown, recounted, accepted⟩ := ih (counted.add (Nat.lt_of_not_le room) fits)
    refine ⟨grown.trans (List.append_assoc _ _ _), recounted, ?_⟩
    have one : pending.length + 1 = kept.length := by
      rw [List.length_append, List.length_singleton]
    have later : Accepted (pending.length + 1) rest others.1 others.2.2.2 := by
      rw [one]
      exact accepted
    exact .frame (Nat.lt_of_not_le room) received fits later

/-! ### Setting up -/

/-- A queue that no chain was taken from, where its registers place it. -/
structure Unstarted (device : VirtioNet ν) (queue : Queue) : Prop where
  lastAvailableIndex : queue.lastAvailableIndex = 0
  usedIndex : queue.usedIndex = 0
  rings : queue.rings = (device.updateQueueAddresses queue).rings

/-- A device on which only registers were written since its reset. -/
structure Fresh (device : VirtioNet ν) : Prop where
  receive : Unstarted device device.receive
  transmit : Unstarted device device.transmit
  pending : device.pendingReceiveFrames = []
  counted : device.statistics.pendingReceiveFrames = 0

theorem Fresh.ite {condition : Prop} [Decidable condition] {device other : VirtioNet ν}
    (holds : Fresh device) (fails : Fresh other) :
    Fresh (if condition then device else other) := by
  split <;> assumption

/-- A queue is placed by the page size and its own registers alone. -/
theorem Unstarted.same {device other : VirtioNet ν} {queue : Queue}
    (unstarted : Unstarted device queue) (page : other.guestPageSize = device.guestPageSize)
    (announced : Bool) : Unstarted other { queue with notificationPending := announced } := by
  refine ⟨unstarted.lastAvailableIndex, unstarted.usedIndex, unstarted.rings.trans ?_⟩
  unfold updateQueueAddresses queueConfigured
  rw [page]

theorem Unstarted.placed {device : VirtioNet ν} {queue : Queue}
    (last : queue.lastAvailableIndex = 0) (used : queue.usedIndex = 0) :
    Unstarted device (device.updateQueueAddresses queue) :=
  ⟨last, used, rfl⟩

/-- Other registers, and chains that are announced. -/
theorem Fresh.same {device other : VirtioNet ν} (fresh : Fresh device)
    (page : other.guestPageSize = device.guestPageSize)
    (receive : ∃ announced, other.receive =
      { device.receive with notificationPending := announced })
    (transmit : ∃ announced, other.transmit =
      { device.transmit with notificationPending := announced })
    (pending : other.pendingReceiveFrames = device.pendingReceiveFrames)
    (counted : other.statistics.pendingReceiveFrames = device.statistics.pendingReceiveFrames) :
    Fresh other := by
  obtain ⟨announced, receive⟩ := receive
  obtain ⟨announcedOut, transmit⟩ := transmit
  exact ⟨receive ▸ fresh.receive.same page announced, transmit ▸ fresh.transmit.same page announcedOut,
    pending.trans fresh.pending, counted.trans fresh.counted⟩

theorem Fresh.updateSelected {device : VirtioNet ν} (fresh : Fresh device) {change : Queue → Queue}
    (last : ∀ queue, (change queue).lastAvailableIndex = queue.lastAvailableIndex)
    (used : ∀ queue, (change queue).usedIndex = queue.usedIndex) :
    Fresh (device.updateSelected change) := by
  have ⟨receive, transmit, pending, counted⟩ := fresh
  unfold VirtioNet.updateSelected
  refine .ite ⟨.placed ?_ ?_, transmit.same (by rfl) _, pending, counted⟩
    (.ite ⟨receive.same (by rfl) _, .placed ?_ ?_, pending, counted⟩ fresh)
  · exact (last _).trans receive.lastAvailableIndex
  · exact (used _).trans receive.usedIndex
  · exact (last _).trans transmit.lastAvailableIndex
  · exact (used _).trans transmit.usedIndex

theorem fresh_reset (device : VirtioNet ν) : Fresh device.reset :=
  ⟨⟨rfl, rfl, rfl⟩, ⟨rfl, rfl, rfl⟩, rfl, rfl⟩

theorem Fresh.writeRegister {device : VirtioNet ν} (fresh : Fresh device) (offset : BitVec 64)
    (word : BitVec 32) : Fresh (device.writeRegister offset word) := by
  have selected : ∀ {change : Queue → Queue},
      (∀ queue, (change queue).lastAvailableIndex = queue.lastAvailableIndex) →
      (∀ queue, (change queue).usedIndex = queue.usedIndex) →
      Fresh (device.updateSelected change) := fresh.updateSelected
  have placed : Fresh (let device := { device with guestPageSize := word }
      { device with
        receive := device.updateQueueAddresses device.receive
        transmit := device.updateQueueAddresses device.transmit }) :=
    ⟨.placed fresh.receive.lastAvailableIndex fresh.receive.usedIndex,
      .placed fresh.transmit.lastAvailableIndex fresh.transmit.usedIndex, fresh.pending,
      fresh.counted⟩
  have notified : Fresh (device.notify word) :=
    .ite (fresh.same rfl ⟨_, rfl⟩ ⟨_, rfl⟩ rfl rfl)
      (.ite (fresh.same rfl ⟨_, rfl⟩ ⟨_, rfl⟩ rfl rfl)
        (fresh.same rfl ⟨_, rfl⟩ ⟨_, rfl⟩ rfl rfl))
  have acknowledged : Fresh (device.acknowledge word) := by
    refine fresh.same rfl ⟨_, rfl⟩ ⟨_, rfl⟩ rfl ?_
    unfold VirtioNet.acknowledge
    dsimp only
    split <;> rfl
  -- Without a page frame number no queue is configured.
  have restarted : Fresh { device.reset with guestPageSize := device.guestPageSize } := by
    refine ⟨⟨rfl, rfl, (if_neg ?_).symm⟩, ⟨rfl, rfl, (if_neg ?_).symm⟩, rfl, rfl⟩ <;>
      simp [queueConfigured, reset]
  unfold VirtioNet.writeRegister
  refine .ite (fresh.same rfl ⟨_, rfl⟩ ⟨_, rfl⟩ rfl rfl) (.ite
    (.ite (fresh.same rfl ⟨_, rfl⟩ ⟨_, rfl⟩ rfl rfl) fresh)
    (.ite (fresh.same rfl ⟨_, rfl⟩ ⟨_, rfl⟩ rfl rfl) (.ite placed
      (.ite (fresh.same rfl ⟨_, rfl⟩ ⟨_, rfl⟩ rfl rfl) ?_))))
  refine .ite (selected (fun _ => rfl) (fun _ => rfl)) (.ite (selected (fun _ => rfl) (fun _ => rfl))
    (.ite (selected (fun _ => rfl) (fun _ => rfl)) (.ite notified (.ite acknowledged ?_))))
  exact .ite (.ite restarted (fresh.same rfl ⟨_, rfl⟩ ⟨_, rfl⟩ rfl rfl)) fresh

theorem Fresh.write {device : VirtioNet ν} (fresh : Fresh device) (offset value : BitVec 64) :
    Fresh (device.write offset .word value).2 := by
  unfold VirtioNet.write
  split
  · exact fresh
  split
  · exact fresh
  · exact fresh.writeRegister offset _

theorem Fresh.foldl {device : VirtioNet ν} (fresh : Fresh device)
    (writes : List (BitVec 64 × BitVec 64)) :
    Fresh (writes.foldl (fun device entry => (device.write entry.1 .word entry.2).2) device) :=
  List.foldlRecOn writes _ fresh fun _ kept entry _ => kept.write entry.1 entry.2

/-- What `queue_configured` says about a queue. -/
theorem size_of_configured {device : VirtioNet ν} {queue : Queue}
    (configured : device.queueConfigured queue = true) :
    queue.size ≠ 0 ∧ queue.size ≤ 256 ∧ queue.alignment ≠ 0 ∧ queue.size.toNat ∣ 2 ^ 16 := by
  unfold queueConfigured at configured
  simp only [Bool.and_eq_true, decide_eq_true_eq, bne_iff_ne] at configured
  obtain ⟨⟨⟨⟨_, some⟩, small⟩, power⟩, aligned⟩ := configured
  exact ⟨some, small, dvd_of_powers power aligned⟩

end RvEmulator.Devices.VirtioNet
