import RvEmulator.Devices.NetFrames

/-! Runs of the network device: frames come in order, and go to the guest in order. -/

namespace RvEmulator.Devices.VirtioNet

open Library Platform

variable {ν δ : Type}

/-! ### Sessions -/

/-- The device and its surroundings: the frames it has accepted, and those it has taken
off again. -/
structure Session (ν δ : Type) where
  device : VirtioNet ν
  dma : δ
  accepted : List Frame := []
  consumed : List Delivery := []

inductive Action where
  | drive
  | host
  | inject (frame : Frame)
  | notify (value : BitVec 64)
  | acknowledge (value : BitVec 64)
  | tick (cycles : BitVec 64)

variable [DmaAccess δ]

/-- The buffers of the available chains are disjoint from each other and from the receive
queue, and so is the used ring of the transmit queue. -/
structure Apart (memory : DmaMemory δ) (session : Session ν δ) : Prop where
  offers : Offers memory session.device.receive.size session.device.receive.rings
    session.consumed.length session.device.receive.size.toNat (memory.contents session.dma)
  rings : session.device.queueConfigured session.device.transmit = true → ∀ address,
    session.device.transmit.rings.InUsed session.device.transmit.size address →
    ¬session.device.receive.rings.Contains session.device.receive.size address

def Session.write (session : Session ν δ) (offset value : BitVec 64) : Session ν δ :=
  { session with device := (session.device.write offset .word value).2 }

def Session.inject (session : Session ν δ) (frame : Frame) : Session ν δ :=
  { session with
    device := (session.device.injectReceivedFrame frame).2
    accepted := if (session.device.injectReceivedFrame frame).1 then session.accepted ++ [frame]
      else session.accepted }

def Session.tick [NetworkBackend ν] (session : Session ν δ) (cycles : BitVec 64) : Session ν δ :=
  let ticked := session.device.tick cycles session.dma
  { device := ticked.2.1
    dma := ticked.2.2
    accepted := session.accepted ++ ticked.1.1
    consumed := session.consumed ++ ticked.1.2 }

/-- The driver may change any memory; frames reach the backend at any time. -/
inductive Step [NetworkBackend ν] (memory : DmaMemory δ) :
    Action → Session ν δ → Session ν δ → Prop where
  | drive : memory.sound dma → Step memory .drive session { session with dma }
  | host {old new : ν} : session.device.backend = some old →
      Step memory .host session
        { session with device := { session.device with backend := some new } }
  | inject : Step memory (.inject frame) session (session.inject frame)
  | notify : Step memory (.notify value) session (session.write Register.queueNotify value)
  | acknowledge : Step memory (.acknowledge value) session
      (session.write Register.interruptAck value)
  | tick : Apart memory session → Step memory (.tick cycles) session (session.tick cycles)

/-- A receive queue that was set up by register writes after a reset. -/
structure Ready (memory : DmaMemory δ) (session : Session ν δ) : Prop where
  setUp : ∃ original : VirtioNet ν, ∃ writes : List (BitVec 64 × BitVec 64), session.device =
    writes.foldl (fun device entry => (device.write entry.1 .word entry.2).2) original.reset
  configured : session.device.queueConfigured session.device.receive = true
  sound : memory.sound session.dma
  answered : session.device.receive.rings.Answered memory session.device.receive.size
  table : session.device.receive.rings.TableAnswered memory session.device.receive.size
  unaccepted : session.accepted = []
  unconsumed : session.consumed = []

inductive Run [NetworkBackend ν] (memory : DmaMemory δ) (start : Session ν δ) :
    Session ν δ → Prop where
  | start : Run memory start start
  | step : Run memory start before → Step memory action before after → Run memory start after

/-- The receive side, and the frames it holds between those consumed and those to come. -/
structure Queued (memory : DmaMemory δ) (size : BitVec 16) (rings : Rings)
    (session : Session ν δ) : Prop where
  receiving : Receiving memory size rings session.consumed.length session.device session.dma
  ordered : session.accepted =
    session.consumed.map (·.frame) ++ session.device.pendingReceiveFrames

section

variable {memory : DmaMemory δ} {size : BitVec 16} {rings : Rings} {session : Session ν δ}

theorem Ready.wired (ready : Ready memory session) :
    Wired memory session.device.receive.size session.device.receive.rings := by
  obtain ⟨some, small, aligned, divides⟩ := size_of_configured ready.configured
  obtain ⟨original, writes, made⟩ := ready.setUp
  have fresh : Fresh session.device := made ▸ (fresh_reset original).foldl writes
  have placed : session.device.receive.rings = .place session.device.receive.pageFrameNumber
      session.device.guestPageSize session.device.receive.size
      session.device.receive.alignment := by
    rw [fresh.receive.rings]
    exact if_pos ready.configured
  refine ⟨?_, divides, BitVec.le_def.mp small, ready.answered, ready.table⟩
  rw [placed]
  exact Rings.follows_place _ _ _ some small aligned

theorem Ready.queued (ready : Ready memory session) :
    Queued memory session.device.receive.size session.device.receive.rings session := by
  obtain ⟨original, writes, made⟩ := ready.setUp
  have fresh : Fresh session.device := made ▸ (fresh_reset original).foldl writes
  refine ⟨⟨rfl, rfl, ready.configured, ?_, ?_, ?_, ready.sound⟩, ?_⟩
  · rw [fresh.receive.lastAvailableIndex, ready.unconsumed]
    rfl
  · rw [fresh.receive.usedIndex, ready.unconsumed]
    rfl
  · rw [fresh.pending]
    refine ⟨Nat.zero_le _, fresh.counted, fun frame member => ?_⟩
    exact absurd member List.not_mem_nil
  · rw [ready.unaccepted, ready.unconsumed, fresh.pending]
    rfl

/-! ### Steps -/

/-- A change of the device that leaves the receive side alone. -/
theorem Queued.of_device (queued : Queued memory size rings session) {device : VirtioNet ν}
    (receive : device.receive.size = session.device.receive.size ∧
      device.receive.rings = session.device.receive.rings ∧
      device.receive.lastAvailableIndex = session.device.receive.lastAvailableIndex ∧
      device.receive.usedIndex = session.device.receive.usedIndex)
    (configured : device.queueConfigured device.receive =
      session.device.queueConfigured session.device.receive)
    (pending : device.pendingReceiveFrames = session.device.pendingReceiveFrames)
    (counted : device.statistics.pendingReceiveFrames =
      session.device.statistics.pendingReceiveFrames) :
    Queued memory size rings { session with device } := by
  obtain ⟨sameSize, placed, last, used⟩ := receive
  obtain ⟨receiving, ordered⟩ := queued
  refine ⟨⟨sameSize.trans receiving.size, placed.trans receiving.placed,
    configured.trans receiving.configured, last.trans receiving.lastAvailableIndex,
    used.trans receiving.usedIndex, ?_, receiving.sound⟩, ?_⟩
  · dsimp only
    rw [pending]
    exact ⟨receiving.frames.bounded, counted.trans receiving.frames.counted, receiving.frames.fits⟩
  · dsimp only
    rw [pending]
    exact ordered

theorem Queued.notify (queued : Queued memory size rings session) (value : BitVec 64) :
    Queued memory size rings (session.write Register.queueNotify value) := by
  have registered : Queued memory size rings
      { session with device := session.device.notify (value.setWidth 32) } := by
    unfold VirtioNet.notify
    dsimp only
    split
    · exact queued.of_device ⟨rfl, rfl, rfl, rfl⟩ rfl rfl rfl
    split
    · exact queued.of_device ⟨rfl, rfl, rfl, rfl⟩ rfl rfl rfl
    · exact queued.of_device ⟨rfl, rfl, rfl, rfl⟩ rfl rfl rfl
  exact registered

theorem Queued.acknowledge (queued : Queued memory size rings session) (value : BitVec 64) :
    Queued memory size rings (session.write Register.interruptAck value) := by
  have registered : Queued memory size rings
      { session with device := session.device.acknowledge (value.setWidth 32) } := by
    refine queued.of_device ⟨rfl, rfl, rfl, rfl⟩ rfl rfl ?_
    unfold VirtioNet.acknowledge
    dsimp only
    split <;> rfl
  exact registered

/-- An injected frame is accepted if and only if it fits and there is room. -/
theorem inject_eq (device : VirtioNet ν) (frame : Frame) :
    device.injectReceivedFrame frame =
      if Fits frame ∧ device.pendingReceiveFrames.length < maximumPendingFrames then
        (true, { device with
          pendingReceiveFrames := device.pendingReceiveFrames ++ [frame]
          statistics := device.statistics.addPending
            (device.pendingReceiveFrames ++ [frame]).length })
      else (false, { device with statistics := device.statistics.dropReceived }) := by
  unfold injectReceivedFrame
  by_cases accepted : Fits frame ∧ device.pendingReceiveFrames.length < maximumPendingFrames
  · rw [if_pos accepted, if_neg]
    rw [← or_assoc, unfit_iff]
    rintro (unfit | full)
    · exact unfit accepted.1
    · exact Nat.not_le_of_lt accepted.2 full
  · rw [if_neg accepted, if_pos]
    rw [← or_assoc, unfit_iff]
    by_cases fits : Fits frame
    · exact .inr (Nat.le_of_not_lt fun room => accepted ⟨fits, room⟩)
    · exact .inl fits

theorem Queued.inject (queued : Queued memory size rings session) (frame : Frame) :
    Queued memory size rings (session.inject frame) := by
  unfold Session.inject
  rw [inject_eq]
  by_cases accepted : Fits frame ∧
      session.device.pendingReceiveFrames.length < maximumPendingFrames
  · rw [if_pos accepted]
    obtain ⟨⟨sameSize, placed, configured, last, used, frames, sound⟩, ordered⟩ := queued
    refine ⟨⟨sameSize, placed, configured, last, used, frames.add accepted.2 accepted.1, sound⟩, ?_⟩
    dsimp only
    rw [if_pos rfl, ordered, List.append_assoc]
  · rw [if_neg accepted]
    exact queued.of_device ⟨rfl, rfl, rfl, rfl⟩ rfl rfl rfl

end

/-! ### A tick -/

section

variable [NetworkBackend ν] {memory : DmaMemory δ} {size : BitVec 16} {rings : Rings}
  {session : Session ν δ}

omit [DmaAccess δ] in
/-- The frames that a tick accepts from the backend, and the backend after that. It is asked when
a call is forced or due. -/
def Polls (device : VirtioNet ν) (cycles : BitVec 64) (forced : Bool) (polled : List Frame)
    (after : Option ν) : Prop :=
  match device.backend with
  | none => polled = [] ∧ after = none
  | some backend =>
    let elapsed := addSaturating device.backendTickCycles cycles
    if forced = false ∧ elapsed < device.backendTickIntervalCycles then
      polled = [] ∧ after = some backend
    else
      ∃ rest, after = some rest ∧ Accepted device.pendingReceiveFrames.length
        (NetworkBackend.tick elapsed backend) polled rest

omit [DmaAccess δ] in
theorem pollBackend_spec {device : VirtioNet ν}
    (counted : Counted device.pendingReceiveFrames device.statistics) (backend : ν)
    (elapsed : BitVec 64) :
    ∃ polled tickCycles statistics rest, pollBackend device backend elapsed =
        (polled, { device with
          backendTickCycles := tickCycles
          pendingReceiveFrames := device.pendingReceiveFrames ++ polled
          statistics
          backend := some rest }) ∧
      Counted (device.pendingReceiveFrames ++ polled) statistics ∧
      Accepted device.pendingReceiveFrames.length (NetworkBackend.tick elapsed backend) polled
        rest := by
  have polled := takeFrames_polled (NetworkBackend.tick elapsed backend)
    device.pendingReceiveFrames (device.statistics.countPoll elapsed)
    ⟨counted.bounded, counted.counted, counted.fits⟩
  unfold pollBackend
  generalize takeFrames (NetworkBackend.tick elapsed backend) device.pendingReceiveFrames
    (device.statistics.countPoll elapsed) = taken at polled ⊢
  obtain ⟨kept, pending, statistics, rest⟩ := taken
  obtain ⟨grown, recounted, accepted⟩ := polled
  dsimp only at grown recounted accepted ⊢
  subst grown
  exact ⟨kept, _, statistics, rest, rfl, recounted, accepted⟩

/-- What a tick does before it receives frames: polling puts frames behind the pending
ones, and transmission gives frames to the backend and writes to its own used ring. -/
structure Prepared (memory : DmaMemory δ) (cycles : BitVec 64) (before : VirtioNet ν × δ)
    (polled : List Frame) (after : VirtioNet ν × δ) : Prop where
  polls : ∃ backend, Polls before.1 cycles before.1.backendPollRequested polled backend ∧
    Gives backend after.1.backend
  pending : after.1.pendingReceiveFrames = before.1.pendingReceiveFrames ++ polled
  contents : ∀ address, memory.contents after.2 address = memory.contents before.2 address ∨
    before.1.queueConfigured before.1.transmit = true ∧
      before.1.transmit.rings.InUsed before.1.transmit.size address

/-- Polling, with its effect on the device. -/
theorem collectBackendFrames_spec {device : VirtioNet ν}
    (counted : Counted device.pendingReceiveFrames device.statistics) (cycles : BitVec 64)
    (forced : Bool) :
    ∃ polled tickCycles statistics backend, collectBackendFrames device cycles forced =
        (polled, { device with
          backendTickCycles := tickCycles
          pendingReceiveFrames := device.pendingReceiveFrames ++ polled
          statistics
          backend }) ∧
      Counted (device.pendingReceiveFrames ++ polled) statistics ∧
      Polls device cycles forced polled backend := by
  unfold collectBackendFrames Polls
  cases present : device.backend with
  | none =>
    refine ⟨[], device.backendTickCycles, device.statistics, device.backend, ?_, ?_, rfl, present⟩
    · rw [List.append_nil]
    · rwa [List.append_nil]
  | some backend =>
    dsimp only
    by_cases waits : forced = false ∧
        addSaturating device.backendTickCycles cycles < device.backendTickIntervalCycles
    · rw [if_pos waits]
      refine ⟨[], addSaturating device.backendTickCycles cycles, device.statistics, some backend,
        ?_, ?_, ?_⟩
      · rw [List.append_nil]
      · rwa [List.append_nil]
      · rw [if_pos waits]
        exact ⟨rfl, rfl⟩
    · obtain ⟨polled, tickCycles, statistics, rest, same, recounted, accepted⟩ :=
        pollBackend_spec counted backend (addSaturating device.backendTickCycles cycles)
      rw [if_neg waits, same]
      refine ⟨polled, tickCycles, statistics, some rest, rfl, recounted, ?_⟩
      rw [if_neg waits]
      exact ⟨rest, rfl, accepted⟩

/-- The receive side does not depend on the fields that transmission changes. -/
theorem Receiving.of_transmitted {count : Nat} {device : VirtioNet ν} {dma : δ}
    (receiving : Receiving memory size rings count device dma) {after : VirtioNet ν × δ}
    (transmitted : Transmitted memory (device, dma) after) :
    Receiving memory size rings count after.1 after.2 := by
  obtain ⟨sameSize, placed, configured, last, used, frames, _⟩ := receiving
  obtain ⟨receive, pending, page, _, _, _, counts, written⟩ := transmitted
  dsimp only at receive pending page
  refine ⟨?_, ?_, ?_, ?_, ?_, ?_, written.sound⟩
  · rwa [receive]
  · rwa [receive]
  · unfold queueConfigured at configured ⊢
    rwa [receive, page]
  · rwa [receive]
  · rwa [receive]
  · rw [pending]
    exact ⟨frames.bounded, counts.pending.trans frames.counted, frames.fits⟩

/-- Transmission writes to its own used ring, if that is set up. -/
theorem processTransmitQueue_contents (device : VirtioNet ν) {dma : δ} (sound : memory.sound dma)
    (address : PhysAddr) :
    memory.contents (processTransmitQueue device dma).2 address = memory.contents dma address ∨
      device.queueConfigured device.transmit = true ∧
        device.transmit.rings.InUsed device.transmit.size address := by
  by_cases configured : device.queueConfigured device.transmit = true
  · by_cases used : device.transmit.rings.InUsed device.transmit.size address
    · exact .inr ⟨configured, used⟩
    · exact .inl ((transmitted_processTransmitQueue sound).memory.bytes address used)
  · left
    unfold processTransmitQueue
    rw [if_pos (by simpa using configured)]

/-- The device before it receives frames. -/
theorem pollAndTransmit_spec {count : Nat} {device : VirtioNet ν} {dma : δ}
    (receiving : Receiving memory size rings count device dma) (cycles : BitVec 64) :
    ∃ polled middle, pollAndTransmit device cycles dma = (polled, middle) ∧
      Prepared memory cycles (device, dma) polled middle ∧
      Receiving memory size rings count middle.1 middle.2 := by
  obtain ⟨sameSize, placed, configured, last, used, frames, sound⟩ := receiving
  have counted : Counted { device with backendPollRequested := false }.pendingReceiveFrames
    { device with backendPollRequested := false }.statistics := frames
  obtain ⟨polled, tickCycles, statistics, backend, collected, recounted, polls⟩ :=
    collectBackendFrames_spec counted cycles device.backendPollRequested
  unfold pollAndTransmit
  dsimp only at recounted ⊢
  rw [collected]
  dsimp only
  split
  · let given : VirtioNet ν := { device with
      backendPollRequested := false
      backendTickCycles := tickCycles
      pendingReceiveFrames := device.pendingReceiveFrames ++ polled
      statistics
      backend
      transmit := { device.transmit with notificationPending := false } }
    have ready : Receiving memory size rings count given dma :=
      ⟨sameSize, placed, configured, last, used, recounted, sound⟩
    have transmitted : Transmitted memory (given, dma) (processTransmitQueue given dma) :=
      transmitted_processTransmitQueue sound
    have done := ready.of_transmitted transmitted
    exact ⟨_, _, rfl, ⟨⟨backend, polls, transmitted.backend⟩, transmitted.pending,
        processTransmitQueue_contents given sound⟩,
      ⟨done.size, done.placed, done.configured, done.lastAvailableIndex, done.usedIndex,
        done.frames, done.sound⟩⟩
  · exact ⟨_, _, rfl, ⟨⟨backend, polls, .refl _⟩, rfl, fun _ => .inl rfl⟩,
      ⟨sameSize, placed, configured, last, used, recounted, sound⟩⟩

/-- What a tick does. Frames come in, and then frames are delivered. -/
structure Ticked (memory : DmaMemory δ) (size : BitVec 16) (rings : Rings) (cycles : BitVec 64)
    (before after : Session ν δ) : Prop where
  steps : ∃ polled deliveries middle,
    Prepared memory cycles (before.device, before.dma) polled middle ∧
    Received memory size rings before.consumed.length size.toNat middle
      (deliveries, after.device, after.dma) ∧
    after.device.backend = middle.1.backend ∧
    after.accepted = before.accepted ++ polled ∧ after.consumed = before.consumed ++ deliveries

omit [NetworkBackend ν] in
theorem backend_receiveLoop (count : Nat) (device : VirtioNet ν) (dma : δ) :
    (receiveLoop count device dma).2.1.backend = device.backend := by
  have next : ∀ (device : VirtioNet ν) frame rest (dma : δ),
      (receiveNext device frame rest dma).2.1.backend = device.backend := by
    intro device frame rest dma
    unfold receiveNext
    dsimp only
    repeat' split
    all_goals rfl
  induction count generalizing device dma with
  | zero => rfl
  | succ count ih =>
    unfold receiveLoop
    split
    · rfl
    rename_i frame rest _
    have round := next device frame rest dma
    split
    · rename_i left
      rw [left] at round
      exact round
    · rename_i taken
      rw [taken] at round
      exact (ih _ _).trans round

omit [NetworkBackend ν] in
theorem receiveLoop_of_none {device : VirtioNet ν} {dma : δ} (none : device.pendingReceiveFrames = [])
    (count : Nat) : receiveLoop count device dma = ([], device, dma) := by
  cases count with
  | zero => rfl
  | succ count =>
    unfold receiveLoop
    rw [none]

/-- A tick ends with the loop that receives frames. -/
theorem tick_eq {device middle waiting : VirtioNet ν} {cycles : BitVec 64} {dma after : δ}
    {polled : List Frame} (prepared : pollAndTransmit device cycles dma = (polled, middle, after))
    (made : { middle with receive := { middle.receive with notificationPending := false } } = waiting)
    (configured : waiting.queueConfigured waiting.receive = true) :
    device.tick cycles dma = ((polled, (receiveLoop waiting.receive.size.toNat waiting after).1),
      (receiveLoop waiting.receive.size.toNat waiting after).2) := by
  unfold VirtioNet.tick
  rw [prepared]
  dsimp only
  split
  · rename_i empty
    have none : waiting.pendingReceiveFrames = [] := by
      rw [← made]
      exact List.isEmpty_iff.mp empty
    rw [made, receiveLoop_of_none none]
  · rw [made]
    unfold processReceiveQueue
    rw [if_neg (by simpa using configured)]

theorem tick_spec (wired : Wired memory size rings) (queued : Queued memory size rings session)
    (apart : Apart memory session) (cycles : BitVec 64) :
    Ticked memory size rings cycles session (session.tick cycles) := by
  obtain ⟨receiving, ordered⟩ := queued
  obtain ⟨polled, ⟨middle, dma⟩, same, prepared, ready⟩ := pollAndTransmit_spec receiving cycles
  -- Transmission does not write to the receive queue.
  have kept : ∀ address, rings.Contains size address →
      memory.contents dma address = memory.contents session.dma address := by
    intro address inside
    obtain equal | ⟨configured, used⟩ := prepared.contents address
    · exact equal
    · rw [← receiving.size, ← receiving.placed] at inside
      exact absurd inside (apart.rings configured address used)
  have offers := apart.offers
  rw [receiving.size, receiving.placed] at offers
  have offered := offers.congr wired fun address member =>
    kept address (member.imp_right Or.inl)
  obtain ⟨waiting, made⟩ : ∃ waiting : VirtioNet ν,
    { middle with receive := { middle.receive with notificationPending := false } } = waiting :=
    ⟨_, rfl⟩
  have waits : Receiving memory size rings session.consumed.length waiting dma := by
    subst made
    exact ⟨ready.size, ready.placed, ready.configured, ready.lastAvailableIndex, ready.usedIndex,
      ready.frames, ready.sound⟩
  have received := receiveLoop_spec wired size.toNat waits offered
  have ticked := tick_eq same made waits.configured
  rw [waits.size] at ticked
  unfold Session.tick
  dsimp only
  rw [ticked]
  have same : waiting.backend = middle.backend := by rw [← made]
  refine ⟨polled, _, (waiting, dma), ⟨?_, ?_, prepared.contents⟩, received,
    backend_receiveLoop _ _ _, rfl, rfl⟩
  · obtain ⟨backend, polls, gives⟩ := prepared.polls
    exact ⟨backend, polls, same ▸ gives⟩
  · subst made
    exact prepared.pending

theorem Ticked.queued {before after : Session ν δ} (queued : Queued memory size rings before)
    {cycles : BitVec 64} (ticked : Ticked memory size rings cycles before after) : Queued memory size rings after := by
  obtain ⟨polled, deliveries, middle, prepared, received, _, accepted, consumed⟩ := ticked.steps
  refine ⟨?_, ?_⟩
  · rw [consumed, List.length_append]
    exact received.receiving
  · have order := received.consumes.pending
    rw [prepared.pending] at order
    rw [accepted, consumed, queued.ordered, List.map_append, List.append_assoc, order,
      List.append_assoc]

/-! ### Runs -/

theorem Step.queued {action : Action} {before after : Session ν δ}
    (step : Step memory action before after) (wired : Wired memory size rings)
    (queued : Queued memory size rings before) : Queued memory size rings after := by
  cases step with
  | drive sound =>
    obtain ⟨⟨sameSize, placed, configured, last, used, frames, _⟩, ordered⟩ := queued
    exact ⟨⟨sameSize, placed, configured, last, used, frames, sound⟩, ordered⟩
  | host present => exact queued.of_device ⟨rfl, rfl, rfl, rfl⟩ rfl rfl rfl
  | inject => exact queued.inject _
  | notify => exact queued.notify _
  | acknowledge => exact queued.acknowledge _
  | tick apart => exact (tick_spec wired queued apart _).queued queued

theorem Run.queued {start reached : Session ν δ} (run : Run memory start reached)
    (ready : Ready memory start) :
    Queued memory start.device.receive.size start.device.receive.rings reached := by
  induction run with
  | start => exact ready.queued
  | step _ step ih => exact step.queued ready.wired ih

end

namespace Sample

/-- A backend that keeps what it is given. -/
structure TestBackend where
  transmitted : List Frame := []
  received : List Frame := []

instance : NetworkBackend TestBackend where
  sendFrame frame backend := { backend with transmitted := backend.transmitted ++ [frame] }
  receiveFrame backend := match backend.received with
    | [] => (none, backend)
    | frame :: rest => (some frame, { backend with received := rest })
  waiting backend := backend.received.length
  receiveFrame_waiting {backend frame rest} taken := by
    cases held : backend.received with
    | nil => simp [held] at taken
    | cons first others =>
      rw [held] at taken
      obtain ⟨_, rfl⟩ := Prod.mk.inj taken
      exact Nat.lt_succ_self _

/-- A receive queue of four entries at `0x80000000`, and a backend that has an empty frame and a
frame of two bytes. -/
def device : VirtioNet TestBackend :=
  [(0x028, 0x1000), (0x038, 4), (0x03C, 8), (0x040, 0x80000)].foldl
    (fun device entry => (device.write entry.1 .word entry.2).2)
    (reset { mac := Vector.replicate 6 0, backend := some { received := [[], [4, 5]] } })

def start : Session TestBackend (SystemBus Ram) :=
  { device, dma := .ofProgram 0x80000000 0x1000 [] }

/-- The driver has published a chain of two buffers. -/
def published : Session TestBackend (SystemBus Ram) :=
  { device
    dma := .ofProgram 0x80000000 0x1000
      [0x80000080, 0, 4, 0x00010003, 0x80000090, 0, 9, 2, 0, 0, 0, 0, 0, 0, 0, 0, 0x00010000] }

def injected : Session TestBackend (SystemBus Ram) := published.inject [1, 2, 3]

theorem layout : Platform.Layout [{ base := 0x80000000, size := 0x1000 }] :=
  SystemBus.layout_ofProgram [] ⟨by decide, by decide⟩

/-- All of memory answers. -/
abbrev memory : DmaMemory (SystemBus Ram) := SystemBus.dmaMemory layout

theorem answers {address : PhysAddr} {width : AccessWidth}
    (covered : 0x80000000 ≤ address.toNat ∧ address.toNat + width.bytes ≤ 0x80001000) :
    memory.answers address width :=
  ⟨_, List.mem_singleton_self _, covered.1, covered.2⟩

theorem size : device.receive.size = 4 := by decide

theorem placed : device.receive.rings = ⟨0x80000000, 0x80000040, 0x80000050⟩ := by decide

theorem answered : device.receive.rings.Answered memory device.receive.size := by
  rw [size, placed]
  refine .of_slots (by decide) (answers (by decide)) (answers (by decide)) fun slot inside => ?_
  refine ⟨answers ?_, answers ?_, answers ?_⟩ <;> revert slot <;> decide

theorem table : device.receive.rings.TableAnswered memory device.receive.size := by
  rw [size, placed]
  rintro index inside _ rfl
  obtain ⟨slot, rfl⟩ : ∃ slot : Fin 4, index = BitVec.ofNat 16 slot :=
    ⟨⟨index.toNat, inside⟩, BitVec.eq_of_toNat_eq (by simp)⟩
  clear inside
  refine ⟨answers ?_, answers ?_, answers ?_, answers ?_⟩ <;> revert slot <;> decide

theorem ready : Ready memory start where
  setUp := ⟨_, _, rfl⟩
  configured := by decide
  sound := ⟨rfl, SystemBus.sized_ofProgram _ _ _⟩
  answered := answered
  table := table
  unaccepted := rfl
  unconsumed := rfl

/-- The two buffers. -/
def chain : List Descriptor := [⟨0x80000080, 4, 3, 1⟩, ⟨0x80000090, 9, 2, 0⟩]

theorem free : Free memory device.receive.rings device.receive.size chain := by
  rw [size, placed]
  have beyond : (addresses chain).all (fun address =>
      decide (0x80000080 ≤ address.toNat ∧ address.toNat < 0x80000100)) = true := by decide
  have inside := fun address member => of_decide_eq_true (List.all_eq_true.mp beyond address member)
  refine ⟨by decide, fun address member contained => ?_, fun address member => answers ?_⟩
  · obtain ⟨above, below⟩ := inside address member
    unfold Rings.Contains Rings.InTable Rings.InAvailable Rings.InUsed Memory.Region at contained
    rw [BitVec.toNat_sub, BitVec.toNat_sub, BitVec.toNat_sub] at contained
    simp at contained
    omega
  · obtain ⟨above, below⟩ := inside address member
    exact ⟨by omega, Nat.le_trans below (by decide)⟩

theorem apart : Apart memory injected := by
  have first : (device.receive.rings.availableIndexAt (memory.contents injected.dma) -
      BitVec.ofNat 16 0).toNat = 1 := by decide
  have valid : device.receive.rings.validChain device.receive.size (memory.contents injected.dma)
      (device.receive.rings.headAt (memory.contents injected.dma) 0) = some chain := by
    decide
  refine ⟨fun j near inside other found => ?_, fun configured => ?_⟩
  · have only : j = 0 := by
      have below : j < 1 := first ▸ near
      exact Nat.lt_one_iff.mp below
    subst only
    rw [Option.some.inj (found.symm.trans valid)]
    exact free
  · exact absurd configured (by decide)

end Sample

end RvEmulator.Devices.VirtioNet
