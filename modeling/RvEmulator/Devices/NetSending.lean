import RvEmulator.Devices.NetOutgoing

/-! Runs of the network device: chains that the driver publishes are handled in order, each
of them once. -/

namespace RvEmulator.Devices.VirtioNet

open Library Platform

variable {ν δ : Type}

/-! ### Sessions -/

/-- The device and its driver: the heads of the chains that the driver has published, and
of those that the device has handled. -/
structure Sender (ν δ : Type) where
  device : VirtioNet ν
  dma : δ
  published : List (BitVec 16) := []
  handled : List (BitVec 16) := []

section

variable [DmaAccess δ]

def Sender.write (sender : Sender ν δ) (offset : BitVec 64) (width : AccessWidth)
    (value : BitVec 64) : Sender ν δ :=
  { sender with device := (sender.device.write offset width value).2 }

/-- The available ring shows the chains that were published and not yet handled, and no
more of them than it has entries; what is to be sent can be read. -/
structure Shows (memory : DmaMemory δ) (sender : Sender ν δ) : Prop where
  availableIndex : sender.device.transmit.rings.availableIndexAt (memory.contents sender.dma) =
    BitVec.ofNat 16 sender.published.length
  outstanding : sender.published.length ≤
    sender.handled.length + sender.device.transmit.size.toNat
  heads : ∀ position head, sender.handled.length ≤ position →
    sender.published[position]? = some head →
    sender.device.transmit.rings.headAt (memory.contents sender.dma)
        (position % sender.device.transmit.size.toNat) = head ∧
      Readable memory sender.device.transmit.size sender.device.transmit.rings
        (memory.contents sender.dma) head

/-- A transmit queue that was set up by register writes after a reset, with a backend. -/
structure Prepares (memory : DmaMemory δ) (sender : Sender ν δ) : Prop where
  setUp : ∃ original : VirtioNet ν, ∃ writes : List (BitVec 64 × BitVec 64), sender.device =
    writes.foldl (fun device entry => (device.write entry.1 .word entry.2).2) original.reset
  configured : sender.device.queueConfigured sender.device.transmit = true
  attached : sender.device.backend.isSome = true
  sound : memory.sound sender.dma
  answered : sender.device.transmit.rings.Answered memory sender.device.transmit.size
  table : sender.device.transmit.rings.TableAnswered memory sender.device.transmit.size
  unpublished : sender.published = []
  unhandled : sender.handled = []

/-- The used ring of the transmit queue is no part of the receive queue or of its buffers, and the
receive queue does not overlap itself. -/
structure Separate (memory : DmaMemory δ) (sender : Sender ν δ) : Prop where
  rings : ∀ address, sender.device.transmit.rings.InUsed sender.device.transmit.size address →
    ¬sender.device.receive.rings.Contains sender.device.receive.size address
  spares : Spares sender.device.receive (memory.contents sender.dma)
    (Listed sender.device.receive
      (sender.device.transmit.rings.InUsed sender.device.transmit.size))

variable [NetworkBackend ν]

/-- The device of a tick after it has polled its backend. -/
def polledIn (device : VirtioNet ν) (cycles : BitVec 64) : VirtioNet ν :=
  let polled := (collectBackendFrames { device with backendPollRequested := false } cycles
    device.backendPollRequested).2
  { polled with transmit := { polled.transmit with notificationPending := false } }

/-- The chains that are handled in a tick. -/
def handledIn (device : VirtioNet ν) (cycles : BitVec 64) (dma : δ) : List (BitVec 16) :=
  let polled := polledIn device cycles
  if device.transmit.notificationPending = true ∧ polled.queueConfigured polled.transmit = true then
    transmitHeads polled.transmit.size.toNat polled dma
  else []

/-- The device and its memory when a tick has polled and transmitted; what is left is reception. -/
def Sender.transmitted (sender : Sender ν δ) (cycles : BitVec 64) : VirtioNet ν × δ :=
  (pollAndTransmit sender.device cycles sender.dma).2

def Sender.tick (sender : Sender ν δ) (cycles : BitVec 64) : Sender ν δ :=
  let ticked := sender.device.tick cycles sender.dma
  { sender with
    device := ticked.2.1
    dma := ticked.2.2
    handled := sender.handled ++ handledIn sender.device cycles sender.dma }

/-- The driver may change any memory and publish chains; frames come from outside at any
time; a tick that was notified finds the published chains. -/
inductive Sender.Step (memory : DmaMemory δ) : Sender ν δ → Sender ν δ → Prop where
  | publish {sender : Sender ν δ} {dma : δ} (heads : List (BitVec 16)) : memory.sound dma →
      Step memory sender { sender with dma, published := sender.published ++ heads }
  | host {sender : Sender ν δ} {old : ν} (new : ν) : sender.device.backend = some old →
      Step memory sender { sender with device := { sender.device with backend := some new } }
  | inject {sender : Sender ν δ} (frame : Frame) :
      Step memory sender
        { sender with device := (sender.device.injectReceivedFrame frame).2 }
  | write {sender : Sender ν δ} {offset value : BitVec 64} {width : AccessWidth} :
      Leaves sender.device offset width value →
      Step memory sender (sender.write offset width value)
  | tick {sender : Sender ν δ} (cycles : BitVec 64) :
      (sender.device.transmit.notificationPending = true → Shows memory sender) →
      Step memory sender (sender.tick cycles)

inductive Sender.Run (memory : DmaMemory δ) (start : Sender ν δ) : Sender ν δ → Prop where
  | start : Run memory start start
  | step {before after : Sender ν δ} : Run memory start before → Step memory before after →
      Run memory start after

/-- What a tick does: the backend is polled, and then, if the driver has notified the device,
all published chains are handled. -/
structure Sender.Ticked (memory : DmaMemory δ) (cycles : BitVec 64)
    (before after : Sender ν δ) : Prop where
  handled : before.device.transmit.notificationPending = true → after.handled = before.published
  waits : before.device.transmit.notificationPending = false → after.handled = before.handled
  attached : (polledIn before.device cycles).backend.isSome = true
  counted : (polledIn before.device cycles).statistics.droppedTransmitFrames =
    before.device.statistics.droppedTransmitFrames
  sends : ∃ heads, after.handled = before.handled ++ heads ∧
    Sends memory before.device.transmit.size before.device.transmit.rings before.handled.length
      (polledIn before.device cycles, before.dma) heads (before.transmitted cycles) ∧
    after.device.backend = (before.transmitted cycles).1.backend ∧
    after.device.statistics.droppedTransmitFrames =
      (before.transmitted cycles).1.statistics.droppedTransmitFrames
  completed : (before.device.queueConfigured before.device.receive = true →
      Separate memory before) →
    (∀ j head, before.handled.length ≤ j → after.handled[j]? = some head →
      before.device.transmit.rings.elementAt (memory.contents after.dma)
        (j % before.device.transmit.size.toNat) = (head.setWidth 32, 0)) ∧
    (after.handled ≠ before.handled →
      before.device.transmit.rings.usedIndexAt (memory.contents after.dma) =
        BitVec.ofNat 16 after.handled.length)

end

section

variable [DmaAccess δ] [NetworkBackend ν] {memory : DmaMemory δ} {size : BitVec 16}
  {rings : Rings} {sender : Sender ν δ}

/-! ### A tick -/

omit [DmaAccess δ] in
theorem dropped_takeFrames (backend : ν) (pending : List Frame)
    (statistics : VirtioNetStatistics) :
    (takeFrames backend pending statistics).2.2.1.droppedTransmitFrames =
      statistics.droppedTransmitFrames := by
  fun_induction takeFrames backend pending statistics with
  | case1 => rfl
  | case2 => rfl
  | case3 _ _ _ _ _ _ _ _ _ ih => exact ih
  | case4 _ _ _ _ _ _ _ _ _ _ _ ih => exact ih

omit [DmaAccess δ] in
/-- Polling leaves the transmit side alone, and a backend attached. -/
theorem polledIn_spec (device : VirtioNet ν) (cycles : BitVec 64) :
    (polledIn device cycles).transmit =
        { device.transmit with notificationPending := false } ∧
      (polledIn device cycles).guestPageSize = device.guestPageSize ∧
      (polledIn device cycles).backend.isSome = device.backend.isSome ∧
      (polledIn device cycles).statistics.droppedTransmitFrames =
        device.statistics.droppedTransmitFrames := by
  unfold polledIn collectBackendFrames
  cases device.backend with
  | none => exact ⟨rfl, rfl, rfl, rfl⟩
  | some backend =>
    dsimp only
    split
    · exact ⟨rfl, rfl, rfl, rfl⟩
    · exact ⟨rfl, rfl, rfl, dropped_takeFrames _ _ _⟩

/-- The rest of a tick is reception. -/
theorem sameTransmit_tick (memory : DmaMemory δ) (sender : Sender ν δ) (cycles : BitVec 64)
    (sound : memory.sound (sender.transmitted cycles).2) :
    SameTransmit memory (sender.transmitted cycles)
      ((sender.tick cycles).device, (sender.tick cycles).dma) := by
  unfold Sender.tick Sender.transmitted at *
  generalize prepared : pollAndTransmit sender.device cycles sender.dma = polled at sound ⊢
  have same : SameTransmit memory polled.2 ({ polled.2.1 with
      receive := { polled.2.1.receive with notificationPending := false } }, polled.2.2) :=
    ⟨rfl, rfl, rfl, rfl, sound⟩
  unfold VirtioNet.tick
  rw [prepared]
  dsimp only
  split
  · exact same
  · exact same.trans (sameTransmit_processReceiveQueue sound _)

theorem transmitted_notified (sender : Sender ν δ) (cycles : BitVec 64)
    (notified : sender.device.transmit.notificationPending = true) :
    sender.transmitted cycles =
      ({ (processTransmitQueue (polledIn sender.device cycles) sender.dma).1 with
          backendPollRequested := (processTransmitQueue (polledIn sender.device cycles)
            sender.dma).1.backend.isSome },
        (processTransmitQueue (polledIn sender.device cycles) sender.dma).2) := by
  have waits := (congrArg (·.notificationPending)
    (admits_collectBackendFrames sender.device cycles).transmit).trans notified
  unfold Sender.transmitted pollAndTransmit polledIn
  dsimp only
  rw [if_pos waits]

theorem transmitted_unnotified (sender : Sender ν δ) (cycles : BitVec 64)
    (unnotified : sender.device.transmit.notificationPending = false) :
    sender.transmitted cycles = (polledIn sender.device cycles, sender.dma) := by
  have waits := (congrArg (·.notificationPending)
    (admits_collectBackendFrames sender.device cycles).transmit).trans unnotified
  unfold Sender.transmitted pollAndTransmit polledIn
  dsimp only
  rw [if_neg (Bool.eq_false_iff.mp waits)]
  generalize collectBackendFrames { sender.device with backendPollRequested := false } cycles
    sender.device.backendPollRequested = collected at waits ⊢
  rw [← waits]

/-- Until reception, the receive queue is left alone, and memory but for the used ring of the
transmit queue. -/
theorem transmitted_spec (sender : Sender ν δ) (cycles : BitVec 64)
    (sound : memory.sound sender.dma) :
    (sender.transmitted cycles).1.receive = sender.device.receive ∧
      (sender.transmitted cycles).1.guestPageSize = sender.device.guestPageSize ∧
      memory.Preserves (fun address =>
          ¬sender.device.transmit.rings.InUsed sender.device.transmit.size address)
        sender.dma (sender.transmitted cycles).2 := by
  obtain ⟨transmit, page, _⟩ := polledIn_spec sender.device cycles
  have receive : (polledIn sender.device cycles).receive = sender.device.receive :=
    (admits_collectBackendFrames sender.device cycles).receive
  cases notified : sender.device.transmit.notificationPending with
  | false =>
    rw [transmitted_unnotified sender cycles notified]
    exact ⟨receive, page, .refl sound⟩
  | true =>
    have sent : Transmitted memory (polledIn sender.device cycles, sender.dma) _ :=
      transmitted_processTransmitQueue sound
    have preserved := sent.memory
    rw [transmit] at preserved
    rw [transmitted_notified sender cycles notified]
    exact ⟨sent.receive.trans receive, sent.guestPageSize.trans page, preserved⟩

/-- Reception leaves the used ring of the transmit queue alone, if the queues are separate. -/
theorem kept_tick (cycles : BitVec 64) (sound : memory.sound sender.dma)
    (separate : sender.device.queueConfigured sender.device.receive = true →
      Separate memory sender) (address : PhysAddr)
    (used : sender.device.transmit.rings.InUsed sender.device.transmit.size address) :
    memory.contents (sender.tick cycles).dma address =
      memory.contents (sender.transmitted cycles).2 address := by
  obtain ⟨receive, page, preserved⟩ := transmitted_spec sender cycles sound
  unfold Sender.tick VirtioNet.tick
  unfold Sender.transmitted at receive page preserved ⊢
  generalize pollAndTransmit sender.device cycles sender.dma = polled at receive page preserved ⊢
  dsimp only
  split
  · rfl
  suffices received : memory.Preserves
      (sender.device.transmit.rings.InUsed sender.device.transmit.size) polled.2.2
      (processReceiveQueue { polled.2.1 with
        receive := { polled.2.1.receive with notificationPending := false } } polled.2.2).2.2 from
    received.bytes address used
  refine preserves_processReceiveQueue preserved.sound fun configured => ?_
  have same : sender.device.queueConfigured sender.device.receive = true := by
    unfold queueConfigured at configured ⊢
    rwa [← page, ← receive]
  obtain ⟨apart, spares⟩ := separate same
  have positive : 0 < sender.device.receive.size.toNat :=
    Nat.pos_of_ne_zero fun zero => by
      have none : sender.device.receive.size = 0 := BitVec.eq_of_toNat_eq zero
      simp [queueConfigured, none] at same
  have shown := spares.congr positive fun address member => preserved.bytes address fun inside =>
    apart address inside (member.imp_right .inl)
  rw [← receive] at shown
  exact ⟨shown.used, shown.chains⟩

/-- The transmit side, and the chains handled: the first of those published. -/
structure Outgoing (memory : DmaMemory δ) (size : BitVec 16) (rings : Rings)
    (sender : Sender ν δ) : Prop where
  sending : Sending memory size rings sender.handled.length sender.device sender.dma
  ordered : sender.handled <+: sender.published

omit [NetworkBackend ν] in
/-- The transmit side after it was left alone. -/
theorem SameTransmit.sending {count : Nat} {before after : VirtioNet ν × δ}
    (same : SameTransmit memory before after)
    (sending : Sending memory size rings count before.1 before.2) :
    Sending memory size rings count after.1 after.2 := by
  obtain ⟨sameSize, placed, configured, last, used, attached, _⟩ := sending
  obtain ⟨transmit, page, backend, _, sound⟩ := same
  refine ⟨by rwa [transmit], by rwa [transmit], ?_, by rwa [transmit], by rwa [transmit],
    by rwa [backend], sound⟩
  unfold queueConfigured at configured ⊢
  rwa [transmit, page]

theorem Sending.polled {count : Nat} {device : VirtioNet ν} {dma : δ}
    (sending : Sending memory size rings count device dma) (cycles : BitVec 64) :
    Sending memory size rings count (polledIn device cycles) dma := by
  obtain ⟨sameSize, placed, configured, last, used, attached, sound⟩ := sending
  obtain ⟨transmit, page, backend, _⟩ := polledIn_spec device cycles
  refine ⟨by rwa [transmit], by rwa [transmit], ?_, by rwa [transmit], by rwa [transmit],
    backend.trans attached, sound⟩
  unfold queueConfigured at configured ⊢
  rwa [transmit, page]

omit [NetworkBackend ν] in
/-- What the ring shows from the first chain that was not handled. -/
theorem Outgoing.available (outgoing : Outgoing memory size rings sender)
    (showing : Shows memory sender) :
    ∃ chains ≤ size.toNat, sender.published.length = sender.handled.length + chains ∧
      rings.availableIndexAt (memory.contents sender.dma) =
        BitVec.ofNat 16 (sender.handled.length + chains) ∧
      (List.range chains).map (fun j => rings.headAt (memory.contents sender.dma)
        ((sender.handled.length + j) % size.toNat)) =
          sender.published.drop sender.handled.length ∧
      ∀ j < chains, Readable memory size rings (memory.contents sender.dma)
        (rings.headAt (memory.contents sender.dma)
          ((sender.handled.length + j) % size.toNat)) := by
  obtain ⟨⟨rfl, rfl, _⟩, ordered⟩ := outgoing
  obtain ⟨index, outstanding, heads⟩ := showing
  have longer := ordered.length_le
  have total : sender.published.length =
      sender.handled.length + (sender.published.length - sender.handled.length) := by omega
  refine ⟨sender.published.length - sender.handled.length, by omega, total, total ▸ index, ?_, ?_⟩
  · refine List.ext_getElem ?_ fun j inside within => ?_
    · rw [List.length_map, List.length_range, List.length_drop]
    · rw [List.length_drop] at within
      rw [List.getElem_map, List.getElem_range, List.getElem_drop]
      exact (heads _ _ (Nat.le_add_right _ _) (List.getElem?_eq_getElem (by omega))).1
  · intro j near
    obtain ⟨same, readable⟩ := heads (sender.handled.length + j) _ (Nat.le_add_right _ _)
      (List.getElem?_eq_getElem (by omega))
    rw [same]
    exact readable

/-- What the used ring shows after a tick. -/
theorem completed_of_sends {cycles : BitVec 64} {heads : List (BitVec 16)}
    (sound : memory.sound sender.dma)
    (handled : (sender.tick cycles).handled = sender.handled ++ heads)
    (some : 0 < sender.device.transmit.size.toNat)
    (few : heads.length ≤ sender.device.transmit.size.toNat)
    (sends : Sends memory sender.device.transmit.size sender.device.transmit.rings
      sender.handled.length (polledIn sender.device cycles, sender.dma) heads
      (sender.transmitted cycles))
    (separate : sender.device.queueConfigured sender.device.receive = true →
      Separate memory sender) :
    (∀ j head, sender.handled.length ≤ j → (sender.tick cycles).handled[j]? = Option.some head →
      sender.device.transmit.rings.elementAt (memory.contents (sender.tick cycles).dma)
        (j % sender.device.transmit.size.toNat) = (head.setWidth 32, 0)) ∧
    ((sender.tick cycles).handled ≠ sender.handled →
      sender.device.transmit.rings.usedIndexAt (memory.contents (sender.tick cycles).dma) =
        BitVec.ofNat 16 (sender.tick cycles).handled.length) := by
  have kept := kept_tick cycles sound separate
  rw [Rings.usedIndexAt_congr kept, handled]
  constructor
  · intro j head late found
    rw [Rings.elementAt_congr kept (Nat.mod_lt _ some)]
    rw [List.getElem?_append_right late] at found
    have shown := sends.completed few found
    rwa [Nat.add_sub_cancel' late] at shown
  · intro more
    rw [List.length_append]
    exact sends.usedIndex fun none => more (by rw [none, List.append_nil])

/-- A tick handles what was published, if the device was notified. -/
theorem Outgoing.ticked (outgoing : Outgoing memory size rings sender)
    (wired : Wired memory size rings) (cycles : BitVec 64)
    (showing : sender.device.transmit.notificationPending = true → Shows memory sender) :
    Sender.Ticked memory cycles sender (sender.tick cycles) ∧
      Outgoing memory size rings (sender.tick cycles) := by
  obtain ⟨gap, follows⟩ := wired.follows
  have some : 0 < sender.device.transmit.size.toNat := by
    rw [outgoing.sending.size]
    exact follows.positive
  have polled := outgoing.sending.polled cycles
  obtain ⟨transmit, _, _, counted⟩ := polledIn_spec sender.device cycles
  cases notified : sender.device.transmit.notificationPending with
  | false =>
    have unsent := transmitted_unnotified sender cycles notified
    have same := sameTransmit_tick memory sender cycles
      (by rw [unsent]; exact outgoing.sending.sound)
    rw [unsent] at same
    have none : handledIn sender.device cycles sender.dma = [] := by
      unfold handledIn
      rw [notified]
      exact if_neg fun both => Bool.false_ne_true both.1
    have kept : (sender.tick cycles).handled = sender.handled := by
      unfold Sender.tick
      rw [none, List.append_nil]
    have sends : Sends memory sender.device.transmit.size sender.device.transmit.rings
        sender.handled.length (polledIn sender.device cycles, sender.dma) []
        (sender.transmitted cycles) := by
      rw [unsent]
      exact .nil rfl rfl rfl
    have grown : (sender.tick cycles).handled = sender.handled ++ [] := by
      rw [kept, List.append_nil]
    refine ⟨⟨fun other => ?_, fun _ => kept, polled.attached, counted,
      ⟨[], grown, sends, ?_, ?_⟩, completed_of_sends outgoing.sending.sound grown some
        (Nat.zero_le _) sends⟩, ?_, ?_⟩
    · rw [notified] at other
      cases other
    · rw [unsent]
      exact same.backend
    · rw [unsent]
      exact same.dropped
    · rw [kept]
      exact same.sending polled
    · rw [kept]
      exact outgoing.ordered
  | true =>
    obtain ⟨chains, enough, total, available, shown, readable⟩ :=
      outgoing.available (showing notified)
    have few : chains < 2 ^ 16 := Nat.lt_of_le_of_lt enough size.isLt
    obtain ⟨heads, sends, sent⟩ := transmitLoop_spec wired enough few polled available readable
    have loop : processTransmitQueue (polledIn sender.device cycles) sender.dma =
        transmitLoop size.toNat (polledIn sender.device cycles) sender.dma := by
      unfold processTransmitQueue
      rw [polled.configured, polled.size]
      rfl
    have ended := transmitted_notified sender cycles notified
    rw [loop] at ended
    have handled : handledIn sender.device cycles sender.dma =
        sender.published.drop sender.handled.length := by
      unfold handledIn
      dsimp only
      rw [if_pos ⟨notified, polled.configured⟩, polled.size]
      exact heads.trans shown
    have all : (sender.tick cycles).handled = sender.published := by
      unfold Sender.tick
      rw [handled]
      obtain ⟨rest, whole⟩ := outgoing.ordered
      rw [← whole, List.drop_left]
    have same := sameTransmit_tick memory sender cycles
      (by rw [ended]; exact sent.sound)
    have after : Sends memory sender.device.transmit.size sender.device.transmit.rings
        sender.handled.length (polledIn sender.device cycles, sender.dma)
        (handledIn sender.device cycles sender.dma) (sender.transmitted cycles) := by
      rw [handled, ← shown, ← heads, outgoing.sending.size, outgoing.sending.placed, ended]
      exact sends.left rfl rfl rfl
    have short : (handledIn sender.device cycles sender.dma).length ≤
        sender.device.transmit.size.toNat := by
      rw [handled, List.length_drop, outgoing.sending.size]
      omega
    refine ⟨⟨fun _ => all, fun other => ?_, polled.attached, counted,
      ⟨_, rfl, after, same.backend, same.dropped⟩,
      completed_of_sends outgoing.sending.sound rfl some short after⟩, ?_, ?_⟩
    · rw [notified] at other
      cases other
    · rw [all, total]
      refine same.sending ?_
      rw [ended]
      exact ⟨sent.size, sent.placed, sent.configured, sent.lastAvailableIndex, sent.usedIndex,
        sent.attached, sent.sound⟩
    · rw [all]
      exact List.prefix_refl _

end

section

variable [DmaAccess δ] [NetworkBackend ν] {memory : DmaMemory δ} {size : BitVec 16}
  {rings : Rings} {sender : Sender ν δ}

/-! ### Runs -/

omit [NetworkBackend ν] in
theorem Prepares.wired (prepares : Prepares memory sender) :
    Wired memory sender.device.transmit.size sender.device.transmit.rings := by
  obtain ⟨some, small, aligned, divides⟩ := size_of_configured prepares.configured
  obtain ⟨original, writes, made⟩ := prepares.setUp
  have fresh : Fresh sender.device := made ▸ (fresh_reset original).foldl writes
  have placed : sender.device.transmit.rings = .place sender.device.transmit.pageFrameNumber
      sender.device.guestPageSize sender.device.transmit.size
      sender.device.transmit.alignment := by
    rw [fresh.transmit.rings]
    exact if_pos prepares.configured
  refine ⟨?_, divides, BitVec.le_def.mp small, prepares.answered, prepares.table⟩
  rw [placed]
  exact Rings.follows_place _ _ _ some small aligned

omit [NetworkBackend ν] in
theorem Prepares.outgoing (prepares : Prepares memory sender) :
    Outgoing memory sender.device.transmit.size sender.device.transmit.rings sender := by
  obtain ⟨original, writes, made⟩ := prepares.setUp
  have fresh : Fresh sender.device := made ▸ (fresh_reset original).foldl writes
  refine ⟨⟨rfl, rfl, prepares.configured, ?_, ?_, prepares.attached, prepares.sound⟩, ?_⟩
  · rw [fresh.transmit.lastAvailableIndex, prepares.unhandled]
    rfl
  · rw [fresh.transmit.usedIndex, prepares.unhandled]
    rfl
  · rw [prepares.unhandled]
    exact List.nil_prefix

theorem Sender.Step.outgoing {before after : Sender ν δ} (step : Sender.Step memory before after)
    (wired : Wired memory size rings) (outgoing : Outgoing memory size rings before) :
    Outgoing memory size rings after := by
  obtain ⟨sending, ordered⟩ := outgoing
  cases step with
  | publish heads sound =>
    obtain ⟨sameSize, placed, configured, last, used, attached, _⟩ := sending
    exact ⟨⟨sameSize, placed, configured, last, used, attached, sound⟩,
      ordered.trans (List.prefix_append _ _)⟩
  | host new present =>
    obtain ⟨sameSize, placed, configured, last, used, _, sound⟩ := sending
    exact ⟨⟨sameSize, placed, configured, last, used, rfl, sound⟩, ordered⟩
  | inject frame =>
    have same : SameTransmit memory (before.device, before.dma)
        ((before.device.injectReceivedFrame frame).2, before.dma) := by
      unfold injectReceivedFrame
      split <;> exact ⟨rfl, rfl, rfl, rfl, sending.sound⟩
    exact ⟨same.sending sending, ordered⟩
  | write leaves =>
    obtain ⟨⟨pending, transmit⟩, page, backend⟩ := announces_write leaves
    obtain ⟨sameSize, placed, configured, last, used, attached, sound⟩ := sending
    refine ⟨⟨?_, ?_, ?_, ?_, ?_, ?_, sound⟩, ordered⟩
    all_goals unfold Sender.write; dsimp only
    · rwa [transmit]
    · rwa [transmit]
    · unfold queueConfigured at configured ⊢
      rwa [transmit, page]
    · rwa [transmit]
    · rwa [transmit]
    · rwa [backend]
  | tick cycles showing => exact (Outgoing.ticked ⟨sending, ordered⟩ wired cycles showing).2

theorem Sender.Run.outgoing {start reached : Sender ν δ} (run : Sender.Run memory start reached)
    (prepares : Prepares memory start) :
    Outgoing memory start.device.transmit.size start.device.transmit.rings reached := by
  induction run with
  | start => exact prepares.outgoing
  | step _ step ih => exact step.outgoing prepares.wired ih

/-- The transmit path. In every run chains are handled in the order in which they were
published, each of them once; a notified tick handles all of them; and no more than there is is subtracted
when lengths are added up. -/
theorem run_transmits {start reached : Sender ν δ} (prepares : Prepares memory start)
    (run : Sender.Run memory start reached) :
    (reached.handled <+: reached.published ∧
      reached.device.transmit.lastAvailableIndex = BitVec.ofNat 16 reached.handled.length ∧
      reached.device.transmit.usedIndex = BitVec.ofNat 16 reached.handled.length) ∧
    (reached.write Register.queueNotify .word 1).device.transmit.notificationPending = true ∧
    (∀ cycles, (reached.device.transmit.notificationPending = true → Shows memory reached) →
      Sender.Ticked memory cycles reached (reached.tick cycles)) ∧
    ∀ chain, checkedPacketSize chain 0 = some (packetSize chain 0) := by
  have outgoing := run.outgoing prepares
  refine ⟨⟨outgoing.ordered, outgoing.sending.lastAvailableIndex, outgoing.sending.usedIndex⟩,
    pending_of_notify outgoing.sending.configured, fun cycles showing => ?_,
    fun chain => checkedPacketSize_eq chain (Nat.zero_le _)⟩
  exact (outgoing.ticked prepares.wired cycles showing).1

end

namespace Sample

/-- A transmit queue of four entries at `0x80000000`. -/
def transmitter : VirtioNet TestBackend :=
  [(0x028, 0x1000), (0x030, 1), (0x038, 4), (0x03C, 8), (0x040, 0x80000)].foldl
    (fun device entry => (device.write entry.1 .word entry.2).2)
    (reset { mac := Vector.replicate 6 0, backend := some {} })

def unpublished : Sender TestBackend (SystemBus Ram) :=
  { device := transmitter, dma := .ofProgram 0x80000000 0x1000 [] }

/-- A chain of two buffers, of which the first is shorter than a header. -/
def split : List Descriptor := [⟨0x80000080, 4, 1, 1⟩, ⟨0x80000084, 9, 0, 0⟩]

/-- The driver has published the chain. -/
def offering : Sender TestBackend (SystemBus Ram) :=
  { unpublished with
    dma := SystemBus.ofProgram 0x80000000 0x1000
      [0x80000080, 0, 4, 0x00010001, 0x80000084, 0, 9, 0, 0, 0, 0, 0, 0, 0, 0, 0, 0x00010000, 0, 0,
        0, 0, 0, 0, 0, 0, 0, 0, 0, 0, 0, 0, 0, 0, 0, 0x02010000, 3]
    published := [0] }

def notified : Sender TestBackend (SystemBus Ram) :=
  offering.write Register.queueNotify .word 1

theorem transmitter_size : transmitter.transmit.size = 4 := by decide

theorem transmitter_rings :
    transmitter.transmit.rings = ⟨0x80000000, 0x80000040, 0x80000050⟩ := by decide

theorem prepares : Prepares memory unpublished where
  setUp := ⟨_, _, rfl⟩
  configured := by decide
  attached := rfl
  sound := ⟨rfl, SystemBus.sized_ofProgram _ _ _⟩
  answered := by
    have same := answered
    rwa [size, placed, ← transmitter_size, ← transmitter_rings] at same
  table := by
    have same := table
    rwa [size, placed, ← transmitter_size, ← transmitter_rings] at same
  unpublished := rfl
  unhandled := rfl

theorem valid : notified.device.transmit.rings.validChain notified.device.transmit.size
    (memory.contents notified.dma) 0 = some split := by decide

theorem showing : Shows memory notified := by
  refine ⟨by decide, by decide, fun position head _ found => ?_⟩
  obtain rfl : position = 0 := by
    cases position with
    | zero => rfl
    | succ position => cases found
  cases found
  refine ⟨by decide, fun chain same _ address member => answers ?_⟩
  cases valid.symm.trans same
  have inside : (addresses split).all (fun address =>
      decide (0x80000000 ≤ address.toNat ∧ address.toNat + 1 ≤ 0x80001000)) = true := by
    decide
  exact of_decide_eq_true (List.all_eq_true.mp inside address member)

end Sample

/-- A frame of three bytes is sent, without the header that lies in both buffers, and the chain is
on the used ring with length zero. -/
theorem run_transmits_sample :
    (Sample.notified.tick 1).handled = [0] ∧
      (Sample.notified.tick 1).device.backend.map (·.transmitted) = some [[1, 2, 3]] ∧
      Sample.transmitter.transmit.rings.elementAt
        (Sample.memory.contents (Sample.notified.tick 1).dma) 0 = (0, 0) := by
  have leaves : ∀ device : VirtioNet Sample.TestBackend,
      Leaves device Register.queueNotify .word 1 :=
    fun _ => ⟨by decide, by decide, fun _ => by decide⟩
  have offers : Sender.Run Sample.memory Sample.unpublished Sample.offering :=
    .step .start (.publish [0] ⟨rfl, SystemBus.sized_ofProgram _ _ _⟩)
  have run : Sender.Run Sample.memory Sample.unpublished Sample.notified :=
    .step offers (.write (leaves _))
  obtain ⟨_, _, ticks, _⟩ := run_transmits Sample.prepares run
  have ticked := ticks 1 fun _ => Sample.showing
  have handled := ticked.handled (by decide)
  have unconfigured :
      Sample.notified.device.queueConfigured Sample.notified.device.receive = false := by decide
  have completed := (ticked.completed fun configured => by
    rw [unconfigured] at configured
    cases configured).1 0 0 (Nat.zero_le _) (by rw [handled]; rfl)
  exact ⟨handled, by decide +kernel, completed⟩

end RvEmulator.Devices.VirtioNet
