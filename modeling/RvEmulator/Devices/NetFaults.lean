import RvEmulator.Devices.NetFrames

/-! The network device when memory accesses may be refused. A chain is completed after its
frame was sent or received, and a completion that is refused does not undo that. -/

namespace RvEmulator.Devices

/-- The counts of received and of dropped frames. -/
def VirtioNetStatistics.received (statistics : VirtioNetStatistics) : BitVec 64 × BitVec 64 :=
  (statistics.receivedFrames, statistics.droppedReceiveFrames)

namespace VirtioNet

open Platform

variable {ν δ : Type} [DmaAccess δ]

/-! ### Rounds -/

/-- A round of one of the loops: the device and memory before and after it. -/
structure Round (ν δ : Type) where
  before : VirtioNet ν × δ
  after : VirtioNet ν × δ

namespace Round

variable {ν δ : Type}

/-- How far the device has moved on the available ring of the transmit queue. -/
def taken (round : Round ν δ) : Nat :=
  (round.after.1.transmit.lastAvailableIndex - round.before.1.transmit.lastAvailableIndex).toNat

/-- The frames that are no longer pending. -/
def popped (round : Round ν δ) : List Frame :=
  round.before.1.pendingReceiveFrames.take
    (round.before.1.pendingReceiveFrames.length - round.after.1.pendingReceiveFrames.length)

/-- Whether a frame was counted as received. -/
def received (round : Round ν δ) : Bool :=
  round.after.1.statistics.receivedFrames != round.before.1.statistics.receivedFrames

/-- Whether a frame was counted as dropped. -/
def dropped (round : Round ν δ) : Bool :=
  round.after.1.statistics.droppedReceiveFrames != round.before.1.statistics.droppedReceiveFrames

/-- Whether a chain of the receive queue was completed. -/
def completed (round : Round ν δ) : Bool :=
  round.after.1.receive.usedIndex != round.before.1.receive.usedIndex

end Round

/-- The rounds lead from the first state to the last one. -/
def Linked {ν δ : Type} (first : VirtioNet ν × δ) : List (Round ν δ) → VirtioNet ν × δ → Prop
  | [], last => first = last
  | round :: rest, last => round.before = first ∧ Linked round.after rest last

/-- A round of reception before the chain is completed: its head, and the number of bytes
written if the frame was received. -/
def receiveServed (device : VirtioNet ν) (frame : Frame) (rest : List Frame) (dma : δ) :
    Option (BitVec 16 × Option (BitVec 32)) × VirtioNet ν × δ :=
  let available := DmaAccess.dmaRead (device.receive.rings.availableRing + 2) .halfWord dma
  if !available.1.ok then
    (none, { device with statistics := device.statistics.failDma }, available.2)
  else if device.receive.lastAvailableIndex = available.1.value.setWidth 16 then
    (none, { device with
      statistics := { device.statistics with
        receiveQueueStarvations := device.statistics.receiveQueueStarvations + 1 } }, available.2)
  else
    match readAvailableHead device.receive (device.statistics, available.2) with
    | (none, statistics, dma) => (none, { device with statistics }, dma)
    | (some head, statistics, dma) =>
      let chain := loadWholeChain device.receive head (countChain statistics, dma)
      let received := receiveIfValid chain.1 frame chain.2
      let counted := if received.1.isSome then received.2.1 else received.2.1.dropReceived
      (some (head, received.1),
        { device with
          pendingReceiveFrames := rest, statistics := counted.setPending rest.length },
        received.2.2)

theorem receiveNext_served (device : VirtioNet ν) (frame : Frame) (rest : List Frame) (dma : δ) :
    receiveNext device frame rest dma =
      match receiveServed device frame rest dma with
      | (none, served, after) => (none, served, after)
      | (some (head, written), served, after) =>
        match completeChain device.receive head (written.getD 0) (served.statistics, after) with
        | (none, statistics, dma) => (none, { served with statistics }, dma)
        | (some queue, statistics, dma) =>
          (some { frame, head, written := written.getD 0 }, raiseInterrupt { served with
            statistics
            receive := { queue with lastAvailableIndex := queue.lastAvailableIndex + 1 } }, dma) := by
  unfold receiveNext receiveServed
  dsimp only
  split
  · rfl
  split
  · rfl
  generalize readAvailableHead device.receive (device.statistics,
    (DmaAccess.dmaRead (device.receive.rings.availableRing + 2) .halfWord dma).2) = read
  obtain ⟨head, statistics, after⟩ := read
  cases head <;> rfl

/-- The rounds of the loop of `process_receive_queue`. -/
def receiveRounds : (count : Nat) → VirtioNet ν → δ → List (Round ν δ)
  | 0, _, _ => []
  | count + 1, device, dma =>
    match device.pendingReceiveFrames with
    | [] => []
    | frame :: rest =>
      let next := receiveNext device frame rest dma
      { before := (device, dma), after := next.2 } ::
        if next.1.isSome then receiveRounds count next.2.1 next.2.2 else []

section

variable [NetworkBackend ν]

/-- A round of transmission before the chain is completed: its head, and whether its frame
was sent. -/
def transmitServed (device : VirtioNet ν) (dma : δ) :
    Option (BitVec 16 × Bool) × VirtioNet ν × δ :=
  let available := DmaAccess.dmaRead (device.transmit.rings.availableRing + 2) .halfWord dma
  if !available.1.ok then
    (none, { device with statistics := device.statistics.failDma }, available.2)
  else if device.transmit.lastAvailableIndex = available.1.value.setWidth 16 then
    (none, device, available.2)
  else
    match readAvailableHead device.transmit (device.statistics, available.2) with
    | (none, statistics, dma) => (none, { device with statistics }, dma)
    | (some head, statistics, dma) =>
      let chain := loadWholeChain device.transmit head (countChain statistics, dma)
      let sent := transmitIfValid { device with statistics := chain.2.1 } chain.1 chain.2.2
      let counted := if sent.1 then sent.2.1.statistics else
        { sent.2.1.statistics with
          droppedTransmitFrames := sent.2.1.statistics.droppedTransmitFrames + 1 }
      (some (head, sent.1), { sent.2.1 with statistics := counted }, sent.2.2)

theorem transmitNext_served (device : VirtioNet ν) (dma : δ) :
    transmitNext device dma =
      match transmitServed device dma with
      | (none, served, after) => (false, served, after)
      | (some (head, _), served, after) =>
        match completeChain device.transmit head 0 (served.statistics, after) with
        | (none, statistics, dma) => (false, { served with statistics }, dma)
        | (some queue, statistics, dma) =>
          (true, raiseInterrupt { served with
            statistics
            transmit := { queue with lastAvailableIndex := queue.lastAvailableIndex + 1 } },
            dma) := by
  unfold transmitNext transmitServed
  dsimp only
  split
  · rfl
  split
  · rfl
  generalize readAvailableHead device.transmit (device.statistics,
    (DmaAccess.dmaRead (device.transmit.rings.availableRing + 2) .halfWord dma).2) = read
  obtain ⟨head, statistics, after⟩ := read
  cases head <;> rfl

/-- The rounds of the loop of `process_transmit_queue`. -/
def transmitRounds : (count : Nat) → VirtioNet ν → δ → List (Round ν δ)
  | 0, _, _ => []
  | count + 1, device, dma =>
    let next := transmitNext device dma
    { before := (device, dma), after := next.2 } ::
      if next.1 then transmitRounds count next.2.1 next.2.2 else []

/-- The rounds of transmission in a tick. -/
def sending (device : VirtioNet ν) (cycles : BitVec 64) (dma : δ) : List (Round ν δ) :=
  let polled := (collectBackendFrames { device with backendPollRequested := false } cycles
    device.backendPollRequested).2
  let device : VirtioNet ν :=
    { polled with transmit := { polled.transmit with notificationPending := false } }
  if polled.transmit.notificationPending = true ∧ device.queueConfigured device.transmit = true then
    transmitRounds device.transmit.size.toNat device dma
  else []

/-- The rounds of reception in a tick. -/
def receiving (device : VirtioNet ν) (cycles : BitVec 64) (dma : δ) : List (Round ν δ) :=
  let prepared := (pollAndTransmit device cycles dma).2
  let device : VirtioNet ν := { prepared.1 with
    receive := { prepared.1.receive with notificationPending := false } }
  if device.queueConfigured device.receive = true then
    receiveRounds device.receive.size.toNat device prepared.2
  else []

end

/-! ### What a round leaves alone -/

/-! A count that refused accesses leave alone. -/

section

variable {κ : Type} {count : VirtioNetStatistics → κ}
  (fails : ∀ statistics, count statistics.failDma = count statistics)

include fails

theorem count_loadChain (queue : Queue) (rounds : Nat) (visited : List (BitVec 16))
    (current : BitVec 16) (state : VirtioNetStatistics × δ) :
    count (loadChain queue rounds visited current state).2.1 = count state.1 := by
  obtain ⟨statistics, dma⟩ := state
  rw [loadChain_follow]
  dsimp only
  split
  · exact fails statistics
  · rfl

theorem count_loadWholeChain (queue : Queue) (head : BitVec 16)
    (state : VirtioNetStatistics × δ) :
    count (loadWholeChain queue head state).2.1 = count state.1 := by
  unfold loadWholeChain
  split
  · rfl
  · exact count_loadChain fails _ _ _ _ _

theorem count_readAvailableHead (queue : Queue) (state : VirtioNetStatistics × δ) :
    count (readAvailableHead queue state).2.1 = count state.1 := by
  unfold readAvailableHead
  dsimp only
  split
  · exact fails _
  · rfl

/-- A completion that is accepted moves the used index on. -/
theorem completeChain_cases (queue : Queue) (head : BitVec 16) (written : BitVec 32)
    (state : VirtioNetStatistics × δ) :
    count (completeChain queue head written state).2.1 = count state.1 ∧
      ((completeChain queue head written state).1 = none ∨
        (completeChain queue head written state).1 =
          some { queue with usedIndex := queue.usedIndex + 1 }) := by
  unfold completeChain
  dsimp only
  split
  · exact ⟨fails _, .inl rfl⟩
  split
  · exact ⟨fails _, .inl rfl⟩
  split
  · exact ⟨fails _, .inl rfl⟩
  · exact ⟨rfl, .inr rfl⟩

end

theorem received_failDma (statistics : VirtioNetStatistics) :
    statistics.failDma.received = statistics.received := rfl

/-- What all of transmission leaves alone. -/
structure SameReceive (before after : VirtioNet ν) : Prop where
  receive : after.receive = before.receive
  pending : after.pendingReceiveFrames = before.pendingReceiveFrames
  received : after.statistics.received = before.statistics.received

theorem SameReceive.trans {first second third : VirtioNet ν} (before : SameReceive first second)
    (after : SameReceive second third) : SameReceive first third :=
  ⟨after.receive.trans before.receive, after.pending.trans before.pending,
    after.received.trans before.received⟩

section

variable [NetworkBackend ν]

theorem sameReceive_transmitIfValid (device : VirtioNet ν) (chain : Option (List Descriptor))
    (dma : δ) : SameReceive device (transmitIfValid device chain dma).2.1 ∧
      (transmitIfValid device chain dma).2.1.transmit = device.transmit := by
  unfold transmitIfValid
  cases chain with
  | none => exact ⟨⟨rfl, rfl, rfl⟩, rfl⟩
  | some chain =>
    dsimp only
    unfold transmitChain
    split
    · exact ⟨⟨rfl, rfl, rfl⟩, rfl⟩
    split
    · exact ⟨⟨rfl, rfl, rfl⟩, rfl⟩
    split
    · exact ⟨⟨rfl, rfl, rfl⟩, rfl⟩
    dsimp only
    split <;> exact ⟨⟨rfl, rfl, rfl⟩, rfl⟩

theorem sameReceive_transmitServed (device : VirtioNet ν) (dma : δ) :
    SameReceive device (transmitServed device dma).2.1 ∧
      (transmitServed device dma).2.1.transmit = device.transmit := by
  unfold transmitServed
  dsimp only
  split
  · exact ⟨⟨rfl, rfl, rfl⟩, rfl⟩
  split
  · exact ⟨⟨rfl, rfl, rfl⟩, rfl⟩
  have headed := count_readAvailableHead received_failDma device.transmit (device.statistics,
    (DmaAccess.dmaRead (device.transmit.rings.availableRing + 2) .halfWord dma).2)
  generalize readAvailableHead device.transmit (device.statistics,
    (DmaAccess.dmaRead (device.transmit.rings.availableRing + 2) .halfWord dma).2) = read at *
  obtain ⟨head, statistics, entered⟩ := read
  cases head with
  | none => exact ⟨⟨rfl, rfl, headed⟩, rfl⟩
  | some head =>
    dsimp only at headed ⊢
    have chained := count_loadWholeChain received_failDma device.transmit head (countChain statistics, entered)
    generalize loadWholeChain device.transmit head (countChain statistics, entered) = chain at *
    obtain ⟨chain, counted, loaded⟩ := chain
    dsimp only at chained ⊢
    obtain ⟨⟨receive, pending, received⟩, same⟩ :=
      sameReceive_transmitIfValid { device with statistics := counted } chain loaded
    generalize transmitIfValid { device with statistics := counted } chain loaded = sent at *
    refine ⟨⟨receive, pending, ?_⟩, same⟩
    have total := (received.trans chained).trans headed
    split <;> exact total

/-- What a round of transmission does, and whether the loop goes on. -/
theorem transmitNext_cases (device : VirtioNet ν) (dma : δ) :
    SameReceive device (transmitNext device dma).2.1 ∧
      ((transmitNext device dma).1 = false ∧
          (transmitNext device dma).2.1.transmit = device.transmit ∨
        (transmitNext device dma).1 = true ∧
          (transmitNext device dma).2.1.transmit = { device.transmit with
            usedIndex := device.transmit.usedIndex + 1
            lastAvailableIndex := device.transmit.lastAvailableIndex + 1 }) := by
  obtain ⟨before, same⟩ := sameReceive_transmitServed device dma
  rw [transmitNext_served]
  rcases found : transmitServed device dma with ⟨_ | ⟨head, sent⟩, served, after⟩
  all_goals
    rw [found] at before same
    dsimp only at before same ⊢
  · exact ⟨before, .inl ⟨rfl, same⟩⟩
  · obtain ⟨counts, completed⟩ := completeChain_cases received_failDma device.transmit head 0
      (served.statistics, after)
    rcases ended : completeChain device.transmit head 0 (served.statistics, after) with
      ⟨_ | queue, statistics, final⟩
    all_goals
      rw [ended] at counts completed
      dsimp only at counts completed ⊢
    · exact ⟨before.trans ⟨rfl, rfl, counts⟩, .inl ⟨rfl, same⟩⟩
    · obtain none | some := completed
      · cases none
      cases some
      exact ⟨before.trans ⟨rfl, rfl, counts⟩, .inr ⟨rfl, rfl⟩⟩

theorem linked_transmitLoop (count : Nat) (device : VirtioNet ν) (dma : δ) :
    Linked (device, dma) (transmitRounds count device dma) (transmitLoop count device dma) := by
  induction count generalizing device dma with
  | zero => rfl
  | succ count ih =>
    unfold transmitLoop transmitRounds
    dsimp only
    refine ⟨rfl, ?_⟩
    split
    · exact ih _ _
    · rfl

/-- What the rounds of transmission are. -/
theorem mem_transmitRounds {count : Nat} {device : VirtioNet ν} {dma : δ} {round : Round ν δ}
    (member : round ∈ transmitRounds count device dma) :
    round.after = (transmitNext round.before.1 round.before.2).2 := by
  induction count generalizing device dma with
  | zero => exact absurd member List.not_mem_nil
  | succ count ih =>
    unfold transmitRounds at member
    dsimp only at member
    obtain rfl | later := List.mem_cons.mp member
    · rfl
    split at later
    · exact ih later
    · exact absurd later List.not_mem_nil

theorem sameReceive_transmitLoop (count : Nat) (device : VirtioNet ν) (dma : δ) :
    SameReceive device (transmitLoop count device dma).1 := by
  induction count generalizing device dma with
  | zero => exact ⟨rfl, rfl, rfl⟩
  | succ count ih =>
    unfold transmitLoop
    dsimp only
    split
    · exact (transmitNext_cases device dma).1.trans (ih _ _)
    · exact (transmitNext_cases device dma).1

end

omit [DmaAccess δ] in
/-- The moves of linked rounds add up. -/
theorem Linked.taken {first last : VirtioNet ν × δ} {rounds : List (Round ν δ)}
    (linked : Linked first rounds last) :
    last.1.transmit.lastAvailableIndex =
      first.1.transmit.lastAvailableIndex + BitVec.ofNat 16 ((rounds.map (·.taken)).sum) := by
  induction rounds generalizing first with
  | nil =>
    cases linked
    exact (BitVec.add_zero _).symm
  | cons round rest ih =>
    obtain ⟨rfl, later⟩ := linked
    rw [ih later, List.map_cons, List.sum_cons, BitVec.ofNat_add, ← BitVec.add_assoc]
    refine congrArg (· + _) ?_
    rw [Round.taken, BitVec.ofNat_toNat, BitVec.setWidth_eq, BitVec.add_comm, BitVec.sub_add_cancel]

/-! ### Reception -/

section

/-- What rounds of reception add up to. -/
structure Settles (before after : VirtioNet ν) (rounds : List (Round ν δ)) : Prop where
  transmit : after.transmit = before.transmit
  pending : before.pendingReceiveFrames = rounds.flatMap (·.popped) ++ after.pendingReceiveFrames
  receivedFrames : after.statistics.receivedFrames =
    before.statistics.receivedFrames + BitVec.ofNat 64 (rounds.countP (·.received))
  dropped : after.statistics.droppedReceiveFrames =
    before.statistics.droppedReceiveFrames + BitVec.ofNat 64 (rounds.countP (·.dropped))
  usedIndex : after.receive.usedIndex =
    before.receive.usedIndex + BitVec.ofNat 16 (rounds.countP (·.completed))

omit [DmaAccess δ] in
theorem Settles.trans {first second third : VirtioNet ν} {rounds others : List (Round ν δ)}
    (before : Settles first second rounds) (after : Settles second third others) :
    Settles first third (rounds ++ others) := by
  refine ⟨after.transmit.trans before.transmit, ?_, ?_, ?_, ?_⟩
  · rw [before.pending, after.pending, List.flatMap_append, List.append_assoc]
  · rw [after.receivedFrames, before.receivedFrames, List.countP_append, BitVec.ofNat_add,
      BitVec.add_assoc]
  · rw [after.dropped, before.dropped, List.countP_append, BitVec.ofNat_add, BitVec.add_assoc]
  · rw [after.usedIndex, before.usedIndex, List.countP_append, BitVec.ofNat_add, BitVec.add_assoc]

omit [DmaAccess δ] in
/-- A device that has found no chain has settled nothing. -/
theorem Settles.of_sameReceive {before after : VirtioNet ν} (same : SameReceive before after)
    (transmit : after.transmit = before.transmit) :
    Settles before after ([] : List (Round ν δ)) := by
  obtain ⟨receive, pending, received⟩ := same
  obtain ⟨received, dropped⟩ := Prod.mk.inj received
  refine ⟨transmit, pending.symm, ?_, ?_, ?_⟩
  · exact received.trans (BitVec.add_zero _).symm
  · exact dropped.trans (BitVec.add_zero _).symm
  · rw [receive]
    exact (BitVec.add_zero _).symm

/-- A frame is counted as received if the bytes of it were written. -/
theorem receiveIfValid_counts (chain : Option (List Descriptor)) (frame : Frame)
    (state : VirtioNetStatistics × δ) :
    (receiveIfValid chain frame state).2.1.received =
      (state.1.receivedFrames + BitVec.ofNat 64 (receiveIfValid chain frame state).1.isSome.toNat,
        state.1.droppedReceiveFrames) := by
  obtain ⟨statistics, dma⟩ := state
  have none : statistics.received = (statistics.receivedFrames + 0, statistics.droppedReceiveFrames) :=
    Prod.ext (BitVec.add_zero _).symm rfl
  unfold receiveIfValid
  cases chain with
  | none => exact none
  | some chain =>
    dsimp only
    unfold receiveChain
    dsimp only
    split
    · exact none
    split
    · exact none
    split
    · rfl
    · exact none

/-- What a round does to the frame that it takes, before the chain is completed. -/
theorem receiveServed_spec (device : VirtioNet ν) (frame : Frame) (rest : List Frame) (dma : δ) :
    ((receiveServed device frame rest dma).1 = none ∧
        SameReceive device (receiveServed device frame rest dma).2.1 ∧
        (receiveServed device frame rest dma).2.1.transmit = device.transmit) ∨
      ∃ head written, (receiveServed device frame rest dma).1 = some (head, written) ∧
        (receiveServed device frame rest dma).2.1.transmit = device.transmit ∧
        (receiveServed device frame rest dma).2.1.receive = device.receive ∧
        (receiveServed device frame rest dma).2.1.pendingReceiveFrames = rest ∧
        (receiveServed device frame rest dma).2.1.statistics.received =
          (device.statistics.receivedFrames + BitVec.ofNat 64 written.isSome.toNat,
            device.statistics.droppedReceiveFrames + BitVec.ofNat 64 (!written.isSome).toNat) := by
  unfold receiveServed
  dsimp only
  split
  · exact .inl ⟨rfl, ⟨rfl, rfl, rfl⟩, rfl⟩
  split
  · exact .inl ⟨rfl, ⟨rfl, rfl, rfl⟩, rfl⟩
  have headed := count_readAvailableHead received_failDma device.receive (device.statistics,
    (DmaAccess.dmaRead (device.receive.rings.availableRing + 2) .halfWord dma).2)
  generalize readAvailableHead device.receive (device.statistics,
    (DmaAccess.dmaRead (device.receive.rings.availableRing + 2) .halfWord dma).2) = read at *
  obtain ⟨head, statistics, entered⟩ := read
  cases head with
  | none => exact .inl ⟨rfl, ⟨rfl, rfl, headed⟩, rfl⟩
  | some head =>
    dsimp only at headed ⊢
    have chained := count_loadWholeChain received_failDma device.receive head (countChain statistics, entered)
    generalize loadWholeChain device.receive head (countChain statistics, entered) = chain at *
    obtain ⟨chain, counted, loaded⟩ := chain
    dsimp only at chained ⊢
    have counts := receiveIfValid_counts chain frame (counted, loaded)
    have total := chained.trans headed
    generalize receiveIfValid chain frame (counted, loaded) = received at *
    obtain ⟨written, recounted, final⟩ := received
    obtain ⟨sameReceived, sameDropped⟩ := Prod.mk.inj total
    obtain ⟨receivedFrames, dropped⟩ := Prod.mk.inj counts
    dsimp only at sameReceived sameDropped receivedFrames dropped ⊢
    refine .inr ⟨head, written, rfl, rfl, rfl, rfl, ?_⟩
    rw [← sameReceived, ← sameDropped]
    cases written with
    | none =>
      refine Prod.ext receivedFrames ?_
      exact congrArg (· + 1) dropped
    | some written =>
      refine Prod.ext receivedFrames ?_
      exact dropped.trans (BitVec.add_zero _).symm

/-- A round of reception leaves everything as it was, or it settles the frame that it takes. -/
structure Round.Settled (round : Round ν δ) : Prop where
  transmit : round.after.1.transmit = round.before.1.transmit
  pending : round.before.1.pendingReceiveFrames =
    round.popped ++ round.after.1.pendingReceiveFrames
  once : round.popped.length = round.received.toNat + round.dropped.toNat
  receivedFrames : round.after.1.statistics.receivedFrames =
    round.before.1.statistics.receivedFrames + BitVec.ofNat 64 round.received.toNat
  droppedFrames : round.after.1.statistics.droppedReceiveFrames =
    round.before.1.statistics.droppedReceiveFrames + BitVec.ofNat 64 round.dropped.toNat
  usedIndex : round.after.1.receive.usedIndex =
    round.before.1.receive.usedIndex + BitVec.ofNat 16 round.completed.toNat

omit [DmaAccess δ] in
theorem Round.Settled.settles {round : Round ν δ} (settled : round.Settled) :
    Settles round.before.1 round.after.1 [round] := by
  obtain ⟨transmit, pending, _, receivedFrames, dropped, usedIndex⟩ := settled
  refine ⟨transmit, ?_, ?_, ?_, ?_⟩
  · rw [List.flatMap_singleton]
    exact pending
  · rw [receivedFrames, List.countP_singleton]
    cases round.received <;> rfl
  · rw [dropped, List.countP_singleton]
    cases round.dropped <;> rfl
  · rw [usedIndex, List.countP_singleton]
    cases round.completed <;> rfl

/-- A counter that one is added to, or not. -/
theorem changed_add {width : Nat} (large : 0 < width) (count : BitVec width) (more : Bool) :
    (count + BitVec.ofNat width more.toNat != count) = more := by
  cases more with
  | false => simp
  | true =>
    refine bne_iff_ne.mpr fun same => ?_
    have zero := congrArg BitVec.toNat (BitVec.add_right_eq_self.mp same)
    rw [Bool.toNat_true, BitVec.toNat_ofNat, Nat.mod_eq_of_lt (Nat.one_lt_two_pow (by omega))] at zero
    cases zero

omit [DmaAccess δ] in
theorem Round.settled_of_idle {round : Round ν δ} (same : SameReceive round.before.1 round.after.1)
    (transmit : round.after.1.transmit = round.before.1.transmit) :
    round.Settled ∧ round.completed = false ∧ round.received = false := by
  obtain ⟨receive, pending, counts⟩ := same
  obtain ⟨receivedFrames, dropped⟩ := Prod.mk.inj counts
  have popped : round.popped = [] := by rw [Round.popped, pending, Nat.sub_self, List.take_zero]
  have notReceived : round.received = false := bne_eq_false_iff_eq.mpr receivedFrames
  have notDropped : round.dropped = false := bne_eq_false_iff_eq.mpr dropped
  have notCompleted : round.completed = false :=
    bne_eq_false_iff_eq.mpr (congrArg (·.usedIndex) receive)
  refine ⟨⟨transmit, ?_, ?_, ?_, ?_, ?_⟩, notCompleted, notReceived⟩
  · rw [popped, pending]
    rfl
  · rw [popped, notReceived, notDropped]
    rfl
  · rw [notReceived, receivedFrames]
    exact (BitVec.add_zero _).symm
  · rw [notDropped, dropped]
    exact (BitVec.add_zero _).symm
  · rw [notCompleted, receive]
    exact (BitVec.add_zero _).symm

omit [DmaAccess δ] in
theorem Round.settled_of_popped {round : Round ν δ} {frame : Frame} {received completed : Bool}
    (transmit : round.after.1.transmit = round.before.1.transmit)
    (pending : round.before.1.pendingReceiveFrames =
      frame :: round.after.1.pendingReceiveFrames)
    (counts : round.after.1.statistics.received =
      (round.before.1.statistics.receivedFrames + BitVec.ofNat 64 received.toNat,
        round.before.1.statistics.droppedReceiveFrames + BitVec.ofNat 64 (!received).toNat))
    (used : round.after.1.receive.usedIndex =
      round.before.1.receive.usedIndex + BitVec.ofNat 16 completed.toNat) :
    round.Settled ∧ round.completed = completed ∧ round.received = received ∧
      round.popped = [frame] := by
  obtain ⟨receivedFrames, dropped⟩ := Prod.mk.inj counts
  have popped : round.popped = [frame] := by
    rw [Round.popped, pending, List.length_cons, Nat.add_sub_cancel_left]
    rfl
  have isReceived : round.received = received := by
    rw [Round.received, receivedFrames, changed_add (by decide)]
  have isDropped : round.dropped = !received := by
    rw [Round.dropped, dropped, changed_add (by decide)]
  have isCompleted : round.completed = completed := by
    rw [Round.completed, used, changed_add (by decide)]
  refine ⟨⟨transmit, ?_, ?_, ?_, ?_, ?_⟩, isCompleted, isReceived, popped⟩
  · rw [popped, pending]
    rfl
  · rw [popped, isReceived, isDropped]
    cases received <;> rfl
  · rw [isReceived, receivedFrames]
  · rw [isDropped, dropped]
  · rw [isCompleted, used]

/-- A round of reception settles the frame that it takes. -/
theorem receiveNext_settled {device : VirtioNet ν} {frame : Frame} {rest : List Frame}
    (waiting : device.pendingReceiveFrames = frame :: rest) (dma : δ) :
    let next := receiveNext device frame rest dma
    let round : Round ν δ := { before := (device, dma), after := next.2 }
    round.Settled ∧ round.completed = next.1.isSome ∧
      (round.received = true → round.popped = [frame] ∧
        ∃ head written, (receiveServed device frame rest dma).1 = some (head, some written)) := by
  intro next round
  have spec := receiveServed_spec device frame rest dma
  have served := receiveNext_served device frame rest dma
  rcases found : receiveServed device frame rest dma with ⟨_ | ⟨head, written⟩, partly, after⟩
  all_goals
    rw [found] at spec served
    dsimp only at spec served
  · obtain ⟨_, same, transmit⟩ | ⟨_, _, some, _⟩ := spec
    · have ended : next = (none, partly, after) := served
      obtain ⟨settled, completed, received⟩ := Round.settled_of_idle
        (show SameReceive round.before.1 round.after.1 by simpa only [round, ended] using same)
        (by simpa only [round, ended] using transmit)
      refine ⟨settled, ?_, fun other => ?_⟩
      · rw [completed, ended]
        rfl
      · rw [received] at other
        cases other
    · cases some
  obtain ⟨none, _⟩ | ⟨_, _, same, transmit, receive, pending, counts⟩ := spec
  · cases none
  obtain ⟨rfl, rfl⟩ := Prod.mk.inj (Option.some.inj same)
  obtain ⟨same, completed⟩ := completeChain_cases received_failDma device.receive head
    (written.getD 0) (partly.statistics, after)
  have total := same.trans counts
  have read : round.received = true → round.received = written.isSome →
      ∃ found bytes, some (head, written) = some (found, some bytes) := by
    intro received same
    obtain ⟨bytes, rfl⟩ := Option.isSome_iff_exists.mp (same.symm.trans received)
    exact ⟨head, bytes, rfl⟩
  rcases ended : completeChain device.receive head (written.getD 0) (partly.statistics, after) with
    ⟨_ | queue, statistics, final⟩
  all_goals
    rw [ended] at total completed served
    dsimp only at total completed served
    have ended : next = _ := served
  · have spec : round.Settled ∧ round.completed = false ∧ round.received = written.isSome ∧
        round.popped = [frame] := by
      refine Round.settled_of_popped ?_ ?_ ?_ ?_
      all_goals simp only [round, ended]
      · exact transmit
      · rw [waiting, pending]
      · exact total
      · rw [receive]
        exact (BitVec.add_zero _).symm
    obtain ⟨settled, completed, received, popped⟩ := spec
    refine ⟨settled, ?_, fun counted => ⟨popped, read counted received⟩⟩
    rw [completed, ended]
    rfl
  · obtain none | some := completed
    · cases none
    cases some
    have spec : round.Settled ∧ round.completed = true ∧ round.received = written.isSome ∧
        round.popped = [frame] := by
      refine Round.settled_of_popped ?_ ?_ ?_ ?_
      all_goals simp only [round, ended]
      · exact transmit
      · rw [waiting]
        exact congrArg (frame :: ·) pending.symm
      · exact total
      · rfl
    obtain ⟨settled, completed, received, popped⟩ := spec
    refine ⟨settled, ?_, fun counted => ⟨popped, read counted received⟩⟩
    rw [completed, ended]
    rfl

theorem receiveNext_size (device : VirtioNet ν) (frame : Frame) (rest : List Frame) (dma : δ) :
    (receiveNext device frame rest dma).2.1.receive.size = device.receive.size := by
  have spec := receiveServed_spec device frame rest dma
  rw [receiveNext_served]
  generalize receiveServed device frame rest dma = served at spec ⊢
  obtain ⟨_ | ⟨head, written⟩, partly, after⟩ := served
  all_goals dsimp only at spec ⊢
  · obtain ⟨_, ⟨receive, _, _⟩, _⟩ | ⟨_, _, some, _⟩ := spec
    · rw [receive]
    · cases some
  obtain ⟨none, _⟩ | ⟨_, _, _, _, receive, _⟩ := spec
  · cases none
  have completed := (completeChain_cases received_failDma device.receive head (written.getD 0)
    (partly.statistics, after)).2
  generalize completeChain device.receive head (written.getD 0) (partly.statistics, after) = ended
    at completed ⊢
  obtain ⟨_ | queue, statistics, final⟩ := ended
  · rw [← receive]
  · obtain none | some := completed
    · cases none
    · cases some
      rfl

theorem linked_receiveLoop (count : Nat) (device : VirtioNet ν) (dma : δ) :
    Linked (device, dma) (receiveRounds count device dma) (receiveLoop count device dma).2 := by
  induction count generalizing device dma with
  | zero => rfl
  | succ count ih =>
    unfold receiveLoop receiveRounds
    rcases device.pendingReceiveFrames with _ | ⟨frame, rest⟩
    · rfl
    dsimp only
    rcases receiveNext device frame rest dma with ⟨_ | delivery, after, final⟩
    · exact ⟨rfl, rfl⟩
    · exact ⟨rfl, ih after final⟩

/-- What the rounds of reception are. -/
theorem mem_receiveRounds {count : Nat} {device : VirtioNet ν} {dma : δ} {round : Round ν δ}
    (member : round ∈ receiveRounds count device dma) :
    ∃ frame rest, round.before.1.pendingReceiveFrames = frame :: rest ∧
      round.after = (receiveNext round.before.1 frame rest round.before.2).2 ∧
      round.before.1.receive.size = device.receive.size := by
  induction count generalizing device dma with
  | zero => exact absurd member List.not_mem_nil
  | succ count ih =>
    unfold receiveRounds at member
    rcases waiting : device.pendingReceiveFrames with _ | ⟨frame, rest⟩
    all_goals
      rw [waiting] at member
      dsimp only at member
    · exact absurd member List.not_mem_nil
    obtain rfl | later := List.mem_cons.mp member
    · exact ⟨frame, rest, waiting, rfl, rfl⟩
    split at later
    · obtain ⟨frame, rest, waiting, after, size⟩ := ih later
      exact ⟨frame, rest, waiting, after, size.trans (receiveNext_size ..)⟩
    · exact absurd later List.not_mem_nil

/-- The rounds of reception settle every frame that they take. -/
theorem settled_receiveRounds {count : Nat} {device : VirtioNet ν} {dma : δ} {round : Round ν δ}
    (member : round ∈ receiveRounds count device dma) : round.Settled := by
  obtain ⟨frame, rest, waiting, after, _⟩ := mem_receiveRounds member
  obtain ⟨before, last⟩ := round
  dsimp only at waiting after
  rw [after]
  exact (receiveNext_settled waiting before.2).1

omit [DmaAccess δ] in
/-- Rounds that settle their frames, one after the other. -/
theorem Linked.settles {first last : VirtioNet ν × δ} {rounds : List (Round ν δ)}
    (linked : Linked first rounds last) (settled : ∀ round ∈ rounds, round.Settled) :
    Settles first.1 last.1 rounds := by
  induction rounds generalizing first with
  | nil =>
    cases linked
    exact .of_sameReceive ⟨rfl, rfl, rfl⟩ rfl
  | cons round rest ih =>
    obtain ⟨rfl, later⟩ := linked
    exact (settled round (List.mem_cons_self ..)).settles.trans
      (ih later fun other member => settled other (List.mem_cons_of_mem _ member))

theorem settles_receiveLoop (count : Nat) (device : VirtioNet ν) (dma : δ) :
    Settles device (receiveLoop count device dma).2.1 (receiveRounds count device dma) := by
  exact (linked_receiveLoop count device dma).settles fun _ => settled_receiveRounds

end

end VirtioNet

end RvEmulator.Devices
