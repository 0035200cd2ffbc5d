import RvEmulator.Devices.BlockRequest

/-! The ring protocol of the block device, over runs of a driver and the device. -/

namespace RvEmulator.Devices.VirtioBlock

open Library Platform

variable {σ δ : Type}

/-- A driver and the device. The driver has published heads; the device has served
chains. -/
structure Session (σ δ : Type) where
  device : VirtioBlock σ
  dma : δ
  published : List (BitVec 16) := []
  served : List Completion := []

namespace Session

def size (session : Session σ δ) : Nat := session.device.queueNum.toNat

/-- The heads that are published and not served yet. -/
def outstanding (session : Session σ δ) : List (BitVec 16) :=
  session.published.drop session.served.length

end Session

/-- An element of the used ring for a chain. -/
def Completion.element (completion : Completion) : BitVec 32 × BitVec 32 :=
  (completion.head.setWidth 32, completion.written)

inductive Action where
  | drive
  | notify
  | acknowledge (value : BitVec 64)
  | tick
deriving DecidableEq

section

variable [DmaAccess δ] (memory : DmaMemory δ)

/-- What a driver does to memory: it publishes heads, at most as many as the queue has
room for, and leaves the used ring to the device. Everything else it may change. -/
structure Driven (before after : Session σ δ) : Prop where
  device : after.device = before.device
  served : after.served = before.served
  sound : memory.sound after.dma
  published : before.published <+: after.published
  room : after.published.length ≤ after.served.length + after.size
  index : after.device.rings.availableIndexAt (memory.contents after.dma) =
    BitVec.ofNat 16 after.published.length
  heads : Ring.Shows after.size (after.device.rings.headAt (memory.contents after.dma))
    after.published after.served.length
  used : ∀ address, after.device.rings.InUsed after.device.queueNum address →
    memory.contents after.dma address = memory.contents before.dma address

/-- The buffers of the outstanding chains are disjoint from the queue. -/
def Apart (session : Session σ δ) : Prop :=
  ∀ head ∈ session.outstanding, ∀ descriptor ∈ session.device.rings.chainAt
      session.device.queueNum (memory.contents session.dma) session.size head,
    ∀ address, descriptor.Holds address →
      ¬session.device.rings.Contains session.device.queueNum address

/-- The session after the driver wrote a register. -/
def Session.write (session : Session σ δ) (offset value : BitVec 64) : Session σ δ :=
  { session with device := (session.device.write offset .word value).2 }

/-- What stays fixed during a run. -/
structure Wired (size : BitVec 16) (rings : Rings) : Prop where
  follows : ∃ gap, rings.Follows size.toNat gap
  divides : size.toNat ∣ 2 ^ 16
  small : size.toNat ≤ 256
  answered : rings.Answered memory size

/-- The rings show what was published and what was served. -/
structure Serving (size : BitVec 16) (rings : Rings) (session : Session σ δ) : Prop where
  queueNum : session.device.queueNum = size
  placed : session.device.rings = rings
  configured : session.device.queueConfigured = true
  sound : memory.sound session.dma
  lastAvailableIndex : session.device.lastAvailableIndex = BitVec.ofNat 16 session.served.length
  usedIndex : session.device.usedIndex = BitVec.ofNat 16 session.served.length
  ordered : session.served.map (·.head) <+: session.published
  room : session.published.length ≤ session.served.length + size.toNat
  available : rings.availableIndexAt (memory.contents session.dma) =
    BitVec.ofNat 16 session.published.length
  heads : Ring.Shows size.toNat (rings.headAt (memory.contents session.dma)) session.published
    session.served.length
  used : rings.usedIndexAt (memory.contents session.dma) = BitVec.ofNat 16 session.served.length
  elements : Ring.Shows size.toNat (rings.elementAt (memory.contents session.dma))
    (session.served.map (·.element)) (session.served.length - size.toNat)

variable [BlockStorage σ]

/-- The session after a tick. -/
def Session.tick (session : Session σ δ) : Session σ δ :=
  let ticked := session.device.tick session.dma
  { session with
    device := ticked.2.1
    dma := ticked.2.2
    served := session.served ++ ticked.1 }

inductive Step : Action → Session σ δ → Session σ δ → Prop where
  | drive : Driven memory before after → Step .drive before after
  | notify : Step .notify session (session.write Register.queueNotify 0)
  | acknowledge : Step (.acknowledge value) session (session.write Register.interruptAck value)
  | tick : Apart memory session → Step .tick session session.tick

/-! ### One chain -/

variable {memory} {size : BitVec 16} {rings : Rings} {session : Session σ δ}

/-- What a round does to the device and to memory when nothing is refused. -/
theorem processHead_eq (wired : Wired memory size rings) {device : VirtioBlock σ} {dma : δ}
    (queueNum : device.queueNum = size) (placed : device.rings = rings)
    (sound : memory.sound dma)
    (apart : ∀ descriptor ∈ rings.chainAt size (memory.contents dma) size.toNat
        (rings.headAt (memory.contents dma) (device.lastAvailableIndex.toNat % size.toNat)),
      ∀ address, descriptor.Holds address → ¬rings.Contains size address) :
    ∃ written disk dma' request,
      processHead device dma =
        (some { head := rings.headAt (memory.contents dma)
                  (device.lastAvailableIndex.toNat % size.toNat)
                written },
          { device with
            disk
            interruptStatus := device.interruptStatus ||| 0x1
            lastAvailableIndex := device.lastAvailableIndex + 1
            usedIndex := device.usedIndex + 1 }, dma') ∧
      memory.sound dma' ∧
      (∀ address, rings.Contains size address → request address = memory.contents dma address) ∧
      memory.contents dma' = rings.completed size device.usedIndex
        (rings.headAt (memory.contents dma) (device.lastAvailableIndex.toNat % size.toNat))
        written request := by
  obtain ⟨soundEntry, sameEntry, entryValue⟩ := DmaMemory.read_spec sound
    (rings.ringEntry size device.lastAvailableIndex) .halfWord
  have entryFault := memory.readable sound (wired.answered.head device.lastAvailableIndex)
  have entryOk : (DmaAccess.dmaRead (rings.ringEntry size device.lastAvailableIndex) .halfWord
      dma).1.ok = true := by
    simp [ReadResult.ok, entryFault]
  have headValue : (DmaAccess.dmaRead (rings.ringEntry size device.lastAvailableIndex) .halfWord
      dma).1.value.setWidth 16 = rings.headAt (memory.contents dma)
        (device.lastAvailableIndex.toNat % size.toNat) := by
    rw [entryValue entryOk, Rings.ringEntry_eq]
    rfl
  unfold processHead
  dsimp only
  rw [queueNum, placed, entryOk, headValue]
  generalize rings.headAt (memory.contents dma)
    (device.lastAvailableIndex.toNat % size.toNat) = head at *
  generalize (DmaAccess.dmaRead (rings.ringEntry size device.lastAvailableIndex) .halfWord
    dma).2 = entered at *
  have requested : memory.Preserves (rings.Contains size) entered
      (processRequest size rings head (countChain device.disk, entered)).2.2 := by
    apply preserves_processRequest soundEntry
    rw [sameEntry]
    exact apart
  generalize processRequest size rings head (countChain device.disk, entered) = request at *
  obtain ⟨⟨_, written⟩, disk, served⟩ := request
  dsimp only at requested ⊢
  obtain ⟨id, length, index, sound, contents⟩ :=
    wired.answered.complete requested.sound device.usedIndex head written
  rw [id, length, index]
  refine ⟨written, _, _, memory.contents served, rfl, sound, ?_, contents⟩
  intro address member
  rw [requested.bytes address member, sameEntry]

theorem counter_next (k : Nat) : BitVec.ofNat 16 k + 1 = BitVec.ofNat 16 (k + 1) := by
  rw [BitVec.ofNat_add]
  rfl

omit [BlockStorage σ] in
/-- The first outstanding head is the one in the next cell of the available ring. -/
theorem Serving.head_eq (serving : Serving memory size rings session)
    (wired : Wired memory size rings) (pending : session.served.length < session.published.length) :
    session.outstanding = rings.headAt (memory.contents session.dma)
        (session.device.lastAvailableIndex.toNat % size.toNat) ::
          session.published.drop (session.served.length + 1) := by
  rw [serving.lastAvailableIndex, Ring.counter_slot wired.divides,
    serving.heads _ _ (Nat.le_refl _) (List.getElem?_eq_getElem pending)]
  exact List.drop_eq_getElem_cons pending

/-- A round serves the first outstanding chain. -/
theorem Serving.processHead (serving : Serving memory size rings session)
    (wired : Wired memory size rings) (pending : session.served.length < session.published.length)
    (apart : Apart memory session) :
    ∃ completion device dma,
      VirtioBlock.processHead session.device session.dma = (some completion, device, dma) ∧
      Serving memory size rings
        { session with device, dma, served := session.served ++ [completion] } ∧
      Apart memory { session with device, dma, served := session.served ++ [completion] } ∧
      device.interruptStatus = session.device.interruptStatus ||| 0x1 := by
  obtain ⟨gap, follows⟩ := wired.follows
  have next := serving.head_eq wired pending
  have buffers : ∀ head ∈ session.outstanding, ∀ descriptor ∈ rings.chainAt size
      (memory.contents session.dma) size.toNat head,
      ∀ address, descriptor.Holds address → ¬rings.Contains size address := by
    have free := apart
    unfold Apart Session.size at free
    rw [serving.queueNum, serving.placed] at free
    exact free
  obtain ⟨written, disk, dma, request, round, sound, unchanged, contents⟩ :=
    processHead_eq wired serving.queueNum serving.placed serving.sound
      (buffers _ (by rw [next]; exact List.mem_cons_self))
  generalize rings.headAt (memory.contents session.dma)
    (session.device.lastAvailableIndex.toNat % size.toNat) = head at *
  -- The rest of the queue is as it was.
  have same : ∀ address, (rings.InTable size address ∨ rings.InAvailable size address) →
      memory.contents dma address = memory.contents session.dma address := by
    intro address member
    rw [contents, follows.completed_outside _ _ _ _ (follows.not_inUsed member)]
    exact unchanged address (member.imp_right Or.inl)
  have table := fun address member => same address (.inl member)
  have ring := fun address member => same address (.inr member)
  have usedSame := fun address member => unchanged address (.inr (.inr member))
  have served : (session.served ++ [Completion.mk head written]).length = session.served.length + 1 :=
    List.length_append
  have later : session.outstanding = head ::
      session.published.drop (session.served ++ [Completion.mk head written]).length := by
    rw [next, served]
  refine ⟨⟨head, written⟩, _, dma, round, ?_, ?_, rfl⟩
  · refine ⟨serving.queueNum, serving.placed, serving.configured, sound, ?_, ?_, ?_, ?_, ?_, ?_, ?_,
      ?_⟩
    · rw [served, serving.lastAvailableIndex, counter_next]
    · rw [served, serving.usedIndex, counter_next]
    · obtain ⟨rest, whole⟩ := serving.ordered
      have dropped : session.outstanding = rest := by
        unfold Session.outstanding
        rw [← whole]
        exact List.drop_left' (List.length_map _)
      rw [next] at dropped
      refine ⟨session.published.drop (session.served.length + 1), Eq.trans ?_ whole⟩
      rw [List.map_append, List.append_assoc, ← dropped]
      rfl
    · rw [served]
      have room := serving.room
      dsimp only
      omega
    · rw [Rings.availableIndexAt_congr ring]
      exact serving.available
    · refine (serving.heads.later ?_).congr follows.positive fun slot inside =>
        Rings.headAt_congr ring inside
      rw [served]
      exact Nat.le_succ _
    · rw [served, contents, Rings.usedIndexAt_completed, serving.usedIndex, counter_next]
    · have cell : (session.served.map (·.element)).length % size.toNat =
          session.device.usedIndex.toNat % size.toNat := by
        rw [serving.usedIndex, Ring.counter_slot wired.divides, List.length_map]
      have earlier : Ring.Shows size.toNat (rings.elementAt request)
          (session.served.map (·.element)) (session.served.length - size.toNat) :=
        serving.elements.congr follows.positive fun slot inside =>
          Rings.elementAt_congr usedSame inside
      rw [served, List.map_append, contents]
      refine earlier.push (by omega) (by rw [List.length_map]; omega) ?_ ?_
      · rw [cell]
        exact Rings.elementAt_completed _ follows.positive _ _ _ _
      · intro slot inside different
        rw [cell] at different
        exact follows.elementAt_other _ _ _ _ inside different
  · intro other member
    unfold Session.size
    dsimp only
    rw [serving.queueNum, serving.placed, Rings.chainAt_congr table]
    apply buffers other
    rw [later]
    exact List.mem_cons_of_mem _ member

/-! ### A tick -/

omit [BlockStorage σ] in
theorem Serving.served_le (serving : Serving memory size rings session) :
    session.served.length ≤ session.published.length := by
  have bound := serving.ordered.length_le
  rwa [List.length_map] at bound

omit [BlockStorage σ] in
theorem Serving.all_served (serving : Serving memory size rings session)
    (none : session.published.length ≤ session.served.length) :
    session.served.map (·.head) = session.published := by
  apply serving.ordered.eq_of_length
  rw [List.length_map]
  exact Nat.le_antisymm serving.served_le none

/-- The session after the loop of `process_queue`. -/
def Session.after (session : Session σ δ) (ended : List Completion × VirtioBlock σ × δ) :
    Session σ δ :=
  { session with
    device := ended.2.1
    dma := ended.2.2
    served := session.served ++ ended.1 }

/-- Every outstanding chain was served; an interrupt was raised if there was one. -/
structure Drained (memory : DmaMemory δ) (size : BitVec 16) (rings : Rings)
    (session : Session σ δ) (ended : List Completion × VirtioBlock σ × δ) : Prop where
  serving : Serving memory size rings (session.after ended)
  complete : (session.served ++ ended.1).map (·.head) = session.published
  interrupt : ended.2.1.interruptStatus =
    if ended.1 = [] then session.device.interruptStatus else session.device.interruptStatus ||| 0x1

omit [BlockStorage σ] in
theorem Serving.drained (serving : Serving memory size rings session)
    (none : session.published.length ≤ session.served.length) :
    Drained memory size rings session ([], session.device, session.dma) := by
  have same : session.after ([], session.device, session.dma) = session := by
    simp [Session.after]
  refine ⟨same.symm ▸ serving, ?_, (if_pos rfl).symm⟩
  rw [List.append_nil]
  exact serving.all_served none

omit [BlockStorage σ] in
/-- A round, followed by the rest of the loop. -/
theorem Drained.cons {completion : Completion} {device : VirtioBlock σ} {dma : δ}
    {ended : List Completion × VirtioBlock σ × δ}
    (drained : Drained memory size rings
      { session with device, dma, served := session.served ++ [completion] } ended)
    (raised : device.interruptStatus = session.device.interruptStatus ||| 0x1) :
    Drained memory size rings session (completion :: ended.1, ended.2) := by
  obtain ⟨serving, complete, interrupt⟩ := drained
  have joined : session.served ++ [completion] ++ ended.1 =
      session.served ++ completion :: ended.1 := (List.append_cons ..).symm
  refine ⟨?_, ?_, ?_⟩
  · unfold Session.after at serving
    dsimp only at serving
    rwa [joined] at serving
  · rw [← joined]
    exact complete
  · rw [if_neg (List.cons_ne_nil _ _), interrupt]
    dsimp only
    rw [raised, BitVec.or_assoc, BitVec.or_self, ite_self]

/-- The loop serves every outstanding chain. -/
theorem Serving.processHeads (serving : Serving memory size rings session)
    (wired : Wired memory size rings) (apart : Apart memory session) (count : Nat)
    (enough : session.published.length ≤ session.served.length + count) :
    Drained memory size rings session
      (VirtioBlock.processHeads (BitVec.ofNat 16 session.published.length) count session.device
        session.dma) := by
  induction count generalizing session with
  | zero => exact serving.drained (by omega)
  | succ count ih =>
    unfold VirtioBlock.processHeads
    rw [serving.lastAvailableIndex]
    by_cases none : session.published.length ≤ session.served.length
    · have equal := Nat.le_antisymm serving.served_le none
      rw [equal, if_pos rfl]
      exact serving.drained none
    · have pending : session.served.length < session.published.length := Nat.lt_of_not_le none
      have room := serving.room
      have small := wired.small
      obtain ⟨completion, device, dma, round, after, free, raised⟩ :=
        serving.processHead wired pending apart
      rw [if_neg (Ring.counter_ne pending (by omega)), round]
      refine Drained.cons (ih after free ?_) raised
      rw [List.length_append, List.length_singleton]
      dsimp only
      omega

/-- A tick after a notification. -/
theorem Serving.processQueue (serving : Serving memory size rings session)
    (wired : Wired memory size rings) (apart : Apart memory session) :
    Drained memory size rings session
      (VirtioBlock.processQueue session.device session.dma) := by
  have fault := memory.readable serving.sound wired.answered.availableIndex
  obtain ⟨sound, same, value⟩ :=
    DmaMemory.read_spec serving.sound (rings.availableRing + 2) .halfWord
  have answered : (DmaAccess.dmaRead (rings.availableRing + 2) .halfWord session.dma).1.ok =
      true := by
    rw [ReadResult.ok, fault]
    rfl
  have index : (DmaAccess.dmaRead (rings.availableRing + 2) .halfWord
      session.dma).1.value.setWidth 16 = BitVec.ofNat 16 session.published.length := by
    rw [value answered]
    exact serving.available
  unfold VirtioBlock.processQueue
  dsimp only
  rw [serving.configured, serving.placed, answered, index, serving.queueNum]
  generalize (DmaAccess.dmaRead (rings.availableRing + 2) .halfWord session.dma).2 = dma at *
  have reading : Serving memory size rings { session with dma } := by
    obtain ⟨queueNum, placed, configured, _, last, used, ordered, room, available, heads, usedAt,
      elements⟩ := serving
    exact ⟨queueNum, placed, configured, sound, last, used, ordered, room, same.symm ▸ available,
      same.symm ▸ heads, same.symm ▸ usedAt, same.symm ▸ elements⟩
  have free : Apart memory { session with dma } := by
    unfold Apart
    dsimp only
    rw [same]
    exact apart
  have drained := reading.processHeads wired free size.toNat reading.room
  exact ⟨drained.serving, drained.complete, drained.interrupt⟩

theorem Serving.tick (serving : Serving memory size rings session)
    (wired : Wired memory size rings) (apart : Apart memory session) :
    Serving memory size rings session.tick ∧
      ∃ fresh, session.tick.served = session.served ++ fresh ∧
        session.tick.device.interruptStatus =
          (if fresh = [] then session.device.interruptStatus
          else session.device.interruptStatus ||| 0x1) ∧
        (session.device.notificationPending = true →
          session.tick.served.map (·.head) = session.published) := by
  unfold Session.tick VirtioBlock.tick
  dsimp only
  cases pending : session.device.notificationPending with
  | false =>
    simp only [Bool.not_false, if_true, List.append_nil]
    refine ⟨serving, [], (List.append_nil _).symm, (if_pos rfl).symm, fun notified => ?_⟩
    cases notified
  | true =>
    simp only [Bool.not_true, Bool.false_eq_true, if_false]
    have quiet : Serving memory size rings
        { session with device := { session.device with notificationPending := false } } := by
      obtain ⟨queueNum, placed, configured, sound, last, used, ordered, room, available, heads,
        usedAt, elements⟩ := serving
      exact ⟨queueNum, placed, configured, sound, last, used, ordered, room, available, heads,
        usedAt, elements⟩
    have drained := quiet.processQueue wired apart
    exact ⟨drained.serving, _, rfl, drained.interrupt, fun _ => drained.complete⟩

end

end RvEmulator.Devices.VirtioBlock
