import RvEmulator.Devices.NetAccounting
import RvEmulator.Devices.NetSend
import RvEmulator.Devices.NetSparing

/-! What leaves the transmit queue of the network device alone. -/

namespace RvEmulator.Devices.VirtioNet

open Library Platform

variable {ν δ : Type}

/-! ### Registers -/

/-- A register write that leaves the setup of the transmit queue alone. -/
structure Leaves (device : VirtioNet ν) (offset : BitVec 64) (width : AccessWidth)
    (value : BitVec 64) : Prop where
  works : ¬Resets offset width value
  page : offset ≠ Register.guestPageSize
  queue : device.queueSelect = 1 → offset ≠ Register.queueNum ∧ offset ≠ Register.queueAlign ∧
    offset ≠ Register.queuePfn

/-- What such a write does to the transmit side: it may announce chains. -/
structure Announces (before after : VirtioNet ν) : Prop where
  transmit : ∃ notificationPending, after.transmit =
    { before.transmit with
      notificationPending := before.transmit.notificationPending || notificationPending }
  guestPageSize : after.guestPageSize = before.guestPageSize
  backend : after.backend = before.backend

theorem Announces.of_eq {before after : VirtioNet ν} (transmit : after.transmit = before.transmit)
    (guestPageSize : after.guestPageSize = before.guestPageSize)
    (backend : after.backend = before.backend) : Announces before after := by
  refine ⟨⟨false, ?_⟩, guestPageSize, backend⟩
  rw [transmit, Bool.or_false]

theorem Announces.ite {condition : Prop} [Decidable condition] {before device other : VirtioNet ν}
    (holds : condition → Announces before device) (fails : ¬condition → Announces before other) :
    Announces before (if condition then device else other) := by
  split
  · exact holds ‹_›
  · exact fails ‹_›

theorem announces_writeRegister {device : VirtioNet ν} {offset : BitVec 64} {word : BitVec 32}
    (works : ¬(offset = Register.status ∧ word = 0)) (page : offset ≠ Register.guestPageSize)
    (queue : device.queueSelect = 1 → offset ≠ Register.queueNum ∧ offset ≠ Register.queueAlign ∧
      offset ≠ Register.queuePfn) : Announces device (device.writeRegister offset word) := by
  have same : Announces device device := .of_eq rfl rfl rfl
  have selected : ∀ {change : Queue → Queue}, device.queueSelect ≠ 1 →
      Announces device (device.updateSelected change) := fun other =>
    .ite (fun _ => .of_eq rfl rfl rfl) fun _ =>
      .ite (fun chosen => absurd chosen other) fun _ => same
  have notified : Announces device (device.notify word) :=
    .ite (fun _ => .of_eq rfl rfl rfl) fun _ =>
      .ite (fun _ => ⟨⟨true, by rw [Bool.or_true]⟩, rfl, rfl⟩) fun _ => .of_eq rfl rfl rfl
  unfold writeRegister
  refine .ite (fun _ => .of_eq rfl rfl rfl) fun _ =>
    .ite (fun _ => .ite (fun _ => .of_eq rfl rfl rfl) fun _ => same) fun _ =>
    .ite (fun _ => .of_eq rfl rfl rfl) fun _ => .ite (fun size => absurd size page) fun _ =>
    .ite (fun _ => .of_eq rfl rfl rfl) fun _ => ?_
  refine .ite (fun num => selected fun chosen => (queue chosen).1 num) fun _ =>
    .ite (fun align => selected fun chosen => (queue chosen).2.1 align) fun _ =>
    .ite (fun pfn => selected fun chosen => (queue chosen).2.2 pfn) fun _ =>
    .ite (fun _ => notified) fun _ => .ite (fun _ => .of_eq rfl rfl rfl) fun _ => ?_
  exact .ite (fun status => .ite (fun zero => absurd ⟨status, zero⟩ works)
    fun _ => .of_eq rfl rfl rfl) fun _ => same

theorem announces_write {device : VirtioNet ν} {offset value : BitVec 64} {width : AccessWidth}
    (leaves : Leaves device offset width value) :
    Announces device (device.write offset width value).2 := by
  obtain ⟨works, page, queue⟩ := leaves
  unfold write
  split
  · exact .of_eq rfl rfl rfl
  split
  · exact .of_eq rfl rfl rfl
  · rename_i aligned
    refine announces_writeRegister (fun ⟨status, zero⟩ => works ⟨status, ?_, zero⟩) page queue
    exact not_not.mp fun other => aligned (.inl other)

/-- A driver that notifies the device of a set-up queue is heard. -/
theorem pending_of_notify {device : VirtioNet ν}
    (configured : device.queueConfigured device.transmit = true) :
    (device.write Register.queueNotify .word 1).2.transmit.notificationPending = true := by
  have different : ¬((1 : BitVec 32) = 0 ∧ device.queueConfigured device.receive = true) :=
    fun ⟨zero, _⟩ => absurd zero (by decide)
  change (device.notify 1).transmit.notificationPending = true
  unfold notify
  dsimp only
  rw [if_neg different, if_pos ⟨rfl, configured⟩]

section

variable [DmaAccess δ] {memory : DmaMemory δ} {dma : δ}

/-! ### Reception -/

theorem sound_completeChain (sound : memory.sound dma) (queue : Queue) (head : BitVec 16)
    (written : BitVec 32) (statistics : VirtioNetStatistics) :
    memory.sound (completeChain queue head written (statistics, dma)).2.2 := by
  unfold completeChain
  dsimp only
  split
  · exact memory.sound_write sound
  split
  · exact memory.sound_write (memory.sound_write sound)
  split
  · exact memory.sound_write (memory.sound_write (memory.sound_write sound))
  · exact memory.sound_write (memory.sound_write (memory.sound_write sound))

/-- What reception leaves alone: the transmit side. -/
structure SameTransmit (memory : DmaMemory δ) (before after : VirtioNet ν × δ) : Prop where
  transmit : after.1.transmit = before.1.transmit
  guestPageSize : after.1.guestPageSize = before.1.guestPageSize
  backend : after.1.backend = before.1.backend
  dropped : after.1.statistics.droppedTransmitFrames = before.1.statistics.droppedTransmitFrames
  sound : memory.sound after.2

theorem SameTransmit.trans {first second third : VirtioNet ν × δ}
    (before : SameTransmit memory first second) (after : SameTransmit memory second third) :
    SameTransmit memory first third :=
  ⟨after.transmit.trans before.transmit, after.guestPageSize.trans before.guestPageSize,
    after.backend.trans before.backend, after.dropped.trans before.dropped, after.sound⟩

theorem dropped_failDma (statistics : VirtioNetStatistics) :
    statistics.failDma.droppedTransmitFrames = statistics.droppedTransmitFrames := rfl

theorem receiveIfValid_sound (sound : memory.sound dma) (chain : Option (List Descriptor))
    (frame : Frame) (statistics : VirtioNetStatistics) :
    memory.sound (receiveIfValid chain frame (statistics, dma)).2.2 ∧
      (receiveIfValid chain frame (statistics, dma)).2.1.droppedTransmitFrames =
        statistics.droppedTransmitFrames := by
  have apart : ∀ found, chain = some found → ∀ address ∈ addresses found, ¬False :=
    fun _ _ _ _ => not_false
  refine ⟨(preserves_receiveIfValid sound chain frame statistics
    apart).sound, ?_⟩
  unfold receiveIfValid
  cases chain with
  | none => rfl
  | some chain =>
    dsimp only
    unfold receiveChain
    dsimp only
    split
    · rfl
    split
    · rfl
    split <;> rfl

theorem sameTransmit_receiveServed (sound : memory.sound dma) (device : VirtioNet ν) (frame : Frame)
    (rest : List Frame) :
    SameTransmit memory (device, dma) (receiveServed device frame rest dma).2 := by
  obtain ⟨soundIndex, _, _⟩ := DmaMemory.read_spec sound
    (device.receive.rings.availableRing + 2) .halfWord
  unfold receiveServed
  dsimp only
  split
  · exact ⟨rfl, rfl, rfl, rfl, soundIndex⟩
  split
  · exact ⟨rfl, rfl, rfl, rfl, soundIndex⟩
  generalize (DmaAccess.dmaRead (device.receive.rings.availableRing + 2) .halfWord dma).2 =
    indexed at soundIndex ⊢
  have counted := count_readAvailableHead dropped_failDma device.receive
    (device.statistics, indexed)
  have headed := (reads_readAvailableHead device.receive device.statistics soundIndex).sound
  generalize readAvailableHead device.receive (device.statistics, indexed) = read at counted headed ⊢
  obtain ⟨head, statistics, entered⟩ := read
  cases head with
  | none => exact ⟨rfl, rfl, rfl, counted, headed⟩
  | some head =>
    dsimp only at counted headed ⊢
    have chained := count_loadWholeChain dropped_failDma device.receive head
      (countChain statistics, entered)
    have followed := (reads_loadWholeChain device.receive head (countChain statistics) headed).sound
    generalize loadWholeChain device.receive head (countChain statistics, entered) = chain
      at chained followed ⊢
    obtain ⟨chain, recounted, loaded⟩ := chain
    obtain ⟨filled, same⟩ := receiveIfValid_sound followed chain frame recounted
    refine ⟨rfl, rfl, rfl, ?_, filled⟩
    have total := (same.trans chained).trans counted
    dsimp only
    split <;> exact total

theorem sameTransmit_receiveNext (sound : memory.sound dma) (device : VirtioNet ν) (frame : Frame)
    (rest : List Frame) :
    SameTransmit memory (device, dma) (receiveNext device frame rest dma).2 := by
  have before := sameTransmit_receiveServed sound device frame rest
  rw [receiveNext_served]
  generalize receiveServed device frame rest dma = read at before ⊢
  obtain ⟨_ | ⟨head, written⟩, served, after⟩ := read
  · exact before
  obtain ⟨same, _⟩ := completeChain_cases dropped_failDma device.receive head (written.getD 0)
    (served.statistics, after)
  have stored := sound_completeChain before.sound device.receive head (written.getD 0)
    served.statistics
  dsimp only
  rcases ended : completeChain device.receive head (written.getD 0) (served.statistics, after) with
    ⟨_ | queue, statistics, final⟩
  all_goals
    rw [ended] at same stored
    refine before.trans ⟨rfl, rfl, rfl, same, stored⟩

theorem sameTransmit_receiveLoop (count : Nat) (sound : memory.sound dma) (device : VirtioNet ν) :
    SameTransmit memory (device, dma) (receiveLoop count device dma).2 := by
  induction count generalizing device dma with
  | zero => exact ⟨rfl, rfl, rfl, rfl, sound⟩
  | succ count ih =>
    unfold receiveLoop
    split
    · exact ⟨rfl, rfl, rfl, rfl, sound⟩
    rename_i frame rest _
    have round := sameTransmit_receiveNext sound device frame rest
    generalize receiveNext device frame rest dma = ended at round ⊢
    obtain ⟨_ | delivery, next, after⟩ := ended
    · exact round
    · exact round.trans (ih round.sound next)

theorem sameTransmit_processReceiveQueue (sound : memory.sound dma) (device : VirtioNet ν) :
    SameTransmit memory (device, dma) (processReceiveQueue device dma).2 := by
  unfold processReceiveQueue
  split
  · exact ⟨rfl, rfl, rfl, rfl, sound⟩
  · exact sameTransmit_receiveLoop _ sound device

end

end RvEmulator.Devices.VirtioNet
