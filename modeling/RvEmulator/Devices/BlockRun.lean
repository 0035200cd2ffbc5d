import RvEmulator.Devices.BlockProtocol

/-! Runs of a driver and the block device: what was published is served, once and in
order. -/

namespace RvEmulator.Devices.VirtioBlock

open Library Platform

variable {σ δ : Type}

/-! ### Setting up -/

/-- A device on which only registers were written since its reset. -/
structure Fresh (device : VirtioBlock σ) : Prop where
  lastAvailableIndex : device.lastAvailableIndex = 0
  usedIndex : device.usedIndex = 0
  rings : device.rings = device.updateQueueAddresses.rings

theorem fresh_update {device : VirtioBlock σ} (last : device.lastAvailableIndex = 0)
    (used : device.usedIndex = 0) : Fresh device.updateQueueAddresses :=
  ⟨last, used, rfl⟩

theorem Fresh.ite {condition : Prop} [Decidable condition] {device other : VirtioBlock σ}
    (holds : Fresh device) (fails : Fresh other) :
    Fresh (if condition then device else other) := by
  split <;> assumption

theorem Fresh.writeRegister {device : VirtioBlock σ} (fresh : Fresh device) (offset : BitVec 64)
    (word : BitVec 32) : Fresh (device.writeRegister offset word) := by
  obtain ⟨last, used, placed⟩ := fresh
  have notified : Fresh (device.notify word) := .ite ⟨last, used, placed⟩ ⟨last, used, placed⟩
  have restarted : Fresh { device.reset with guestPageSize := device.guestPageSize } := by
    refine ⟨rfl, rfl, (if_neg ?_).symm⟩
    simp [queueConfigured, reset]
  unfold VirtioBlock.writeRegister
  refine .ite ⟨last, used, placed⟩ (.ite (.ite ⟨last, used, placed⟩ ⟨last, used, placed⟩)
    (.ite ⟨last, used, placed⟩ ?_))
  -- The registers of the queue place it again.
  refine .ite (fresh_update last used) (.ite (fresh_update last used)
    (.ite (fresh_update last used) (.ite (fresh_update last used)
      (.ite (fresh_update last used) ?_))))
  exact .ite notified (.ite ⟨last, used, placed⟩
    (.ite (.ite restarted ⟨last, used, placed⟩) ⟨last, used, placed⟩))

theorem Fresh.write {device : VirtioBlock σ} (fresh : Fresh device) (offset value : BitVec 64) :
    Fresh (device.write offset .word value).2 := by
  unfold VirtioBlock.write
  split
  · exact fresh
  split
  · exact fresh
  · exact fresh.writeRegister offset _

theorem Fresh.foldl {device : VirtioBlock σ} (fresh : Fresh device)
    (writes : List (BitVec 64 × BitVec 64)) :
    Fresh (writes.foldl (fun device entry => (device.write entry.1 .word entry.2).2) device) :=
  List.foldlRecOn writes _ fresh fun _ kept entry _ => kept.write entry.1 entry.2

/-- What `queue_configured` says about the size of the queue. -/
theorem size_of_configured {device : VirtioBlock σ} (configured : device.queueConfigured = true) :
    device.queueNum ≠ 0 ∧ device.queueNum ≤ 256 ∧ device.queueAlign ≠ 0 ∧
      device.queueNum.toNat ∣ 2 ^ 16 := by
  unfold queueConfigured at configured
  simp only [Bool.and_eq_true, decide_eq_true_eq, bne_iff_ne] at configured
  obtain ⟨⟨⟨⟨_, some⟩, small⟩, power⟩, aligned⟩ := configured
  have bounded : device.queueNum.toNat ≤ 128 := BitVec.le_def.mp small
  exact ⟨some, BitVec.le_def.mpr (Nat.le_trans bounded (by decide)), dvd_of_powers power aligned⟩

section

variable [DmaAccess δ] (memory : DmaMemory δ)

/-- A queue that was set up by register writes after a reset, over empty rings. -/
structure Ready (session : Session σ δ) : Prop where
  setUp : ∃ disk, ∃ writes : List (BitVec 64 × BitVec 64), session.device =
    writes.foldl (fun device entry => (device.write entry.1 .word entry.2).2) { disk }
  configured : session.device.queueConfigured = true
  sound : memory.sound session.dma
  answered : session.device.rings.Answered memory session.device.queueNum
  unpublished : session.published = []
  unserved : session.served = []
  available : session.device.rings.availableIndexAt (memory.contents session.dma) = 0
  used : session.device.rings.usedIndexAt (memory.contents session.dma) = 0

variable {memory} {size : BitVec 16} {rings : Rings} {session : Session σ δ}

theorem Ready.wired (ready : Ready memory session) :
    Wired memory session.device.queueNum session.device.rings := by
  obtain ⟨some, small, aligned, divides⟩ := size_of_configured ready.configured
  obtain ⟨disk, writes, made⟩ := ready.setUp
  have fresh : Fresh session.device := made ▸ Fresh.foldl ⟨rfl, rfl, rfl⟩ writes
  have placed : session.device.rings = .place session.device.queuePfn
      session.device.guestPageSize session.device.queueNum session.device.queueAlign := by
    rw [fresh.rings]
    exact if_pos ready.configured
  refine ⟨?_, divides, BitVec.le_def.mp small, ready.answered⟩
  rw [placed]
  exact Rings.follows_place _ _ _ some small aligned

theorem Ready.serving (ready : Ready memory session) :
    Serving memory session.device.queueNum session.device.rings session := by
  obtain ⟨disk, writes, made⟩ := ready.setUp
  have fresh : Fresh session.device := made ▸ Fresh.foldl ⟨rfl, rfl, rfl⟩ writes
  refine ⟨rfl, rfl, ready.configured, ready.sound, ?_, ?_, ?_, ?_, ?_, ?_, ?_, ?_⟩
  · rw [fresh.lastAvailableIndex, ready.unserved]
    rfl
  · rw [fresh.usedIndex, ready.unserved]
    rfl
  · rw [ready.unserved]
    exact List.nil_prefix
  · rw [ready.unpublished]
    exact Nat.zero_le _
  · rw [ready.available, ready.unpublished]
    rfl
  · intro k entry _ found
    rw [ready.unpublished] at found
    cases found
  · rw [ready.used, ready.unserved]
    rfl
  · intro k entry _ found
    rw [ready.unserved] at found
    cases found

/-! ### Steps -/

theorem Serving.drive {after : Session σ δ} (serving : Serving memory size rings session)
    (wired : Wired memory size rings) (driven : Driven memory session after) :
    Serving memory size rings after := by
  obtain ⟨gap, follows⟩ := wired.follows
  obtain ⟨device, dma, published, served⟩ := after
  obtain ⟨sameDevice, sameServed, sound, grown, room, index, heads, used⟩ := driven
  dsimp only at sameDevice sameServed sound grown room index heads used
  unfold Session.size at room heads
  dsimp only at room heads
  subst sameDevice sameServed
  rw [serving.placed] at index heads used
  rw [serving.queueNum] at room heads used
  refine ⟨serving.queueNum, serving.placed, serving.configured, sound, serving.lastAvailableIndex,
    serving.usedIndex, serving.ordered.trans grown, room, index, heads, ?_, ?_⟩
  · rw [Rings.usedIndexAt_congr used]
    exact serving.used
  · exact serving.elements.congr follows.positive fun slot inside =>
      Rings.elementAt_congr used inside

/-- A register write that leaves the queue alone. -/
theorem Serving.of_registers (serving : Serving memory size rings session)
    {device : VirtioBlock σ} (queueNum : device.queueNum = session.device.queueNum)
    (placed : device.rings = session.device.rings)
    (configured : device.queueConfigured = session.device.queueConfigured)
    (last : device.lastAvailableIndex = session.device.lastAvailableIndex)
    (used : device.usedIndex = session.device.usedIndex) :
    Serving memory size rings { session with device } :=
  ⟨queueNum.trans serving.queueNum, placed.trans serving.placed,
    configured.trans serving.configured, serving.sound, last.trans serving.lastAvailableIndex,
    used.trans serving.usedIndex, serving.ordered, serving.room, serving.available,
    serving.heads, serving.used, serving.elements⟩

theorem write_notify (device : VirtioBlock σ) :
    (device.write Register.queueNotify .word 0).2 = device.notify 0 := rfl

theorem write_acknowledge (device : VirtioBlock σ) (value : BitVec 64) :
    (device.write Register.interruptAck .word value).2 =
      device.acknowledge (value.setWidth 32) := rfl

/-- A notification is remembered until the next tick. -/
theorem notify_configured {device : VirtioBlock σ} (configured : device.queueConfigured = true) :
    (device.notify 0).notificationPending = true := by
  unfold VirtioBlock.notify
  rw [configured]
  rfl

theorem Serving.notify (serving : Serving memory size rings session) :
    Serving memory size rings (session.write Register.queueNotify 0) ∧
      (session.write Register.queueNotify 0).device.notificationPending = true := by
  have registered : Serving memory size rings
      { session with device := session.device.notify 0 } := by
    unfold VirtioBlock.notify
    rw [serving.configured]
    exact serving.of_registers rfl rfl rfl rfl rfl
  exact ⟨registered, notify_configured serving.configured⟩

theorem Serving.acknowledge (serving : Serving memory size rings session) (value : BitVec 64) :
    Serving memory size rings (session.write Register.interruptAck value) :=
  serving.of_registers rfl rfl rfl rfl rfl

/-! ### Runs -/

variable [BlockStorage σ]

inductive Run (memory : DmaMemory δ) (start : Session σ δ) :
    List Action → Session σ δ → Prop where
  | start : Run memory start [] start
  | step : Run memory start actions before → Step memory action before after →
      Run memory start (actions ++ [action]) after

theorem Serving.step {action : Action} {after : Session σ δ}
    (serving : Serving memory size rings session) (wired : Wired memory size rings)
    (step : Step memory action session after) : Serving memory size rings after := by
  cases step with
  | drive driven => exact serving.drive wired driven
  | notify => exact serving.notify.1
  | acknowledge => exact serving.acknowledge _
  | tick apart => exact (serving.tick wired apart).1

theorem Run.serving {start : Session σ δ} {actions : List Action} (ready : Ready memory start)
    (run : Run memory start actions session) :
    Serving memory start.device.queueNum start.device.rings session := by
  induction run with
  | start => exact ready.serving
  | step _ step ih => exact ih.step ready.wired step

/-- Whether a notification is pending after an action. -/
def Action.notifies (pending : Bool) : Action → Bool
  | .notify => true
  | .tick => false
  | .drive | .acknowledge _ => pending

/-- There was a notification after the last tick. -/
def Notified (actions : List Action) : Prop := actions.foldl Action.notifies false = true

theorem Run.pending {start : Session σ δ} {actions : List Action} (ready : Ready memory start)
    (run : Run memory start actions session) (notified : Notified actions) :
    session.device.notificationPending = true := by
  induction run with
  | start => cases notified
  | step run step ih =>
    unfold Notified at notified ih
    rw [List.foldl_append] at notified
    cases step with
    | drive driven =>
      rw [driven.device]
      exact ih notified
    | notify => exact (run.serving ready).notify.2
    | acknowledge => exact ih notified
    | tick => cases notified

/-- The ring protocol. In every run, the heads of the served chains are the first
published heads, in their order; the used ring shows the latest of them, with the
lengths that were written, and `used.idx` counts them. A tick serves chains at the end
of these, and raises the interrupt if and only if it served one; after a notification
it serves everything that was published, so that `used.idx` is the `avail.idx` it read. -/
theorem run_protocol {start : Session σ δ} (ready : Ready memory start) {actions : List Action}
    (run : Run memory start actions session) :
    let rings := start.device.rings
    (session.served.map (·.head) <+: session.published ∧
      (∀ k completion, session.served[k]? = some completion →
        session.served.length ≤ k + start.size →
        rings.elementAt (memory.contents session.dma) (k % start.size) = completion.element) ∧
      rings.usedIndexAt (memory.contents session.dma) = BitVec.ofNat 16 session.served.length) ∧
    ∀ after, Step memory .tick session after →
      ∃ fresh, after.served = session.served ++ fresh ∧
        after.device.interruptStatus =
          (if fresh = [] then session.device.interruptStatus
          else session.device.interruptStatus ||| 0x1) ∧
        (Notified actions →
          after.served.map (·.head) = session.published ∧
          rings.usedIndexAt (memory.contents after.dma) =
            rings.availableIndexAt (memory.contents session.dma)) := by
  intro rings
  have serving := run.serving ready
  refine ⟨⟨serving.ordered, ?_, serving.used⟩, ?_⟩
  · intro k completion found near
    apply serving.elements k completion.element
    · unfold Session.size at near
      omega
    · rw [List.getElem?_map, found]
      rfl
  · intro after step
    have next := serving.step ready.wired step
    cases step with
    | tick apart =>
      obtain ⟨_, fresh, grown, interrupt, complete⟩ := serving.tick ready.wired apart
      refine ⟨fresh, grown, interrupt, fun notified => ?_⟩
      have all := complete (run.pending ready notified)
      refine ⟨all, ?_⟩
      rw [next.used, serving.available, ← all, List.length_map]

end

/-! ### A run -/

namespace Sample

/-- A queue of four entries at `0x80000000`. -/
def device : VirtioBlock MemoryBlockStorage :=
  [(0x028, 0x1000), (0x038, 4), (0x03C, 8), (0x040, 0x80000)].foldl
    (fun device entry => (device.write entry.1 .word entry.2).2)
    { disk := { storage := ⟨List.replicate 512 7⟩ } }

def start : Session MemoryBlockStorage (SystemBus Ram) :=
  { device, dma := .ofProgram 0x80000000 0x1000 [] }

/-- The memory of a driver: a request to read four bytes, a lone descriptor that makes no
request, and the rings. -/
def program (rings : List (BitVec 32)) : SystemBus Ram :=
  .ofProgram 0x80000000 0x1000
    ([0x80000080, 0, 16, 0x00010001, 0x80000090, 0, 4, 0x00020003, 0x80000094, 0, 1, 2,
      0x80000098, 0, 8, 0] ++ rings)

/-- The driver publishes more heads. -/
def publish (heads : List (BitVec 16)) (rings : List (BitVec 32))
    (session : Session MemoryBlockStorage (SystemBus Ram)) :
    Session MemoryBlockStorage (SystemBus Ram) :=
  { session with dma := program rings, published := session.published ++ heads }

/-- The driver has published the two chains, and notified the device of them. -/
def first : Session MemoryBlockStorage (SystemBus Ram) :=
  (publish [0, 3] [0x00020000, 0x00030000, 0] start).write Register.queueNotify 0

/-- They were served, and published again. -/
def second : Session MemoryBlockStorage (SystemBus Ram) :=
  (publish [0, 3] [0x00040000, 0x00030000, 0x00030000, 0, 0x00020000, 0, 5, 3, 0]
    first.tick).write Register.queueNotify 0

/-- The fifth chain is again in the first entry of the ring. -/
def third : Session MemoryBlockStorage (SystemBus Ram) :=
  (publish [0] [0x00050000, 0x00030000, 0x00030000, 0, 0x00040000, 0, 5, 3, 0, 0, 5, 3, 0]
    second.tick).write Register.queueNotify 0

theorem layout : Platform.Layout [{ base := 0x80000000, size := 0x1000 }] :=
  SystemBus.layout_ofProgram [] ⟨by decide, by decide⟩

/-- All of memory answers. -/
abbrev memory : DmaMemory (SystemBus Ram) := SystemBus.dmaMemory layout

theorem answers {address : PhysAddr} {width : AccessWidth}
    (covered : 0x80000000 ≤ address.toNat ∧ address.toNat + width.bytes ≤ 0x80001000) :
    memory.answers address width :=
  ⟨_, List.mem_singleton_self _, covered.1, covered.2⟩

theorem answered : device.rings.Answered memory device.queueNum := by
  have size : device.queueNum = 4 := by decide
  have placed : device.rings = ⟨0x80000000, 0x80000040, 0x80000050⟩ := by decide
  rw [size, placed]
  refine .of_slots (by decide) (answers (by decide)) (answers (by decide)) fun slot inside => ?_
  refine ⟨answers ?_, answers ?_, answers ?_⟩ <;> revert slot <;> decide

theorem ready : Ready memory start where
  setUp := ⟨_, _, rfl⟩
  configured := by decide
  sound := ⟨rfl, SystemBus.sized_ofProgram _ _ _⟩
  answered := answered
  unpublished := rfl
  unserved := rfl
  available := by decide
  used := by decide

/-- The descriptors of both chains. -/
def descriptors : List Descriptor :=
  [⟨0x80000080, 16, 1, 1⟩, ⟨0x80000090, 4, 3, 2⟩, ⟨0x80000094, 1, 2, 0⟩, ⟨0x80000098, 8, 0, 0⟩]

theorem driven {session : Session MemoryBlockStorage (SystemBus Ram)} {heads : List (BitVec 16)}
    {words : List (BitVec 32)}
    (placed : session.device.rings = device.rings ∧ session.device.queueNum = device.queueNum)
    (room : session.published.length + heads.length ≤ session.served.length + 4)
    (index : device.rings.availableIndexAt (program words).contents =
      BitVec.ofNat 16 (session.published.length + heads.length))
    (shown : ∀ k < session.published.length + heads.length, session.served.length ≤ k →
      some (device.rings.headAt (program words).contents (k % 4)) =
        (session.published ++ heads)[k]?)
    (used : ∀ index < 36,
      (program words).contents (device.rings.usedRing + BitVec.ofNat 64 index) =
        session.dma.contents (device.rings.usedRing + BitVec.ofNat 64 index)) :
    Driven memory session (publish heads words session) where
  device := rfl
  served := rfl
  sound := ⟨rfl, SystemBus.sized_ofProgram _ _ _⟩
  published := List.prefix_append _ _
  room := by
    unfold publish Session.size
    rw [placed.2, List.length_append]
    exact room
  index := by
    unfold publish
    rw [placed.1, List.length_append]
    exact index
  heads := by
    intro k entry unserved found
    unfold publish Session.size at *
    rw [placed.1, placed.2]
    obtain ⟨inside, _⟩ := List.getElem?_eq_some_iff.mp found
    rw [List.length_append] at inside
    exact Option.some.inj ((shown k inside unserved).trans found)
  used := by
    intro address inside
    have same : (publish heads words session).device = session.device := rfl
    rw [same, placed.1, placed.2] at inside
    obtain ⟨index, below, rfl⟩ := Memory.exists_of_region inside
    exact used index below

theorem apart {session : Session MemoryBlockStorage (SystemBus Ram)}
    (placed : session.device.rings = device.rings ∧ session.device.queueNum = device.queueNum)
    (chains : (session.outstanding.all fun head =>
      (device.rings.chainAt device.queueNum session.dma.contents 4 head).all
        (descriptors.contains ·)) = true) : Apart memory session := by
  have beyond : ∀ index < 32, ¬device.rings.Contains device.queueNum
      (0x80000080 + BitVec.ofNat 64 index) := by
    unfold Rings.Contains Rings.InTable Rings.InAvailable Rings.InUsed Memory.Region
    decide
  have within : ∀ descriptor ∈ descriptors, ∀ index < descriptor.length.toNat,
      ∃ offset < 32, descriptor.address + BitVec.ofNat 64 index =
        0x80000080 + BitVec.ofNat 64 offset := by
    decide
  intro head member descriptor found address holds
  unfold Session.size at found
  rw [placed.1, placed.2] at found
  rw [placed.1, placed.2]
  have known := List.all_eq_true.mp (List.all_eq_true.mp chains head member) descriptor found
  obtain ⟨index, below, rfl⟩ := holds
  obtain ⟨offset, inside, place⟩ :=
    within descriptor (List.contains_iff_mem.mp known) index below
  rw [place]
  exact beyond offset inside

theorem run :
    Run memory start [.drive, .notify, .tick, .drive, .notify, .tick, .drive, .notify] third := by
  have firstDriven : Driven memory start (publish [0, 3] [0x00020000, 0x00030000, 0] start) :=
    driven ⟨rfl, rfl⟩ (by decide) (by decide) (by decide) (by decide)
  have secondDriven : Driven memory first.tick
      (publish [0, 3] [0x00040000, 0x00030000, 0x00030000, 0, 0x00020000, 0, 5, 3, 0]
        first.tick) :=
    driven (by decide +kernel) (by decide +kernel) (by decide) (by decide +kernel)
      (by decide +kernel)
  have thirdDriven : Driven memory second.tick
      (publish [0] [0x00050000, 0x00030000, 0x00030000, 0, 0x00040000, 0, 5, 3, 0, 0, 5, 3, 0]
        second.tick) :=
    driven (by decide +kernel) (by decide +kernel) (by decide) (by decide +kernel)
      (by decide +kernel)
  have one := Run.step (.step (.step .start (.drive firstDriven)) .notify)
    (.tick (apart (by decide) (by decide)))
  have two := Run.step (.step (.step one (.drive secondDriven)) .notify)
    (.tick (apart (by decide +kernel) (by decide +kernel)))
  exact .step (.step two (.drive thirdDriven)) .notify

end Sample

/-- Five chains go through a queue of four, and the used ring shows the last of them. -/
theorem run_protocol_sample :
    Sample.third.tick.served = [⟨0, 5⟩, ⟨3, 0⟩, ⟨0, 5⟩, ⟨3, 0⟩, ⟨0, 5⟩] ∧
      Sample.start.device.rings.usedIndexAt (Sample.memory.contents Sample.third.tick.dma) = 5 ∧
      Sample.start.device.rings.elementAt (Sample.memory.contents Sample.third.tick.dma) 0 =
        (0, 5) := by
  have served : Sample.third.tick.served = [⟨0, 5⟩, ⟨3, 0⟩, ⟨0, 5⟩, ⟨3, 0⟩, ⟨0, 5⟩] := by
    decide +kernel
  have available : Sample.start.device.rings.availableIndexAt
      (Sample.memory.contents Sample.third.dma) = 5 := by decide
  have tick : Step Sample.memory .tick Sample.third Sample.third.tick :=
    .tick (Sample.apart (by decide +kernel) (by decide +kernel))
  obtain ⟨_, ticks⟩ := run_protocol Sample.ready Sample.run
  obtain ⟨_, _, _, complete⟩ := ticks _ tick
  obtain ⟨⟨_, elements, _⟩, _⟩ := run_protocol Sample.ready (Sample.run.step tick)
  refine ⟨served, (complete rfl).2.trans available, elements 4 ⟨0, 5⟩ ?_ ?_⟩
  · rw [served]
    rfl
  · rw [served]
    decide

end RvEmulator.Devices.VirtioBlock
