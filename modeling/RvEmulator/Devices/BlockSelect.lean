import RvEmulator.Devices.BlockRun

/-! Probes of queues that the block device does not have. Its registers belong to queue 0
whichever queue is selected, and queue 0 counts as configured only while it is selected. -/

namespace RvEmulator.Devices.VirtioBlock

open Library Platform

variable {σ δ : Type}

/-- A register write, or a tick with the memory that it finds. -/
inductive Event (δ : Type) where
  | write (offset : BitVec 64) (width : AccessWidth) (value : BitVec 64)
  | tick (dma : δ)

/-- What the outside sees of an event. -/
inductive Response (δ : Type) where
  | written (fault : BusFault)
  | ticked (completions : List Completion) (dma : δ)

/-- A write that reaches a register. -/
def Reaches (offset : BitVec 64) (width : AccessWidth) : Prop :=
  ¬Register.config ≤ offset ∧ ¬(width ≠ .word ∨ (offset &&& 0x3) ≠ 0)

instance : Decidable (Reaches offset width) := inferInstanceAs (Decidable (_ ∧ _))

/-- Queue 0 would be configured if it were selected. -/
def equipped (device : VirtioBlock σ) : Bool := queueConfigured { device with queueSelect := 0 }

/-- The events of a probe: selecting a queue, and configuring one that does not exist. -/
def Probes (device : VirtioBlock σ) : Event δ → Prop
  | .write offset width _ =>
    Reaches offset width ∧
      (offset = Register.queueSelect ∨
        (device.queueSelect ≠ 0 ∧
          (offset = Register.queueNum ∨ offset = Register.queueAlign ∨
            offset = Register.queuePfn)))
  | .tick _ => False

/-- While another queue is selected, nothing new is written to the registers of a queue, and
no notification of queue 0 is made or left for a tick. -/
def Undisturbing (device : VirtioBlock σ) : Event δ → Prop
  | .write offset width value =>
    device.queueSelect ≠ 0 → Reaches offset width →
      (offset = Register.queueNum → (value.setWidth 32).setWidth 16 = device.queueNum) ∧
      (offset = Register.queueAlign → value.setWidth 32 = device.queueAlign) ∧
      (offset = Register.queuePfn → value.setWidth 32 = device.queuePfn) ∧
      (offset = Register.queueNotify → value.setWidth 32 = (0 : BitVec 32) →
        device.equipped = false)
  | .tick _ =>
    device.queueSelect ≠ 0 → device.notificationPending = true → device.equipped = false

/-- The same device but for the selection and the addresses that follow from it. -/
def Similar (device other : VirtioBlock σ) : Prop :=
  { device with queueSelect := 0, rings := {} } = { other with queueSelect := 0, rings := {} }

/-- The addresses are those of the registers. -/
def Placed (device : VirtioBlock σ) : Prop := device.rings = device.updateQueueAddresses.rings

section

variable {device other : VirtioBlock σ}

theorem Similar.ite {condition : Prop} [Decidable condition] {left right : VirtioBlock σ}
    (holds : condition → Similar device other) (fails : ¬condition → Similar left right) :
    Similar (if condition then device else left) (if condition then other else right) := by
  split
  · rename_i same
    exact holds same
  · rename_i different
    exact fails different

theorem Placed.ite {condition : Prop} [Decidable condition] (holds : Placed device)
    (fails : Placed other) : Placed (if condition then device else other) := by
  split
  · exact holds
  · exact fails

theorem Similar.eq (similar : Similar device other) :
    device = { other with queueSelect := device.queueSelect, rings := device.rings } := by
  unfold Similar at similar
  obtain ⟨⟩ := device
  obtain ⟨⟩ := other
  simp only [VirtioBlock.mk.injEq] at similar ⊢
  simp [similar]

/-- With the same queue selected, the addresses are the same too. -/
theorem Similar.eq_of_placed (similar : Similar device other) (placed : Placed device)
    (otherPlaced : Placed other) (select : device.queueSelect = other.queueSelect) :
    device = other := by
  have same := similar.eq
  rw [select] at same
  have rings : device.rings = other.rings := by
    rw [placed, same, otherPlaced]
    rfl
  rw [rings] at same
  exact same

/-! ### One event -/

theorem queueConfigured_unselected (unselected : device.queueSelect ≠ 0) :
    device.queueConfigured = false := by
  unfold queueConfigured
  rw [beq_eq_false_iff_ne.mpr unselected]
  rfl

theorem placed_reset (device : VirtioBlock σ) (guestPageSize : BitVec 32) :
    Placed { device.reset with guestPageSize } := by
  have unconfigured : queueConfigured { device.reset with guestPageSize } = false := by
    unfold queueConfigured reset
    simp
  unfold Placed updateQueueAddresses
  dsimp only
  rw [unconfigured]
  rfl

theorem placed_writeRegister (placed : Placed device) (offset : BitVec 64) (word : BitVec 32) :
    Placed (device.writeRegister offset word) := by
  unfold writeRegister
  refine .ite placed (.ite (.ite placed placed) ?_)
  refine .ite placed (.ite rfl (.ite rfl (.ite rfl (.ite rfl (.ite rfl ?_)))))
  refine .ite ?_ (.ite placed (.ite (.ite (placed_reset device _) placed) placed))
  unfold notify
  exact .ite placed placed

theorem placed_write (placed : Placed device) (offset : BitVec 64) (width : AccessWidth)
    (value : BitVec 64) : Placed (device.write offset width value).2 := by
  unfold write
  split
  · exact placed
  split
  · exact placed
  · exact placed_writeRegister placed _ _

theorem write_reaches {offset : BitVec 64} {width : AccessWidth} (reaches : Reaches offset width)
    (device : VirtioBlock σ) (value : BitVec 64) :
    device.write offset width value = (.none, device.writeRegister offset (value.setWidth 32)) := by
  unfold write
  rw [if_neg reaches.1, if_neg reaches.2]

theorem write_misses {offset : BitVec 64} {width : AccessWidth} (misses : ¬Reaches offset width)
    (device : VirtioBlock σ) (value : BitVec 64) : (device.write offset width value).2 = device := by
  unfold write
  split
  · rfl
  split
  · rfl
  · rename_i inside aligned
    exact absurd ⟨inside, aligned⟩ misses

theorem write_fault (device other : VirtioBlock σ) (offset : BitVec 64) (width : AccessWidth)
    (value : BitVec 64) :
    (device.write offset width value).1 = (other.write offset width value).1 := by
  unfold write
  split
  · rfl
  split <;> rfl

/-- A register that is no part of a probe gets the same from a write, unless queue 0 is
notified while it is not selected. -/
theorem similar_writeRegister (similar : Similar device other) (selected : other.queueSelect = 0)
    (unselected : device.queueSelect ≠ 0) {offset : BitVec 64} {word : BitVec 32}
    (outside : ¬(offset = Register.queueSelect ∨ offset = Register.queueNum ∨
      offset = Register.queueAlign ∨ offset = Register.queuePfn))
    (unnotified : offset = Register.queueNotify → word = 0 → device.equipped = false) :
    Similar (device.writeRegister offset word) (other.writeRegister offset word) := by
  have unconfigured := queueConfigured_unselected unselected
  have equipped : device.equipped = other.queueConfigured := by
    unfold VirtioBlock.equipped queueConfigured
    rw [similar.eq, selected]
  have rejected : offset = Register.queueNotify →
      (word == 0 && device.queueConfigured) = false ∧
        (word == 0 && other.queueConfigured) = false := by
    intro notify
    refine ⟨by rw [unconfigured, Bool.and_false], ?_⟩
    by_cases zero : word = 0
    · rw [← equipped, unnotified notify zero, Bool.and_false]
    · rw [beq_eq_false_iff_ne.mpr zero, Bool.false_and]
  have whole := similar.eq
  generalize device.queueSelect = select at whole
  generalize device.rings = rings at whole
  subst whole
  unfold writeRegister
  refine .ite (fun _ => rfl) fun _ => .ite (fun _ => .ite (fun _ => rfl) fun _ => similar) fun _ => ?_
  refine .ite (fun _ => rfl) fun _ => .ite (fun _ => rfl) fun _ => ?_
  refine .ite (fun probe => absurd (.inl probe) outside) fun _ => ?_
  refine .ite (fun probe => absurd (.inr (.inl probe)) outside) fun _ => ?_
  refine .ite (fun probe => absurd (.inr (.inr (.inl probe))) outside) fun _ => ?_
  refine .ite (fun probe => absurd (.inr (.inr (.inr probe))) outside) fun _ => ?_
  refine .ite (fun notify => ?_) fun _ => .ite (fun _ => rfl) fun _ => ?_
  · obtain ⟨here, there⟩ := rejected notify
    unfold VirtioBlock.notify
    dsimp only
    rw [here, there]
    rfl
  · exact .ite (fun _ => .ite (fun _ => rfl) fun _ => rfl) fun _ => similar

/-- A probe is not noticed as long as it writes nothing new. -/
theorem similar_probe {offset : BitVec 64} {word : BitVec 32} (similar : Similar device other)
    (probe : offset = Register.queueSelect ∨ offset = Register.queueNum ∨
      offset = Register.queueAlign ∨ offset = Register.queuePfn)
    (number : offset = Register.queueNum → word.setWidth 16 = device.queueNum)
    (align : offset = Register.queueAlign → word = device.queueAlign)
    (frame : offset = Register.queuePfn → word = device.queuePfn) :
    Similar (device.writeRegister offset word) other := by
  refine Eq.trans ?_ similar
  obtain rfl | rfl | rfl | rfl := probe
  · rfl
  · have same := number rfl
    change ({ device with queueNum := word.setWidth 16, queueSelect := 0, rings := {} } :
      VirtioBlock σ) = _
    rw [same]
  · have same := align rfl
    change ({ device with queueAlign := word, queueSelect := 0, rings := {} } :
      VirtioBlock σ) = _
    rw [same]
  · have same := frame rfl
    change ({ device with queuePfn := word, queueSelect := 0, rings := {} } :
      VirtioBlock σ) = _
    rw [same]

variable [BlockStorage σ] [DmaAccess δ]

/-- What a tick leaves alone. -/
structure Configured (before after : VirtioBlock σ) : Prop where
  queueSelect : after.queueSelect = before.queueSelect
  placed : Placed before → Placed after

theorem configured_processHead (device : VirtioBlock σ) (dma : δ) :
    Configured device (processHead device dma).2.1 := by
  unfold processHead
  dsimp only
  split
  · exact ⟨rfl, id⟩
  split
  · exact ⟨rfl, id⟩
  split
  · exact ⟨rfl, id⟩
  split <;> exact ⟨rfl, id⟩

theorem configured_processHeads (availableIndex : BitVec 16) (count : Nat)
    (device : VirtioBlock σ) (dma : δ) :
    Configured device (processHeads availableIndex count device dma).2.1 := by
  induction count generalizing device dma with
  | zero => exact ⟨rfl, id⟩
  | succ count ih =>
    have round := configured_processHead device dma
    unfold processHeads
    split
    · exact ⟨rfl, id⟩
    split
    · rename_i processed
      rw [processed] at round
      exact round
    · rename_i completion next after processed
      rw [processed] at round
      have rest := ih next after
      exact ⟨rest.queueSelect.trans round.queueSelect, rest.placed ∘ round.placed⟩

theorem configured_tick (device : VirtioBlock σ) (dma : δ) :
    Configured device (device.tick dma).2.1 := by
  unfold tick
  split
  · exact ⟨rfl, id⟩
  unfold processQueue
  split
  · exact ⟨rfl, id⟩
  dsimp only
  split
  · exact ⟨rfl, id⟩
  · have rounds := configured_processHeads
      ((DmaAccess.dmaRead (device.rings.availableRing + 2) .halfWord dma).1.value.setWidth 16)
      device.queueNum.toNat { device with notificationPending := false }
      (DmaAccess.dmaRead (device.rings.availableRing + 2) .halfWord dma).2
    exact ⟨rounds.queueSelect, rounds.placed⟩

/-- A device that has nothing to serve drops its notification. -/
theorem tick_unconfigured (unconfigured : device.notificationPending = true →
    device.queueConfigured = false) (dma : δ) :
    device.tick dma = ([], { device with notificationPending := false }, dma) := by
  unfold tick
  cases pending : device.notificationPending with
  | false =>
    have same : { device with notificationPending := false } = device := by
      rw [← pending]
    rw [same]
    rfl
  | true =>
    have none : queueConfigured { device with notificationPending := false } = false :=
      unconfigured pending
    unfold processQueue
    rw [none]
    rfl

def Event.apply (device : VirtioBlock σ) : Event δ → Response δ × VirtioBlock σ
  | .write offset width value =>
    let written := device.write offset width value
    (.written written.1, written.2)
  | .tick dma =>
    let ticked := device.tick dma
    (.ticked ticked.1 ticked.2.2, ticked.2.1)

/-- Two runs from one device. The second one has the events of the first but for the
probes. -/
inductive Probed (permitted : VirtioBlock σ → Event δ → Prop) (start : VirtioBlock σ) :
    VirtioBlock σ → VirtioBlock σ → Prop where
  | start : Probed permitted start start start
  | probe (event : Event δ) : Probed permitted start actual reference →
      permitted actual event → Probes actual event →
      Probed permitted start (event.apply actual).2 reference
  | shared (event : Event δ) : Probed permitted start actual reference →
      permitted actual event → ¬Probes actual event →
      Probed permitted start (event.apply actual).2 (event.apply reference).2

/-- How the two runs stand to each other. -/
structure Aligned (actual reference : VirtioBlock σ) : Prop where
  similar : Similar actual reference
  selected : reference.queueSelect = 0
  placed : Placed actual
  referencePlaced : Placed reference

omit [BlockStorage σ] in
theorem Aligned.eq {actual reference : VirtioBlock σ} (aligned : Aligned actual reference)
    (select : actual.queueSelect = 0) : actual = reference :=
  aligned.similar.eq_of_placed aligned.placed aligned.referencePlaced
    (select.trans aligned.selected.symm)

omit [BlockStorage σ] in
theorem selected_writeRegister (selected : device.queueSelect = 0) {offset : BitVec 64}
    (kept : offset ≠ Register.queueSelect) (word : BitVec 32) :
    (device.writeRegister offset word).queueSelect = 0 := by
  have ite {condition : Prop} [Decidable condition] {left right : VirtioBlock σ}
      (holds : left.queueSelect = 0) (fails : right.queueSelect = 0) :
      (if condition then left else right).queueSelect = 0 := by
    split
    · exact holds
    · exact fails
  unfold writeRegister
  rw [if_neg kept]
  refine ite selected (ite (ite selected selected) (ite selected (ite selected ?_)))
  refine ite selected (ite selected (ite selected (ite (ite selected selected) ?_)))
  exact ite selected (ite (ite rfl selected) selected)

variable {actual reference : VirtioBlock σ}

theorem Aligned.probe (aligned : Aligned actual reference) {event : Event δ}
    (undisturbing : Undisturbing actual event) (probes : Probes actual event) :
    Aligned (event.apply actual).2 reference := by
  cases event with
  | tick dma => exact probes.elim
  | write offset width value =>
    obtain ⟨reaches, registers⟩ := probes
    refine ⟨?_, aligned.selected, placed_write aligned.placed offset width value,
      aligned.referencePlaced⟩
    change Similar (actual.write offset width value).2 reference
    rw [write_reaches reaches]
    obtain rfl | ⟨unselected, registers⟩ := registers
    · exact similar_probe aligned.similar (.inl rfl) (fun no => absurd no (by decide))
        (fun no => absurd no (by decide)) (fun no => absurd no (by decide))
    · obtain ⟨number, align, frame, _⟩ := undisturbing unselected reaches
      exact similar_probe aligned.similar (.inr registers) number align frame

/-- What an event does that both runs have. -/
theorem Aligned.shared (aligned : Aligned actual reference) {event : Event δ}
    (undisturbing : Undisturbing actual event) (shared : ¬Probes actual event) :
    Aligned (event.apply actual).2 (event.apply reference).2 ∧
      (event.apply actual).1 = (event.apply reference).1 := by
  have equipped : actual.equipped = reference.queueConfigured := by
    unfold VirtioBlock.equipped queueConfigured
    rw [aligned.similar.eq, aligned.selected]
  cases event with
  | write offset width value =>
    refine ⟨⟨?_, ?_, placed_write aligned.placed _ _ _, placed_write aligned.referencePlaced _ _ _⟩,
      congrArg Response.written (write_fault _ _ _ _ _)⟩
    all_goals
      dsimp only [Event.apply]
      by_cases reaches : Reaches offset width
      case neg =>
        rw [write_misses reaches]
        first
        | rw [write_misses reaches]
          exact aligned.similar
        | exact aligned.selected
      rw [write_reaches reaches]
    · rw [write_reaches reaches]
      by_cases select : actual.queueSelect = 0
      · rw [aligned.eq select]
        rfl
      · obtain ⟨_, _, _, unnotified⟩ := undisturbing select reaches
        refine similar_writeRegister aligned.similar aligned.selected select ?_ unnotified
        rintro (queue | registers)
        · exact shared ⟨reaches, .inl queue⟩
        · exact shared ⟨reaches, .inr ⟨select, registers⟩⟩
    · refine selected_writeRegister aligned.selected ?_ _
      intro queue
      exact shared ⟨reaches, .inl queue⟩
  | tick dma =>
    have actualTick := configured_tick actual dma
    have referenceTick := configured_tick reference dma
    by_cases select : actual.queueSelect = 0
    · have same := aligned.eq select
      subst same
      exact ⟨⟨rfl, referenceTick.queueSelect.trans select, actualTick.placed aligned.placed,
        referenceTick.placed aligned.referencePlaced⟩, rfl⟩
    · have pending : actual.notificationPending = reference.notificationPending := by
        rw [aligned.similar.eq]
      have here := tick_unconfigured (fun _ => queueConfigured_unselected select) dma
      have there := tick_unconfigured (fun left => equipped ▸ undisturbing select (pending ▸ left)) dma
      refine ⟨⟨?_, referenceTick.queueSelect.trans aligned.selected,
        actualTick.placed aligned.placed, referenceTick.placed aligned.referencePlaced⟩, ?_⟩
      · dsimp only [Event.apply]
        rw [here, there, aligned.similar.eq]
        rfl
      · dsimp only [Event.apply]
        rw [here, there]

theorem Probed.aligned {start : VirtioBlock σ} (configured : start.queueConfigured = true)
    (placed : Placed start)
    (run : Probed (Undisturbing : VirtioBlock σ → Event δ → Prop) start actual reference) :
    Aligned actual reference := by
  induction run with
  | start =>
    have selected : start.queueSelect = 0 := by
      by_cases select : start.queueSelect = 0
      · exact select
      · rw [queueConfigured_unselected select] at configured
        cases configured
    exact ⟨rfl, selected, placed, placed⟩
  | probe event _ undisturbing probes ih => exact ih.probe undisturbing probes
  | shared event _ undisturbing shared ih => exact (ih.shared undisturbing shared).1

/-- The states of a device that was constructed with a disk. -/
inductive Reachable (initial : Disk σ) : VirtioBlock σ → Prop where
  | initial : Reachable initial { disk := initial }
  | event (event : Event δ) : Reachable initial before → Reachable initial (event.apply before).2

theorem Reachable.placed {initial : Disk σ} (reachable : Reachable (δ := δ) initial device) :
    Placed device := by
  induction reachable with
  | initial => rfl
  | event event _ ih =>
    cases event with
    | write offset width value => exact placed_write ih offset width value
    | tick dma => exact (configured_tick _ dma).placed ih

/-- Probes of other queues change nothing for queue 0, as long as nothing new is written
while another queue is selected, and queue 0 is neither notified nor ticked with a
notification pending. All but the selection and the addresses stays equal to the run without
the probes, these too once queue 0 is selected, and every other event has the same answer. -/
theorem probes_unnoticed {initial : Disk σ} {start : VirtioBlock σ}
    (reachable : Reachable (δ := δ) initial start) (configured : start.queueConfigured = true)
    (run : Probed (Undisturbing : VirtioBlock σ → Event δ → Prop) start actual reference) :
    Similar actual reference ∧ (actual.queueSelect = 0 → actual = reference) ∧
      ∀ event : Event δ, Undisturbing actual event → ¬Probes actual event →
        (event.apply actual).1 = (event.apply reference).1 ∧
          Similar (event.apply actual).2 (event.apply reference).2 := by
  have aligned := run.aligned configured reachable.placed
  refine ⟨aligned.similar, aligned.eq, ?_⟩
  intro event undisturbing shared
  obtain ⟨after, answer⟩ := aligned.shared undisturbing shared
  exact ⟨answer, after.similar⟩

end

namespace Sample

/-- A probe of queue 1 that writes what queue 0 has, with a tick in it. -/
def probe : List (Event (SystemBus Ram)) :=
  [.write Register.queueSelect .word 1, .write Register.queueNum .word 4,
    .write Register.queueAlign .word 8, .tick start.dma,
    .write Register.queuePfn .word 0x80000, .write Register.queueSelect .word 0]

def probed : VirtioBlock MemoryBlockStorage :=
  probe.foldl (fun device event => (event.apply device).2) device

theorem reachable : Reachable (δ := SystemBus Ram) device.disk device :=
  .event (.write 0x040 .word 0x80000) (.event (.write 0x03C .word 8)
    (.event (.write 0x038 .word 4) (.event (.write 0x028 .word 0x1000) .initial)))

end Sample

theorem probes_unnoticed_sample :
    Sample.probed = ((Event.tick Sample.start.dma).apply Sample.device).2 := by
  have undisturbing (device : VirtioBlock MemoryBlockStorage) {offset : BitVec 64}
      (other : offset ≠ Register.queueNotify) {word : BitVec 64}
      (number : offset = Register.queueNum → (word.setWidth 32).setWidth 16 = device.queueNum)
      (align : offset = Register.queueAlign → word.setWidth 32 = device.queueAlign)
      (frame : offset = Register.queuePfn → word.setWidth 32 = device.queuePfn) :
      Undisturbing device (.write offset .word word : Event (SystemBus Ram)) :=
    fun _ _ => ⟨number, align, frame, fun notify => absurd notify other⟩
  have selects : Probed (Undisturbing : _ → Event (SystemBus Ram) → Prop) Sample.device
      (Sample.device.write Register.queueSelect .word 1).2 Sample.device :=
    .probe (.write Register.queueSelect .word 1) .start (fun other => absurd rfl other)
      ⟨by decide, .inl rfl⟩
  have sizes := selects.probe (.write Register.queueNum .word 4)
    (undisturbing _ (by decide) (by decide) (by decide) (by decide))
    ⟨by decide, .inr ⟨by decide, .inl rfl⟩⟩
  have aligns := sizes.probe (.write Register.queueAlign .word 8)
    (undisturbing _ (by decide) (by decide) (by decide) (by decide))
    ⟨by decide, .inr ⟨by decide, .inr (.inl rfl)⟩⟩
  have ticks := aligns.shared (.tick Sample.start.dma) (fun _ pending => absurd pending (by decide))
    id
  have frames := ticks.probe (.write Register.queuePfn .word 0x80000)
    (undisturbing _ (by decide) (by decide) (by decide) (by decide))
    ⟨by decide, .inr ⟨by decide, .inr (.inr rfl)⟩⟩
  have returns := frames.probe (.write Register.queueSelect .word 0)
    (undisturbing _ (by decide) (by decide) (by decide) (by decide)) ⟨by decide, .inl rfl⟩
  exact (probes_unnoticed Sample.reachable (by decide) returns).2.1 rfl

/-- After QueueNum was written for queue 1, queue 0 is not configured any more. -/
theorem probes_noticed :
    Reachable (δ := SystemBus Ram) Sample.device.disk Sample.device ∧
      Sample.device.queueConfigured = true ∧
      ∃ actual, Probed (fun _ (_ : Event (SystemBus Ram)) => True) Sample.device actual
          Sample.device ∧
        actual.queueSelect = 0 ∧ actual.queueNum = 0 ∧ Sample.device.queueNum = 4 ∧
        (actual.write Register.queueNotify .word 0).2.notificationPending = false ∧
        (Sample.device.write Register.queueNotify .word 0).2.notificationPending = true := by
  refine ⟨Sample.reachable, by decide, _, .probe (.write Register.queueSelect .word 0)
    (.probe (.write Register.queueNum .word 0)
      (.probe (.write Register.queueSelect .word 1) .start trivial ⟨by decide, .inl rfl⟩) trivial
      ⟨by decide, .inr ⟨by decide, .inl rfl⟩⟩) trivial ⟨by decide, .inl rfl⟩, ?_⟩
  decide

end RvEmulator.Devices.VirtioBlock
