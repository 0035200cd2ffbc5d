import Mathlib.Data.List.Induction
import RvEmulator.Devices.NetRun

/-! How often the backend of the network device is polled, and with how many cycles. -/

namespace RvEmulator.Devices

open Platform

/-! ### Clocks -/

/-- What polling is for, in exact time: the cycles since the last call, whether a call is
due at the next tick whatever their number, and the cycles of every call so far. -/
structure PollClock where
  accumulated : Nat := 0
  due : Bool := true
  calls : List Nat := []

namespace PollClock

/-- A tick calls the backend when a call is due or the interval is over. `transmits` says
whether it handles a transmit notification afterwards. -/
def tick (interval cycles : Nat) (transmits : Bool) (clock : PollClock) : PollClock :=
  let elapsed := clock.accumulated + cycles
  if clock.due ∨ interval ≤ elapsed then
    { accumulated := 0, due := transmits, calls := clock.calls ++ [elapsed] }
  else { clock with accumulated := elapsed, due := transmits }

/-- All the time that has passed. -/
def total (clock : PollClock) : Nat := clock.calls.sum + clock.accumulated

@[simp]
theorem total_tick (interval cycles : Nat) (transmits : Bool) (clock : PollClock) :
    (clock.tick interval cycles transmits).total = clock.total + cycles := by
  unfold tick total
  dsimp only
  split
  · rw [List.sum_append, List.sum_singleton, Nat.add_zero, Nat.add_assoc]
  · exact (Nat.add_assoc _ _ _).symm

@[simp]
theorem due_tick (interval cycles : Nat) (transmits : Bool) (clock : PollClock) :
    (clock.tick interval cycles transmits).due = transmits := by
  unfold tick
  dsimp only
  split <;> rfl

/-- The transmission of a tick has no influence on its call. -/
theorem tick_false (interval cycles : Nat) (transmits : Bool) (clock : PollClock) :
    { clock.tick interval cycles false with due := transmits } =
      clock.tick interval cycles transmits := by
  unfold tick
  dsimp only
  split <;> rfl

end PollClock

/-- A backend that notes the cycles of every call of its `tick`. -/
structure Noted (ν : Type) where
  backend : ν
  ticks : List (BitVec 64) := []

instance [NetworkBackend ν] : NetworkBackend (Noted ν) where
  tickIntervalCycles noted := NetworkBackend.tickIntervalCycles noted.backend
  tick elapsed noted :=
    { backend := NetworkBackend.tick elapsed noted.backend, ticks := noted.ticks ++ [elapsed] }
  sendFrame frame noted := { noted with backend := NetworkBackend.sendFrame frame noted.backend }
  receiveFrame noted :=
    let received := NetworkBackend.receiveFrame noted.backend
    (received.1, { noted with backend := received.2 })
  waiting noted := NetworkBackend.waiting noted.backend
  receiveFrame_waiting received := by
    obtain ⟨first, rfl⟩ := Prod.mk.inj received
    exact NetworkBackend.receiveFrame_waiting (Prod.ext first rfl)

namespace VirtioNet

variable {ν δ : Type}

/-- The cycles of the calls so far. -/
def polls (device : VirtioNet (Noted ν)) : List (BitVec 64) := device.backend.elim [] (·.ticks)

/-- What only polling and a reset change. -/
structure Unpolled (before after : VirtioNet (Noted ν)) : Prop where
  attached : after.backend.isSome = before.backend.isSome
  polls : after.polls = before.polls
  cycles : after.backendTickCycles = before.backendTickCycles
  interval : after.backendTickIntervalCycles = before.backendTickIntervalCycles

namespace Unpolled

theorem refl (device : VirtioNet (Noted ν)) : Unpolled device device := ⟨rfl, rfl, rfl, rfl⟩

theorem trans {first second third : VirtioNet (Noted ν)} (before : Unpolled first second)
    (after : Unpolled second third) : Unpolled first third :=
  ⟨after.attached.trans before.attached, after.polls.trans before.polls,
    after.cycles.trans before.cycles, after.interval.trans before.interval⟩

/-- Nothing of the sort was touched. -/
theorem of_eq {before after : VirtioNet (Noted ν)} (backend : after.backend = before.backend)
    (cycles : after.backendTickCycles = before.backendTickCycles)
    (interval : after.backendTickIntervalCycles = before.backendTickIntervalCycles) :
    Unpolled before after := by
  refine ⟨by rw [backend], ?_, cycles, interval⟩
  unfold VirtioNet.polls
  rw [backend]

end Unpolled

/-- What only ticks and a reset change. -/
structure Untimed (before after : VirtioNet (Noted ν)) : Prop extends Unpolled before after where
  requested : after.backendPollRequested = before.backendPollRequested

namespace Untimed

theorem refl (device : VirtioNet (Noted ν)) : Untimed device device := ⟨.refl device, rfl⟩

theorem trans {first second third : VirtioNet (Noted ν)} (before : Untimed first second)
    (after : Untimed second third) : Untimed first third :=
  ⟨before.toUnpolled.trans after.toUnpolled, after.requested.trans before.requested⟩

theorem of_eq {before after : VirtioNet (Noted ν)} (backend : after.backend = before.backend)
    (cycles : after.backendTickCycles = before.backendTickCycles)
    (interval : after.backendTickIntervalCycles = before.backendTickIntervalCycles)
    (requested : after.backendPollRequested = before.backendPollRequested) : Untimed before after :=
  ⟨.of_eq backend cycles interval, requested⟩

theorem ite {condition : Prop} [Decidable condition] {before first second : VirtioNet (Noted ν)}
    (holds : Untimed before first) (fails : Untimed before second) :
    Untimed before (if condition then first else second) := by
  split <;> assumption

theorem writeRegister (device : VirtioNet (Noted ν)) {offset : BitVec 64} {word : BitVec 32}
    (kept : ¬(offset = Register.status ∧ word = 0)) :
    Untimed device (device.writeRegister offset word) := by
  have selected : ∀ {change : Queue → Queue}, Untimed device (device.updateSelected change) :=
    .ite (.of_eq rfl rfl rfl rfl) (.ite (.of_eq rfl rfl rfl rfl) (.refl device))
  have notified : Untimed device (device.notify word) :=
    .ite (.of_eq rfl rfl rfl rfl) (.ite (.of_eq rfl rfl rfl rfl) (.of_eq rfl rfl rfl rfl))
  have acknowledged : Untimed device (device.acknowledge word) := .of_eq rfl rfl rfl rfl
  unfold VirtioNet.writeRegister
  refine .ite (.of_eq rfl rfl rfl rfl) (.ite (.ite (.of_eq rfl rfl rfl rfl) (.refl device))
    (.ite (.of_eq rfl rfl rfl rfl) (.ite (.of_eq rfl rfl rfl rfl) (.ite (.of_eq rfl rfl rfl rfl) ?_))))
  refine .ite selected (.ite selected (.ite selected (.ite notified (.ite acknowledged ?_))))
  split
  · rename_i status
    rw [if_neg fun zero => kept ⟨status, zero⟩]
    exact .of_eq rfl rfl rfl rfl
  · exact .refl device

end Untimed

section

variable [DmaAccess δ] [NetworkBackend ν]

theorem unpolled_transmitChain (device : VirtioNet (Noted ν)) (chain : List Descriptor) (dma : δ) :
    Unpolled device (transmitChain device chain dma).2.1 := by
  unfold transmitChain
  split
  · exact .refl device
  split
  · exact .refl device
  split
  · exact .of_eq rfl rfl rfl
  dsimp only
  split
  · exact .refl device
  · rename_i backend attached
    refine ⟨by rw [attached]; rfl, ?_, rfl, rfl⟩
    unfold polls
    rw [attached]
    rfl

theorem unpolled_transmitNext (device : VirtioNet (Noted ν)) (dma : δ) :
    Unpolled device (transmitNext device dma).2.1 := by
  unfold transmitNext
  dsimp only
  split
  · exact .of_eq rfl rfl rfl
  split
  · exact .refl device
  split
  · exact .of_eq rfl rfl rfl
  rename_i head statistics entered _
  generalize loadWholeChain device.transmit head (countChain statistics, entered) = chain
  have sent : Unpolled device
      (transmitIfValid { device with statistics := chain.2.1 } chain.1 chain.2.2).2.1 := by
    unfold transmitIfValid
    split
    · exact .of_eq rfl rfl rfl
    · have recounted : Unpolled device { device with statistics := chain.2.1 } :=
        .of_eq rfl rfl rfl
      exact recounted.trans (unpolled_transmitChain _ _ _)
  split
  · exact sent.trans (.of_eq rfl rfl rfl)
  · exact sent.trans (.of_eq rfl rfl rfl)

theorem unpolled_transmitLoop (count : Nat) (device : VirtioNet (Noted ν)) (dma : δ) :
    Unpolled device (transmitLoop count device dma).1 := by
  induction count generalizing device dma with
  | zero => exact .refl device
  | succ count ih =>
    have round := unpolled_transmitNext device dma
    unfold transmitLoop
    dsimp only
    split
    · exact round.trans (ih _ _)
    · exact round

theorem unpolled_processTransmitQueue (device : VirtioNet (Noted ν)) (dma : δ) :
    Unpolled device (processTransmitQueue device dma).1 := by
  unfold processTransmitQueue
  split
  · exact .refl device
  · exact unpolled_transmitLoop _ device dma

omit [NetworkBackend ν] in
theorem untimed_receiveNext (device : VirtioNet (Noted ν)) (frame : Frame) (rest : List Frame)
    (dma : δ) : Untimed device (receiveNext device frame rest dma).2.1 := by
  unfold receiveNext
  dsimp only
  split
  · exact .of_eq rfl rfl rfl rfl
  split
  · exact .of_eq rfl rfl rfl rfl
  split
  · exact .of_eq rfl rfl rfl rfl
  split
  · exact .of_eq rfl rfl rfl rfl
  · exact .of_eq rfl rfl rfl rfl

omit [NetworkBackend ν] in
theorem untimed_receiveLoop (count : Nat) (device : VirtioNet (Noted ν)) (dma : δ) :
    Untimed device (receiveLoop count device dma).2.1 := by
  induction count generalizing device dma with
  | zero => exact .refl device
  | succ count ih =>
    unfold receiveLoop
    split
    · exact .refl device
    rename_i frame rest _
    have round := untimed_receiveNext device frame rest dma
    split
    · rename_i left
      rw [left] at round
      exact round
    · rename_i taken
      rw [taken] at round
      exact round.trans (ih _ _)

omit [NetworkBackend ν] in
theorem untimed_processReceiveQueue (device : VirtioNet (Noted ν)) (dma : δ) :
    Untimed device (processReceiveQueue device dma).2.1 := by
  unfold processReceiveQueue
  split
  · exact .refl device
  · exact untimed_receiveLoop _ device dma

omit [DmaAccess δ] in
theorem ticks_takeFrames (noted : Noted ν) (pending : List Frame)
    (statistics : VirtioNetStatistics) :
    (takeFrames noted pending statistics).2.2.2.ticks = noted.ticks := by
  have kept : ∀ {noted rest : Noted ν} {frame : Option Frame},
      NetworkBackend.receiveFrame noted = (frame, rest) → rest.ticks = noted.ticks := by
    intro noted rest frame received
    cases received
    rfl
  fun_induction takeFrames noted pending statistics with
  | case1 => rfl
  | case2 _ _ _ _ rest received => exact kept received
  | case3 _ _ _ _ _ rest received _ _ ih => exact ih.trans (kept received)
  | case4 _ _ _ _ _ rest received _ _ _ _ ih => exact ih.trans (kept received)

omit [DmaAccess δ] in
theorem polls_pollBackend (device : VirtioNet (Noted ν)) (noted : Noted ν) (elapsed : BitVec 64) :
    (pollBackend device noted elapsed).2.polls = noted.ticks ++ [elapsed] :=
  ticks_takeFrames _ _ _

theorem toNat_addSaturating {count other : BitVec 64}
    (bounded : count.toNat + other.toNat < 2 ^ 64) :
    (addSaturating count other).toNat = count.toNat + other.toNat := by
  have largest : (BitVec.allOnes 64 - other).toNat = 2 ^ 64 - 1 - other.toNat := by
    rw [BitVec.toNat_sub_of_le (BitVec.le_def.mpr (by rw [BitVec.toNat_allOnes]; omega)),
      BitVec.toNat_allOnes]
  unfold addSaturating
  rw [if_neg (by rw [BitVec.lt_def, largest]; omega), BitVec.toNat_add_of_lt bounded]

/-- The device keeps the time of the clock. -/
structure Clocked (interval : Nat) (clock : PollClock) (device : VirtioNet (Noted ν)) : Prop where
  attached : device.backend.isSome = true
  polls : device.polls.map BitVec.toNat = clock.calls
  cycles : device.backendTickCycles.toNat = clock.accumulated
  interval : device.backendTickIntervalCycles.toNat = interval
  due : device.backendPollRequested = clock.due

namespace Clocked

variable {interval : Nat} {clock : PollClock} {device : VirtioNet (Noted ν)}

omit [DmaAccess δ] [NetworkBackend ν] in
/-- Without a call, only the request for one can be new. -/
theorem request {after : VirtioNet (Noted ν)} {due : Bool}
    (clocked : Clocked interval clock device) (unpolled : Unpolled device after)
    (requested : after.backendPollRequested = due) :
    Clocked interval { clock with due } after where
  attached := unpolled.attached.trans clocked.attached
  polls := by rw [unpolled.polls, clocked.polls]
  cycles := by rw [unpolled.cycles, clocked.cycles]
  interval := by rw [unpolled.interval, clocked.interval]
  due := requested

omit [DmaAccess δ] [NetworkBackend ν] in
theorem untimed {after : VirtioNet (Noted ν)} (clocked : Clocked interval clock device)
    (untimed : Untimed device after) : Clocked interval clock after :=
  clocked.request untimed.toUnpolled (untimed.requested.trans clocked.due)

omit [DmaAccess δ] in
theorem setBackend (device : VirtioNet (Noted ν)) (backend : ν) :
    let started := device.setBackend (some { backend })
    Clocked started.backendTickIntervalCycles.toNat {} started :=
  ⟨rfl, rfl, rfl, rfl, rfl⟩

omit [DmaAccess δ] in
/-- The first half of a tick: the backend is called or it is not. -/
theorem collect (clocked : Clocked interval clock device) (cycles : BitVec 64)
    (bounded : clock.total + cycles.toNat < 2 ^ 64) :
    let collected := (collectBackendFrames { device with backendPollRequested := false } cycles
      device.backendPollRequested).2
    Clocked interval (clock.tick interval cycles.toNat false) collected ∧
      collected.transmit = device.transmit := by
  intro collected
  obtain ⟨noted, attached⟩ := Option.isSome_iff_exists.mp clocked.attached
  obtain ⟨_, polls, accumulated, same, due⟩ := clocked
  have elapsed : (addSaturating device.backendTickCycles cycles).toNat =
      clock.accumulated + cycles.toNat := by
    unfold PollClock.total at bounded
    rw [toNat_addSaturating (by omega), accumulated]
  have ticks : device.polls = noted.ticks := by
    unfold VirtioNet.polls
    rw [attached]
    rfl
  have reached : collected = (collectBackendFrames { device with backendPollRequested := false }
    cycles device.backendPollRequested).2 := rfl
  unfold collectBackendFrames at reached
  simp only [attached] at reached
  unfold PollClock.tick
  dsimp only
  by_cases waits : device.backendPollRequested = false ∧
      addSaturating device.backendTickCycles cycles < device.backendTickIntervalCycles
  · rw [if_pos waits] at reached
    obtain ⟨unforced, early⟩ := waits
    rw [BitVec.lt_def, elapsed, same] at early
    rw [if_neg (by rw [← due, unforced]; simpa using early), reached]
    rw [ticks] at polls
    exact ⟨⟨rfl, polls, elapsed, same, rfl⟩, rfl⟩
  · rw [if_neg waits] at reached
    rw [not_and_or, Bool.not_eq_false, BitVec.not_lt, BitVec.le_def, elapsed, same, due] at waits
    rw [if_pos waits, reached]
    refine ⟨⟨rfl, ?_, rfl, same, rfl⟩, rfl⟩
    rw [polls_pollBackend, List.map_append, ← ticks, polls, List.map_singleton, elapsed]

/-- A whole tick is a tick of the clock. -/
theorem tick (clocked : Clocked interval clock device) (cycles : BitVec 64) (dma : δ)
    (bounded : clock.total + cycles.toNat < 2 ^ 64) :
    Clocked interval
      (clock.tick interval cycles.toNat device.transmit.notificationPending)
      (device.tick cycles dma).2.1 := by
  obtain ⟨collected, same⟩ := clocked.collect cycles bounded
  have prepared : Clocked interval
      (clock.tick interval cycles.toNat device.transmit.notificationPending)
      (pollAndTransmit device cycles dma).2.1 := by
    unfold pollAndTransmit
    dsimp only
    generalize (collectBackendFrames { device with backendPollRequested := false } cycles
      device.backendPollRequested) = polled at collected same ⊢
    split
    · rename_i pending
      rw [same] at pending
      have noticed : Unpolled polled.2
          { polled.2 with transmit := { polled.2.transmit with notificationPending := false } } :=
        .of_eq rfl rfl rfl
      have transmitted := noticed.trans (unpolled_processTransmitQueue _ dma)
      have attached := transmitted.attached.trans collected.attached
      rw [pending, ← PollClock.tick_false]
      exact collected.request (transmitted.trans (.of_eq rfl rfl rfl)) attached
    · rename_i idle
      rw [same, Bool.not_eq_true] at idle
      rw [idle]
      exact collected
  unfold VirtioNet.tick
  generalize pollAndTransmit device cycles dma = polled at prepared
  have noticed : Untimed polled.2.1
      { polled.2.1 with receive := { polled.2.1.receive with notificationPending := false } } :=
    .of_eq rfl rfl rfl rfl
  dsimp only
  split
  · exact prepared.untimed noticed
  · exact prepared.untimed (noticed.trans (untimed_processReceiveQueue _ polled.2.2))

end Clocked

/-! ### Runs -/

/-- What happens between the ticks and at them. The host can give the backend more to
hand out, and the guest can change memory. -/
inductive Event (ν δ : Type) where
  | tick (cycles : BitVec 64)
  | write (offset : BitVec 64) (width : AccessWidth) (value : BitVec 64)
  | inject (frame : Frame)
  | host (change : ν → ν)
  | guest (change : δ → δ)

namespace Event

/-- Every event but a write that resets the device. -/
def Keeps : Event ν δ → Prop
  | .write offset width value =>
    ¬(offset = Register.status ∧ width = .word ∧ value.setWidth 32 = (0 : BitVec 32))
  | _ => True

/-- The cycles that pass. -/
def cycles : Event ν δ → Nat
  | .tick cycles => cycles.toNat
  | _ => 0

def IsTick : Event ν δ → Prop
  | .tick _ => True
  | _ => False

def apply (state : VirtioNet (Noted ν) × δ) : Event ν δ → VirtioNet (Noted ν) × δ
  | .tick cycles => (state.1.tick cycles state.2).2
  | .write offset width value => ((state.1.write offset width value).2, state.2)
  | .inject frame => ((state.1.injectReceivedFrame frame).2, state.2)
  | .host change =>
    ({ state.1 with
        backend := state.1.backend.map fun noted => { noted with backend := change noted.backend } },
      state.2)
  | .guest change => (state.1, change state.2)

def run (state : VirtioNet (Noted ν) × δ) (events : List (Event ν δ)) : VirtioNet (Noted ν) × δ :=
  events.foldl apply state

/-- There was no tick yet, or the last one has handled a transmit notification. -/
def Forces (start : VirtioNet (Noted ν) × δ) (events : List (Event ν δ)) : Prop :=
  (∀ event ∈ events, ¬event.IsTick) ∨
    ∃ earlier cycles later, events = earlier ++ .tick cycles :: later ∧
      (∀ event ∈ later, ¬event.IsTick) ∧
      (run start earlier).1.transmit.notificationPending = true

section

variable {start : VirtioNet (Noted ν) × δ} {events : List (Event ν δ)}

theorem run_append (event : Event ν δ) :
    run start (events ++ [event]) = apply (run start events) event := by
  rw [run, List.foldl_append]
  rfl

theorem forces_tick (cycles : BitVec 64) :
    Forces start (events ++ [.tick cycles]) ↔
      (run start events).1.transmit.notificationPending = true := by
  constructor
  · rintro (none | ⟨earlier, others, later, same, silent, notified⟩)
    · exact absurd trivial (none (.tick cycles) (List.mem_append_right _ List.mem_cons_self))
    · rcases List.eq_nil_or_concat later with rfl | ⟨before, last, rfl⟩
      · obtain ⟨rfl, _⟩ := List.append_inj' same rfl
        exact notified
      · rw [List.concat_eq_append, ← List.cons_append, ← List.append_assoc] at same
        obtain ⟨_, final⟩ := List.append_inj' same rfl
        obtain ⟨rfl, _⟩ := List.cons.inj final
        exact absurd trivial (silent (.tick cycles) (by simp))
  · intro notified
    exact .inr ⟨events, cycles, [], rfl, fun _ member => absurd member List.not_mem_nil, notified⟩

theorem forces_other {event : Event ν δ} (other : ¬event.IsTick) :
    Forces start (events ++ [event]) ↔ Forces start events := by
  constructor
  · rintro (none | ⟨earlier, cycles, later, same, silent, notified⟩)
    · exact .inl fun event member => none event (List.mem_append_left _ member)
    · rcases List.eq_nil_or_concat later with rfl | ⟨before, last, rfl⟩
      · obtain ⟨_, final⟩ := List.append_inj' same rfl
        obtain ⟨rfl, _⟩ := List.cons.inj final
        exact absurd trivial other
      · rw [List.concat_eq_append, ← List.cons_append, ← List.append_assoc] at same
        obtain ⟨rfl, _⟩ := List.append_inj' same rfl
        refine .inr ⟨earlier, cycles, before, rfl, fun event member => silent event ?_, notified⟩
        rw [List.concat_eq_append]
        exact List.mem_append_left _ member
  · rintro (none | ⟨earlier, cycles, later, rfl, silent, notified⟩)
    · refine .inl fun event member => ?_
      rcases List.mem_append.mp member with old | new
      · exact none event old
      · rwa [List.mem_singleton.mp new]
    · refine .inr ⟨earlier, cycles, later ++ [event], by simp, fun event member => ?_, notified⟩
      rcases List.mem_append.mp member with old | new
      · exact silent event old
      · rwa [List.mem_singleton.mp new]

/-- Between two ticks no time passes and no call is asked for. -/
theorem untimed {event : Event ν δ} (other : ¬event.IsTick) (keeps : event.Keeps) :
    Untimed (run start events).1 (apply (run start events) event).1 ∧ event.cycles = 0 := by
  cases event with
  | tick => exact absurd trivial other
  | write offset width value =>
    refine ⟨?_, rfl⟩
    simp only [apply, VirtioNet.write]
    split
    · exact .refl _
    split
    · exact .refl _
    · rename_i wide
      refine .writeRegister _ fun ⟨status, zero⟩ => keeps ⟨status, ?_, zero⟩
      exact not_not.mp fun narrow => wide (.inl narrow)
  | inject frame =>
    refine ⟨?_, rfl⟩
    simp only [apply, injectReceivedFrame]
    split
    · exact .of_eq rfl rfl rfl rfl
    · exact .of_eq rfl rfl rfl rfl
  | host change =>
    refine ⟨⟨⟨Option.isSome_map .., ?_, rfl, rfl⟩, rfl⟩, rfl⟩
    simp only [apply, VirtioNet.polls]
    cases (run start events).1.backend <;> rfl
  | guest change => exact ⟨.refl _, rfl⟩

/-- In every run the device keeps the time of some clock, which shows the time that has
passed and is due when a call is forced. -/
theorem clocked {device : VirtioNet (Noted ν)} {backend : ν} {dma : δ}
    (attached : start = (device.setBackend (some { backend }), dma))
    (keeps : ∀ event ∈ events, event.Keeps)
    (bounded : (events.map cycles).sum < 2 ^ 64) :
    ∃ clock, Clocked start.1.backendTickIntervalCycles.toNat clock (run start events).1 ∧
      clock.total = (events.map cycles).sum ∧ (clock.due = true ↔ Forces start events) := by
  induction events using List.reverseRecOn with
  | nil =>
    subst attached
    exact ⟨{}, .setBackend device backend, rfl, fun _ => .inl (by simp), fun _ => rfl⟩
  | append_singleton events event ih =>
    rw [List.map_append, List.sum_append, List.map_singleton, List.sum_singleton] at bounded ⊢
    obtain ⟨clock, kept, total, due⟩ :=
      ih (fun event member => keeps event (List.mem_append_left _ member)) (by omega)
    rw [run_append]
    by_cases ticks : event.IsTick
    · obtain ⟨cycles, rfl⟩ : ∃ cycles, event = .tick cycles := by
        cases event <;> first | exact ⟨_, rfl⟩ | exact absurd ticks id
      refine ⟨_, kept.tick cycles _ (by rw [total]; exact bounded), ?_, ?_⟩
      · rw [PollClock.total_tick, total]
        rfl
      · rw [PollClock.due_tick, forces_tick]
    · obtain ⟨same, none⟩ := untimed ticks (keeps event (by simp))
      refine ⟨clock, kept.untimed same, ?_, ?_⟩
      · rw [none, total, Nat.add_zero]
      · rw [due, forces_other ticks]

end

end Event

/-- From the attachment of a backend on, in every run without a reset: the cycles of the
calls and those that wait add up to the cycles ticked. A tick makes one call if the interval
is over or a call is forced, with all cycles since the last one, and no call otherwise. -/
theorem polling_conserves (device : VirtioNet (Noted ν)) (backend : ν) (dma : δ)
    (events : List (Event ν δ)) (keeps : ∀ event ∈ events, event.Keeps)
    (bounded : (events.map Event.cycles).sum < 2 ^ 64) :
    let start := (device.setBackend (some { backend }), dma)
    let reached := Event.run start events
    let waiting := reached.1.backendTickCycles.toNat
    let calls := reached.1.polls.map BitVec.toNat
    calls.sum + waiting = (events.map Event.cycles).sum ∧
      ∀ cycles : BitVec 64, (events.map Event.cycles).sum + cycles.toNat < 2 ^ 64 →
        let due := start.1.backendTickIntervalCycles.toNat ≤ waiting + cycles.toNat ∨
          Event.Forces start events
        let callsAfter := (reached.1.tick cycles reached.2).2.1.polls.map BitVec.toNat
        (due → callsAfter = calls ++ [waiting + cycles.toNat]) ∧ (¬due → callsAfter = calls) := by
  intro start reached waiting calls
  obtain ⟨clock, clocked, total, forced⟩ : ∃ clock,
      Clocked start.1.backendTickIntervalCycles.toNat clock reached.1 ∧
        clock.total = (events.map Event.cycles).sum ∧
        (clock.due = true ↔ Event.Forces start events) :=
    Event.clocked rfl keeps bounded
  have shown : calls = clock.calls := clocked.polls
  have waits : waiting = clock.accumulated := clocked.cycles
  refine ⟨?_, fun cycles fits => ?_⟩
  · rw [shown, waits, ← total]
    rfl
  · intro due callsAfter
    have after := (clocked.tick cycles reached.2 (by rw [total]; exact fits)).polls
    have called : callsAfter = _ := after
    have same : (clock.due = true ∨
        start.1.backendTickIntervalCycles.toNat ≤ clock.accumulated + cycles.toNat) ↔ due := by
      rw [forced, or_comm, ← waits]
    unfold PollClock.tick at called
    rw [called, shown, waits]
    refine ⟨fun holds => ?_, fun fails => ?_⟩
    · rw [if_pos (same.mpr holds)]
    · rw [if_neg fun holds => fails (same.mp holds)]

end

namespace Sample

/-- A backend that wants a call every hundred cycles. -/
structure SlowBackend where

instance : NetworkBackend SlowBackend where
  tickIntervalCycles _ := 100
  sendFrame _ backend := backend
  receiveFrame backend := (none, backend)
  waiting _ := 0
  receiveFrame_waiting received := by cases received

end Sample

/-- The first call is forced, the second comes when the interval is over. -/
theorem polling_conserves_sample :
    let device : VirtioNet (Noted Sample.SlowBackend) := reset { mac := Vector.replicate 6 0 }
    let dma : SystemBus Ram := .ofProgram 0x80000000 0x1000 []
    let start := (device.setBackend (some { backend := {} }), dma)
    let reached := Event.run start [.tick 7, .tick 50]
    (reached.1.tick 60 reached.2).2.1.polls.map BitVec.toNat = [7, 110] := by
  intro device dma start reached
  obtain ⟨_, next⟩ := polling_conserves device {} dma [.tick 7, .tick 50]
    (by simp [Event.Keeps]) (by decide)
  have calls : reached.1.polls.map BitVec.toNat = [7] := by decide +kernel
  have waiting : reached.1.backendTickCycles.toNat = 50 := by decide +kernel
  have interval : start.1.backendTickIntervalCycles.toNat = 100 := by decide
  have ended := (next 60 (by decide)).1 (.inl (by rw [waiting, interval]; decide))
  rw [calls, waiting] at ended
  exact ended

end VirtioNet

end RvEmulator.Devices
