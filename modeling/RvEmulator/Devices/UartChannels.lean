import RvEmulator.Devices.Uart16550
import RvEmulator.Library.Channel

/-! Runs of the UART: its two channels lose, repeat and reorder nothing, and its interrupt
line stays up until the guest attends to it. -/

namespace RvEmulator.Devices.Uart16550

open Library Platform

/-! ### Runs -/

/-- What the guest, by register accesses, and the host do with the UART. -/
inductive Event where
  | read (offset : BitVec 64) (width : AccessWidth)
  | write (offset : BitVec 64) (width : AccessWidth) (value : BitVec 64)
  | injectReceived (text : List (BitVec 8))
  | takeTransmitted

/-- The bytes that pass the ends of the two channels. -/
structure Traffic where
  injected : List (BitVec 8) := []
  received : List (BitVec 8) := []
  written : List (BitVec 8) := []
  transmitted : List (BitVec 8) := []

instance : Append Traffic where
  append first second :=
    { injected := first.injected ++ second.injected
      received := first.received ++ second.received
      written := first.written ++ second.written
      transmitted := first.transmitted ++ second.transmitted }

namespace Traffic

variable (first second : Traffic)

@[simp] theorem append_injected :
    (first ++ second).injected = first.injected ++ second.injected := rfl

@[simp] theorem append_received :
    (first ++ second).received = first.received ++ second.received := rfl

@[simp] theorem append_written :
    (first ++ second).written = first.written ++ second.written := rfl

@[simp] theorem append_transmitted :
    (first ++ second).transmitted = first.transmitted ++ second.transmitted := rfl

end Traffic

/-- An access to the data register. -/
def Data (uart : Uart16550) (offset : BitVec 64) (width : AccessWidth) : Prop :=
  offset = 0 ∧ width = .byte ∧ uart.divisorLatchAccess = false

instance (uart : Uart16550) (offset : BitVec 64) (width : AccessWidth) :
    Decidable (uart.Data offset width) :=
  inferInstanceAs (Decidable (_ ∧ _ ∧ _))

/-- The event, and what passes. A guest has received a byte if it has read the data register
while the line status showed that data was ready. -/
def handle (uart : Uart16550) : Event → Traffic × Uart16550
  | .read offset width =>
    let answer := read offset width uart
    (if uart.Data offset width ∧ uart.lineStatus &&& lsrDataReady ≠ 0 then
        { received := [answer.1.value.setWidth 8] }
      else {}, answer.2)
  | .write offset width value =>
    (if uart.Data offset width then { written := [value.setWidth 8] } else {},
      (write offset width value uart).2)
  | .injectReceived text => ({ injected := text }, uart.injectReceived text)
  | .takeTransmitted => ({ transmitted := (takeTransmitted uart).1 }, (takeTransmitted uart).2)

def run (uart : Uart16550) : List Event → Traffic × Uart16550
  | [] => ({}, uart)
  | event :: rest =>
    ((uart.handle event).1 ++ ((uart.handle event).2.run rest).1, ((uart.handle event).2.run rest).2)

/-! ### Channels -/

/-- A write to the FIFO control register with a bit of the mask set. -/
def Event.clears (mask : BitVec 8) : Event → Bool
  | .write offset width value => width == .byte && offset == 2 && value.setWidth 8 &&& mask != 0
  | _ => false

/-- What an event does to the channel from the host to the guest. -/
def receiveHandling (uart : Uart16550) (event : Event) : Handling (BitVec 8) :=
  if event.clears 0x02 then .clear
  else
    match event with
    | .read offset width => if uart.Data offset width then .take 1 else .put []
    | .injectReceived text => .put text
    | _ => .put []

/-- What an event does to the channel from the guest to the host. -/
def transmitHandling (uart : Uart16550) (event : Event) : Handling (BitVec 8) :=
  if event.clears 0x04 then .clear
  else
    match event with
    | .write offset width value =>
      if uart.Data offset width then .put [value.setWidth 8] else .put []
    | .takeTransmitted => .take uart.transmitBuffer.length
    | _ => .put []

theorem clears_of_receiveHandling {uart : Uart16550} {event : Event}
    (clear : uart.receiveHandling event = .clear) : event.clears 0x02 = true := by
  unfold receiveHandling at clear
  by_contra kept
  rw [if_neg kept] at clear
  cases event <;> simp at clear
  split at clear <;> cases clear

theorem clears_of_transmitHandling {uart : Uart16550} {event : Event}
    (clear : uart.transmitHandling event = .clear) : event.clears 0x04 = true := by
  unfold transmitHandling at clear
  by_contra kept
  rw [if_neg kept] at clear
  cases event <;> simp at clear
  split at clear <;> cases clear

theorem dataReady_iff (uart : Uart16550) :
    uart.lineStatus &&& lsrDataReady ≠ 0 ↔ uart.receiveFifo ≠ [] := by
  unfold lineStatus
  cases uart.receiveFifo <;> simp [lsrTransmitterEmpty, lsrTransmitterIdle, lsrDataReady]

theorem readRegister_channels (uart : Uart16550) (index : Nat) :
    let answer := readRegister index uart
    answer.2.transmitBuffer = uart.transmitBuffer ∧
      (if index = 0 ∧ uart.divisorLatchAccess = false then
        answer.2.receiveFifo = uart.receiveFifo.drop 1 ∧
          answer.1 = uart.receiveFifo.headD 0
      else answer.2.receiveFifo = uart.receiveFifo) := by
  rcases index with _ | _ | _ | index
  · cases latch : uart.divisorLatchAccess <;> cases fifo : uart.receiveFifo <;>
      simp [readRegister, latch, fifo]
  · simp [readRegister]
  · simp only [readRegister, interruptIdentification]
    split
    · simp
    · split <;> simp
  · rcases index with _ | _ | _ | _ | _ | index <;> simp [readRegister]

/-- A read takes a byte out of the receive FIFO if it is one of the data register, and
leaves both channels alone if it is not. -/
theorem read_channels (uart : Uart16550) (offset : BitVec 64) (width : AccessWidth) :
    let answer := read offset width uart
    answer.2.transmitBuffer = uart.transmitBuffer ∧
      (if uart.Data offset width then
        answer.2.receiveFifo = uart.receiveFifo.drop 1 ∧
          answer.1.value.setWidth 8 = uart.receiveFifo.headD 0
      else answer.2.receiveFifo = uart.receiveFifo) := by
  intro answer
  by_cases refused : width ≠ .byte ∨ 8 ≤ offset
  · have other : ¬uart.Data offset width := by
      rintro ⟨rfl, rfl, _⟩
      simp at refused
    have same : answer.2 = uart := by simp only [answer, read, if_pos refused]
    rw [same, if_neg other]
    exact ⟨rfl, rfl⟩
  · have answered : answer = _ := if_neg refused
    have zero : uart.Data offset width ↔ offset.toNat = 0 ∧ uart.divisorLatchAccess = false := by
      rw [Data, BitVec.toNat_eq]
      simp_all
    have register := readRegister_channels uart offset.toNat
    simp only [zero, answered]
    simpa using register

theorem write_channels (uart : Uart16550) (offset : BitVec 64) (width : AccessWidth)
    (value : BitVec 64) :
    let after := (write offset width value uart).2
    after.receiveFifo =
        (if (Event.write offset width value).clears 0x02 then [] else uart.receiveFifo) ∧
      after.transmitBuffer =
        (if (Event.write offset width value).clears 0x04 then []
        else if uart.Data offset width then uart.transmitBuffer ++ [value.setWidth 8]
        else uart.transmitBuffer) := by
  intro after
  by_cases refused : width ≠ .byte ∨ 8 ≤ offset
  · have same : after = uart := by simp only [after, write, if_pos refused]
    have kept (mask : BitVec 8) : (Event.write offset width value).clears mask = false := by
      rcases refused with narrow | outside
      · simp [Event.clears, narrow]
      · have apart : offset ≠ 2 := by
          rintro rfl
          simp at outside
        simp only [Event.clears, beq_eq_false_iff_ne.mpr apart, Bool.and_false, Bool.false_and]
    have other : ¬uart.Data offset width := by
      rintro ⟨rfl, rfl, _⟩
      simp at refused
    simp [same, kept, other]
  · have written : after = uart.writeRegister (value.setWidth 8) offset.toNat := by
      simp only [after, write, if_neg refused]
    simp only [not_or, not_not] at refused
    obtain ⟨rfl, inside⟩ := refused
    have zero : uart.Data offset .byte ↔ offset.toNat = 0 ∧ uart.divisorLatchAccess = false := by
      simp [Data, BitVec.toNat_eq]
    have clears (mask : BitVec 8) : (Event.write offset .byte value).clears mask =
        (offset.toNat == 2 && value.setWidth 8 &&& mask != 0) := by
      have two : (offset == 2) = (offset.toNat == 2) := by
        rw [Bool.eq_iff_iff, beq_iff_eq, beq_iff_eq, BitVec.toNat_eq]
        rfl
      simp only [Event.clears, two]
      simp
    simp only [written, zero, clears]
    generalize offset.toNat = index
    rcases index with _ | _ | _ | index
    · cases latch : uart.divisorLatchAccess <;> simp [writeRegister, latch]
    · cases latch : uart.divisorLatchAccess <;> simp [writeRegister, latch]
    · simp [writeRegister]
    · rcases index with _ | _ | _ | _ | _ | index <;> simp [writeRegister]

/-- An event is a handling of the receive channel, and passes what that hands over. -/
theorem handle_receive (uart : Uart16550) (event : Event) (ledger : Ledger (BitVec 8))
    (waiting : ledger.waiting = uart.receiveFifo) :
    ledger.handle (uart.receiveHandling event) =
      { sent := ledger.sent ++ (uart.handle event).1.injected
        taken := ledger.taken ++ (uart.handle event).1.received
        waiting := (uart.handle event).2.receiveFifo } := by
  cases event with
  | read offset width =>
    obtain ⟨_, channel⟩ := read_channels uart offset width
    unfold receiveHandling handle
    by_cases data : uart.Data offset width
    · rw [if_pos data] at channel
      simp only [Event.clears, data, dataReady_iff, channel, Ledger.handle, waiting]
      cases uart.receiveFifo <;> simp
    · rw [if_neg data] at channel
      simp [Event.clears, data, channel, Ledger.handle, waiting]
  | write offset width value =>
    obtain ⟨channel, _⟩ := write_channels uart offset width value
    unfold receiveHandling handle
    simp only [channel]
    split
    · simp [Ledger.handle]; split <;> simp
    · simp [Ledger.handle, waiting]; split <;> simp
  | injectReceived text =>
    simp [receiveHandling, Event.clears, handle, injectReceived, Ledger.handle, waiting]
  | takeTransmitted =>
    simp [receiveHandling, Event.clears, handle, takeTransmitted, Ledger.handle, waiting]

theorem handle_transmit (uart : Uart16550) (event : Event) (ledger : Ledger (BitVec 8))
    (waiting : ledger.waiting = uart.transmitBuffer) :
    ledger.handle (uart.transmitHandling event) =
      { sent := ledger.sent ++ (uart.handle event).1.written
        taken := ledger.taken ++ (uart.handle event).1.transmitted
        waiting := (uart.handle event).2.transmitBuffer } := by
  cases event with
  | read offset width =>
    obtain ⟨channel, _⟩ := read_channels uart offset width
    have idle : uart.transmitHandling (.read offset width) = .put [] := rfl
    have nothing : (uart.handle (.read offset width)).1.written = [] ∧
        (uart.handle (.read offset width)).1.transmitted = [] := by
      unfold handle
      dsimp only
      split <;> exact ⟨rfl, rfl⟩
    rw [idle, nothing.1, nothing.2]
    simp [Ledger.handle, handle, channel, waiting]
  | write offset width value =>
    obtain ⟨_, channel⟩ := write_channels uart offset width value
    unfold transmitHandling handle
    simp only [channel]
    split
    · rename_i clears
      have other : ¬uart.Data offset width := by
        rintro ⟨rfl, rfl, _⟩
        simp [Event.clears] at clears
      simp [Ledger.handle, other]
    · split <;> simp [Ledger.handle, waiting]
  | injectReceived text =>
    simp [transmitHandling, Event.clears, handle, injectReceived, Ledger.handle, waiting]
  | takeTransmitted =>
    simp [transmitHandling, Event.clears, handle, takeTransmitted, Ledger.handle, waiting]

/-- The two ledgers that a run leaves, from two that show the channels before it. -/
theorem run_ledgers (uart : Uart16550) (events : List Event)
    {receive transmit : Ledger (BitVec 8)} (receiving : receive.waiting = uart.receiveFifo)
    (transmitting : transmit.waiting = uart.transmitBuffer) :
    ∃ receives transmits,
      receive.run receives =
          { sent := receive.sent ++ (uart.run events).1.injected
            taken := receive.taken ++ (uart.run events).1.received
            waiting := (uart.run events).2.receiveFifo } ∧
        transmit.run transmits =
          { sent := transmit.sent ++ (uart.run events).1.written
            taken := transmit.taken ++ (uart.run events).1.transmitted
            waiting := (uart.run events).2.transmitBuffer } ∧
        (.clear ∈ receives → ∃ event ∈ events, event.clears 0x02) ∧
        (.clear ∈ transmits → ∃ event ∈ events, event.clears 0x04) := by
  induction events generalizing uart receive transmit with
  | nil =>
    refine ⟨[], [], ?_, ?_, fun none => absurd none List.not_mem_nil,
      fun none => absurd none List.not_mem_nil⟩
    · simp [Ledger.run, run, ← receiving]
    · simp [Ledger.run, run, ← transmitting]
  | cons event rest ih =>
    have received := handle_receive uart event receive receiving
    have sent := handle_transmit uart event transmit transmitting
    obtain ⟨receives, transmits, receive', transmit', clears, clears'⟩ :=
      @ih (uart.handle event).2 (receive.handle (uart.receiveHandling event))
        (transmit.handle (uart.transmitHandling event)) (by rw [received]) (by rw [sent])
    refine ⟨uart.receiveHandling event :: receives, uart.transmitHandling event :: transmits,
      ?_, ?_, fun member => ?_, fun member => ?_⟩
    · refine Eq.trans receive' ?_
      rw [received]
      simp [run]
    · refine Eq.trans transmit' ?_
      rw [sent]
      simp [run]
    · rcases List.mem_cons.mp member with first | later
      · exact ⟨event, List.mem_cons_self, clears_of_receiveHandling first.symm⟩
      · obtain ⟨other, among, wipes⟩ := clears later
        exact ⟨other, List.mem_cons_of_mem _ among, wipes⟩
    · rcases List.mem_cons.mp member with first | later
      · exact ⟨event, List.mem_cons_self, clears_of_transmitHandling first.symm⟩
      · obtain ⟨other, among, wipes⟩ := clears' later
        exact ⟨other, List.mem_cons_of_mem _ among, wipes⟩

/-- Both channels keep the order of their bytes, and hand over each one at most once. What
is injected waits until the guest reads it or clears the FIFO; what the guest writes waits
until the host takes it or the guest clears the FIFO. -/
theorem run_channels (events : List Event) :
    let traffic := (run {} events).1
    let uart := (run {} events).2
    let receive : Ledger (BitVec 8) := ⟨traffic.injected, traffic.received, uart.receiveFifo⟩
    let transmit : Ledger (BitVec 8) :=
      ⟨traffic.written, traffic.transmitted, uart.transmitBuffer⟩
    receive.Conveys ∧ transmit.Conveys ∧
      ((∀ event ∈ events, event.clears 0x02 = false) → receive.Lossless) ∧
      ((∀ event ∈ events, event.clears 0x04 = false) → transmit.Lossless) := by
  intro traffic uart receive transmit
  obtain ⟨receives, transmits, received, sent, clears, clears'⟩ :=
    @run_ledgers {} events {} {} rfl rfl
  have received : Ledger.run {} receives = receive := received
  have sent : Ledger.run {} transmits = transmit := sent
  refine ⟨received ▸ Ledger.conveys_initial.run receives,
    sent ▸ Ledger.conveys_initial.run transmits, fun kept => ?_, fun kept => ?_⟩
  · refine received ▸ Ledger.lossless_initial.run fun member => ?_
    obtain ⟨event, among, wipes⟩ := clears member
    rw [kept event among] at wipes
    cases wipes
  · refine sent ▸ Ledger.lossless_initial.run fun member => ?_
    obtain ⟨event, among, wipes⟩ := clears' member
    rw [kept event among] at wipes
    cases wipes

/-! ### Interrupts -/

/-- An event that raises the interrupt line. -/
def Raises (uart : Uart16550) : Event → Prop
  | .injectReceived text => text ≠ [] ∧ uart.interruptEnable &&& ierReceivedData ≠ 0
  | .write offset width value =>
    uart.Data offset width ∧ uart.interruptEnable &&& ierTransmitterEmpty ≠ 0 ∨
      offset = 1 ∧ width = .byte ∧ uart.divisorLatchAccess = false ∧
        (value.setWidth 8 &&& ierReceivedData ≠ 0 ∧ uart.receiveFifo ≠ [] ∨
          value.setWidth 8 &&& ierTransmitterEmpty ≠ 0 ∧
            uart.interruptEnable &&& ierTransmitterEmpty = 0)
  | _ => False

/-- An event by which nobody attends to an interrupt: the guest reads neither a byte nor the
identification, and writes neither the enable bits nor the FIFO control. -/
def Event.Quiet : Event → Prop
  | .read offset width => width = .byte → offset ≠ 0 ∧ offset ≠ 2
  | .write offset width _ => width = .byte → offset ≠ 1 ∧ offset ≠ 2
  | _ => True

theorem interruptPending_iff (uart : Uart16550) :
    uart.interruptPending = true ↔
      uart.receiveFifo ≠ [] ∧ uart.interruptEnable &&& ierReceivedData ≠ 0 ∨
        uart.transmitInterruptPending = true ∧
          uart.interruptEnable &&& ierTransmitterEmpty ≠ 0 := by
  simp [interruptPending, receiveInterrupt, transmitInterrupt]

theorem pending_of_raises {uart : Uart16550} {event : Event} (raises : uart.Raises event) :
    (uart.handle event).2.interruptPending = true := by
  rw [interruptPending_iff]
  cases event with
  | read | takeTransmitted => exact raises.elim
  | injectReceived text =>
    obtain ⟨some, enabled⟩ := raises
    exact .inl ⟨by simp [handle, injectReceived, some], enabled⟩
  | write offset width value =>
    have written (supported : width = .byte) (inside : offset.toNat < 8) :
        (uart.handle (.write offset width value)).2 =
          uart.writeRegister (value.setWidth 8) offset.toNat := by
      have accepted : ¬(width ≠ .byte ∨ 8 ≤ offset) := by
        rw [BitVec.le_def]
        simp [supported, inside]
      simp only [handle, write, if_neg accepted]
    have masked {bit : BitVec 8} (small : bit &&& 0x0F = bit) :
        (value.setWidth 8 &&& 0x0F) &&& bit = value.setWidth 8 &&& bit := by
      rw [BitVec.and_assoc, BitVec.and_comm 0x0F bit, small]
    have receives : ierReceivedData &&& 0x0F = ierReceivedData := by decide
    have transmits : ierTransmitterEmpty &&& 0x0F = ierTransmitterEmpty := by decide
    rcases raises with ⟨⟨rfl, rfl, latch⟩, enabled⟩ | ⟨rfl, rfl, latch, enabled⟩
    · rw [written rfl (by decide)]
      exact .inr (by simpa [writeRegister, latch] using enabled)
    · rw [written rfl (by decide)]
      rcases enabled with ⟨bit, some⟩ | ⟨bit, disabled⟩
      · rw [← masked receives] at bit
        exact .inl (by simpa [writeRegister, latch, some] using bit)
      · rw [← masked transmits] at bit
        exact .inr (by simp_all [writeRegister])

/-- What a quiet event leaves of the state that drives the line. -/
theorem kept_of_quiet (uart : Uart16550) {event : Event} (quiet : event.Quiet) :
    let after := (uart.handle event).2
    after.interruptEnable = uart.interruptEnable ∧
      (uart.receiveFifo ≠ [] → after.receiveFifo ≠ []) ∧
      (uart.transmitInterruptPending = true → after.transmitInterruptPending = true) := by
  intro after
  cases event with
  | injectReceived text => exact ⟨rfl, fun some => by simp [after, handle, injectReceived, some], id⟩
  | takeTransmitted => exact ⟨rfl, id, id⟩
  | read offset width =>
    have same : after = (read offset width uart).2 := rfl
    unfold read at same
    by_cases refused : width ≠ .byte ∨ 8 ≤ offset
    · rw [if_pos refused] at same
      exact same ▸ ⟨rfl, id, id⟩
    · rw [if_neg refused] at same
      simp only [not_or, not_not] at refused
      obtain ⟨data, identification⟩ := quiet refused.1
      have apart : offset.toNat ≠ 0 ∧ offset.toNat ≠ 2 := ⟨fun zero => data (BitVec.eq_of_toNat_eq zero),
        fun two => identification (BitVec.eq_of_toNat_eq two)⟩
      rw [same]
      generalize offset.toNat = index at apart
      rcases index with _ | _ | _ | _ | _ | _ | _ | _ | index
      · exact absurd rfl apart.1
      · exact ⟨rfl, id, id⟩
      · exact absurd rfl apart.2
      all_goals exact ⟨rfl, id, id⟩
  | write offset width value =>
    have same : after = (write offset width value uart).2 := rfl
    unfold write at same
    by_cases refused : width ≠ .byte ∨ 8 ≤ offset
    · rw [if_pos refused] at same
      exact same ▸ ⟨rfl, id, id⟩
    · rw [if_neg refused] at same
      simp only [not_or, not_not] at refused
      obtain ⟨enables, control⟩ := quiet refused.1
      have apart : offset.toNat ≠ 1 ∧ offset.toNat ≠ 2 := ⟨fun one => enables (BitVec.eq_of_toNat_eq one),
        fun two => control (BitVec.eq_of_toNat_eq two)⟩
      rw [same]
      generalize offset.toNat = index at apart
      rcases index with _ | _ | _ | _ | _ | _ | _ | _ | index
      · cases latch : uart.divisorLatchAccess <;> simp [writeRegister, latch]
      · exact absurd rfl apart.1
      · exact absurd rfl apart.2
      all_goals exact ⟨rfl, id, id⟩

theorem pending_of_quiet {uart : Uart16550} {event : Event}
    (pending : uart.interruptPending = true) (quiet : event.Quiet) :
    (uart.handle event).2.interruptPending = true := by
  obtain ⟨enables, receives, transmits⟩ := kept_of_quiet uart quiet
  rw [interruptPending_iff] at pending ⊢
  rw [enables]
  exact pending.imp (And.imp_left receives) (And.imp_left transmits)

/-- Once raised, the interrupt line stays up until the guest attends to it. -/
theorem interrupt_kept (uart : Uart16550) {cause : Event} (raises : uart.Raises cause)
    {events : List Event} (quiet : ∀ event ∈ events, event.Quiet) :
    ((uart.handle cause).2.run events).2.interruptPending = true := by
  have pending := pending_of_raises raises
  generalize (uart.handle cause).2 = current at pending ⊢
  induction events generalizing current with
  | nil => exact pending
  | cons event rest ih =>
    have first : event.Quiet := quiet event List.mem_cons_self
    exact ih (fun other among => quiet other (List.mem_cons_of_mem _ among)) _
      (pending_of_quiet pending first)

/-- A byte arrives and waits while the guest looks at the line status. -/
theorem interrupt_kept_sample :
    let enabled : Uart16550 := { interruptEnable := 1 }
    (((enabled.handle (.injectReceived [0x41])).2.run
      [.read 5 .byte, .takeTransmitted]).2).interruptPending = true :=
  @interrupt_kept { interruptEnable := 1 } (.injectReceived [0x41]) ⟨by decide, by decide⟩ _
    (by simp [Event.Quiet])

end RvEmulator.Devices.Uart16550
