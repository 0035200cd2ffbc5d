import RvEmulator.Platform.Monitor
import RvEmulator.Platform.Routing

/-! Load-reserved and store-conditional under any interleaving of masters. -/

namespace RvEmulator.Platform

namespace SystemBus

variable {δ : Type}

def monitor (bus : SystemBus δ) : Monitor :=
  { reservations := bus.reservations, writeEpoch := bus.writeEpoch }

theorem reservationMatches_iff (bus : SystemBus δ) (hart : BitVec 32) (address : PhysAddr)
    (width : AccessWidth) :
    bus.reservationMatches hart address width = true ↔ bus.monitor.Matches hart address width := by
  unfold reservationMatches Monitor.Matches monitor
  rw [Option.any_eq_true]
  constructor
  · rintro ⟨⟨place, size, epoch⟩, found, same⟩
    simp only [Bool.and_eq_true, beq_iff_eq] at same
    obtain ⟨⟨rfl, rfl⟩, rfl⟩ := same
    exact found
  · intro found
    exact ⟨_, found, by simp⟩

variable [Device δ]

/-- The bus after an aligned store-conditional has consumed its reservation. -/
def released (bus : SystemBus δ) (hart : BitVec 32) : SystemBus δ :=
  { bus with reservations := Function.update bus.reservations hart none }

/-- What the bus reports for an aligned store-conditional, and what it changes. -/
theorem storeConditional_eq {bus : SystemBus δ} (layout : Layout bus.ranges)
    {width : AccessWidth} {address : PhysAddr} (aligned : misaligned address width = false)
    (hart : BitVec 32) (value : BitVec 64) :
    ∃ last, storeConditional width hart address value bus =
      match searchDevice bus.devices address width with
      | none => ({ fault := .unmapped }, { bus.released hart with lastDevice := last })
      | some (index, mounted) =>
        if bus.reservationMatches hart address width then
          let answer := Device.write (address - mounted.range.base) width value mounted.device
          ({ fault := answer.1, succeeded := answer.1 == .none },
            { (bus.released hart).setDevice index mounted answer.2 with
              lastDevice := last
              writeEpoch := if answer.1 = .none then bus.writeEpoch + 1 else bus.writeEpoch })
        else ({}, { bus.released hart with lastDevice := last }) := by
  have kept : Layout (bus.released hart).ranges := layout
  obtain ⟨last, found⟩ := findDevice_eq kept address width
  have moved : Layout ({ bus.released hart with lastDevice := last } : SystemBus δ).ranges := layout
  obtain ⟨next, written⟩ := write_eq moved address width value .atomic
  simp only [released] at found written
  simp only [storeConditional, aligned, Bool.false_eq_true, if_false, found, released]
  cases searched : searchDevice bus.devices address width with
  | none => exact ⟨last, rfl⟩
  | some device =>
    cases allowed : bus.reservationMatches hart address width with
    | false => exact ⟨last, rfl⟩
    | true =>
      refine ⟨next, ?_⟩
      simp only [Bool.not_true, Bool.false_eq_true, if_false, written, searched, if_true]
      rfl

/-! The event of each operation, from what the operation returned. -/

def loadReservedEvent (bus : SystemBus δ) (width : AccessWidth) (hart : BitVec 32)
    (address : PhysAddr) : Event :=
  if (loadReserved width hart address bus).1.ok then .loadReserved hart address width
  else .unrelated

def storeConditionalEvent (bus : SystemBus δ) (width : AccessWidth) (hart : BitVec 32)
    (address : PhysAddr) (value : BitVec 64) : Event :=
  if misaligned address width then .unrelated
  else .storeConditional hart (storeConditional width hart address value bus).1.succeeded

def atomicEvent (bus : SystemBus δ) (width : AccessWidth) (address : PhysAddr)
    (operation : AmoOperation) (operand : BitVec w) : Event :=
  if (atomic width address operation operand bus).1.1 = .none then .wrote else .unrelated

def event (bus : SystemBus δ) : Operation δ → Event
  | .clearReservations => .cleared
  | .perform (.write address width value kind) =>
    if (write address width value kind bus).1 = .none then .wrote else .unrelated
  | .perform (.loadReservedWord hart address) => bus.loadReservedEvent .word hart address
  | .perform (.loadReservedDoubleword hart address) =>
    bus.loadReservedEvent .doubleWord hart address
  | .perform (.storeConditionalWord hart address value) =>
    bus.storeConditionalEvent .word hart address (value.setWidth 64)
  | .perform (.storeConditionalDoubleword hart address value) =>
    bus.storeConditionalEvent .doubleWord hart address value
  | .perform (.atomicWord _ address operation operand) =>
    bus.atomicEvent .word address operation operand
  | .perform (.atomicDoubleword _ address operation operand) =>
    bus.atomicEvent .doubleWord address operation operand
  | _ => .unrelated

section

variable {bus : SystemBus δ} (layout : Layout bus.ranges)

include layout

theorem monitor_read (address : PhysAddr) (width : AccessWidth) (kind : AccessKind) :
    (read address width kind bus).2.monitor = bus.monitor := by
  obtain ⟨last, same⟩ := read_eq layout address width kind
  rw [same]
  cases searchDevice bus.devices address width <;> rfl

theorem monitor_write (address : PhysAddr) (width : AccessWidth) (value : BitVec 64)
    (kind : AccessKind) :
    (write address width value kind bus).2.monitor =
      bus.monitor.track
        (if (write address width value kind bus).1 = .none then .wrote else .unrelated) := by
  obtain ⟨last, same⟩ := write_eq layout address width value kind
  rw [same]
  cases searchDevice bus.devices address width with
  | none => rfl
  | some device =>
    simp only [monitor, setDevice]
    split <;> rfl

theorem monitor_loadReserved (width : AccessWidth) (hart : BitVec 32) (address : PhysAddr) :
    (loadReserved width hart address bus).2.monitor =
      bus.monitor.track (bus.loadReservedEvent width hart address) := by
  have kept := monitor_read layout address width .atomic
  simp only [loadReservedEvent, loadReserved]
  split
  · rfl
  · split
    · simp only [Monitor.track, ← kept]
      rfl
    · exact kept

theorem monitor_storeConditional (width : AccessWidth) (hart : BitVec 32) (address : PhysAddr)
    (value : BitVec 64) :
    (storeConditional width hart address value bus).2.monitor =
      bus.monitor.track (bus.storeConditionalEvent width hart address value) := by
  cases aligned : misaligned address width with
  | true => simp only [storeConditionalEvent, storeConditional, aligned, if_true, Monitor.track]
  | false =>
    obtain ⟨last, same⟩ := storeConditional_eq layout aligned hart value
    simp only [storeConditionalEvent, aligned, Bool.false_eq_true, if_false, Monitor.track]
    rw [same]
    cases searchDevice bus.devices address width with
    | none => rfl
    | some device =>
      dsimp only
      split
      · simp only [monitor, setDevice, beq_iff_eq]
        rfl
      · rfl

theorem monitor_atomic (width : AccessWidth) (address : PhysAddr) (operation : AmoOperation)
    (operand : BitVec w) :
    (atomic width address operation operand bus).2.monitor =
      bus.monitor.track (bus.atomicEvent width address operation operand) := by
  have kept := monitor_read layout address width .atomic
  have moved : Layout (read address width .atomic bus).2.ranges := by
    rw [ranges_read layout]
    exact layout
  simp only [atomicEvent, atomic]
  split
  · rfl
  split
  · rename_i failed
    rw [if_neg]
    · exact kept
    · intro none
      simp only [ReadResult.ok, Bool.not_eq_true', beq_eq_false_iff_ne] at failed
      exact failed none
  · rw [monitor_write moved, kept]

/-- Every operation changes the monitor as its event says. -/
theorem monitor_apply (operation : Operation δ) :
    (bus.apply operation).monitor = bus.monitor.track (bus.event operation) := by
  cases operation with
  | addDevice device =>
    simp only [apply]
    rcases addDevice_cases bus device with ⟨error, rejected⟩ | ⟨new, _, _, _, accepted⟩
    · rw [rejected]
      rfl
    · rw [accepted]
      rfl
  | setTimeSource timeValue => rfl
  | clearReservations => rfl
  | perform command =>
    cases command with
    | read address width kind => exact monitor_read layout address width kind
    | write address width value kind => exact monitor_write layout address width value kind
    | loadReservedWord hart address => exact monitor_loadReserved layout .word hart address
    | storeConditionalWord hart address value =>
      exact monitor_storeConditional layout .word hart address _
    | atomicWord hart address operation operand =>
      exact monitor_atomic layout .word address operation operand
    | loadReservedDoubleword hart address =>
      exact monitor_loadReserved layout .doubleWord hart address
    | storeConditionalDoubleword hart address value =>
      exact monitor_storeConditional layout .doubleWord hart address value
    | atomicDoubleword hart address operation operand =>
      exact monitor_atomic layout .doubleWord address operation operand
  | instructionCacheable address => rfl
  | deviceChanged index device =>
    simp only [apply]
    split <;> rfl

end

/-- The events of a run that goes on from a bus, newest first. -/
def logFrom (bus : SystemBus δ) (log : List Event) : List (Operation δ) → List Event
  | [] => log
  | operation :: rest => logFrom (bus.apply operation) (bus.event operation :: log) rest

def log (operations : List (Operation δ)) : List Event := logFrom {} [] operations

theorem writeCount_logFrom (operations : List (Operation δ)) :
    ∀ (bus : SystemBus δ) (log : List Event), writeCount log ≤ writeCount (logFrom bus log operations) := by
  induction operations with
  | nil => exact fun _ _ => Nat.le_refl _
  | cons operation rest ih =>
    intro bus log
    have counted := writeCount_cons (bus.event operation) log
    exact (by omega : writeCount log ≤ writeCount (bus.event operation :: log)).trans (ih _ _)

/-- Run lemma: the reservations of the bus are those that its history arms. -/
theorem tracks_run (operations : List (Operation δ)) (few : writeCount (log operations) < 2 ^ 64) :
    Monitor.Tracks (log operations) (run operations).monitor := by
  have steps : ∀ (operations : List (Operation δ)) (bus : SystemBus δ) (log : List Event),
      Layout bus.ranges → Monitor.Tracks log bus.monitor →
      writeCount (logFrom bus log operations) < 2 ^ 64 →
      Monitor.Tracks (logFrom bus log operations) (operations.foldl apply bus).monitor := by
    intro operations
    induction operations with
    | nil => exact fun _ _ _ tracks _ => tracks
    | cons operation rest ih =>
      intro bus log layout tracks few
      refine ih _ _ (layout_apply layout operation) ?_ few
      rw [monitor_apply layout]
      exact tracks.step _ (Nat.lt_of_le_of_lt (writeCount_logFrom rest _ _) few)
  exact steps operations {} [] ⟨.nil, .nil, by simp [ranges]⟩ Monitor.tracks_nil few

/-- The device around the access takes the value. -/
def Accepts (bus : SystemBus δ) (address : PhysAddr) (width : AccessWidth) (value : BitVec 64) :
    Prop :=
  ∃ mounted ∈ bus.devices, mounted.range.Covers address width.bytes ∧
    (Device.write (address - mounted.range.base) width value mounted.device).1 = .none

/-- The devices after the one around the access has taken the value. -/
def Written (bus : SystemBus δ) (address : PhysAddr) (width : AccessWidth) (value : BitVec 64)
    (devices : List (Mounted δ)) : Prop :=
  ∃ index mounted, bus.devices[index]? = some mounted ∧
    mounted.range.Covers address width.bytes ∧
    devices = bus.devices.set index
      { mounted with
        device := (Device.write (address - mounted.range.base) width value mounted.device).2 }

theorem set_refused {bus : SystemBus δ} {index : Nat} {mounted : Mounted δ} {width : AccessWidth}
    {offset value : BitVec 64} (found : bus.devices[index]? = some mounted)
    (refused : (Device.write offset width value mounted.device).1 ≠ .none) :
    bus.devices.set index
      { mounted with device := (Device.write offset width value mounted.device).2 } =
      bus.devices := by
  obtain ⟨inside, rfl⟩ := List.getElem?_eq_some_iff.mp found
  rw [Device.refused refused]
  exact List.set_getElem_self inside

/-- What an aligned store-conditional does on a bus whose reservations accord
with a log. -/
theorem storeConditional_aligned {bus : SystemBus δ} {events : List Event}
    (layout : Layout bus.ranges) (tracks : Monitor.Tracks events bus.monitor)
    (few : writeCount events + 1 < 2 ^ 64) {width : AccessWidth} {address : PhysAddr}
    (aligned : misaligned address width = false) (hart : BitVec 32) (value : BitVec 64) :
    let answer := storeConditional width hart address value bus
    (answer.1.succeeded = true ↔
        Armed hart address width events ∧ bus.Accepts address width value) ∧
      (answer.1.succeeded = true → bus.Written address width value answer.2.devices ∧
        ∀ other place size, answer.2.reservationMatches other place size = false) ∧
      (answer.1.succeeded = false → answer.2.devices = bus.devices) ∧
      answer.2.reservations = Function.update bus.reservations hart none ∧
      ((∀ mounted ∈ bus.devices, ¬mounted.range.Covers address width.bytes) →
        answer.1 = { fault := .unmapped, succeeded := false }) := by
  have current : bus.reservationMatches hart address width = true ↔
      Armed hart address width events :=
    (reservationMatches_iff _ hart address width).trans (tracks.armed hart address width)
  obtain ⟨last, same⟩ := storeConditional_eq layout aligned hart value
  rw [same]
  cases searched : searchDevice bus.devices address width with
  | none =>
    have nowhere : ∀ mounted ∈ bus.devices, ¬mounted.range.Covers address width.bytes := by
      intro mounted member covers
      obtain ⟨index, present⟩ := List.getElem?_of_mem member
      rw [(searchDevice_eq_some_iff layout).mpr ⟨present, covers⟩] at searched
      cases searched
    refine ⟨?_, fun succeeded => (nomatch succeeded), fun _ => rfl, rfl, fun _ => rfl⟩
    constructor
    · exact fun succeeded => nomatch succeeded
    · rintro ⟨_, mounted, member, covers, _⟩
      exact absurd covers (nowhere mounted member)
  | some device =>
    obtain ⟨index, mounted⟩ := device
    obtain ⟨found, covers⟩ := (searchDevice_eq_some_iff layout).mp searched
    have member := List.mem_of_getElem? found
    have accepts : bus.Accepts address width value ↔
        (Device.write (address - mounted.range.base) width value mounted.device).1 = .none := by
      constructor
      · rintro ⟨other, present, around, taken⟩
        obtain ⟨position, there⟩ := List.getElem?_of_mem present
        have unique := (searchDevice_eq_some_iff layout).mpr ⟨there, around⟩
        rw [searched] at unique
        cases unique
        exact taken
      · exact fun taken => ⟨mounted, member, covers, taken⟩
    have mapped : ¬∀ mounted ∈ bus.devices, ¬mounted.range.Covers address width.bytes :=
      fun nowhere => nowhere mounted member covers
    cases allowed : bus.reservationMatches hart address width with
    | false =>
      rw [allowed] at current
      dsimp only
      refine ⟨?_, fun succeeded => (nomatch succeeded), fun _ => rfl, rfl,
        fun nowhere => absurd nowhere mapped⟩
      constructor
      · exact fun succeeded => nomatch succeeded
      · rintro ⟨armed, _⟩
        exact nomatch current.mpr armed
    | true =>
      dsimp only
      simp only [if_true, beq_iff_eq]
      refine ⟨?_, ?_, ?_, rfl, fun nowhere => absurd nowhere mapped⟩
      · rw [accepts]
        exact ⟨fun taken => ⟨current.mp allowed, taken⟩, fun both => both.2⟩
      · intro taken
        refine ⟨⟨index, mounted, found, covers, rfl⟩, ?_⟩
        intro other place size
        rw [← Bool.not_eq_true, reservationMatches_iff]
        simp only [taken, if_true]
        refine Monitor.not_matches_of_write tracks few ?_ other place size
        intro some
        by_cases own : some = hart
        · exact .inl (by rw [own]; exact Function.update_self _ _ _)
        · exact .inr (Function.update_of_ne own _ _)
      · intro failed
        exact set_refused found (by simpa using failed)

/-- LR/SC semantics after any interleaving of operations with fewer than 2^64
writes, the one at hand included. -/
theorem storeConditional_semantics (operations : List (Operation δ))
    (few : writeCount (log operations) + 1 < 2 ^ 64) (width : AccessWidth) (hart : BitVec 32)
    (address : PhysAddr) (value : BitVec 64) :
    let bus := run operations
    let answer := storeConditional width hart address value bus
    (misaligned address width = true →
        answer.1 = { fault := .misaligned, succeeded := false } ∧ answer.2 = bus) ∧
      (misaligned address width = false →
        (answer.1.succeeded = true ↔
          Armed hart address width (log operations) ∧ bus.Accepts address width value) ∧
        (answer.1.succeeded = true → bus.Written address width value answer.2.devices ∧
          ∀ other place size, answer.2.reservationMatches other place size = false) ∧
        (answer.1.succeeded = false → answer.2.devices = bus.devices) ∧
        answer.2.reservations = Function.update bus.reservations hart none ∧
        ((∀ mounted ∈ bus.devices, ¬mounted.range.Covers address width.bytes) →
          answer.1 = { fault := .unmapped, succeeded := false })) := by
  intro bus answer
  refine ⟨?_, ?_⟩
  · intro odd
    simp only [answer, storeConditional, odd, if_true, and_self]
  · intro aligned
    exact storeConditional_aligned (layout_run operations) (tracks_run operations (by omega)) few
      aligned hart value

/-- Memory is written, then hart 0 reserves the word. -/
def reservingRun : List (Operation Ram) :=
  [.addDevice (Ram.new 0x80000000 0x1000), .perform (.write 0x80000008 .word 10 .store),
    .perform (.loadReservedWord 0 0x80000008)]

theorem storeConditional_reservingRun :
    writeCount (log reservingRun) + 1 < 2 ^ 64 ∧
      (storeConditional .word 0 0x80000008 30 (run reservingRun)).1.succeeded = true := by
  have few : writeCount (log reservingRun) + 1 < 2 ^ 64 := by decide
  refine ⟨few, ?_⟩
  obtain ⟨_, aligned⟩ := storeConditional_semantics reservingRun few .word 0 0x80000008 30
  refine (aligned (by decide)).1.mpr ⟨⟨[], [.wrote, .unrelated], by decide, ?_⟩, ?_⟩
  · exact fun _ member => nomatch member
  · exact ⟨_, List.mem_cons_self, ⟨by decide, by decide⟩, by decide⟩

end SystemBus

end RvEmulator.Platform
