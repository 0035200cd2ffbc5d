import RvEmulator.Devices.Peripheral

/-! The bus of a running machine: how its devices are found, and how it goes on around the RAM
and the time source (`SystemBus::set_time_source`) that the machine points to. -/

namespace RvEmulator.Platform

open Devices Library

section

variable {σ ν : Type}

namespace Component

def ram? : Component δ → Option Ram
  | .ram memory => some memory
  | .other _ => none

def clint? : Component (Peripheral σ ν) → Option (History Clint.perform {})
  | .other (.clint device) => some device
  | _ => none

def rtc? : Component (Peripheral σ ν) → Option (History GoldfishRtc.next {})
  | .other (.rtc device _) => some device
  | _ => none

def plic? : Component (Peripheral σ ν) → Option (History Plic.perform {})
  | .other (.plic device) => some device
  | _ => none

def uart? : Component (Peripheral σ ν) → Option Uart16550
  | .other (.uart device) => some device
  | _ => none

def block? : Component (Peripheral σ ν) → Option (VirtioBlock σ)
  | .other (.block device) => some device
  | _ => none

def net? : Component (Peripheral σ ν) → Option (VirtioNet ν)
  | .other (.net device) => some device
  | _ => none

def tickClint (cycles : BitVec 64) : Component (Peripheral σ ν) → Component (Peripheral σ ν)
  | .other (.clint device) => .other (.clint (device.add (.tick cycles)))
  | component => component

/-- The clock is only asked while the alarm is active. -/
def tickRtc : Component (Peripheral σ ν) → Component (Peripheral σ ν)
  | .other (.rtc device clock) =>
    .other (.rtc (device.add ⟨clock 0, .tick⟩)
      (if device.state.alarmActive then clock.later else clock))
  | component => component

def setSourceLevels (levels : List (Nat × Bool)) :
    Component (Peripheral σ ν) → Component (Peripheral σ ν)
  | .other (.plic device) =>
    .other (.plic (device.addAll (levels.map fun level => .setSourceLevel level.1 level.2)))
  | component => component

end Component

namespace SystemBus

variable {δ : Type}

/-- The device of a kind; a machine has at most one. -/
def find (pick : δ → Option α) (bus : SystemBus δ) : Option α :=
  bus.devices.findSome? fun mounted => pick mounted.device

/-- The device of a kind, with its position. -/
def locate (pick : δ → Option α) (bus : SystemBus δ) : Option (Nat × Mounted δ × α) :=
  (List.range bus.devices.length).findSome? fun index =>
    bus.devices[index]?.bind fun mounted =>
      (pick mounted.device).map fun device => (index, mounted, device)

/-- The devices change where they are. -/
def update (change : δ → δ) (bus : SystemBus δ) : SystemBus δ :=
  { bus with
    devices := bus.devices.map fun mounted => { mounted with device := change mounted.device } }

variable {pick : δ → Option α} {bus after : SystemBus δ}

theorem locate_some {index : Nat} {mounted : Mounted δ} {device : α}
    (located : bus.locate pick = some (index, mounted, device)) :
    bus.devices[index]? = some mounted ∧ pick mounted.device = some device := by
  obtain ⟨other, _, found⟩ := List.exists_of_findSome?_eq_some located
  obtain ⟨entry, present, picked⟩ := Option.bind_eq_some_iff.mp found
  obtain ⟨held, same, equal⟩ := Option.map_eq_some_iff.mp picked
  cases equal
  exact ⟨present, same⟩

theorem find_update {change : δ → δ} {changed : α → α}
    (picked : ∀ device, pick (change device) = (pick device).map changed) (bus : SystemBus δ) :
    (bus.update change).find pick = (bus.find pick).map changed := by
  simp only [find, update, List.findSome?_map, Function.comp_def, picked, List.map_findSome?]

/-- A change of other devices. -/
theorem find_update_same {change : δ → δ} (picked : ∀ device, pick (change device) = pick device)
    (bus : SystemBus δ) : (bus.update change).find pick = bus.find pick := by
  simp only [find, update, List.findSome?_map, Function.comp_def, picked]

theorem find_evolves {follows : δ → δ → Prop} {related : α → α → Prop}
    (evolves : Evolves follows bus after)
    (picked : ∀ {old new}, follows old new → Option.Rel related (pick old) (pick new)) :
    Option.Rel related (bus.find pick) (after.find pick) :=
  findSome?_forall₂ (fun mounted => picked mounted.device) evolves

theorem evolves_update [Device δ] {follows : δ → δ → Prop} {change : δ → δ}
    (step : ∀ device, follows device (change device)) (bus : SystemBus δ) :
    Evolves follows bus (bus.update change) :=
  forall₂_map (fun mounted => ⟨rfl, rfl, step mounted.device⟩) bus.devices

end SystemBus

namespace Board

/-- The RAM that the machine points to is still there, of the same size. -/
def KeepsRam (board : Board δ) (after : SystemBus (Component δ)) : Prop :=
  ∃ ram : Ram,
    after.devices[board.ramIndex]? = some { board.ram with device := ram : Mounted Ram }.component ∧
      ram.data.size = board.ram.device.data.size

/-- The bus goes on under the pointer to the RAM. -/
def advance (board : Board δ) (after : SystemBus (Component δ)) (keeps : board.KeepsRam after) :
    Board δ where
  bus := after
  ramIndex := board.ramIndex
  ram :=
    { board.ram with
      device := (after.devices[board.ramIndex]?.bind (·.device.ram?)).getD board.ram.device }
  mounted := by
    obtain ⟨ram, found, _⟩ := keeps
    rw [found]
    rfl
  base := board.base
  size := by
    obtain ⟨ram, found, size⟩ := keeps
    rw [found]
    exact size.trans board.size
  valid := board.valid

end Board

end

/-! ### Commands -/

variable {σ ν : Type} {board : Board (Peripheral σ ν)}
  {after : SystemBus (Component (Peripheral σ ν))}

theorem Board.keepsRam_of_evolves (evolves : board.bus.Evolves Follows after) :
    board.KeepsRam after := by
  obtain ⟨inside, same⟩ := List.getElem?_eq_some_iff.mp board.mounted
  obtain ⟨length, follow⟩ := List.forall₂_iff_get.mp evolves
  have moved := follow board.ramIndex inside (length ▸ inside)
  rw [List.get_eq_getElem, same] at moved
  obtain ⟨range, cacheable, device⟩ := moved
  generalize held : after.devices.get ⟨board.ramIndex, length ▸ inside⟩ = new
    at range cacheable device
  obtain ⟨newRange, newCacheable, component⟩ := new
  cases range
  cases cacheable
  cases device with
  | ram size =>
    refine ⟨_, ?_, size⟩
    rw [List.getElem?_eq_getElem (length ▸ inside)]
    exact congrArg some held

variable [BlockStorage σ]

/-- A command to the bus of a machine. -/
def Board.perform (command : BusCommand) : StateM (Board (Peripheral σ ν)) command.Response :=
  fun board =>
    let answer := CpuBus.perform command board.bus
    (answer.1,
      board.advance answer.2
        (keepsRam_of_evolves (SystemBus.evolves_perform respects_follows command board.bus)))

/-- The time source is the interruptor on the bus. -/
instance : CpuBus (Board (Peripheral σ ν)) where
  read address width kind := Board.perform (.read address width kind)
  write address width value kind := Board.perform (.write address width value kind)
  loadReservedWord hart address := Board.perform (.loadReservedWord hart address)
  storeConditionalWord hart address value := Board.perform (.storeConditionalWord hart address value)
  atomicWord hart address operation operand :=
    Board.perform (.atomicWord hart address operation operand)
  loadReservedDoubleword hart address := Board.perform (.loadReservedDoubleword hart address)
  storeConditionalDoubleword hart address value :=
    Board.perform (.storeConditionalDoubleword hart address value)
  atomicDoubleword hart address operation operand :=
    Board.perform (.atomicDoubleword hart address operation operand)
  readTime board := ((board.bus.find Component.clint?).map fun clint => clint.state.mtime).getD 0
  instructionCacheable board := board.bus.instructionCacheable

/-- What a command does to the bus of a machine, its devices follow. -/
theorem Board.perform_evolves (command : BusCommand) (board : Board (Peripheral σ ν)) :
    board.bus.Evolves Follows (CpuBus.perform command board).2.bus := by
  cases command <;> exact SystemBus.evolves_perform respects_follows _ board.bus

end RvEmulator.Platform
