import RvEmulator.Core32.Core
import RvEmulator.Core64.Core
import RvEmulator.Platform.Boot

/-! The machines of both platforms, and boots that either fail without a trace or
load everything (`platform64/src/machine.cpp`, `platform32/src/machine.cpp`). -/

namespace RvEmulator

open Library Platform AddressMap

/-! ### The RV64 machine -/

namespace Platform64

structure Machine (δ : Type) where
  core : Core64.Core (Board δ)
  irqLines : IrqLines := {}

namespace Machine

variable {δ : Type}

def board (machine : Machine δ) : Board δ := machine.core.fabric.bus

def withBoard (machine : Machine δ) (board : Board δ) : Machine δ :=
  { machine with
    core := { machine.core with fabric := { machine.core.fabric with bus := board } } }

def reset (machine : Machine δ) (config : ResetConfig 64) : Machine δ :=
  { core := (machine.withBoard machine.board.clearReservations).core.reset config
    irqLines := {} }

def loadBoot (config : BootConfig 64) : StateM (Machine δ) BootResult := fun machine =>
  match config.missing with
  | some error => ({ error }, machine)
  | none =>
    match config.deviceTreeAddress .wrapping machine.board.ram.range with
    | .error error => ({ error }, machine)
    | .ok deviceTreeAddress =>
      let layout : BootLayout := { deviceTreeAddress }
      match Board.loadImages config.toBootImages layout machine.board with
      | (false, board) => ({ error := .imageLoadFailed, layout }, machine.withBoard board)
      | (true, board) =>
        ({ layout }, (machine.withBoard board).reset
          { resetPc := layout.firmwareAddress
            hartId := config.hartId
            bootArgument := layout.deviceTreeAddress })

/-- What a successful boot leaves behind. -/
structure Booted (machine after : Machine δ) (config : BootConfig 64) (layout : BootLayout) :
    Prop where
  firmware : layout.firmwareAddress = dramBase
  kernel : layout.kernelAddress = dramBase + kernelLoadOffset
  placed : layout.Placed machine.board.ram.range config.toBootImages
    machine.board.ram.device.data after.board.ram.device.data
  range : after.board.ram.range = machine.board.ram.range
  core : after.core = (machine.withBoard after.board).core.reset
    { resetPc := layout.firmwareAddress
      hartId := config.hartId
      bootArgument := layout.deviceTreeAddress }
  irqLines : after.irqLines = {}
  pc : after.core.state.pc = layout.firmwareAddress
  hart : after.core.state.registers 10 = config.hartId
  argument : after.core.state.registers 11 = layout.deviceTreeAddress

theorem loadBoot_cases (config : BootConfig 64) (machine : Machine δ) :
    let booted := loadBoot config machine
    (booted.1.error ≠ .none → booted.2 = machine ∧ booted.1.error ≠ .imageLoadFailed) ∧
      (booted.1.error = .none → machine.Booted booted.2 config booted.1.layout) := by
  intro booted
  have same : booted = loadBoot config machine := rfl
  unfold loadBoot at same
  rcases config.prepared machine.board with ⟨failed, other, missing⟩ |
    ⟨failed, other, missing, computed⟩ | ⟨missing, computed, loaded, range, placed⟩
  · rw [missing] at same
    rw [same]
    exact ⟨fun _ => ⟨rfl, other⟩, fun none => absurd none failed⟩
  · rw [missing, computed] at same
    rw [same]
    exact ⟨fun _ => ⟨rfl, other⟩, fun none => absurd none failed⟩
  · rw [missing, computed] at same
    dsimp only at same
    rw [loaded] at same
    rw [same]
    exact ⟨fun failed => absurd rfl failed,
      fun _ => ⟨rfl, rfl, placed, range, rfl, rfl, rfl, rfl, rfl⟩⟩

end Machine

end Platform64

/-! ### The RV32 machine -/

namespace Platform32

structure Machine (δ : Type) where
  core : Core32.Core (Board δ)
  irqLines : IrqLines := {}

namespace Machine

variable {δ : Type}

def board (machine : Machine δ) : Board δ := machine.core.fabric.bus

def withBoard (machine : Machine δ) (board : Board δ) : Machine δ :=
  { machine with
    core := { machine.core with fabric := { machine.core.fabric with bus := board } } }

def reset (machine : Machine δ) (config : ResetConfig 32) : Machine δ :=
  { core := (machine.withBoard machine.board.clearReservations).core.reset config
    irqLines := {} }

/-- The largest address of a hart. -/
def lastAddress : PhysAddr := 0xFFFFFFFF

theorem setWidth_representable {address : PhysAddr} (representable : address ≤ lastAddress) :
    (address.setWidth 32).setWidth 64 = address := by
  have bounded := BitVec.le_def.mp representable
  have last : lastAddress.toNat = 2 ^ 32 - 1 := rfl
  apply BitVec.eq_of_toNat_eq
  rw [BitVec.toNat_setWidth, BitVec.toNat_setWidth]
  omega

def loadBoot (config : BootConfig 32) : StateM (Machine δ) BootResult := fun machine =>
  match config.missing with
  | some error => ({ error }, machine)
  | none =>
    match config.deviceTreeAddress .wrapping machine.board.ram.range with
    | .error error => ({ error }, machine)
    | .ok deviceTreeAddress =>
      let layout : BootLayout := { deviceTreeAddress }
      if lastAddress < layout.firmwareAddress ∨ lastAddress < layout.kernelAddress ∨
          lastAddress < layout.deviceTreeAddress then
        ({ error := .addressOutOfRange, layout }, machine)
      else
        match Board.loadImages config.toBootImages layout machine.board with
        | (false, board) => ({ error := .imageLoadFailed, layout }, machine.withBoard board)
        | (true, board) =>
          ({ layout }, (machine.withBoard board).reset
            { resetPc := layout.firmwareAddress.setWidth 32
              hartId := config.hartId
              initialPrivilege := .machine
              bootArgument := layout.deviceTreeAddress.setWidth 32 })

/-- What a successful boot leaves behind. -/
structure Booted (machine after : Machine δ) (config : BootConfig 32) (layout : BootLayout) :
    Prop where
  firmware : layout.firmwareAddress = dramBase
  kernel : layout.kernelAddress = dramBase + kernelLoadOffset
  placed : layout.Placed machine.board.ram.range config.toBootImages
    machine.board.ram.device.data after.board.ram.device.data
  range : after.board.ram.range = machine.board.ram.range
  core : after.core = (machine.withBoard after.board).core.reset
    { resetPc := layout.firmwareAddress.setWidth 32
      hartId := config.hartId
      bootArgument := layout.deviceTreeAddress.setWidth 32 }
  irqLines : after.irqLines = {}
  pc : after.core.state.pc.setWidth 64 = layout.firmwareAddress
  hart : after.core.state.registers 10 = config.hartId
  argument : (after.core.state.registers 11).setWidth 64 = layout.deviceTreeAddress

theorem loadBoot_cases (config : BootConfig 32) (machine : Machine δ) :
    let booted := loadBoot config machine
    (booted.1.error ≠ .none → booted.2 = machine ∧ booted.1.error ≠ .imageLoadFailed) ∧
      (booted.1.error = .none → machine.Booted booted.2 config booted.1.layout) := by
  intro booted
  have same : booted = loadBoot config machine := rfl
  unfold loadBoot at same
  rcases config.prepared machine.board with ⟨failed, other, missing⟩ |
    ⟨failed, other, missing, computed⟩ | ⟨missing, computed, loaded, range, placed⟩
  · rw [missing] at same
    rw [same]
    exact ⟨fun _ => ⟨rfl, other⟩, fun none => absurd none failed⟩
  · rw [missing, computed] at same
    rw [same]
    exact ⟨fun _ => ⟨rfl, other⟩, fun none => absurd none failed⟩
  · rw [missing, computed] at same
    dsimp only at same
    split at same
    · rw [same]
      exact ⟨fun _ => ⟨rfl, fun other => by cases other⟩, fun none => by cases none⟩
    rename_i representable
    simp only [not_or, BitVec.not_lt] at representable
    rw [loaded] at same
    rw [same]
    exact ⟨fun failed => absurd rfl failed, fun _ => ⟨rfl, rfl, placed, range, rfl, rfl,
      setWidth_representable representable.1, rfl, setWidth_representable representable.2.2⟩⟩

end Machine

end Platform32

/-- A boot that fails has changed nothing, and never fails halfway; a boot that
succeeds has loaded everything. The sizes and addresses are the exact ones. -/
theorem boot_atomic {δ : Type} :
    (∀ (machine : Platform64.Machine δ) (config : BootConfig 64),
      let booted := Platform64.Machine.loadBoot config machine
      (booted.1.error ≠ .none → booted.2 = machine ∧ booted.1.error ≠ .imageLoadFailed) ∧
        (booted.1.error = .none → machine.Booted booted.2 config booted.1.layout) ∧
        config.deviceTreeAddress .checked machine.board.ram.range =
          some (config.deviceTreeAddress .wrapping machine.board.ram.range)) ∧
    (∀ (machine : Platform32.Machine δ) (config : BootConfig 32),
      let booted := Platform32.Machine.loadBoot config machine
      (booted.1.error ≠ .none → booted.2 = machine ∧ booted.1.error ≠ .imageLoadFailed) ∧
        (booted.1.error = .none → machine.Booted booted.2 config booted.1.layout) ∧
        config.deviceTreeAddress .checked machine.board.ram.range =
          some (config.deviceTreeAddress .wrapping machine.board.ram.range)) := by
  refine ⟨fun machine config => ?_, fun machine config => ?_⟩
  · obtain ⟨failed, succeeded⟩ := Platform64.Machine.loadBoot_cases config machine
    exact ⟨failed, succeeded,
      config.deviceTreeAddress_checked machine.board.base machine.board.valid⟩
  · obtain ⟨failed, succeeded⟩ := Platform32.Machine.loadBoot_cases config machine
    exact ⟨failed, succeeded,
      config.deviceTreeAddress_checked machine.board.base machine.board.valid⟩

/-- A bus with five mebibytes of RAM. -/
def sampleBoard : Board Unit where
  bus :=
    { devices :=
        [{ range := { base := dramBase, size := 0x500000 }
           instructionCacheable := true
           device := .ram { data := { size := 0x500000 } } }] }
  ramIndex := 0
  ram :=
    { range := { base := dramBase, size := 0x500000 }
      instructionCacheable := true
      device := { data := { size := 0x500000 } } }
  mounted := rfl
  base := rfl
  size := rfl
  valid := ⟨by decide, by decide⟩

def sampleImages : BootImages where
  firmware := ⟨[0x13, 0x00, 0x00, 0x00], by decide⟩
  kernel := ⟨[0x6F, 0x00, 0x00, 0x00], by decide⟩
  deviceTree := ⟨[0xD0, 0x0D, 0xFE, 0xED], by decide⟩

def sampleMachine64 : Platform64.Machine Unit := { core := .new sampleBoard }

def sampleMachine32 : Platform32.Machine Unit := { core := .new sampleBoard }

/-- The images fit, on either platform; without a kernel nothing happens. -/
theorem boot_atomic_sample :
    let booted := Platform64.Machine.loadBoot { sampleImages with } sampleMachine64
    let otherBooted := Platform32.Machine.loadBoot { sampleImages with } sampleMachine32
    let empty : BootConfig 64 := { sampleImages with kernel := ⟨[], by decide⟩ }
    sampleMachine64.Booted booted.2 { sampleImages with } booted.1.layout ∧
      sampleMachine32.Booted otherBooted.2 { sampleImages with } otherBooted.1.layout ∧
      (Platform64.Machine.loadBoot empty sampleMachine64).2 = sampleMachine64 := by
  intro booted otherBooted empty
  obtain ⟨_, loads, _⟩ := boot_atomic.1 sampleMachine64 { sampleImages with }
  obtain ⟨_, loadsOther, _⟩ := boot_atomic.2 sampleMachine32 { sampleImages with }
  obtain ⟨fails, _⟩ := boot_atomic.1 sampleMachine64 empty
  have succeeded : booted.1.error = .none := by decide
  have succeededOther : otherBooted.1.error = .none := by decide
  have failed : (Platform64.Machine.loadBoot empty sampleMachine64).1.error ≠ .none := by
    decide
  exact ⟨loads succeeded, loadsOther succeededOther, (fails failed).1⟩

end RvEmulator
