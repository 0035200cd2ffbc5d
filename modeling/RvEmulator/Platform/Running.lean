import RvEmulator.Core32.Keeping
import RvEmulator.Core64.Keeping
import RvEmulator.Platform.Machine
import RvEmulator.Platform.Ticking

/-! The steps of both machines: the devices tick, the interrupt controller and the core see the
lines as they are then, and the core takes a step (`Machine::step`). -/

namespace RvEmulator.Devices

def VirtioBlock.interruptPending (device : VirtioBlock σ) : Bool :=
  device.interruptStatus &&& 0x1 != 0

def VirtioNet.interruptPending (device : VirtioNet ν) : Bool :=
  device.interruptStatus &&& 0x1 != 0

end RvEmulator.Devices

namespace RvEmulator.Platform

open Devices Library

namespace AddressMap

def clintBase : PhysAddr := 0x02000000
def clintSize : BitVec 64 := 0x00010000
def rtcBase : PhysAddr := 0x00101000
def rtcSize : BitVec 64 := 0x00001000
def rtcIrq : Nat := 11
def plicBase : PhysAddr := 0x0C000000
def plicSize : BitVec 64 := 0x04000000
def uartBase : PhysAddr := 0x10000000
def uartSize : BitVec 64 := 0x00000100
def uartIrq : Nat := 10
def virtioBlockBase : PhysAddr := 0x10001000
def virtioBlockSize : BitVec 64 := 0x00001000
def virtioBlockIrq : Nat := 1
def virtioNetBase : PhysAddr := 0x10002000
def virtioNetSize : BitVec 64 := 0x00001000
def virtioNetIrq : Nat := 2
def sysconBase : PhysAddr := 0x11100000
def sysconSize : BitVec 64 := 0x00001000
def framebufferBase : PhysAddr := 0x40000000

end AddressMap

variable {σ ν : Type}

/-- Whether the device of a kind asks for an interrupt. -/
def SystemBus.asserts (pick : δ → Option α) (pending : α → Bool) (bus : SystemBus δ) : Bool :=
  (bus.find pick).any pending

/-- The lines that a machine hands to its core. -/
def SystemBus.irqLines (bus : SystemBus (Component (Peripheral σ ν))) : IrqLines where
  machineSoftware := bus.asserts Component.clint? fun clint => clint.state.machineSoftwareIrq
  machineTimer := bus.asserts Component.clint? fun clint => clint.state.machineTimerIrq
  machineExternal := bus.asserts Component.plic? fun plic => plic.state.machineExternalIrq
  supervisorSoftware := false
  supervisorTimer := false
  supervisorExternal := bus.asserts Component.plic? fun plic => plic.state.supervisorExternalIrq

/-- What distinguishes the machines before the core takes part in a step: the devices that
tick, in turn, and the lines into the interrupt controller, in the order of their sampling. -/
structure Wiring (σ ν : Type) where
  tickDevices : BitVec 64 → SystemBus (Component (Peripheral σ ν)) →
    SystemBus (Component (Peripheral σ ν))
  lines : List (Nat × (SystemBus (Component (Peripheral σ ν)) → Bool))
  evolves : ∀ cycles (bus : SystemBus (Component (Peripheral σ ν))),
    bus.Evolves Follows (tickDevices cycles bus)
  distinct : (lines.map Prod.fst).Nodup
  valid : ∀ line ∈ lines, Plic.ValidSource line.1

def Wiring.sourceLevels (wiring : Wiring σ ν) (bus : SystemBus (Component (Peripheral σ ν))) :
    List (Nat × Bool) :=
  wiring.lines.map fun line => (line.1, line.2 bus)

/-- The bus when the core begins its step. -/
def Wiring.sampled (wiring : Wiring σ ν) (cycles : BitVec 64)
    (bus : SystemBus (Component (Peripheral σ ν))) : SystemBus (Component (Peripheral σ ν)) :=
  let ticked := wiring.tickDevices cycles bus
  ticked.update (Component.setSourceLevels (wiring.sourceLevels ticked))

theorem Wiring.evolves_sampled [BlockStorage σ] (wiring : Wiring σ ν) (cycles : BitVec 64)
    (bus : SystemBus (Component (Peripheral σ ν))) :
    bus.Evolves Follows (wiring.sampled cycles bus) := by
  refine SystemBus.evolves_trans respects_follows (wiring.evolves cycles bus)
    (SystemBus.evolves_update (fun component => ?_) _)
  unfold Component.setSourceLevels
  split
  · exact .plic (History.extends_addAll _ _)
  · exact .refl _

def Board.sampled [BlockStorage σ] (wiring : Wiring σ ν) (cycles : BitVec 64)
    (board : Board (Peripheral σ ν)) : Board (Peripheral σ ν) :=
  board.advance (wiring.sampled cycles board.bus)
    (keepsRam_of_evolves (wiring.evolves_sampled cycles board.bus))

end RvEmulator.Platform

namespace RvEmulator

open Devices Library Platform AddressMap

variable {σ ν : Type} [BlockStorage σ]

/-! ### The RV64 machine -/

namespace Platform64

/-- The clock of the host is what the real-time clock reads. -/
structure MachineConfig (σ : Type) where
  ramSize : BitVec 64 := 0x10000000
  storage : σ
  framebufferWidth : BitVec 32 := 640
  framebufferHeight : BitVec 32 := 480
  framebufferBytesPerPixel : BitVec 32 := 4
  enableFramebuffer : Bool := true
  clock : HostClock

/-- The framebuffer of a machine, if it has one; `none` where its constructor throws. -/
def MachineConfig.framebuffer (config : MachineConfig σ) :
    Option (List (Mounted (Peripheral σ ν))) :=
  if config.enableFramebuffer then
    (Framebuffer.new framebufferBase config.framebufferWidth config.framebufferHeight
      config.framebufferBytesPerPixel).map fun device =>
        [{ range := device.range, device := .framebuffer device }]
  else some []

/-- The devices in the order of the constructor, but for the RAM. -/
def MachineConfig.devices (config : MachineConfig σ) (framebuffer : List (Mounted (Peripheral σ ν))) :
    List (Mounted (Peripheral σ ν)) :=
  [{ range := ⟨clintBase, clintSize⟩, device := .clint .initial },
    { range := ⟨rtcBase, rtcSize⟩, device := .rtc .initial config.clock },
    { range := ⟨plicBase, plicSize⟩, device := .plic .initial },
    { range := ⟨uartBase, uartSize⟩, device := .uart {} },
    { range := ⟨virtioBlockBase, virtioBlockSize⟩
      device := .block { disk := { storage := config.storage } } },
    { range := ⟨virtioNetBase, virtioNetSize⟩
      device := .net { mac := #v[0x02, 0x52, 0x56, 0x00, 0x00, 0x01] } },
    { range := ⟨sysconBase, sysconSize⟩, device := .syscon {} }] ++ framebuffer

namespace Machine

/-- `none` where the constructor throws. -/
def new (config : MachineConfig σ) : Option (Machine (Peripheral σ ν)) := do
  let framebuffer ← config.framebuffer
  let board ← Board.new config.ramSize (config.devices framebuffer)
  pure (reset { core := .new board } {})

section

variable [NetworkBackend ν]

def wiring : Wiring σ ν where
  tickDevices cycles bus := (bus.tickClint cycles).tickRtc.tickBlock.tickNet cycles
  lines :=
    [(virtioBlockIrq, SystemBus.asserts Component.block? VirtioBlock.interruptPending),
      (virtioNetIrq, SystemBus.asserts Component.net? VirtioNet.interruptPending),
      (rtcIrq, SystemBus.asserts Component.rtc? fun rtc => rtc.state.interruptPending),
      (uartIrq, SystemBus.asserts Component.uart? Uart16550.interruptPending)]
  evolves cycles bus :=
    SystemBus.evolves_trans respects_follows (bus.evolves_tickClint cycles)
      (SystemBus.evolves_trans respects_follows (SystemBus.evolves_tickRtc _)
        (SystemBus.evolves_trans respects_follows (SystemBus.evolves_tickBlock _)
          (SystemBus.evolves_tickNet cycles _)))
  distinct := (by decide : [virtioBlockIrq, virtioNetIrq, rtcIrq, uartIrq].Nodup)
  valid := by simp [Plic.ValidSource, Plic.sourceCount, virtioBlockIrq, virtioNetIrq, rtcIrq, uartIrq]

variable [Core64.SoftFloat]

/-- The machine when its core begins a step. -/
def sampled (machine : Machine (Peripheral σ ν)) (elapsedCycles : BitVec 64) :
    Machine (Peripheral σ ν) :=
  let board := machine.board.sampled wiring elapsedCycles
  { core := (machine.withBoard board).core, irqLines := board.bus.irqLines }

def step (elapsedCycles : BitVec 64) : StateM (Machine (Peripheral σ ν)) Core64.StepResult :=
  fun machine =>
    let sampled := machine.sampled elapsedCycles
    let stepped := sampled.core.step sampled.irqLines
    (stepped.1, { sampled with core := stepped.2 })

end

end Machine

end Platform64

/-! ### The RV32 machine -/

namespace Platform32

/-- The disk is in memory. -/
structure MachineConfig (σ : Type) where
  ramSize : BitVec 64 := 0x04000000
  storage : σ
  framebufferWidth : BitVec 32 := 640
  framebufferHeight : BitVec 32 := 480
  framebufferBytesPerPixel : BitVec 32 := 4
  enableFramebuffer : Bool := true

/-- The framebuffer of a machine, if it has one; `none` where its constructor throws. -/
def MachineConfig.framebuffer (config : MachineConfig σ) :
    Option (List (Mounted (Peripheral σ ν))) :=
  if config.enableFramebuffer then
    (Framebuffer.new framebufferBase config.framebufferWidth config.framebufferHeight
      config.framebufferBytesPerPixel).map fun device =>
        [{ range := device.range, device := .framebuffer device }]
  else some []

/-- The devices in the order of the constructor, but for the RAM. -/
def MachineConfig.devices (config : MachineConfig σ) (framebuffer : List (Mounted (Peripheral σ ν))) :
    List (Mounted (Peripheral σ ν)) :=
  [{ range := ⟨clintBase, clintSize⟩, device := .clint .initial },
    { range := ⟨plicBase, plicSize⟩, device := .plic .initial },
    { range := ⟨uartBase, uartSize⟩, device := .uart {} },
    { range := ⟨virtioBlockBase, virtioBlockSize⟩
      device := .block { disk := { storage := config.storage } } },
    { range := ⟨sysconBase, sysconSize⟩, device := .syscon {} }] ++ framebuffer

namespace Machine

/-- `none` where the constructor throws. -/
def new (config : MachineConfig σ) : Option (Machine (Peripheral σ ν)) := do
  let framebuffer ← config.framebuffer
  let board ← Board.new config.ramSize (config.devices framebuffer)
  pure (reset { core := .new board } {})

def wiring : Wiring σ ν where
  tickDevices cycles bus := (bus.tickClint cycles).tickBlock
  lines :=
    [(virtioBlockIrq, SystemBus.asserts Component.block? VirtioBlock.interruptPending),
      (uartIrq, SystemBus.asserts Component.uart? Uart16550.interruptPending)]
  evolves cycles bus :=
    SystemBus.evolves_trans respects_follows (bus.evolves_tickClint cycles)
      (SystemBus.evolves_tickBlock _)
  distinct := (by decide : [virtioBlockIrq, uartIrq].Nodup)
  valid := by simp [Plic.ValidSource, Plic.sourceCount, virtioBlockIrq, uartIrq]

/-- The machine when its core begins a step. -/
def sampled (machine : Machine (Peripheral σ ν)) (elapsedCycles : BitVec 64) :
    Machine (Peripheral σ ν) :=
  let board := machine.board.sampled wiring elapsedCycles
  { core := (machine.withBoard board).core.advanceCycles elapsedCycles
    irqLines := board.bus.irqLines }

def step (elapsedCycles : BitVec 64) : StateM (Machine (Peripheral σ ν)) Core32.StepResult :=
  fun machine =>
    let sampled := machine.sampled elapsedCycles
    let stepped := sampled.core.step sampled.irqLines
    (stepped.1, { sampled with core := stepped.2 })

end Machine

end Platform32

end RvEmulator
