import RvEmulator.Devices.Clint
import RvEmulator.Devices.Framebuffer
import RvEmulator.Devices.GoldfishRtc
import RvEmulator.Devices.Plic
import RvEmulator.Devices.Reentrancy
import RvEmulator.Devices.Uart16550
import RvEmulator.Library.History
import RvEmulator.Platform.Board
import RvEmulator.Platform.Evolution
import RvEmulator.Platform.MemoryLaws

/-! The devices of the machines beside their RAM, with the system controller
(`devices/src/syscon.cpp`), and how each of them goes on on the bus. -/

namespace RvEmulator.Devices

open Library Platform

inductive SystemAction where
  | none | powerOff | reboot
deriving DecidableEq, Repr

structure Syscon where
  action : SystemAction := .none
deriving DecidableEq, Repr

namespace Syscon

def poweroffValue : BitVec 32 := 0x5555
def rebootValue : BitVec 32 := 0x7777

/-- The only register is a word at the beginning. -/
def Unsupported (offset : BitVec 64) (width : AccessWidth) : Prop := offset ≠ 0 ∨ width ≠ .word

instance (offset : BitVec 64) (width : AccessWidth) : Decidable (Unsupported offset width) :=
  inferInstanceAs (Decidable (_ ∨ _))

def read (offset : BitVec 64) (width : AccessWidth) : ReadResult :=
  if Unsupported offset width then { fault := .unsupported } else {}

def write (offset : BitVec 64) (width : AccessWidth) (value : BitVec 64) :
    StateM Syscon BusFault := fun syscon =>
  if Unsupported offset width then (.unsupported, syscon)
  else
    let command : BitVec 32 := value.setWidth 32
    (.none,
      if command = poweroffValue then { action := .powerOff }
      else if command = rebootValue then { action := .reboot }
      else syscon)

def clearAction (_ : Syscon) : Syscon := { action := .none }

end Syscon

/-- What the clock of the host shows, each time that it is asked. -/
abbrev HostClock := Nat → BitVec 64

def HostClock.later (clock : HostClock) : HostClock := fun count => clock (count + 1)

/-- A device on the bus of a machine. The storage of its disk and the backend of its network
are the host's. What happens to the interruptor, the clock and the interrupt controller is kept
with them; none of the methods reads it. -/
inductive Peripheral (σ ν : Type) where
  | clint (device : History Clint.perform {})
  | rtc (device : History GoldfishRtc.next {}) (clock : HostClock)
  | plic (device : History Plic.perform {})
  | uart (device : Uart16550)
  | block (device : VirtioBlock σ)
  | net (device : VirtioNet ν)
  | syscon (device : Syscon)
  | framebuffer (device : Framebuffer)

namespace Peripheral

variable {σ ν : Type} [BlockStorage σ]

def read (offset : BitVec 64) (width : AccessWidth) : StateM (Peripheral σ ν) ReadResult
  | .clint device => (device.state.read offset width, .clint (device.add (.read offset width)))
  | .rtc device clock =>
    ((GoldfishRtc.read (clock 0) offset width device.state).1,
      .rtc (device.add ⟨clock 0, .read offset width⟩) clock.later)
  | .plic device =>
    ((Plic.read offset width device.state).1, .plic (device.add (.read offset width)))
  | .uart device =>
    let answer := Uart16550.read offset width device
    (answer.1, .uart answer.2)
  | .block device => (device.read offset width, .block device)
  | .net device => (device.read offset width, .net device)
  | .syscon device => (Syscon.read offset width, .syscon device)
  | .framebuffer device =>
    let answer := Device.read offset width device
    (answer.1, .framebuffer answer.2)

/-- A write that is refused does not happen. -/
def write (offset : BitVec 64) (width : AccessWidth) (value : BitVec 64) :
    StateM (Peripheral σ ν) BusFault
  | .clint device =>
    let fault := (Clint.write offset width value device.state).1
    (fault, .clint (if fault = .none then device.add (.write offset width value) else device))
  | .rtc device clock =>
    let fault := (GoldfishRtc.write (clock 0) offset width value device.state).1
    (fault,
      if fault = .none then .rtc (device.add ⟨clock 0, .write offset width value⟩) clock.later
      else .rtc device clock)
  | .plic device =>
    let fault := (Plic.write offset width value device.state).1
    (fault, .plic (if fault = .none then device.add (.write offset width value) else device))
  | .uart device =>
    let answer := Uart16550.write offset width value device
    (answer.1, .uart answer.2)
  | .block device =>
    let answer := device.write offset width value
    (answer.1, .block answer.2)
  | .net device =>
    let answer := device.write offset width value
    (answer.1, .net answer.2)
  | .syscon device =>
    let answer := Syscon.write offset width value device
    (answer.1, .syscon answer.2)
  | .framebuffer device =>
    let answer := Framebuffer.write offset width value device
    (answer.1, .framebuffer answer.2)

instance : Device (Peripheral σ ν) where
  read := read
  write := write
  refused := by
    intro offset width value peripheral failed
    cases peripheral with
    | clint device => exact congrArg clint (if_neg failed)
    | plic device => exact congrArg plic (if_neg failed)
    | rtc device clock => exact if_neg failed
    | uart device => exact congrArg uart (Device.refused (δ := Uart16550) failed)
    | framebuffer device => exact congrArg framebuffer (Device.refused (δ := Framebuffer) failed)
    | syscon device =>
      change (Syscon.write offset width value device).1 ≠ .none at failed
      refine congrArg syscon ?_
      unfold Syscon.write at failed ⊢
      split
      · rfl
      · rename_i supported
        rw [if_neg supported] at failed
        exact absurd rfl failed
    | block device =>
      change (device.write offset width value).1 ≠ .none at failed
      refine congrArg block ?_
      unfold VirtioBlock.write at failed ⊢
      split
      · rfl
      split
      · rfl
      · rename_i known supported
        rw [if_neg known, if_neg supported] at failed
        exact absurd rfl failed
    | net device =>
      change (device.write offset width value).1 ≠ .none at failed
      refine congrArg net ?_
      unfold VirtioNet.write at failed ⊢
      split
      · rfl
      split
      · rfl
      · rename_i known supported
        rw [if_neg known, if_neg supported] at failed
        exact absurd rfl failed

end Peripheral

end RvEmulator.Devices

namespace RvEmulator.Platform

instance [Device δ] : Device (Component δ) where
  read offset width
    | .ram ram =>
      let answer := Device.read offset width ram
      (answer.1, .ram answer.2)
    | .other device =>
      let answer := Device.read offset width device
      (answer.1, .other answer.2)
  write offset width value
    | .ram ram =>
      let answer := Device.write offset width value ram
      (answer.1, .ram answer.2)
    | .other device =>
      let answer := Device.write offset width value device
      (answer.1, .other answer.2)
  refused := by
    intro offset width value component failed
    cases component with
    | ram ram => exact congrArg Component.ram (Device.refused (δ := Ram) failed)
    | other device => exact congrArg Component.other (Device.refused failed)

end RvEmulator.Platform

namespace RvEmulator.Devices

open Library Platform

/-- How a component goes on: the RAM keeps its size; the interruptor, the clock and the interrupt
controller add to their histories; the others change in any way. -/
inductive Follows {σ ν : Type} : Component (Peripheral σ ν) → Component (Peripheral σ ν) → Prop
  | ram {old new : Ram} (size : new.data.size = old.data.size) : Follows (.ram old) (.ram new)
  | clint {old new : History Clint.perform {}} (further : old.Extends new) :
      Follows (.other (.clint old)) (.other (.clint new))
  | rtc {old new : History GoldfishRtc.next {}} (further : old.Extends new)
      (clock later : HostClock) : Follows (.other (.rtc old clock)) (.other (.rtc new later))
  | plic {old new : History Plic.perform {}} (further : old.Extends new) :
      Follows (.other (.plic old)) (.other (.plic new))
  | uart (old new : Uart16550) : Follows (.other (.uart old)) (.other (.uart new))
  | block (old new : VirtioBlock σ) : Follows (.other (.block old)) (.other (.block new))
  | net (old new : VirtioNet ν) : Follows (.other (.net old)) (.other (.net new))
  | syscon (old new : Syscon) : Follows (.other (.syscon old)) (.other (.syscon new))
  | framebuffer (old new : Framebuffer) :
      Follows (.other (.framebuffer old)) (.other (.framebuffer new))

namespace Follows

variable {σ ν : Type} {first second third : Component (Peripheral σ ν)}

theorem refl (component : Component (Peripheral σ ν)) : Follows component component := by
  cases component with
  | ram ram => exact .ram rfl
  | other peripheral =>
    cases peripheral with
    | clint device => exact .clint (.refl device)
    | rtc device clock => exact .rtc (.refl device) clock clock
    | plic device => exact .plic (.refl device)
    | uart device => exact .uart device device
    | block device => exact .block device device
    | net device => exact .net device device
    | syscon device => exact .syscon device device
    | framebuffer device => exact .framebuffer device device

theorem trans (before : Follows first second) (after : Follows second third) :
    Follows first third := by
  cases before with
  | ram size => cases after with | ram further => exact .ram (further.trans size)
  | clint first => cases after with | clint second => exact .clint (first.trans second)
  | rtc first clock =>
    cases after with
    | rtc second _ later => exact .rtc (first.trans second) clock later
  | plic first => cases after with | plic second => exact .plic (first.trans second)
  | uart => cases after; exact .uart _ _
  | block => cases after; exact .block _ _
  | net => cases after; exact .net _ _
  | syscon => cases after; exact .syscon _ _
  | framebuffer => cases after; exact .framebuffer _ _

end Follows

theorem respects_follows {σ ν : Type} [BlockStorage σ] :
    Respects (Follows (σ := σ) (ν := ν)) where
  refl := .refl
  trans := .trans
  read := by
    intro offset width component
    cases component with
    | ram ram => exact .ram rfl
    | other peripheral =>
      cases peripheral with
      | clint device => exact .clint (device.extends_add _)
      | rtc device clock => exact .rtc (device.extends_add _) _ _
      | plic device => exact .plic (device.extends_add _)
      | uart device => exact .uart _ _
      | block device => exact .block _ _
      | net device => exact .net _ _
      | syscon device => exact .syscon _ _
      | framebuffer device => exact .framebuffer _ _
  write := by
    intro offset width value component
    cases component with
    | ram ram => exact .ram (Bytes.write_size ram.data offset width value)
    | other peripheral =>
      cases peripheral with
      | clint device =>
        refine .clint ?_
        split
        · exact device.extends_add _
        · exact .refl device
      | rtc device clock =>
        change Follows _ (.other (if _ then _ else _))
        split
        · exact .rtc (device.extends_add _) _ _
        · exact .rtc (.refl device) _ _
      | plic device =>
        refine .plic ?_
        split
        · exact device.extends_add _
        · exact .refl device
      | uart device => exact .uart _ _
      | block device => exact .block _ _
      | net device => exact .net _ _
      | syscon device => exact .syscon _ _
      | framebuffer device => exact .framebuffer _ _

end RvEmulator.Devices
