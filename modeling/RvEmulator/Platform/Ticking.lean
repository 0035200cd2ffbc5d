import RvEmulator.Devices.TickKeeping
import RvEmulator.Platform.MachineBus

/-! The ticks of the devices on a bus (`SystemBus::tick_devices`), with direct memory accesses
that may reach any device, the one that ticks included. -/

namespace RvEmulator.Platform

open Devices Library

variable {σ ν : Type}

/-- The bus around a device that ticks, and where the device is mounted. What is found there in
the meantime is out of date. -/
structure Slot (σ ν : Type) where
  bus : SystemBus (Component (Peripheral σ ν))
  index : Nat
  mounted : Mounted (Component (Peripheral σ ν))

namespace Slot

/-- The device as it is now, at its place. -/
def put (slot : Slot σ ν) (device : Peripheral σ ν) : SystemBus (Component (Peripheral σ ν)) :=
  slot.bus.setDevice slot.index slot.mounted (.other device)

variable [BlockStorage σ]

def dmaRead (address : PhysAddr) (width : AccessWidth) (device : Peripheral σ ν) :
    StateM (Slot σ ν) ReadResult := fun slot =>
  let answer := SystemBus.read address width .dma (slot.put device)
  (answer.1, { slot with bus := answer.2 })

/-- A write to the device that ticks is left to it. -/
def dmaWrite (address : PhysAddr) (width : AccessWidth) (value : BitVec 64)
    (device : Peripheral σ ν) : StateM (Slot σ ν) (BitVec 64 ⊕ BusFault) := fun slot =>
  let found := (SystemBus.findDevice address width (slot.put device)).1
  let answer := SystemBus.write address width value .dma (slot.put device)
  let own := found.filter fun found => found.1 = slot.index
  (match own with
    | some (_, mounted) => .inl (address - mounted.range.base)
    | none => .inr answer.1,
    { slot with bus := answer.2 })

instance : Surroundings (VirtioBlock σ) (Slot σ ν) where
  dmaRead address width device := dmaRead address width (.block device)
  dmaWrite address width value device := dmaWrite address width value (.block device)

instance : Surroundings (VirtioNet ν) (Slot σ ν) where
  dmaRead address width device := dmaRead address width (.net device)
  dmaWrite address width value device := dmaWrite address width value (.net device)

end Slot

namespace SystemBus

variable [BlockStorage σ]

def tickClint (cycles : BitVec 64) (bus : SystemBus (Component (Peripheral σ ν))) :
    SystemBus (Component (Peripheral σ ν)) :=
  bus.update (Component.tickClint cycles)

def tickRtc (bus : SystemBus (Component (Peripheral σ ν))) :
    SystemBus (Component (Peripheral σ ν)) :=
  bus.update Component.tickRtc

def tickBlock (bus : SystemBus (Component (Peripheral σ ν))) :
    SystemBus (Component (Peripheral σ ν)) :=
  match bus.locate Component.block? with
  | none => bus
  | some (index, mounted, device) =>
    let slot : Slot σ ν := { bus, index, mounted }
    let ended := (VirtioBlock.Reentrant.tick (device, slot)).2
    ended.2.put (.block ended.1)

def tickNet [NetworkBackend ν] (cycles : BitVec 64)
    (bus : SystemBus (Component (Peripheral σ ν))) : SystemBus (Component (Peripheral σ ν)) :=
  match bus.locate Component.net? with
  | none => bus
  | some (index, mounted, device) =>
    let slot : Slot σ ν := { bus, index, mounted }
    let ended := (VirtioNet.Reentrant.tick cycles (device, slot)).2
    ended.2.put (.net ended.1)

end SystemBus

/-! ### What the ticks do to the bus -/

/-- The bus has gone on around the device. -/
structure Slot.Around (start : SystemBus (Component (Peripheral σ ν))) (index : Nat)
    (mounted : Mounted (Component (Peripheral σ ν))) (slot : Slot σ ν) : Prop where
  evolves : start.Evolves Follows slot.bus
  index : slot.index = index
  mounted : slot.mounted = mounted

section

variable {start bus : SystemBus (Component (Peripheral σ ν))} {index : Nat}
  {mounted : Mounted (Component (Peripheral σ ν))}
  (found : start.devices[index]? = some mounted)

include found

theorem Slot.Around.put {slot : Slot σ ν} (around : slot.Around start index mounted)
    {device : Peripheral σ ν} (step : Follows mounted.device (.other device)) :
    start.Evolves Follows (slot.put device) := by
  obtain ⟨evolves, rfl, rfl⟩ := around
  exact forall₂_set evolves found ⟨rfl, rfl, step⟩

variable [BlockStorage σ]

namespace Slot.Around

variable {slot : Slot σ ν} (around : slot.Around start index mounted) {device : Peripheral σ ν}
  (step : Follows mounted.device (.other device))

include around step

theorem dmaRead (address : PhysAddr) (width : AccessWidth) :
    (Slot.dmaRead address width device slot).2.Around start index mounted where
  evolves := SystemBus.evolves_trans respects_follows (around.put found step)
    (SystemBus.evolves_read respects_follows address width .dma)
  index := around.index
  mounted := around.mounted

theorem dmaWrite (address : PhysAddr) (width : AccessWidth) (value : BitVec 64) :
    (Slot.dmaWrite address width value device slot).2.Around start index mounted where
  evolves := SystemBus.evolves_trans respects_follows (around.put found step)
    (SystemBus.evolves_write respects_follows address width value .dma)
  index := around.index
  mounted := around.mounted

end Slot.Around

end

theorem Component.eq_of_block? {component : Component (Peripheral σ ν)} {device : VirtioBlock σ}
    (picked : component.block? = some device) : component = .other (.block device) := by
  unfold block? at picked
  split at picked
  · cases picked
    rfl
  · cases picked

theorem Component.eq_of_net? {component : Component (Peripheral σ ν)} {device : VirtioNet ν}
    (picked : component.net? = some device) : component = .other (.net device) := by
  unfold net? at picked
  split at picked
  · cases picked
    rfl
  · cases picked

namespace SystemBus

variable [BlockStorage σ]

theorem evolves_tickClint (cycles : BitVec 64) (bus : SystemBus (Component (Peripheral σ ν))) :
    bus.Evolves Follows (bus.tickClint cycles) := by
  refine evolves_update (fun component => ?_) bus
  unfold Component.tickClint
  split
  · exact .clint (History.extends_add _ _)
  · exact .refl _

theorem evolves_tickRtc (bus : SystemBus (Component (Peripheral σ ν))) :
    bus.Evolves Follows bus.tickRtc := by
  refine evolves_update (fun component => ?_) bus
  unfold Component.tickRtc
  split
  · exact .rtc (History.extends_add _ _) _ _
  · exact .refl _

theorem evolves_tickBlock (bus : SystemBus (Component (Peripheral σ ν))) :
    bus.Evolves Follows bus.tickBlock := by
  unfold tickBlock
  split
  · exact evolves_of_same respects_follows rfl
  rename_i index mounted device located
  obtain ⟨found, picked⟩ := locate_some located
  have step : ∀ device, Follows mounted.device (.other (.block device)) := fun _ =>
    Component.eq_of_block? picked ▸ .block _ _
  have keeps : Surroundings.Keeps (VirtioBlock σ) (Slot.Around (ν := ν) bus index mounted) :=
    ⟨fun address width device _ around => around.dmaRead found (step device) address width,
      fun address width value device _ around =>
        around.dmaWrite found (step device) address width value⟩
  have start : Slot.Around bus index mounted { bus, index, mounted } :=
    ⟨evolves_of_same respects_follows rfl, rfl, rfl⟩
  exact ((VirtioBlock.Reentrant.keeps_tick keeps).final start).put found (step _)

theorem evolves_tickNet [NetworkBackend ν] (cycles : BitVec 64)
    (bus : SystemBus (Component (Peripheral σ ν))) :
    bus.Evolves Follows (bus.tickNet cycles) := by
  unfold tickNet
  split
  · exact evolves_of_same respects_follows rfl
  rename_i index mounted device located
  obtain ⟨found, picked⟩ := locate_some located
  have step : ∀ device, Follows mounted.device (.other (.net device)) := fun _ =>
    Component.eq_of_net? picked ▸ .net _ _
  have keeps : Surroundings.Keeps (VirtioNet ν) (Slot.Around (σ := σ) bus index mounted) :=
    ⟨fun address width device _ around => around.dmaRead found (step device) address width,
      fun address width value device _ around =>
        around.dmaWrite found (step device) address width value⟩
  have start : Slot.Around bus index mounted { bus, index, mounted } :=
    ⟨evolves_of_same respects_follows rfl, rfl, rfl⟩
  exact ((VirtioNet.Reentrant.keeps_tick keeps cycles).final
    (s := (device, ({ bus, index, mounted } : Slot σ ν))) start).put found (step _)

end SystemBus

end RvEmulator.Platform
