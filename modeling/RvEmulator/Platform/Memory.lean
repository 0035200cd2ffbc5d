import RvEmulator.Platform.Reservation

/-! A bus of devices with silent reads is quiet: what it answers depends on the
devices and reservations only, never on the routing shortcut. Memory reads back
what was written to it. -/

namespace RvEmulator.Platform

/-- Reading such a device changes nothing. -/
class QuietDevice (δ : Type) [Device δ] : Prop where
  read : (Device.read offset width device).2 = (device : δ)

instance : QuietDevice Ram where
  read := rfl

namespace SystemBus

variable {δ : Type}

/-- Equal contents; only the routing shortcut may differ. -/
structure Same (bus other : SystemBus δ) : Prop where
  layout : Layout bus.ranges
  devices : bus.devices = other.devices
  reservations : bus.reservations = other.reservations
  timeValue : bus.timeValue = other.timeValue
  writeEpoch : bus.writeEpoch = other.writeEpoch

theorem setDevice_self {bus : SystemBus δ} {index : Nat} {mounted : Mounted δ}
    (found : bus.devices[index]? = some mounted) :
    (bus.setDevice index mounted mounted.device).devices = bus.devices := by
  obtain ⟨inside, rfl⟩ := List.getElem?_eq_some_iff.mp found
  exact List.set_getElem_self inside

namespace Same

theorem self {bus : SystemBus δ} (layout : Layout bus.ranges) : Same bus bus :=
  ⟨layout, rfl, rfl, rfl, rfl⟩

variable {bus other : SystemBus δ} (same : Same bus other)

include same

theorem ranges : bus.ranges = other.ranges := by
  unfold SystemBus.ranges
  rw [same.devices]

theorem symm : Same other bus where
  layout := same.ranges ▸ same.layout
  devices := same.devices.symm
  reservations := same.reservations.symm
  timeValue := same.timeValue.symm
  writeEpoch := same.writeEpoch.symm

theorem trans {third : SystemBus δ} (next : Same other third) : Same bus third where
  layout := same.layout
  devices := same.devices.trans next.devices
  reservations := same.reservations.trans next.reservations
  timeValue := same.timeValue.trans next.timeValue
  writeEpoch := same.writeEpoch.trans next.writeEpoch

theorem released (hart : BitVec 32) : Same (bus.released hart) (other.released hart) where
  layout := same.layout
  devices := same.devices
  reservations := by simp only [SystemBus.released, same.reservations]
  timeValue := same.timeValue
  writeEpoch := same.writeEpoch

theorem reservationMatches (hart : BitVec 32) (address : PhysAddr) (width : AccessWidth) :
    bus.reservationMatches hart address width = other.reservationMatches hart address width := by
  unfold SystemBus.reservationMatches
  rw [same.reservations, same.writeEpoch]

theorem searchDevice (address : PhysAddr) (width : AccessWidth) :
    searchDevice other.devices address width = SystemBus.searchDevice bus.devices address width := by
  rw [same.devices]

theorem instructionCacheable (address : PhysAddr) :
    bus.instructionCacheable address = other.instructionCacheable address := by
  rw [instructionCacheable_eq_search same.layout, instructionCacheable_eq_search same.symm.layout,
    same.devices]

variable [Device δ]

theorem read (address : PhysAddr) (width : AccessWidth) (kind : AccessKind) :
    (read address width kind bus).1 = (read address width kind other).1 ∧
      Same (read address width kind bus).2 (read address width kind other).2 := by
  have layout : Layout (SystemBus.read address width kind bus).2.ranges := by
    rw [ranges_read same.layout]
    exact same.layout
  obtain ⟨_, left⟩ := read_eq same.layout address width kind
  obtain ⟨_, right⟩ := read_eq same.symm.layout address width kind
  rw [left] at layout ⊢
  rw [right, same.searchDevice]
  cases found : SystemBus.searchDevice bus.devices address width with
  | none => exact ⟨rfl, same.layout, same.devices, same.reservations, same.timeValue, same.writeEpoch⟩
  | some device =>
    rw [found] at layout
    exact ⟨rfl, layout, by simp only [setDevice, same.devices], same.reservations, same.timeValue,
      same.writeEpoch⟩

theorem write (address : PhysAddr) (width : AccessWidth) (value : BitVec 64) (kind : AccessKind) :
    (write address width value kind bus).1 = (write address width value kind other).1 ∧
      Same (write address width value kind bus).2 (write address width value kind other).2 := by
  have layout : Layout (SystemBus.write address width value kind bus).2.ranges := by
    rw [ranges_write same.layout]
    exact same.layout
  obtain ⟨_, left⟩ := write_eq same.layout address width value kind
  obtain ⟨_, right⟩ := write_eq same.symm.layout address width value kind
  rw [left] at layout ⊢
  rw [right, same.searchDevice]
  cases found : SystemBus.searchDevice bus.devices address width with
  | none => exact ⟨rfl, same.layout, same.devices, same.reservations, same.timeValue, same.writeEpoch⟩
  | some device =>
    rw [found] at layout
    exact ⟨rfl, layout, by simp only [setDevice, same.devices], same.reservations, same.timeValue,
      by simp only [same.writeEpoch]⟩

theorem loadReserved (width : AccessWidth) (hart : BitVec 32) (address : PhysAddr) :
    (loadReserved width hart address bus).1 = (loadReserved width hart address other).1 ∧
      Same (loadReserved width hart address bus).2 (loadReserved width hart address other).2 := by
  obtain ⟨answer, after⟩ := same.read address width .atomic
  simp only [SystemBus.loadReserved]
  split
  · exact ⟨rfl, same⟩
  · rw [answer]
    split
    · exact ⟨rfl, after.layout, after.devices, by rw [after.reservations, after.writeEpoch],
        after.timeValue, after.writeEpoch⟩
    · exact ⟨rfl, after⟩

theorem storeConditional (width : AccessWidth) (hart : BitVec 32) (address : PhysAddr)
    (value : BitVec 64) :
    (storeConditional width hart address value bus).1 =
        (storeConditional width hart address value other).1 ∧
      Same (storeConditional width hart address value bus).2
        (storeConditional width hart address value other).2 := by
  have freed := same.released hart
  obtain ⟨last, left⟩ := findDevice_eq freed.layout address width
  obtain ⟨next, right⟩ := findDevice_eq freed.symm.layout address width
  have moved : Same { bus.released hart with lastDevice := last }
      { other.released hart with lastDevice := next } :=
    ⟨freed.layout, freed.devices, freed.reservations, freed.timeValue, freed.writeEpoch⟩
  rw [freed.searchDevice] at right
  unfold SystemBus.released at left right moved
  unfold SystemBus.storeConditional
  rw [same.reservationMatches]
  split
  · exact ⟨rfl, same⟩
  dsimp only at left right moved ⊢
  rw [left, right]
  cases SystemBus.searchDevice bus.devices address width with
  | none => exact ⟨rfl, moved⟩
  | some device =>
    dsimp only
    split
    · exact ⟨rfl, moved⟩
    · obtain ⟨answer, after⟩ := moved.write address width value .atomic
      exact ⟨by rw [answer], after⟩

theorem atomic (width : AccessWidth) (address : PhysAddr) (operation : AmoOperation)
    (operand : BitVec w) :
    (atomic width address operation operand bus).1 =
        (atomic width address operation operand other).1 ∧
      Same (atomic width address operation operand bus).2
        (atomic width address operation operand other).2 := by
  obtain ⟨answer, after⟩ := same.read address width .atomic
  simp only [SystemBus.atomic]
  split
  · exact ⟨rfl, same⟩
  rw [answer]
  split
  · exact ⟨rfl, after⟩
  · obtain ⟨stored, ended⟩ := after.write address width
      ((replacement operation ((SystemBus.read address width .atomic other).1.value.setWidth w)
        operand).setWidth 64) .atomic
    exact ⟨by rw [stored], ended⟩

theorem perform (command : BusCommand) :
    (CpuBus.perform command bus).1 = (CpuBus.perform command other).1 ∧
      Same (CpuBus.perform command bus).2 (CpuBus.perform command other).2 := by
  cases command with
  | read address width kind => exact same.read address width kind
  | write address width value kind => exact same.write address width value kind
  | loadReservedWord hart address => exact same.loadReserved .word hart address
  | storeConditionalWord hart address value => exact same.storeConditional .word hart address _
  | atomicWord hart address operation operand =>
    obtain ⟨answer, after⟩ := same.atomic .word address operation operand
    exact ⟨congrArg (fun result : BusFault × BitVec 32 => AtomicResult.mk result.1 result.2) answer, after⟩
  | loadReservedDoubleword hart address => exact same.loadReserved .doubleWord hart address
  | storeConditionalDoubleword hart address value =>
    exact same.storeConditional .doubleWord hart address value
  | atomicDoubleword hart address operation operand =>
    obtain ⟨answer, after⟩ := same.atomic .doubleWord address operation operand
    exact ⟨congrArg (fun result : BusFault × BitVec 64 => AtomicResult64.mk result.1 result.2) answer, after⟩

/-- A read of quiet devices leaves everything as it was. -/
theorem read_right [QuietDevice δ] (address : PhysAddr) (width : AccessWidth) (kind : AccessKind) :
    Same bus (SystemBus.read address width kind other).2 := by
  obtain ⟨_, answer⟩ := read_eq same.symm.layout address width kind
  rw [answer]
  cases found : SystemBus.searchDevice other.devices address width with
  | none => exact ⟨same.layout, same.devices, same.reservations, same.timeValue, same.writeEpoch⟩
  | some device =>
    obtain ⟨index, mounted⟩ := device
    obtain ⟨present, _⟩ := (searchDevice_eq_some_iff same.symm.layout).mp found
    refine ⟨same.layout, ?_, same.reservations, same.timeValue, same.writeEpoch⟩
    simp only [QuietDevice.read]
    exact same.devices.trans (setDevice_self present).symm

end Same

/-- The system bus is quiet if its devices are. -/
def quiet (δ : Type) [Device δ] [QuietDevice δ] : QuietBus (SystemBus δ) where
  same := Same
  symm := Same.symm
  trans first next := first.trans next
  perform command same := same.perform command
  quiet address width kind same := same.read_right address width kind
  time same := by
    simp only [CpuBus.readTime, readTime, same.timeValue]
  cacheable address same := same.instructionCacheable address

end SystemBus

end RvEmulator.Platform
