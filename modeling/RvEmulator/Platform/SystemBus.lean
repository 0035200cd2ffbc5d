import Mathlib.Data.List.Sort
import RvEmulator.Library.BinarySearch
import RvEmulator.Library.Exec
import RvEmulator.Platform.Device

/-! The system bus (`common/src/system_bus.cpp`): routing to devices, and
reservations. Performance counters are left out. -/

namespace RvEmulator.Platform

open Library

structure Reservation where
  address : PhysAddr := 0
  width : AccessWidth := .word
  writeEpoch : BitVec 64 := 0
deriving DecidableEq

/-- `lastDevice` is the position of the device that `last_device_` points to;
`timeValue` is what the time source reads, if there is one. -/
structure SystemBus (δ : Type) where
  devices : List (Mounted δ) := []
  reservations : BitVec 32 → Option Reservation := fun _ => none
  timeValue : Option (BitVec 64) := none
  writeEpoch : BitVec 64 := 0
  lastDevice : Option Nat := none

inductive AddDeviceError where
  | null | invalidRange | overlap
deriving DecidableEq, Repr

/-- The text of the exception. -/
def AddDeviceError.message : AddDeviceError → String
  | .null => "cannot add a null bus device"
  | .invalidRange => "bus device has an invalid address range"
  | .overlap => "bus device address range overlaps an existing device"

namespace SystemBus

variable {δ : Type}

/-- The order that `add_device` sorts by. -/
def baseOrder (left right : Mounted δ) : Prop := left.range.base ≤ right.range.base

instance : DecidableRel (baseOrder (δ := δ)) := fun _ _ => inferInstanceAs (Decidable (_ ≤ _))

def addDevice (device : Option (Mounted δ)) : Exec (SystemBus δ) AddDeviceError Unit := fun bus =>
  match device with
  | none => (.error .null, bus)
  | some device =>
    if device.range.size = 0 ∨ BitVec.allOnes 64 - device.range.base < device.range.size then
      (.error .invalidRange, bus)
    else if bus.devices.any fun existing => device.range.overlaps existing.range then
      (.error .overlap, bus)
    else
      (.ok (), { bus with
        devices := (bus.devices ++ [device]).insertionSort baseOrder
        lastDevice := none })

def clearReservations (bus : SystemBus δ) : SystemBus δ :=
  { bus with reservations := fun _ => none }

/-- The device at a position, if all of the access lies in its range. -/
def deviceAt (devices : List (Mounted δ)) (index : Nat) (address : PhysAddr)
    (width : AccessWidth) : Option (Nat × Mounted δ) :=
  match devices[index]? with
  | some device => if device.range.contains address width then some (index, device) else none
  | none => none

/-- The binary search, and the check of its candidate. -/
def searchDevice (devices : List (Mounted δ)) (address : PhysAddr) (width : AccessWidth) :
    Option (Nat × Mounted δ) :=
  let upper := upperBound
    (fun index => devices[index]?.any fun device => address < device.range.base) devices.length
  if upper = 0 then none else deviceAt devices (upper - 1) address width

/-- The shortcut through the device of the last access. -/
def cachedDevice (bus : SystemBus δ) (address : PhysAddr) (width : AccessWidth) :
    Option (Nat × Mounted δ) :=
  bus.lastDevice.bind fun index => deviceAt bus.devices index address width

def findDevice (address : PhysAddr) (width : AccessWidth) :
    StateM (SystemBus δ) (Option (Nat × Mounted δ)) := fun bus =>
  match bus.cachedDevice address width with
  | some found => (some found, bus)
  | none =>
    match searchDevice bus.devices address width with
    | some found => (some found, { bus with lastDevice := some found.1 })
    | none => (none, bus)

def instructionCacheable (bus : SystemBus δ) (address : PhysAddr) : Bool :=
  match bus.cachedDevice address .byte with
  | some found => found.2.instructionCacheable
  | none =>
    match searchDevice bus.devices address .byte with
    | some found => found.2.instructionCacheable
    | none => false

def readTime (bus : SystemBus δ) : BitVec 64 := bus.timeValue.getD 0

/-- The device at a position has changed. -/
def setDevice (bus : SystemBus δ) (index : Nat) (mounted : Mounted δ) (device : δ) :
    SystemBus δ :=
  { bus with devices := bus.devices.set index { mounted with device } }

section

variable [Device δ]

def read (address : PhysAddr) (width : AccessWidth) (_kind : AccessKind) :
    StateM (SystemBus δ) ReadResult := fun bus =>
  match findDevice address width bus with
  | (none, bus) => ({ fault := .unmapped }, bus)
  | (some (index, mounted), bus) =>
    let answer := Device.read (address - mounted.range.base) width mounted.device
    (answer.1, bus.setDevice index mounted answer.2)

def write (address : PhysAddr) (width : AccessWidth) (value : BitVec 64) (_kind : AccessKind) :
    StateM (SystemBus δ) BusFault := fun bus =>
  match findDevice address width bus with
  | (none, bus) => (.unmapped, bus)
  | (some (index, mounted), bus) =>
    let answer := Device.write (address - mounted.range.base) width value mounted.device
    (answer.1,
      { bus.setDevice index mounted answer.2 with
        writeEpoch := if answer.1 = .none then bus.writeEpoch + 1 else bus.writeEpoch })

/-- An address that is not a multiple of the width. -/
def misaligned (address : PhysAddr) (width : AccessWidth) : Bool :=
  (address &&& (BitVec.ofNat 64 width.bytes - 1)) != 0

def loadReserved (width : AccessWidth) (hart : BitVec 32) (address : PhysAddr) :
    StateM (SystemBus δ) ReadResult := fun bus =>
  if misaligned address width then ({ fault := .misaligned }, bus)
  else
    let answer := read address width .atomic bus
    (answer.1,
      if answer.1.ok then
        { answer.2 with
          reservations := Function.update answer.2.reservations hart
            (some { address, width, writeEpoch := answer.2.writeEpoch }) }
      else answer.2)

/-- Whether a reservation allows a store. -/
def reservationMatches (bus : SystemBus δ) (hart : BitVec 32) (address : PhysAddr)
    (width : AccessWidth) : Bool :=
  (bus.reservations hart).any fun reservation =>
    reservation.address == address && reservation.width == width &&
      reservation.writeEpoch == bus.writeEpoch

def storeConditional (width : AccessWidth) (hart : BitVec 32) (address : PhysAddr)
    (value : BitVec 64) : StateM (SystemBus δ) StoreConditionalResult := fun bus =>
  if misaligned address width then ({ fault := .misaligned, succeeded := false }, bus)
  else
    let allowed := bus.reservationMatches hart address width
    let bus := { bus with reservations := Function.update bus.reservations hart none }
    -- Even a failing SC passes the address checks of a store.
    match findDevice address width bus with
    | (none, bus) => ({ fault := .unmapped, succeeded := false }, bus)
    | (some _, bus) =>
      if !allowed then ({ fault := .none, succeeded := false }, bus)
      else
        let answer := write address width value .atomic bus
        ({ fault := answer.1, succeeded := answer.1 == .none }, answer.2)

/-- The value that an atomic operation stores. -/
def replacement (operation : AmoOperation) (original operand : BitVec w) : BitVec w :=
  match operation with
  | .swap => operand
  | .add => original + operand
  | .xor => original ^^^ operand
  | .and => original &&& operand
  | .or => original ||| operand
  | .min => if operand.slt original then operand else original
  | .max => if original.slt operand then operand else original
  | .minUnsigned => if operand < original then operand else original
  | .maxUnsigned => if original < operand then operand else original

/-- Read, combine and write back; `w` is the width in bits. -/
def atomic (width : AccessWidth) (address : PhysAddr) (operation : AmoOperation)
    (operand : BitVec w) : StateM (SystemBus δ) (BusFault × BitVec w) := fun bus =>
  if misaligned address width then ((.misaligned, 0), bus)
  else
    let loaded := read address width .atomic bus
    if !loaded.1.ok then ((loaded.1.fault, 0), loaded.2)
    else
      let original : BitVec w := loaded.1.value.setWidth w
      let stored :=
        write address width ((replacement operation original operand).setWidth 64) .atomic loaded.2
      ((stored.1, original), stored.2)

instance : CpuBus (SystemBus δ) where
  read := read
  write := write
  loadReservedWord := loadReserved .word
  storeConditionalWord hart address value := storeConditional .word hart address (value.setWidth 64)
  atomicWord _ address operation operand := fun bus =>
    let answer := atomic .word address operation operand bus
    ({ fault := answer.1.1, originalValue := answer.1.2 }, answer.2)
  loadReservedDoubleword := loadReserved .doubleWord
  storeConditionalDoubleword := storeConditional .doubleWord
  atomicDoubleword _ address operation operand := fun bus =>
    let answer := atomic .doubleWord address operation operand bus
    ({ fault := answer.1.1, originalValue := answer.1.2 }, answer.2)
  readTime := readTime
  instructionCacheable := instructionCacheable

/-- What can happen to a bus. Direct memory accesses are commands of kind `dma`;
a device changes on its own when it is ticked or when the host gives it input. -/
inductive Operation (δ : Type) where
  | addDevice (device : Option (Mounted δ))
  | setTimeSource (timeValue : Option (BitVec 64))
  | clearReservations
  | perform (command : BusCommand)
  | instructionCacheable (address : PhysAddr)
  | deviceChanged (index : Nat) (device : δ)

/-- The bus after one operation, whatever the operation returned. -/
def apply (bus : SystemBus δ) : Operation δ → SystemBus δ
  | .addDevice device => (addDevice device bus).2
  | .setTimeSource timeValue => { bus with timeValue }
  | .clearReservations => bus.clearReservations
  | .perform command => (CpuBus.perform command bus).2
  | .instructionCacheable _ => bus
  | .deviceChanged index device =>
    match bus.devices[index]? with
    | some mounted => bus.setDevice index mounted device
    | none => bus

def run (operations : List (Operation δ)) : SystemBus δ := operations.foldl apply {}

end

/-- A bus with nothing but memory, which holds a program at its beginning. -/
def ofProgram (base : PhysAddr) (size : BitVec 64) (program : List (BitVec 32)) : SystemBus Ram :=
  { devices :=
      [{ range := { base, size }
         instructionCacheable := true
         device := { data := { size := size.toNat, byte := Bytes.ofWords program } } }] }

end SystemBus

end RvEmulator.Platform
