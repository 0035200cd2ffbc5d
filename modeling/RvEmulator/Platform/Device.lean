import Mathlib.Algebra.Ring.Nat
import Mathlib.Logic.Function.Basic
import RvEmulator.Common.Bus

/-! Bus devices: address ranges, the device interface, little-endian byte arrays
and RAM (`rv/platform/device.hpp`, `endian.hpp`, `devices/src/ram.cpp`). -/

namespace RvEmulator.Platform

structure AddressRange where
  base : PhysAddr := 0
  size : BitVec 64 := 0
deriving DecidableEq, Repr

namespace AddressRange

def endExclusive (range : AddressRange) : PhysAddr := range.base + range.size

def contains (range : AddressRange) (address : PhysAddr) (width : AccessWidth) : Bool :=
  let bytes := BitVec.ofNat 64 width.bytes
  if range.size = 0 ∨ bytes = 0 ∨ range.size < bytes ∨ address < range.base then false
  else decide (address - range.base ≤ range.size - bytes)

def overlaps (range other : AddressRange) : Bool :=
  if range.size = 0 ∨ other.size = 0 then false
  else decide (range.base < other.endExclusive ∧ other.base < range.endExclusive)

/-- The addresses of the range, as numbers. -/
def Holds (range : AddressRange) (address : Nat) : Prop :=
  range.base.toNat ≤ address ∧ address < range.base.toNat + range.size.toNat

/-- All of an access lies in the range, and the access does not wrap around. -/
def Covers (range : AddressRange) (address : PhysAddr) (bytes : Nat) : Prop :=
  range.base.toNat ≤ address.toNat ∧
    address.toNat + bytes ≤ range.base.toNat + range.size.toNat

/-- A nonempty range that ends below the top of the address space. -/
def Valid (range : AddressRange) : Prop :=
  range.size ≠ 0 ∧ range.base.toNat + range.size.toNat ≤ 2 ^ 64 - 1

/-- Two ranges without a common address. -/
def Apart (range other : AddressRange) : Prop :=
  ∀ address, ¬(range.Holds address ∧ other.Holds address)

theorem contains_iff (range : AddressRange) (address : PhysAddr) (width : AccessWidth) :
    range.contains address width = true ↔ range.Covers address width.bytes := by
  have small : 0 < width.bytes ∧ width.bytes < 2 ^ 64 := by cases width <;> decide
  have bytes : (BitVec.ofNat 64 width.bytes).toNat = width.bytes := by
    rw [BitVec.toNat_ofNat, Nat.mod_eq_of_lt small.2]
  unfold contains Covers
  dsimp only
  have positive : BitVec.ofNat 64 width.bytes ≠ 0 := by
    intro zero
    rw [zero] at bytes
    simp at bytes
    omega
  have empty : range.size = 0 → range.size < BitVec.ofNat 64 width.bytes := by
    intro zero
    rw [zero, BitVec.lt_def, bytes]
    simpa using small.1
  split
  · rename_i outside
    have refused : range.size.toNat < width.bytes ∨ address.toNat < range.base.toNat := by
      rcases outside with zero | none | short | below
      · exact .inl (bytes ▸ BitVec.lt_def.mp (empty zero))
      · exact absurd none positive
      · exact .inl (bytes ▸ BitVec.lt_def.mp short)
      · exact .inr (BitVec.lt_def.mp below)
    constructor
    · exact fun h => nomatch h
    · omega
  · rename_i inside
    simp only [not_or, BitVec.not_lt, BitVec.le_def, bytes] at inside
    obtain ⟨_, _, enough, above⟩ := inside
    rw [decide_eq_true_iff, BitVec.le_def, BitVec.toNat_sub_of_le (by rwa [BitVec.le_def]),
      BitVec.toNat_sub_of_le (by rwa [BitVec.le_def, bytes]), bytes]
    omega

theorem overlaps_iff {range other : AddressRange} (valid : range.Valid) (otherValid : other.Valid) :
    range.overlaps other = true ↔ ¬range.Apart other := by
  obtain ⟨nonempty, bounded⟩ := valid
  obtain ⟨otherNonempty, otherBounded⟩ := otherValid
  have positive : 0 < range.size.toNat :=
    Nat.pos_of_ne_zero fun zero => nonempty (BitVec.eq_of_toNat_eq (by simpa using zero))
  have otherPositive : 0 < other.size.toNat :=
    Nat.pos_of_ne_zero fun zero => otherNonempty (BitVec.eq_of_toNat_eq (by simpa using zero))
  unfold overlaps endExclusive Apart Holds
  rw [if_neg (not_or.mpr ⟨nonempty, otherNonempty⟩), decide_eq_true_iff, BitVec.lt_def, BitVec.lt_def,
    BitVec.toNat_add_of_lt (by omega), BitVec.toNat_add_of_lt (by omega)]
  constructor
  · intro crossing apart
    apply apart (max range.base.toNat other.base.toNat)
    omega
  · intro meeting
    simp only [not_forall, not_not] at meeting
    obtain ⟨address, inside⟩ := meeting
    omega

/-- A valid range covers an access if and only if it holds all its addresses. -/
theorem Covers.holds {range : AddressRange} {address : PhysAddr} {bytes : Nat}
    (covers : range.Covers address bytes) (positive : 0 < bytes) : range.Holds address.toNat := by
  unfold Covers at covers
  unfold Holds
  omega

end AddressRange

/-- The virtual methods of `Device` that transfer data. No device of the
repository changes when it refuses a write. -/
class Device (δ : Type) where
  read : BitVec 64 → AccessWidth → StateM δ ReadResult
  write : BitVec 64 → AccessWidth → BitVec 64 → StateM δ BusFault
  refused : (write offset width value device).1 ≠ .none →
    (write offset width value device).2 = device

/-- A device on the bus. Its range and cacheability are fixed when it is made. -/
structure Mounted (δ : Type) where
  range : AddressRange
  instructionCacheable : Bool := false
  device : δ

/-- A byte array; `byte` is only asked below the size. -/
structure Bytes where
  size : Nat
  byte : Nat → BitVec 8 := fun _ => 0

namespace Bytes

/-- The bytes of a list of words, followed by zeros. -/
def ofWords (words : List (BitVec 32)) (index : Nat) : BitVec 8 :=
  (words.getD (index / 4) 0 >>> (index % 4 * 8)).setWidth 8

def readLittleEndian (bytes : Bytes) (offset : BitVec 64) (width : AccessWidth) : ReadResult :=
  let count := width.bytes
  if count = 0 ∨ bytes.size < count ∨ bytes.size - count < offset.toNat then
    { fault := .outOfRange }
  else
    { value := (List.range count).foldl
        (fun value index =>
          value ||| (bytes.byte (offset.toNat + index)).setWidth 64 <<< (index * 8)) 0 }

def writeLittleEndian (bytes : Bytes) (offset : BitVec 64) (width : AccessWidth)
    (value : BitVec 64) : BusFault × Bytes :=
  let count := width.bytes
  if count = 0 ∨ bytes.size < count ∨ bytes.size - count < offset.toNat then (.outOfRange, bytes)
  else
    (.none, (List.range count).foldl
      (fun bytes index =>
        { bytes with
          byte := Function.update bytes.byte (offset.toNat + index)
            (((value >>> (index * 8)) &&& 0xFF).setWidth 8) }) bytes)

end Bytes

structure Ram where
  data : Bytes

namespace Ram

/-- `none` where the constructor throws. -/
def new (base : PhysAddr) (size : BitVec 64) : Option (Mounted Ram) :=
  if size = 0 then none
  else
    some
      { range := { base, size }
        instructionCacheable := true
        device := { data := { size := size.toNat } } }

instance : Device Ram where
  read offset width := fun ram => (ram.data.readLittleEndian offset width, ram)
  write offset width value := fun ram =>
    ((ram.data.writeLittleEndian offset width value).1,
      { data := (ram.data.writeLittleEndian offset width value).2 })
  refused := by
    intro offset width value ram failed
    unfold Bytes.writeLittleEndian at failed ⊢
    dsimp only at failed ⊢
    split
    · rfl
    · rename_i inside
      rw [if_neg inside] at failed
      exact absurd rfl failed

end Ram

end RvEmulator.Platform
