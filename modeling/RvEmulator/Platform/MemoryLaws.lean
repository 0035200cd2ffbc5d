import RvEmulator.Library.ByteCells
import RvEmulator.Platform.RamBus

/-! The accesses of `rv/platform/endian.hpp` are loads and stores of byte cells, and RAM is
a memory of bytes under any mix of access widths. -/

namespace RvEmulator.Platform

open Library

namespace Bytes

/-- An access lies in the bytes; the end of its range is not reduced. -/
def Fits (bytes : Bytes) (offset : BitVec 64) (width : AccessWidth) : Prop :=
  offset.toNat + width.bytes ≤ bytes.size

instance (bytes : Bytes) (offset : BitVec 64) (width : AccessWidth) :
    Decidable (bytes.Fits offset width) := inferInstanceAs (Decidable (_ ≤ _))

theorem outside_iff {bytes : Bytes} {offset : BitVec 64} {width : AccessWidth} :
    (width.bytes = 0 ∨ bytes.size < width.bytes ∨ bytes.size - width.bytes < offset.toNat) ↔
      ¬bytes.Fits offset width := by
  have positive := width.bytes_pos
  unfold Fits
  omega

theorem readLittleEndian_load (bytes : Bytes) (offset : BitVec 64) (width : AccessWidth) :
    bytes.readLittleEndian offset width =
      if bytes.Fits offset width then { value := Cells.load bytes.byte offset.toNat width.bytes }
      else { fault := .outOfRange } := by
  unfold readLittleEndian
  dsimp only
  simp only [outside_iff, ite_not]
  rfl

theorem writeLittleEndian_store (bytes : Bytes) (offset : BitVec 64) (width : AccessWidth)
    (value : BitVec 64) :
    bytes.writeLittleEndian offset width value =
      if bytes.Fits offset width then
        (.none, { bytes with byte := Cells.store bytes.byte offset.toNat width.bytes value })
      else (.outOfRange, bytes) := by
  by_cases fits : bytes.Fits offset width
  · have stored : (bytes.writeLittleEndian offset width value).1 = .none := by
      unfold writeLittleEndian
      dsimp only
      rw [if_neg (outside_iff.not.mpr (not_not.mpr fits))]
    obtain ⟨_, size, cells⟩ := writeLittleEndian_eq stored
    rw [if_pos fits, ← stored, ← size]
    exact congrArg (Prod.mk _) (congrArg (Bytes.mk _) (funext cells))
  · unfold writeLittleEndian
    dsimp only
    rw [if_pos (outside_iff.mpr fits), if_neg fits]

section

variable (bytes : Bytes) (offset other : BitVec 64) (width wide : AccessWidth) (value word : BitVec 64)

theorem read_fault_iff :
    (bytes.readLittleEndian offset width).fault ≠ .none ↔ ¬bytes.Fits offset width := by
  rw [readLittleEndian_load]
  split <;> simp_all

theorem write_fault :
    (bytes.writeLittleEndian offset width value).1 =
      if bytes.Fits offset width then .none else .outOfRange := by
  rw [writeLittleEndian_store]
  split <;> rfl

theorem write_fault_iff :
    (bytes.writeLittleEndian offset width value).1 ≠ .none ↔ ¬bytes.Fits offset width := by
  rw [write_fault]
  split <;> simp_all

theorem write_size : (bytes.writeLittleEndian offset width value).2.size = bytes.size := by
  rw [writeLittleEndian_store]
  split <;> rfl

theorem write_fault_write :
    ((bytes.writeLittleEndian offset width value).2.writeLittleEndian other wide word).1 =
      (bytes.writeLittleEndian other wide word).1 := by
  have same : (bytes.writeLittleEndian offset width value).2.Fits other wide ↔
      bytes.Fits other wide := by
    unfold Fits
    rw [write_size]
  simp only [write_fault, same]

/-- The bytes of a value that is read after a write. -/
theorem byteOf_read_write (stored : (bytes.writeLittleEndian offset width value).1 = .none)
    (loaded : ((bytes.writeLittleEndian offset width value).2.readLittleEndian other wide).fault =
      .none) (index : Nat) :
    byteOf ((bytes.writeLittleEndian offset width value).2.readLittleEndian other wide).value index =
      if wide.bytes ≤ index then 0
      else if offset.toNat ≤ other.toNat + index ∧
          other.toNat + index < offset.toNat + width.bytes then
        byteOf value (other.toNat + index - offset.toNat)
      else bytes.byte (other.toNat + index) := by
  have fits : bytes.Fits offset width := by
    by_contra outside
    exact (write_fault_iff bytes offset width value).mpr outside stored
  have within := not_not.mp ((read_fault_iff _ other wide).not.mp (not_not.mpr loaded))
  rw [readLittleEndian_load, if_pos within, writeLittleEndian_store, if_pos fits]
  dsimp only
  rw [Cells.byteOf_load _ _ wide.bytes_le]
  by_cases beyond : wide.bytes ≤ index
  · rw [if_neg (Nat.not_lt.mpr beyond), if_pos beyond]
  · rw [if_pos (Nat.lt_of_not_le beyond), if_neg beyond]
    rfl

/-- Writes of disjoint ranges commute, refused or not. -/
theorem write_comm
    (apart : offset.toNat + width.bytes ≤ other.toNat ∨ other.toNat + wide.bytes ≤ offset.toNat) :
    ((bytes.writeLittleEndian offset width value).2.writeLittleEndian other wide word).2 =
      ((bytes.writeLittleEndian other wide word).2.writeLittleEndian offset width value).2 := by
  have kept (cells : Cells) : Fits { bytes with byte := cells } = bytes.Fits := rfl
  by_cases first : bytes.Fits offset width <;> by_cases second : bytes.Fits other wide <;>
    simp only [writeLittleEndian_store, kept, first, second, if_true, if_false]
  rw [Cells.store_comm bytes.byte value word apart]

end

end Bytes

/-! ### Accesses to RAM -/

inductive Access where
  | read (offset : BitVec 64) (width : AccessWidth)
  | write (offset : BitVec 64) (width : AccessWidth) (value : BitVec 64)
deriving DecidableEq, Repr

namespace Access

/-- An access that RAM serves. A write has no value. -/
def serve : Access → StateM Ram ReadResult
  | .read offset width => Device.read offset width
  | .write offset width value => fun ram =>
    ({ fault := (Device.write offset width value ram).1 }, (Device.write offset width value ram).2)

/-- What the access is to byte cells. -/
def specified (size : Nat) : Access → StateM Cells ReadResult
  | .read offset width => fun cells =>
    if offset.toNat + width.bytes ≤ size then
      ({ value := cells.load offset.toNat width.bytes }, cells)
    else ({ fault := .outOfRange }, cells)
  | .write offset width value => fun cells =>
    if offset.toNat + width.bytes ≤ size then ({}, cells.store offset.toNat width.bytes value)
    else ({ fault := .outOfRange }, cells)

/-- The accesses of a list, one after the other. -/
def all (step : Access → StateM σ ReadResult) : List Access → σ → List ReadResult × σ
  | [], state => ([], state)
  | access :: accesses, state =>
    let (answer, next) := step access state
    let (answers, last) := all step accesses next
    (answer :: answers, last)

theorem serve_eq (access : Access) (ram : Ram) :
    access.serve ram =
      ((access.specified ram.data.size ram.data.byte).1,
        { data := { ram.data with byte := (access.specified ram.data.size ram.data.byte).2 } }) := by
  cases access with
  | read offset width =>
    by_cases fits : offset.toNat + width.bytes ≤ ram.data.size <;>
      simp only [serve, specified, Device.read, Bytes.readLittleEndian_load, Bytes.Fits, fits,
        if_true, if_false]
  | write offset width value =>
    by_cases fits : offset.toNat + width.bytes ≤ ram.data.size <;>
      simp only [serve, specified, Device.write, Bytes.writeLittleEndian_store, Bytes.Fits, fits,
        if_true, if_false]

theorem all_serve (accesses : List Access) (ram : Ram) :
    all serve accesses ram =
      ((all (specified ram.data.size) accesses ram.data.byte).1,
        { data :=
          { ram.data with byte := (all (specified ram.data.size) accesses ram.data.byte).2 } }) := by
  induction accesses generalizing ram with
  | nil => rfl
  | cons access accesses ih =>
    simp only [all, serve_eq, ih]
    rfl

end Access

/-- The laws of little-endian accesses, at any two places of any bytes, and of any accesses
to RAM. -/
theorem little_endian_laws (bytes : Bytes) (offset other : BitVec 64) (width wide : AccessWidth)
    (value word : BitVec 64) :
    -- A write and a read, where both are inside the bytes.
    ((bytes.writeLittleEndian offset width value).1 = .none →
      ((bytes.writeLittleEndian offset width value).2.readLittleEndian other wide).fault = .none →
      ∀ index,
        byteOf ((bytes.writeLittleEndian offset width value).2.readLittleEndian other wide).value
            index =
          if wide.bytes ≤ index then 0
          else if offset.toNat ≤ other.toNat + index ∧
              other.toNat + index < offset.toNat + width.bytes then
            byteOf value (other.toNat + index - offset.toNat)
          else bytes.byte (other.toNat + index)) ∧
    -- They are refused exactly where they are not, and change nothing then.
    ((bytes.readLittleEndian offset width).fault ≠ .none ↔
      bytes.size < offset.toNat + width.bytes) ∧
    ((bytes.writeLittleEndian offset width value).1 ≠ .none ↔
      bytes.size < offset.toNat + width.bytes) ∧
    ((bytes.writeLittleEndian offset width value).1 ≠ .none →
      (bytes.writeLittleEndian offset width value).2 = bytes) ∧
    (bytes.writeLittleEndian offset width value).2.size = bytes.size ∧
    -- Writes of disjoint ranges commute.
    (offset.toNat + width.bytes ≤ other.toNat ∨ other.toNat + wide.bytes ≤ offset.toNat →
      ((bytes.writeLittleEndian offset width value).2.writeLittleEndian other wide word).2 =
          ((bytes.writeLittleEndian other wide word).2.writeLittleEndian offset width value).2 ∧
        ((bytes.writeLittleEndian offset width value).2.writeLittleEndian other wide word).1 =
          (bytes.writeLittleEndian other wide word).1 ∧
        ((bytes.writeLittleEndian other wide word).2.writeLittleEndian offset width value).1 =
          (bytes.writeLittleEndian offset width value).1) ∧
    -- RAM serves accesses as byte cells do.
    ∀ accesses,
      Access.all Access.serve accesses { data := bytes } =
        ((Access.all (Access.specified bytes.size) accesses bytes.byte).1,
          { data := { bytes with
            byte := (Access.all (Access.specified bytes.size) accesses bytes.byte).2 } }) := by
  refine ⟨bytes.byteOf_read_write offset other width wide value,
    (bytes.read_fault_iff offset width).trans Nat.not_le,
    (bytes.write_fault_iff offset width value).trans Nat.not_le, fun refused => ?_,
    bytes.write_size offset width value,
    fun apart => ⟨bytes.write_comm offset other width wide value word apart,
      bytes.write_fault_write .., bytes.write_fault_write ..⟩,
    fun accesses => Access.all_serve accesses _⟩
  rw [bytes.writeLittleEndian_store,
    if_neg ((bytes.write_fault_iff offset width value).mp refused)]

end RvEmulator.Platform
