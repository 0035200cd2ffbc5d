import Mathlib.Algebra.Ring.Nat

/-! Values assembled from bytes, the least significant first, and memories that
hold them. -/

namespace RvEmulator.Library

/-- The value of the first `count` bytes of a sequence. -/
def assemble (byte : Nat → BitVec 8) (count : Nat) : BitVec 64 :=
  (List.range count).foldl (fun value index => value ||| (byte index).setWidth 64 <<< (index * 8)) 0

theorem assemble_succ (byte : Nat → BitVec 8) (count : Nat) :
    assemble byte (count + 1) =
      assemble byte count ||| (byte count).setWidth 64 <<< (count * 8) := by
  unfold assemble
  rw [List.range_succ, List.foldl_append]
  rfl

/-- Bit `i` is bit `i % 8` of byte `i / 8`. -/
theorem getLsbD_assemble (byte : Nat → BitVec 8) (count : Nat) {i : Nat} (small : i < 64) :
    (assemble byte count).getLsbD i =
      (decide (i < count * 8) && (byte (i / 8)).getLsbD (i % 8)) := by
  induction count with
  | zero => simp [assemble]
  | succ count ih =>
    rw [assemble_succ, BitVec.getLsbD_or, ih, BitVec.getLsbD_shiftLeft]
    by_cases below : i < count * 8
    · have inside : i < (count + 1) * 8 := by omega
      simp [below, inside]
    · by_cases inside : i < (count + 1) * 8
      · have index : i / 8 = count := by omega
        have offset : i % 8 = i - count * 8 := by omega
        simp [below, inside, small, index, offset, BitVec.getLsbD_setWidth]
        omega
      · have beyond : 8 ≤ i - count * 8 := by omega
        simp [below, inside, BitVec.getLsbD_setWidth, BitVec.getLsbD_of_ge _ _ beyond]

/-- The byte of a value at a position. -/
def byteOf (value : BitVec 64) (index : Nat) : BitVec 8 := (value >>> (index * 8)).setWidth 8

theorem getLsbD_byteOf (value : BitVec 64) (index : Nat) {i : Nat} (small : i < 8) :
    (byteOf value index).getLsbD i = value.getLsbD (index * 8 + i) := by
  simp [byteOf, small]

/-- Taking a value apart and putting it together again truncates it. -/
theorem getLsbD_assemble_byteOf (value : BitVec 64) (count : Nat) {i : Nat} (small : i < 64) :
    (assemble (byteOf value) count).getLsbD i = (decide (i < count * 8) && value.getLsbD i) := by
  rw [getLsbD_assemble _ _ small, getLsbD_byteOf _ _ (Nat.mod_lt _ (by decide)),
    show i / 8 * 8 + i % 8 = i by omega]

theorem assemble_congr {byte other : Nat → BitVec 8} {count : Nat}
    (same : ∀ index < count, byte index = other index) :
    assemble byte count = assemble other count := by
  induction count with
  | zero => rfl
  | succ count ih =>
    rw [assemble_succ, assemble_succ, ih fun index below => same index (by omega),
      same count (by omega)]

/-- One byte for each address. -/
abbrev Memory := BitVec 64 → BitVec 8

namespace Memory

def get (memory : Memory) (address : BitVec 64) (count : Nat) : BitVec 64 :=
  assemble (fun index => memory (address + BitVec.ofNat 64 index)) count

def put (memory : Memory) (address : BitVec 64) (count : Nat) (value : BitVec 64) : Memory :=
  fun other =>
    if (other - address).toNat < count then byteOf value (other - address).toNat else memory other

theorem getLsbD_get (memory : Memory) (address : BitVec 64) (count : Nat) {i : Nat}
    (small : i < 64) :
    (memory.get address count).getLsbD i =
      (decide (i < count * 8) && (memory (address + BitVec.ofNat 64 (i / 8))).getLsbD (i % 8)) :=
  getLsbD_assemble _ _ small

/-- A value that was put reads back, truncated. -/
theorem getLsbD_get_put (memory : Memory) (address value : BitVec 64) {count : Nat}
    (short : count ≤ 8) {i : Nat} (small : i < 64) :
    ((memory.put address count value).get address count).getLsbD i =
      (decide (i < count * 8) && value.getLsbD i) := by
  have bytes : (memory.put address count value).get address count =
      assemble (byteOf value) count := by
    apply assemble_congr
    intro index below
    have distance : (address + BitVec.ofNat 64 index - address).toNat = index := by
      rw [BitVec.add_comm, BitVec.add_sub_cancel, BitVec.toNat_ofNat]
      omega
    simp only [put, distance, if_pos below]
  rw [bytes, getLsbD_assemble_byteOf value count small]

/-- The addresses of `length` bytes. -/
def Region (base : BitVec 64) (length : Nat) (address : BitVec 64) : Prop :=
  (address - base).toNat < length

/-- A region at an offset, in terms of the distance from where the offset starts. -/
theorem region_offset (base : BitVec 64) {offset length : Nat} (bounded : offset + length ≤ 2 ^ 64)
    (address : BitVec 64) :
    Region (base + BitVec.ofNat 64 offset) length address ↔
      offset ≤ (address - base).toNat ∧ (address - base).toNat < offset + length := by
  have distance : address - (base + BitVec.ofNat 64 offset) =
      (address - base) - BitVec.ofNat 64 offset := by
    rw [BitVec.eq_sub_iff_add_eq, BitVec.eq_sub_iff_add_eq, BitVec.add_assoc,
      BitVec.add_comm (BitVec.ofNat 64 offset), BitVec.sub_add_cancel]
  have inside := (address - base).isLt
  unfold Region
  rw [distance, BitVec.toNat_sub, BitVec.toNat_ofNat]
  omega

theorem add_succ (base : BitVec 64) (index : Nat) :
    base + 1 + BitVec.ofNat 64 index = base + BitVec.ofNat 64 (index + 1) := by
  rw [BitVec.add_assoc, Nat.add_comm, BitVec.ofNat_add]
  rfl

theorem region_add (base : BitVec 64) {length index : Nat} (inside : index < length)
    (bounded : length ≤ 2 ^ 64) : Region base length (base + BitVec.ofNat 64 index) := by
  unfold Region
  rw [BitVec.add_comm, BitVec.add_sub_cancel, BitVec.toNat_ofNat]
  omega

/-- A part of a region. -/
theorem region_of_part {base address : BitVec 64} {offset length total : Nat}
    (part : offset + length ≤ total) (bounded : total ≤ 2 ^ 64)
    (inside : Region (base + BitVec.ofNat 64 offset) length address) :
    Region base total address := by
  rw [region_offset base (by omega)] at inside
  unfold Region
  omega

theorem exists_of_region {base address : BitVec 64} {length : Nat}
    (inside : Region base length address) :
    ∃ index < length, address = base + BitVec.ofNat 64 index := by
  refine ⟨(address - base).toNat, inside, ?_⟩
  rw [BitVec.ofNat_toNat, BitVec.setWidth_eq, BitVec.add_comm, BitVec.sub_add_cancel]

theorem eq_of_region_one {base address : BitVec 64} (inside : Region base 1 address) :
    address = base := by
  have zero : address - base = 0#64 := BitVec.eq_of_toNat_eq (Nat.lt_one_iff.mp inside)
  rw [BitVec.sub_eq_iff_eq_add, BitVec.zero_add] at zero
  exact zero

theorem put_of_apart {memory : Memory} {base address : BitVec 64} {count : Nat} {value : BitVec 64}
    (apart : ¬Region base count address) : memory.put base count value address = memory address :=
  if_neg apart

/-- Memories that agree on a region have the same value there. -/
theorem get_congr {memory other : Memory} {base : BitVec 64} {count : Nat} (short : count ≤ 8)
    (same : ∀ address, Region base count address → other address = memory address) :
    other.get base count = memory.get base count :=
  assemble_congr fun _ below => same _ (region_add base below (by omega))

theorem get_put_of_apart (memory : Memory) {base other : BitVec 64} {count length : Nat}
    (value : BitVec 64) (short : length ≤ 8)
    (apart : ∀ address, Region other length address → ¬Region base count address) :
    (memory.put base count value).get other length = memory.get other length :=
  get_congr short fun address inside => put_of_apart (apart address inside)

/-- A value that was put reads back at its own width. -/
theorem get_put (memory : Memory) (base value : BitVec 64) {count w : Nat} (short : count ≤ 8)
    (width : w = count * 8) :
    ((memory.put base count value).get base count).setWidth w = value.setWidth w := by
  apply BitVec.eq_of_getLsbD_eq
  intro i inside
  rw [BitVec.getLsbD_setWidth, BitVec.getLsbD_setWidth,
    getLsbD_get_put memory base value short (by omega)]
  simp [show i < count * 8 by omega]

end Memory

end RvEmulator.Library
