import Mathlib.Order.CompletePartialOrder
import Mathlib.Order.Interval.Set.Disjoint
import RvEmulator.Devices.VirtioBlock
import RvEmulator.Devices.VirtioNet
import RvEmulator.Library.Unsigned

/-! The arithmetic of `update_queue_addresses`: it does not wrap around, and the parts of a
queue lie apart. -/

namespace RvEmulator.Devices

open Library Platform

namespace Rings

/-- `Rings.place`, with every operation on words made explicit. -/
def placeWith [Monad m] (arithmetic : Arithmetic 64 m) (pageFrameNumber guestPageSize : BitVec 32)
    (size : BitVec 16) (alignment : BitVec 32) : m Rings := do
  let descriptorTable ← arithmetic.mul (pageFrameNumber.setWidth 64) (guestPageSize.setWidth 64)
  let tableSize ← arithmetic.mul (size.setWidth 64) 16
  let availableRing ← arithmetic.add descriptorTable tableSize
  let entries ← arithmetic.mul (size.setWidth 64) 2
  let availableSize ← arithmetic.add 4 entries
  let value ← arithmetic.add availableRing availableSize
  let raised ← arithmetic.add value (alignment.setWidth 64)
  let last ← arithmetic.sub raised 1
  let mask ← arithmetic.sub (alignment.setWidth 64) 1
  pure { descriptorTable, availableRing, usedRing := last &&& ~~~mask }

theorem placeWith_wrapping :
    placeWith .wrapping = fun pageFrameNumber guestPageSize size alignment =>
      (pure (place pageFrameNumber guestPageSize size alignment) : Id Rings) := rfl

/-- The addresses of a part. -/
def part (start : PhysAddr) (length : Nat) : Set Nat := Set.Ico start.toNat (start.toNat + length)

/-- A queue in guest memory, as its registers say. -/
structure Placed (rings : Rings) (pageFrameNumber guestPageSize : BitVec 32) (size : BitVec 16)
    (alignment : BitVec 32) : Prop where
  checked : placeWith .checked pageFrameNumber guestPageSize size alignment = some rings
  table : rings.descriptorTable.toNat = pageFrameNumber.toNat * guestPageSize.toNat
  available : rings.availableRing.toNat = rings.descriptorTable.toNat + 16 * size.toNat
  used : IsLeast { multiple | alignment.toNat ∣ multiple ∧
    rings.availableRing.toNat + (4 + 2 * size.toNat) ≤ multiple } rings.usedRing.toNat
  inside : rings.usedRing.toNat + (4 + 8 * size.toNat) ≤ 2 ^ 64
  apart : [part rings.descriptorTable (16 * size.toNat), part rings.availableRing (4 + 2 * size.toNat),
    part rings.usedRing (4 + 8 * size.toNat)].Pairwise Disjoint
  descriptors : ∀ index < size,
    part (rings.descriptorTable + index.setWidth 64 * 16) 16 ⊆
      part rings.descriptorTable (16 * size.toNat)
  indices : part (rings.availableRing + 2) 2 ⊆ part rings.availableRing (4 + 2 * size.toNat) ∧
    part (rings.usedRing + 2) 2 ⊆ part rings.usedRing (4 + 8 * size.toNat)
  ringEntries : ∀ index,
    part (rings.ringEntry size index) 2 ⊆ part rings.availableRing (4 + 2 * size.toNat)
  usedElements : ∀ index, part (rings.usedElement size index) 4 ∪
    part (rings.usedElement size index + 4) 4 ⊆ part rings.usedRing (4 + 8 * size.toNat)

section

variable {size : BitVec 16}

theorem toNat_scaled (index : BitVec 16) {scale : Nat} (small : scale ≤ 16) :
    (index.setWidth 64 * BitVec.ofNat 64 scale).toNat = scale * index.toNat := by
  have bounded := index.isLt
  have product : index.toNat * scale ≤ 2 ^ 16 * 16 :=
    Nat.mul_le_mul (Nat.le_of_lt bounded) small
  have scaled : scale % 2 ^ 64 = scale := Nat.mod_eq_of_lt (by omega)
  have extended : index.toNat % 2 ^ 64 = index.toNat := Nat.mod_eq_of_lt (by omega)
  rw [BitVec.toNat_mul, BitVec.toNat_setWidth, BitVec.toNat_ofNat, scaled, extended,
    Nat.mod_eq_of_lt (by omega), Nat.mul_comm]

/-- The elements of a part are in it. -/
theorem element_subset {start : PhysAddr} {index : BitVec 16} {scale width offset length : Nat}
    (small : scale ≤ 16) (fits : offset + scale * index.toNat + width ≤ length)
    (bounded : start.toNat + length ≤ 2 ^ 64) (positive : 0 < width) :
    part (start + BitVec.ofNat 64 offset + index.setWidth 64 * BitVec.ofNat 64 scale) width ⊆
      part start length := by
  have place : (start + BitVec.ofNat 64 offset +
      index.setWidth 64 * BitVec.ofNat 64 scale).toNat =
        start.toNat + offset + scale * index.toNat := by
    rw [BitVec.toNat_add, BitVec.toNat_add, toNat_scaled index small, BitVec.toNat_ofNat]
    omega
  unfold part
  rw [place]
  exact Set.Ico_subset_Ico (by omega) (by omega)

end

section

variable {pageFrameNumber guestPageSize alignment : BitVec 32} {size : BitVec 16}

/-- The numbers behind a layout. -/
theorem place_eq (small : size ≤ 256) {k : Nat} (power : alignment.toNat = 2 ^ k) :
    let rings := place pageFrameNumber guestPageSize size alignment
    let stop := rings.availableRing.toNat + (4 + 2 * size.toNat)
    placeWith .checked pageFrameNumber guestPageSize size alignment = some rings ∧
      rings.descriptorTable.toNat = pageFrameNumber.toNat * guestPageSize.toNat ∧
      rings.availableRing.toNat = rings.descriptorTable.toNat + 16 * size.toNat ∧
      rings.usedRing.toNat = roundUp stop alignment.toNat ∧
      stop + alignment.toNat + 2 ^ 31 ≤ 2 ^ 64 := by
  intro rings stop
  have few : size.toNat ≤ 256 := BitVec.le_def.mp small
  have aligned := alignment.isLt
  have positive : 0 < 2 ^ k := Nat.two_pow_pos k
  have product : pageFrameNumber.toNat * guestPageSize.toNat ≤ (2 ^ 32 - 1) * (2 ^ 32 - 1) :=
    Nat.mul_le_mul (Nat.le_sub_one_of_lt pageFrameNumber.isLt)
      (Nat.le_sub_one_of_lt guestPageSize.isLt)
  have wide (word : BitVec 32) : (word.setWidth 64).toNat = word.toNat := by
    rw [BitVec.toNat_setWidth, Nat.mod_eq_of_lt (by omega)]
  have short : (size.setWidth 64).toNat = size.toNat := by
    rw [BitVec.toNat_setWidth, Nat.mod_eq_of_lt (by omega)]
  have sixteen : (size.setWidth 64 * 16).toNat = 16 * size.toNat :=
    toNat_scaled size (Nat.le_refl 16)
  have two : (size.setWidth 64 * 2).toNat = 2 * size.toNat := toNat_scaled size (by decide)
  have constants : (4 : BitVec 64).toNat = 4 ∧ (16 : BitVec 64).toNat = 16 ∧
      (2 : BitVec 64).toNat = 2 ∧ (1 : BitVec 64).toNat = 1 := ⟨rfl, rfl, rfl, rfl⟩
  obtain ⟨four, times, twice, one⟩ := constants
  have table : rings.descriptorTable.toNat = pageFrameNumber.toNat * guestPageSize.toNat := by
    dsimp only [rings, place]
    rw [BitVec.toNat_mul, wide, wide, Nat.mod_eq_of_lt (by omega)]
  have available : rings.availableRing.toNat = rings.descriptorTable.toNat + 16 * size.toNat := by
    have sum : rings.availableRing = rings.descriptorTable + size.setWidth 64 * 16 := rfl
    rw [sum, BitVec.toNat_add, sixteen]
    omega
  have header : (4 + size.setWidth 64 * 2 : BitVec 64).toNat = 4 + 2 * size.toNat := by
    rw [BitVec.toNat_add, two, four]
    omega
  have value : (rings.availableRing + (4 + size.setWidth 64 * 2)).toNat = stop := by
    rw [BitVec.toNat_add, header]
    omega
  have raised : (rings.availableRing + (4 + size.setWidth 64 * 2) + alignment.setWidth 64).toNat =
      stop + alignment.toNat := by
    rw [BitVec.toNat_add, value, wide]
    omega
  have mask : (alignment.setWidth 64 - 1).toNat = 2 ^ k - 1 := by
    rw [BitVec.toNat_sub_of_le (BitVec.le_def.mpr (by rw [wide]; omega)), wide, power, one]
  have last : (rings.availableRing + (4 + size.setWidth 64 * 2) + alignment.setWidth 64 - 1).toNat =
      stop + alignment.toNat - 1 := by
    rw [BitVec.toNat_sub_of_le (BitVec.le_def.mpr (by omega)), raised, one]
  refine ⟨?_, table, available, ?_, by omega⟩
  · have tableFits : rings.descriptorTable.toNat + (size.setWidth 64 * 16).toNat < 2 ^ 64 := by omega
    have ringFits : rings.availableRing.toNat + (4 + size.setWidth 64 * 2 : BitVec 64).toNat <
        2 ^ 64 := by omega
    have raisedFits : (rings.availableRing + (4 + size.setWidth 64 * 2)).toNat +
        (alignment.setWidth 64).toNat < 2 ^ 64 := by
      rw [value, wide]
      omega
    have lastFits : (1 : BitVec 64).toNat ≤
        (rings.availableRing + (4 + size.setWidth 64 * 2) + alignment.setWidth 64).toNat := by
      rw [raised, one]
      omega
    have maskFits : (1 : BitVec 64).toNat ≤ (alignment.setWidth 64).toNat := by
      rw [one, wide]
      omega
    unfold placeWith
    refine (Arithmetic.checked_mul _ (by rw [wide, wide]; omega)).trans ?_
    refine (Arithmetic.checked_mul _ (by rw [short, times]; omega)).trans ?_
    refine (Arithmetic.checked_add _ tableFits).trans ?_
    refine (Arithmetic.checked_mul _ (by rw [short, twice]; omega)).trans ?_
    refine (Arithmetic.checked_add _ (by rw [two, four]; omega)).trans ?_
    refine (Arithmetic.checked_add _ ringFits).trans ?_
    refine (Arithmetic.checked_add _ raisedFits).trans ?_
    exact (Arithmetic.checked_sub _ lastFits).trans (Arithmetic.checked_sub _ maskFits)
  · have result := toNat_and_not_mask
      (rings.availableRing + (4 + size.setWidth 64 * 2) + alignment.setWidth 64 - 1) mask
    rw [last, power] at result
    rw [roundUp, power]
    exact result

theorem placed (positive : size ≠ 0) (small : size ≤ 256)
    (power : isPowerOfTwo (alignment.setWidth 64) = true) :
    (place pageFrameNumber guestPageSize size alignment).Placed pageFrameNumber guestPageSize size
      alignment := by
  rw [isPowerOfTwo, Bool.and_eq_true, bne_iff_ne, beq_iff_eq] at power
  obtain ⟨k, aligned⟩ := exists_two_pow power.1 power.2
  have some : 0 < size.toNat :=
    Nat.pos_of_ne_zero fun zero => positive (BitVec.eq_of_toNat_eq zero)
  have limit := alignment.isLt
  rw [BitVec.toNat_setWidth, Nat.mod_eq_of_lt (by omega)] at aligned
  have nonzero : 0 < alignment.toNat := aligned ▸ Nat.two_pow_pos k
  obtain ⟨checked, table, available, used, room⟩ :=
    @place_eq pageFrameNumber guestPageSize alignment size small k aligned
  generalize place pageFrameNumber guestPageSize size alignment = rings at *
  have few : size.toNat ≤ 256 := BitVec.le_def.mp small
  have least := isLeast_roundUp (rings.availableRing.toNat + (4 + 2 * size.toNat)) nonzero
  have near := roundUp_lt (rings.availableRing.toNat + (4 + 2 * size.toNat)) nonzero
  have above := least.1.2
  rw [← used] at least near above
  have slot (index : BitVec 16) : (index % size).toNat < size.toNat := by
    rw [BitVec.toNat_umod]
    exact Nat.mod_lt _ some
  refine ⟨checked, table, available, least, by omega, ?_, fun index inside => ?_, ⟨?_, ?_⟩,
    fun index => ?_, fun index => Set.union_subset ?_ ?_⟩
  · simp only [List.pairwise_cons, List.mem_cons, List.not_mem_nil, or_false, forall_eq_or_imp,
      forall_eq, IsEmpty.forall_iff, implies_true, List.Pairwise.nil, and_true, part,
      Set.Ico_disjoint_Ico]
    omega
  · have below : index.toNat < size.toNat := BitVec.lt_def.mp inside
    have element := @element_subset rings.descriptorTable index 16 16 0 (16 * size.toNat)
      (Nat.le_refl 16) (by omega) (by omega) (by decide)
    rwa [BitVec.add_zero] at element
  · have element := @element_subset rings.availableRing 0 2 2 2 (4 + 2 * size.toNat) (by decide)
      (by change 2 + 2 * 0 + 2 ≤ _; omega) (by omega) (by decide)
    simpa using element
  · have element := @element_subset rings.usedRing 0 2 2 2 (4 + 8 * size.toNat) (by decide)
      (by change 2 + 2 * 0 + 2 ≤ _; omega) (by omega) (by decide)
    simpa using element
  · have below := slot index
    exact @element_subset rings.availableRing (index % size) 2 2 4 (4 + 2 * size.toNat) (by decide)
      (by omega) (by omega) (by decide)
  · have below := slot index
    exact @element_subset rings.usedRing (index % size) 8 4 4 (4 + 8 * size.toNat) (by decide)
      (by omega) (by omega) (by decide)
  · have below := slot index
    have element := @element_subset rings.usedRing (index % size) 8 4 8 (4 + 8 * size.toNat)
      (by decide) (by omega) (by omega) (by decide)
    have place : rings.usedElement size index + 4 =
        rings.usedRing + 8 + (index % size).setWidth 64 * 8 := by
      rw [usedElement, BitVec.add_assoc, BitVec.add_comm (_ * 8), ← BitVec.add_assoc,
        BitVec.add_assoc rings.usedRing]
      rfl
    rw [place]
    exact element

end

end Rings

/-- The registers of both devices, whenever they are accepted, lay out a queue. -/
theorem queue_layout :
    (∀ {σ : Type} (device : VirtioBlock σ), device.queueConfigured = true →
      device.updateQueueAddresses.rings.Placed device.queuePfn device.guestPageSize device.queueNum
        device.queueAlign) ∧
    ∀ {ν : Type} (device : VirtioNet ν) (queue : VirtioNet.Queue), device.queueConfigured queue = true →
      (device.updateQueueAddresses queue).rings.Placed queue.pageFrameNumber device.guestPageSize
        queue.size queue.alignment := by
  constructor
  · intro σ device configured
    unfold VirtioBlock.updateQueueAddresses
    rw [if_pos configured]
    simp only [VirtioBlock.queueConfigured, Bool.and_eq_true, bne_iff_ne, decide_eq_true_eq]
      at configured
    obtain ⟨⟨⟨⟨_, positive⟩, small⟩, _⟩, power⟩ := configured
    exact Rings.placed positive (BitVec.le_trans small (by decide)) power
  · intro ν device queue configured
    unfold VirtioNet.updateQueueAddresses
    rw [if_pos configured]
    simp only [VirtioNet.queueConfigured, Bool.and_eq_true, bne_iff_ne, decide_eq_true_eq]
      at configured
    obtain ⟨⟨⟨⟨_, positive⟩, small⟩, _⟩, power⟩ := configured
    exact Rings.placed positive small power

/-- The queues that come closest to the end of the addresses. -/
theorem queue_layout_last :
    (VirtioBlock.updateQueueAddresses
      { disk := { storage := () }, guestPageSize := 0xFFFFFFFF, queuePfn := 0xFFFFFFFF
        queueNum := 128, queueAlign := 0x80000000 }).rings.Placed 0xFFFFFFFF 0xFFFFFFFF 128
          0x80000000 ∧
    (VirtioNet.updateQueueAddresses (ν := Unit)
      { mac := .replicate 6 0, guestPageSize := 0x80000000 }
      { size := 256, alignment := 0x80000000, pageFrameNumber := 0xFFFFFFFF }).rings.Placed
        0xFFFFFFFF 0x80000000 256 0x80000000 :=
  ⟨queue_layout.1 _ (by decide), queue_layout.2 _ _ (by decide)⟩

end RvEmulator.Devices
