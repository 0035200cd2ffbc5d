import RvEmulator.Common.RamLike
import RvEmulator.Platform.Memory

/-! A system bus with nothing but RAM on it behaves like memory. -/

namespace RvEmulator.Platform

open Library

namespace Bytes

theorem readLittleEndian_eq {bytes : Bytes} {offset : BitVec 64} {width : AccessWidth}
    (inside : (bytes.readLittleEndian offset width).fault = .none) :
    offset.toNat + width.bytes ≤ bytes.size ∧
      (bytes.readLittleEndian offset width).value =
        assemble (fun index => bytes.byte (offset.toNat + index)) width.bytes := by
  unfold readLittleEndian at inside ⊢
  dsimp only at inside ⊢
  split
  · rename_i outside
    rw [if_pos outside] at inside
    cases inside
  · exact ⟨by omega, rfl⟩

theorem readLittleEndian_ok {bytes : Bytes} {offset : BitVec 64} {width : AccessWidth}
    (inside : offset.toNat + width.bytes ≤ bytes.size) :
    (bytes.readLittleEndian offset width).fault = .none := by
  have positive := width.bytes_pos
  unfold readLittleEndian
  dsimp only
  rw [if_neg (by omega)]

/-- The stores of the first `count` bytes. -/
theorem foldl_update (bytes : Bytes) (offset : Nat) (value : BitVec 64) (count : Nat) :
    let stored := (List.range count).foldl
      (fun bytes index =>
        { bytes with
          byte := Function.update bytes.byte (offset + index)
            (((value >>> (index * 8)) &&& 0xFF).setWidth 8) }) bytes
    stored.size = bytes.size ∧
      ∀ i, stored.byte i =
        if offset ≤ i ∧ i < offset + count then byteOf value (i - offset) else bytes.byte i := by
  intro stored
  induction count with
  | zero =>
    refine ⟨rfl, fun i => ?_⟩
    rw [if_neg (by omega)]
    rfl
  | succ count ih =>
    obtain ⟨size, bytes⟩ := ih
    simp only [stored, List.range_succ, List.foldl_append, List.foldl_cons, List.foldl_nil]
    refine ⟨size, fun i => ?_⟩
    have masked : ((value >>> (count * 8)) &&& 0xFF).setWidth 8 = byteOf value count := by
      apply BitVec.eq_of_getLsbD_eq
      intro j small
      have ones : ∀ k < 8, (0xFF : BitVec 64).getLsbD k = true := by decide
      rw [getLsbD_byteOf _ _ small, BitVec.getLsbD_setWidth, BitVec.getLsbD_and, ones j small,
        BitVec.getLsbD_ushiftRight]
      simp [small]
    rw [masked, Function.update_apply, bytes]
    by_cases last : i = offset + count
    · subst last
      simp
    · rw [if_neg last]
      by_cases below : offset ≤ i ∧ i < offset + count
      · rw [if_pos below, if_pos (by omega)]
      · rw [if_neg below, if_neg (by omega)]

theorem writeLittleEndian_eq {bytes : Bytes} {offset : BitVec 64} {width : AccessWidth}
    {value : BitVec 64} (stored : (bytes.writeLittleEndian offset width value).1 = .none) :
    offset.toNat + width.bytes ≤ bytes.size ∧
      (bytes.writeLittleEndian offset width value).2.size = bytes.size ∧
      ∀ i, (bytes.writeLittleEndian offset width value).2.byte i =
        if offset.toNat ≤ i ∧ i < offset.toNat + width.bytes then byteOf value (i - offset.toNat)
        else bytes.byte i := by
  unfold writeLittleEndian at stored ⊢
  dsimp only at stored ⊢
  split
  · rename_i outside
    rw [if_pos outside] at stored
    cases stored
  · exact ⟨by omega, foldl_update bytes offset.toNat value width.bytes⟩

end Bytes

namespace SystemBus

/-- The byte at every address; addresses without memory hold 0. -/
def contents (bus : SystemBus Ram) : Memory := fun address =>
  match searchDevice bus.devices address .byte with
  | some (_, mounted) => mounted.device.data.byte (address - mounted.range.base).toNat
  | none => 0

theorem contents_congr {bus other : SystemBus Ram} (same : bus.devices = other.devices) :
    bus.contents = other.contents := by
  unfold contents
  rw [same]

/-- A covered address and its offset. -/
theorem covers_offset {range : AddressRange} (valid : range.Valid) {address other : PhysAddr}
    {bytes : Nat} (covers : range.Covers address bytes) (near : (other - address).toNat < bytes) :
    range.Covers other 1 ∧
      (other - range.base).toNat = (address - range.base).toNat + (other - address).toNat := by
  obtain ⟨above, below⟩ := covers
  have bounded := valid.2
  have place : other.toNat = address.toNat + (other - address).toNat := by
    have sum : other = address + (other - address) := by
      rw [BitVec.add_comm, BitVec.sub_add_cancel]
    have carried := congrArg BitVec.toNat sum
    rw [BitVec.toNat_add, Nat.mod_eq_of_lt (by omega)] at carried
    exact carried
  refine ⟨⟨by omega, by omega⟩, ?_⟩
  rw [BitVec.toNat_sub_of_le (BitVec.le_def.mpr (by omega)),
    BitVec.toNat_sub_of_le (BitVec.le_def.mpr above)]
  omega

theorem contents_eq {bus : SystemBus Ram} (layout : Layout bus.ranges) {index : Nat}
    {mounted : Mounted Ram} (found : bus.devices[index]? = some mounted) {address : PhysAddr}
    (covers : mounted.range.Covers address 1) :
    bus.contents address = mounted.device.data.byte (address - mounted.range.base).toNat := by
  have searched : searchDevice bus.devices address .byte = some (index, mounted) :=
    (searchDevice_eq_some_iff layout).mpr ⟨found, covers⟩
  simp only [contents, searched]

/-- A changed device changes the addresses of its range only. -/
theorem contents_setDevice {bus : SystemBus Ram} (layout : Layout bus.ranges) {index : Nat}
    {mounted : Mounted Ram} (found : bus.devices[index]? = some mounted) (device : Ram)
    (address : PhysAddr) :
    (mounted.range.Covers address 1 →
        (bus.setDevice index mounted device).contents address =
          device.data.byte (address - mounted.range.base).toNat) ∧
      (¬mounted.range.Covers address 1 →
        (bus.setDevice index mounted device).contents address = bus.contents address) := by
  have kept : Layout (bus.setDevice index mounted device).ranges := by
    rw [ranges_setDevice found]
    exact layout
  obtain ⟨inside, _⟩ := List.getElem?_eq_some_iff.mp found
  have others : ∀ j, (bus.setDevice index mounted device).devices[j]? =
      if index = j then some { mounted with device } else bus.devices[j]? := by
    intro j
    rw [setDevice, List.getElem?_set]
    by_cases here : index = j
    · subst here
      simp [inside]
    · simp [here]
  constructor
  · intro covers
    have present : (bus.setDevice index mounted device).devices[index]? =
        some { mounted with device } := by
      rw [others, if_pos rfl]
    exact contents_eq kept present covers
  · intro outside
    have searched : searchDevice (bus.setDevice index mounted device).devices address .byte =
        searchDevice bus.devices address .byte := by
      apply Option.ext
      rintro ⟨j, other⟩
      rw [searchDevice_eq_some_iff kept, searchDevice_eq_some_iff layout, others]
      by_cases here : index = j
      · subst here
        rw [if_pos rfl, found]
        constructor
        · rintro ⟨same, covers⟩
          cases same
          exact absurd covers outside
        · rintro ⟨same, covers⟩
          cases same
          exact absurd covers outside
      · rw [if_neg here]
    simp only [contents, searched]

variable {bus : SystemBus Ram} (layout : Layout bus.ranges)

include layout

theorem valid_of_found {index : Nat} {mounted : Mounted Ram}
    (found : bus.devices[index]? = some mounted) : mounted.range.Valid := by
  obtain ⟨inside, rfl⟩ := List.getElem?_eq_some_iff.mp found
  exact layout.valid _ (List.mem_map_of_mem (List.getElem_mem inside))

theorem read_contents (address : PhysAddr) (width : AccessWidth) (kind : AccessKind)
    (succeeded : (read address width kind bus).1.fault = .none) :
    (read address width kind bus).1.value = bus.contents.get address width.bytes := by
  obtain ⟨last, answer⟩ := read_eq layout address width kind
  rw [answer] at succeeded ⊢
  cases found : searchDevice bus.devices address width with
  | none =>
    rw [found] at succeeded
    cases succeeded
  | some device =>
    obtain ⟨index, mounted⟩ := device
    obtain ⟨present, covers⟩ := (searchDevice_eq_some_iff layout).mp found
    rw [found] at succeeded
    obtain ⟨_, value⟩ := Bytes.readLittleEndian_eq succeeded
    refine value.trans (assemble_congr ?_)
    intro byte below
    have short := width.bytes_le
    have distance : (address + BitVec.ofNat 64 byte - address).toNat = byte := by
      rw [BitVec.add_comm, BitVec.add_sub_cancel, BitVec.toNat_ofNat]
      omega
    obtain ⟨covered, offset⟩ := covers_offset (valid_of_found layout present) covers
      (show (address + BitVec.ofNat 64 byte - address).toNat < width.bytes by omega)
    rw [contents_eq layout present covered, offset, distance]

theorem contents_write (address : PhysAddr) (width : AccessWidth) (value : BitVec 64)
    (kind : AccessKind) (succeeded : (write address width value kind bus).1 = .none) :
    (write address width value kind bus).2.contents =
        bus.contents.put address width.bytes value ∧
      (read address width kind (write address width value kind bus).2).1.fault = .none := by
  have kept : Layout (write address width value kind bus).2.ranges := by
    rw [ranges_write layout]
    exact layout
  obtain ⟨last, answer⟩ := write_eq layout address width value kind
  obtain ⟨next, reading⟩ := read_eq kept address width kind
  rw [reading]
  rw [answer] at succeeded kept ⊢
  cases found : searchDevice bus.devices address width with
  | none =>
    rw [found] at succeeded
    cases succeeded
  | some device =>
    obtain ⟨index, mounted⟩ := device
    obtain ⟨present, covers⟩ := (searchDevice_eq_some_iff layout).mp found
    obtain ⟨inside, _⟩ := List.getElem?_eq_some_iff.mp present
    rw [found] at succeeded kept
    obtain ⟨fits, size, bytes⟩ := Bytes.writeLittleEndian_eq succeeded
    have valid := valid_of_found layout present
    constructor
    · funext other
      obtain ⟨here, elsewhere⟩ := contents_setDevice layout present
        (Device.write (address - mounted.range.base) width value mounted.device).2 other
      refine Eq.trans (b := (bus.setDevice index mounted _).contents other) rfl ?_
      by_cases covered : mounted.range.Covers other 1
      · rw [here covered]
        refine (bytes _).trans ?_
        have above := covered.1
        have reached := covers.1
        have base := BitVec.toNat_sub_of_le (BitVec.le_def.mpr above)
        have start := BitVec.toNat_sub_of_le (BitVec.le_def.mpr covers.1)
        by_cases near : (other - address).toNat < width.bytes
        · obtain ⟨_, offset⟩ := covers_offset valid covers near
          rw [offset, if_pos (by omega), Nat.add_sub_cancel_left, Memory.put, if_pos near]
        · have far : ¬((address - mounted.range.base).toNat ≤ (other - mounted.range.base).toNat ∧
              (other - mounted.range.base).toNat <
                (address - mounted.range.base).toNat + width.bytes) := by
            rintro ⟨low, high⟩
            rw [base, start] at low high
            have after : address.toNat ≤ other.toNat := by omega
            rw [BitVec.toNat_sub_of_le (BitVec.le_def.mpr after)] at near
            omega
          rw [if_neg far, Memory.put, if_neg near, contents_eq layout present covered]
      · have far : ¬(other - address).toNat < width.bytes :=
          fun near => covered (covers_offset valid covers near).1
        rw [elsewhere covered, Memory.put, if_neg far]
    · have moved : (bus.setDevice index mounted
          (Device.write (address - mounted.range.base) width value mounted.device).2).devices[index]? =
          some { mounted with
            device := (Device.write (address - mounted.range.base) width value mounted.device).2 } := by
        simp [setDevice, inside]
      have searched := (searchDevice_eq_some_iff kept).mpr ⟨moved, covers⟩
      dsimp only at searched ⊢
      rw [searched]
      exact Bytes.readLittleEndian_ok (size ▸ fits)

theorem contents_refused (address : PhysAddr) (width : AccessWidth) (value : BitVec 64)
    (kind : AccessKind) (failed : (write address width value kind bus).1 ≠ .none) :
    (write address width value kind bus).2.contents = bus.contents := by
  obtain ⟨last, answer⟩ := write_eq layout address width value kind
  rw [answer] at failed ⊢
  cases found : searchDevice bus.devices address width with
  | none => rfl
  | some device =>
    obtain ⟨index, mounted⟩ := device
    obtain ⟨present, _⟩ := (searchDevice_eq_some_iff layout).mp found
    rw [found] at failed
    dsimp only
    rw [Device.refused failed]
    exact contents_congr (setDevice_self present)

theorem contents_read (address : PhysAddr) (width : AccessWidth) (kind : AccessKind) :
    (read address width kind bus).2.contents = bus.contents :=
  contents_congr (Same.read_right (Same.self layout) address width kind).devices.symm

theorem contents_loadReserved (width : AccessWidth) (hart : BitVec 32) (address : PhysAddr) :
    (loadReserved width hart address bus).2.contents = bus.contents := by
  have kept := contents_read layout address width .atomic
  simp only [loadReserved]
  split
  · rfl
  · split <;> exact kept

theorem contents_storeConditional (width : AccessWidth) (hart : BitVec 32) (address : PhysAddr)
    (value : BitVec 64) (failed : (storeConditional width hart address value bus).1.fault ≠ .none) :
    (storeConditional width hart address value bus).2.contents = bus.contents := by
  have freed : Layout (bus.released hart).ranges := layout
  obtain ⟨last, found⟩ := findDevice_eq freed address width
  unfold released at found
  unfold storeConditional at failed ⊢
  dsimp only at found failed ⊢
  split
  · rfl
  rename_i aligned
  rw [if_neg aligned] at failed
  rw [found] at failed ⊢
  cases searched : searchDevice bus.devices address width with
  | none => rfl
  | some device =>
    rw [searched] at failed
    dsimp only at failed ⊢
    split
    · rfl
    · rename_i allowed
      rw [if_neg allowed] at failed
      have moved : Layout ({ bus.released hart with lastDevice := last } : SystemBus Ram).ranges :=
        layout
      exact contents_refused moved address width value .atomic failed

theorem contents_atomic (width : AccessWidth) (address : PhysAddr) (operation : AmoOperation)
    (operand : BitVec w) (failed : (atomic width address operation operand bus).1.1 ≠ .none) :
    (atomic width address operation operand bus).2.contents = bus.contents := by
  have kept := contents_read layout address width .atomic
  have moved : Layout (read address width .atomic bus).2.ranges := by
    rw [ranges_read layout]
    exact layout
  unfold atomic at failed ⊢
  dsimp only at failed ⊢
  split
  · rfl
  rename_i aligned
  rw [if_neg aligned] at failed
  split
  · exact kept
  · rename_i loaded
    rw [if_neg loaded] at failed
    exact (contents_refused moved address width _ .atomic failed).trans kept

omit layout

/-- RAM on a system bus is RAM-like. -/
def ramLike : RamLike (SystemBus Ram) where
  toQuietBus := quiet Ram
  contents := contents
  contents_same same := contents_congr same.devices
  read_value memory := read_contents memory.layout _ _ _
  written memory stored := (contents_write memory.layout _ _ _ _ stored).1
  readable memory stored := (contents_write memory.layout _ _ _ _ stored).2
  refused memory := contents_refused memory.layout _ _ _ _
  loadReservedWord memory := contents_loadReserved memory.layout _ _ _
  loadReservedDoubleword memory := contents_loadReserved memory.layout _ _ _
  storeConditionalWord memory := contents_storeConditional memory.layout _ _ _ _
  storeConditionalDoubleword memory := contents_storeConditional memory.layout _ _ _ _
  atomicWord memory := contents_atomic memory.layout _ _ _ _
  atomicDoubleword memory := contents_atomic memory.layout _ _ _ _

theorem layout_ofProgram {base : PhysAddr} {size : BitVec 64} (program : List (BitVec 32))
    (valid : AddressRange.Valid { base, size }) : Layout (ofProgram base size program).ranges where
  sorted := List.pairwise_singleton _ _
  apart := List.pairwise_singleton _ _
  valid := by
    intro range member
    simp only [ranges, ofProgram, List.map_cons, List.map_nil, List.mem_singleton] at member
    rw [member]
    exact valid

end SystemBus

end RvEmulator.Platform
