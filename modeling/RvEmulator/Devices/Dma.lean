import RvEmulator.Platform.RamBus

/-! Direct memory access of devices (`rv/platform/device.hpp`), and what devices
rely on when it reaches memory. -/

namespace RvEmulator.Platform

open Library

/-- The virtual methods of `DmaAccess`. -/
class DmaAccess (δ : Type) where
  dmaRead : PhysAddr → AccessWidth → StateM δ ReadResult
  dmaWrite : PhysAddr → AccessWidth → BitVec 64 → StateM δ BusFault

instance [Device δ] : DmaAccess (SystemBus δ) where
  dmaRead address width := SystemBus.read address width .dma
  dmaWrite address width value := SystemBus.write address width value .dma

/-- Direct memory access that reaches memory. An access may be refused, and then it
changes nothing; the accesses that `answers` holds of are never refused. -/
structure DmaMemory (δ : Type) [DmaAccess δ] where
  sound : δ → Prop
  contents : δ → Memory
  answers : PhysAddr → AccessWidth → Prop
  sound_read : sound dma → sound (DmaAccess.dmaRead address width dma).2
  contents_read : sound dma → contents (DmaAccess.dmaRead address width dma).2 = contents dma
  read_value : sound dma → (DmaAccess.dmaRead address width dma).1.fault = .none →
    (DmaAccess.dmaRead address width dma).1.value = (contents dma).get address width.bytes
  readable : sound dma → answers address width →
    (DmaAccess.dmaRead address width dma).1.fault = .none
  sound_write : sound dma → sound (DmaAccess.dmaWrite address width value dma).2
  written : sound dma → (DmaAccess.dmaWrite address width value dma).1 = .none →
    contents (DmaAccess.dmaWrite address width value dma).2 =
      (contents dma).put address width.bytes value
  refused : sound dma → (DmaAccess.dmaWrite address width value dma).1 ≠ .none →
    contents (DmaAccess.dmaWrite address width value dma).2 = contents dma
  writable : sound dma → answers address width →
    (DmaAccess.dmaWrite address width value dma).1 = .none

namespace DmaMemory

variable [DmaAccess δ] {memory : DmaMemory δ} {kept : PhysAddr → Prop} {dma middle after : δ}

/-- The bytes at some addresses are still what they were. -/
structure Preserves (memory : DmaMemory δ) (kept : PhysAddr → Prop) (before after : δ) : Prop where
  sound : memory.sound after
  bytes : ∀ address, kept address → memory.contents after address = memory.contents before address

theorem Preserves.refl (sound : memory.sound dma) : memory.Preserves kept dma dma :=
  ⟨sound, fun _ _ => rfl⟩

theorem Preserves.trans (first : memory.Preserves kept dma middle)
    (second : memory.Preserves kept middle after) : memory.Preserves kept dma after :=
  ⟨second.sound, fun address member => (second.bytes address member).trans
    (first.bytes address member)⟩

/-- What a read does, answered or not. -/
theorem read_spec (sound : memory.sound dma) (address : PhysAddr) (width : AccessWidth) :
    memory.sound (DmaAccess.dmaRead address width dma).2 ∧
      memory.contents (DmaAccess.dmaRead address width dma).2 = memory.contents dma ∧
      ((DmaAccess.dmaRead address width dma).1.ok = true →
        (DmaAccess.dmaRead address width dma).1.value =
          (memory.contents dma).get address width.bytes) := by
  refine ⟨memory.sound_read sound, memory.contents_read sound, fun answered => ?_⟩
  exact memory.read_value sound (by simpa [ReadResult.ok] using answered)

/-- A read that is answered. -/
theorem read_answered (sound : memory.sound dma) {address : PhysAddr} {width : AccessWidth}
    (answers : memory.answers address width) :
    (DmaAccess.dmaRead address width dma).1.ok = true ∧
      (DmaAccess.dmaRead address width dma).1.value =
        (memory.contents dma).get address width.bytes ∧
      memory.sound (DmaAccess.dmaRead address width dma).2 ∧
      memory.contents (DmaAccess.dmaRead address width dma).2 = memory.contents dma := by
  obtain ⟨sound', same, value⟩ := read_spec sound address width
  have answered : (DmaAccess.dmaRead address width dma).1.ok = true := by
    rw [ReadResult.ok, memory.readable sound answers]
    rfl
  exact ⟨answered, value answered, sound', same⟩

theorem Preserves.of_eq (sound : memory.sound after)
    (same : memory.contents after = memory.contents dma) : memory.Preserves kept dma after :=
  ⟨sound, fun _ _ => by rw [same]⟩

theorem preserves_write (sound : memory.sound dma) {address : PhysAddr} {width : AccessWidth}
    (value : BitVec 64)
    (apart : ∀ other, Memory.Region address width.bytes other → ¬kept other) :
    memory.Preserves kept dma (DmaAccess.dmaWrite address width value dma).2 := by
  refine ⟨memory.sound_write sound, fun other member => ?_⟩
  by_cases stored : (DmaAccess.dmaWrite address width value dma).1 = .none
  · rw [memory.written sound stored]
    exact Memory.put_of_apart fun inside => apart other inside member
  · rw [memory.refused sound stored]

end DmaMemory

namespace SystemBus

/-- Every memory has as many bytes as its range has addresses. -/
def Sized (bus : SystemBus Ram) : Prop :=
  ∀ mounted ∈ bus.devices, mounted.device.data.size = mounted.range.size.toNat

variable {bus : SystemBus Ram}

theorem sized_ofProgram (base : PhysAddr) (size : BitVec 64) (program : List (BitVec 32)) :
    (ofProgram base size program).Sized := by
  intro mounted member
  simp only [ofProgram, List.mem_singleton] at member
  rw [member]

theorem sized_write (layout : Layout bus.ranges) (sized : bus.Sized) (address : PhysAddr)
    (width : AccessWidth) (value : BitVec 64) (kind : AccessKind) :
    (write address width value kind bus).2.Sized := by
  obtain ⟨last, answer⟩ := write_eq layout address width value kind
  rw [answer]
  cases found : searchDevice bus.devices address width with
  | none => exact sized
  | some device =>
    obtain ⟨index, mounted⟩ := device
    obtain ⟨present, _⟩ := (searchDevice_eq_some_iff layout).mp found
    intro other member
    obtain old | changed := List.mem_or_eq_of_mem_set member
    · exact sized other old
    rw [changed]
    refine Eq.trans ?_ (sized mounted (List.mem_of_getElem? present))
    by_cases stored : (mounted.device.data.writeLittleEndian (address - mounted.range.base) width
        value).1 = .none
    · exact (Bytes.writeLittleEndian_eq stored).2.1
    · exact congrArg (·.data.size) (Device.refused (δ := Ram) stored)

/-- An access within the range of a memory finds it, and all its bytes. -/
theorem found_of_covers (layout : Layout bus.ranges) (sized : bus.Sized) {range : AddressRange}
    (member : range ∈ bus.ranges) {address : PhysAddr} {width : AccessWidth}
    (covers : range.Covers address width.bytes) :
    ∃ index mounted, searchDevice bus.devices address width = some (index, mounted) ∧
      (address - mounted.range.base).toNat + width.bytes ≤ mounted.device.data.size := by
  obtain ⟨mounted, present, rfl⟩ := List.mem_map.mp member
  obtain ⟨index, found⟩ := List.getElem?_of_mem present
  refine ⟨index, mounted, (searchDevice_eq_some_iff layout).mpr ⟨found, covers⟩, ?_⟩
  obtain ⟨above, below⟩ := covers
  rw [sized mounted present, BitVec.toNat_sub_of_le (BitVec.le_def.mpr above)]
  omega

/-- Direct memory access to RAM on a system bus, within the ranges of the memories. -/
def dmaMemory {ranges : List AddressRange} (layout : Layout ranges) : DmaMemory (SystemBus Ram) where
  sound bus := bus.ranges = ranges ∧ bus.Sized
  contents := contents
  answers address width := ∃ range ∈ ranges, range.Covers address width.bytes
  sound_read := by
    rintro bus address width ⟨rfl, sized⟩
    refine ⟨ranges_read layout address width .dma, ?_⟩
    have same := (Same.read_right (Same.self layout) address width .dma).devices
    intro mounted member
    exact sized mounted (same ▸ member)
  contents_read := by
    rintro bus address width ⟨rfl, _⟩
    exact contents_read layout address width .dma
  read_value := by
    rintro bus address width ⟨rfl, _⟩ succeeded
    exact read_contents layout address width .dma succeeded
  readable := by
    rintro bus address width ⟨rfl, sized⟩ ⟨range, member, covers⟩
    obtain ⟨index, mounted, searched, inside⟩ := found_of_covers layout sized member covers
    obtain ⟨last, answer⟩ := read_eq layout address width .dma
    rw [searched] at answer
    exact (congrArg (·.1.fault) answer).trans (Bytes.readLittleEndian_ok inside)
  sound_write := by
    rintro bus address width value ⟨rfl, sized⟩
    exact ⟨ranges_write layout address width value .dma,
      sized_write layout sized address width value .dma⟩
  written := by
    rintro bus address width value ⟨rfl, _⟩ succeeded
    exact (contents_write layout address width value .dma succeeded).1
  refused := by
    rintro bus address width value ⟨rfl, _⟩ failed
    exact contents_refused layout address width value .dma failed
  writable := by
    rintro bus address width value ⟨rfl, sized⟩ ⟨range, member, covers⟩
    obtain ⟨index, mounted, searched, inside⟩ := found_of_covers layout sized member covers
    obtain ⟨last, answer⟩ := write_eq layout address width value .dma
    rw [searched] at answer
    refine (congrArg (·.1) answer).trans ?_
    have positive := width.bytes_pos
    have accepted : ¬(width.bytes = 0 ∨ mounted.device.data.size < width.bytes ∨
        mounted.device.data.size - width.bytes < (address - mounted.range.base).toNat) := by omega
    exact congrArg Prod.fst (if_neg accepted)

end SystemBus

end RvEmulator.Platform
