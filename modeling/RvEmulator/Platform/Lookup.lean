import RvEmulator.Platform.SystemBus

/-! Looking up devices on a bus whose ranges are sorted and apart: the search
finds the one device that holds the whole access, and so does the shortcut. -/

namespace RvEmulator.Platform

open Library

/-- The ranges on a bus: sorted by base, without common addresses, all valid. -/
structure Layout (ranges : List AddressRange) : Prop where
  sorted : ranges.Pairwise fun left right => left.base < right.base
  apart : ranges.Pairwise AddressRange.Apart
  valid : ∀ range ∈ ranges, range.Valid

theorem AddressRange.Apart.symm {range other : AddressRange} (apart : range.Apart other) :
    other.Apart range := fun address both => apart address both.symm

theorem AddressRange.Valid.holds_base {range : AddressRange} (valid : range.Valid) :
    range.Holds range.base.toNat := by
  have positive : 0 < range.size.toNat :=
    Nat.pos_of_ne_zero fun zero => valid.1 (BitVec.eq_of_toNat_eq (by simpa using zero))
  unfold AddressRange.Holds
  omega

/-- The check of `add_device` is validity. -/
theorem AddressRange.valid_iff (range : AddressRange) :
    ¬(range.size = 0 ∨ BitVec.allOnes 64 - range.base < range.size) ↔ range.Valid := by
  have top : (BitVec.allOnes 64).toNat = 2 ^ 64 - 1 := BitVec.toNat_allOnes
  have room : range.base ≤ BitVec.allOnes 64 := by
    rw [BitVec.le_def, top]
    omega
  rw [not_or, BitVec.not_lt, BitVec.le_def, BitVec.toNat_sub_of_le room, top]
  unfold AddressRange.Valid
  constructor
  · rintro ⟨nonempty, fits⟩
    exact ⟨nonempty, by omega⟩
  · rintro ⟨nonempty, fits⟩
    exact ⟨nonempty, by omega⟩

namespace SystemBus

variable {δ ι : Type}

abbrev ranges (bus : SystemBus δ) : List AddressRange := bus.devices.map (·.range)

theorem deviceAt_eq_some_iff {devices : List (Mounted δ)} {position : Nat} {address : PhysAddr}
    {width : AccessWidth} {index : Nat} {mounted : Mounted δ} :
    deviceAt devices position address width = some (index, mounted) ↔
      position = index ∧ devices[index]? = some mounted ∧
        mounted.range.Covers address width.bytes := by
  unfold deviceAt
  split
  · rename_i device found
    rw [Option.ite_none_right_eq_some, AddressRange.contains_iff, Option.some.injEq, Prod.mk.injEq]
    constructor
    · rintro ⟨covers, rfl, rfl⟩
      exact ⟨rfl, found, covers⟩
    · rintro ⟨rfl, here, covers⟩
      rw [found] at here
      cases here
      exact ⟨covers, rfl, rfl⟩
  · rename_i missing
    constructor
    · exact fun h => nomatch h
    · rintro ⟨rfl, here, _⟩
      rw [missing] at here
      cases here

section

variable {devices : List (Mounted δ)}

/-- No two positions hold one address. -/
theorem index_unique (layout : Layout (devices.map (·.range))) {i j : Nat} {left right : Mounted δ}
    (first : devices[i]? = some left) (second : devices[j]? = some right) (address : Nat)
    (here : left.range.Holds address) (there : right.range.Holds address) : i = j := by
  have apart := List.pairwise_map.mp layout.apart
  rw [List.pairwise_iff_getElem] at apart
  obtain ⟨inside, rfl⟩ := List.getElem?_eq_some_iff.mp first
  obtain ⟨otherInside, rfl⟩ := List.getElem?_eq_some_iff.mp second
  rcases Nat.lt_trichotomy i j with before | same | behind
  · exact absurd ⟨here, there⟩ (apart i j inside otherInside before address)
  · exact same
  · exact absurd ⟨there, here⟩ (apart j i otherInside inside behind address)

theorem base_lt (layout : Layout (devices.map (·.range))) {i j : Nat} {left right : Mounted δ}
    (first : devices[i]? = some left) (second : devices[j]? = some right) (before : i < j) :
    left.range.base < right.range.base := by
  have sorted := List.pairwise_map.mp layout.sorted
  rw [List.pairwise_iff_getElem] at sorted
  obtain ⟨inside, rfl⟩ := List.getElem?_eq_some_iff.mp first
  obtain ⟨otherInside, rfl⟩ := List.getElem?_eq_some_iff.mp second
  exact sorted i j inside otherInside before

/-- The binary search ends at the last device that does not start behind the
address. -/
theorem search_spec (layout : Layout (devices.map (·.range))) (address : PhysAddr) :
    let upper := upperBound
      (fun index => devices[index]?.any fun device => address < device.range.base) devices.length
    (∀ i mounted, devices[i]? = some mounted → (mounted.range.base ≤ address ↔ i < upper)) ∧
      upper ≤ devices.length := by
  intro upper
  have monotone : ∀ i j, i ≤ j → j < devices.length →
      (devices[i]?.any fun device => address < device.range.base) = true →
      (devices[j]?.any fun device => address < device.range.base) = true := by
    intro i j ordered inside starts
    rw [Option.any_eq_true] at starts ⊢
    obtain ⟨left, found, behind⟩ := starts
    have present : devices[j]? = some devices[j] := List.getElem?_eq_getElem inside
    refine ⟨devices[j], present, ?_⟩
    simp only [decide_eq_true_iff] at behind ⊢
    rcases Nat.lt_or_eq_of_le ordered with before | rfl
    · exact BitVec.lt_trans behind (base_lt layout found present before)
    · rw [found] at present
      cases present
      exact behind
  obtain ⟨bounded, before, behind⟩ := upperBound_spec monotone
  refine ⟨?_, bounded⟩
  intro i mounted found
  constructor
  · intro starts
    rcases Nat.lt_or_ge i upper with inside | outside
    · exact inside
    · have later := behind i outside (List.getElem?_eq_some_iff.mp found).1
      rw [found, Option.any_some, decide_eq_true_iff] at later
      exact absurd later (BitVec.not_lt.mpr starts)
  · intro inside
    have earlier := before i inside
    rw [found, Option.any_some, decide_eq_false_iff_not] at earlier
    exact BitVec.not_lt.mp earlier

theorem searchDevice_eq_some_iff (layout : Layout (devices.map (·.range))) {address : PhysAddr}
    {width : AccessWidth} {index : Nat} {mounted : Mounted δ} :
    searchDevice devices address width = some (index, mounted) ↔
      devices[index]? = some mounted ∧ mounted.range.Covers address width.bytes := by
  obtain ⟨candidates, bounded⟩ := search_spec layout address
  unfold searchDevice
  dsimp only at candidates bounded ⊢
  generalize upperBound _ devices.length = upper at candidates bounded ⊢
  rw [Option.ite_none_left_eq_some, deviceAt_eq_some_iff]
  constructor
  · rintro ⟨_, rfl, found, covers⟩
    exact ⟨found, covers⟩
  · rintro ⟨found, covers⟩
    have inside := (candidates index mounted found).mp covers.1
    refine ⟨by omega, ?_, found, covers⟩
    -- A later candidate would start inside the device that covers the access.
    have last : upper - 1 < devices.length := by omega
    have present := List.getElem?_eq_getElem last
    have starts := (candidates (upper - 1) _ present).mpr (by omega)
    refine index_unique layout present found devices[upper - 1].range.base.toNat ?_ ?_
    · exact (layout.valid _ (List.mem_map_of_mem (List.getElem_mem last))).holds_base
    · rcases Nat.lt_or_eq_of_le (show index ≤ upper - 1 by omega) with before | same
      · have ordered := base_lt layout found present before
        have positive := width.bytes_pos
        unfold AddressRange.Covers at covers
        unfold AddressRange.Holds
        rw [BitVec.lt_def] at ordered
        rw [BitVec.le_def] at starts
        omega
      · subst same
        rw [found] at present
        cases present
        exact (layout.valid _ (List.mem_map_of_mem (List.mem_of_getElem? found))).holds_base

end

theorem cachedDevice_eq_some {bus : SystemBus δ} {address : PhysAddr} {width : AccessWidth}
    {index : Nat} {mounted : Mounted δ}
    (found : bus.cachedDevice address width = some (index, mounted)) :
    bus.devices[index]? = some mounted ∧ mounted.range.Covers address width.bytes := by
  unfold cachedDevice at found
  obtain ⟨last, _, there⟩ := Option.bind_eq_some_iff.mp found
  exact (deviceAt_eq_some_iff.mp there).2

/-- The shortcut never disagrees with the search. -/
theorem searchDevice_of_cachedDevice {bus : SystemBus δ} (layout : Layout bus.ranges)
    {address : PhysAddr} {width : AccessWidth} {found : Nat × Mounted δ}
    (cached : bus.cachedDevice address width = some found) :
    searchDevice bus.devices address width = some found :=
  (searchDevice_eq_some_iff layout).mpr (cachedDevice_eq_some cached)

theorem findDevice_eq_search {bus : SystemBus δ} (layout : Layout bus.ranges)
    (address : PhysAddr) (width : AccessWidth) :
    (findDevice address width bus).1 = searchDevice bus.devices address width := by
  unfold findDevice
  split
  · rename_i found cached
    exact (searchDevice_of_cachedDevice layout cached).symm
  · split
    · rename_i found searched
      exact searched.symm
    · rename_i missing
      exact missing.symm

theorem instructionCacheable_eq_search {bus : SystemBus δ} (layout : Layout bus.ranges)
    (address : PhysAddr) :
    bus.instructionCacheable address =
      (searchDevice bus.devices address .byte).any (·.2.instructionCacheable) := by
  unfold instructionCacheable
  split
  · rename_i found cached
    rw [searchDevice_of_cachedDevice layout cached, Option.any_some]
  · split
    · rename_i found searched
      rw [searched, Option.any_some]
    · rename_i missing
      rw [missing, Option.any_none]

/-! Every operation but an accepted `add_device` leaves the ranges alone. -/

theorem findDevice_eq {bus : SystemBus δ} (layout : Layout bus.ranges) (address : PhysAddr)
    (width : AccessWidth) :
    ∃ last, findDevice address width bus =
      (searchDevice bus.devices address width, { bus with lastDevice := last }) := by
  have same := findDevice_eq_search layout address width
  unfold findDevice at same ⊢
  split
  · rename_i cached
    rw [cached] at same
    exact ⟨bus.lastDevice, by rw [← same]⟩
  · split
    · rename_i found searched
      exact ⟨some found.1, by rw [searched]⟩
    · rename_i missing
      exact ⟨bus.lastDevice, by rw [missing]⟩

theorem labels_setDevice {label : Mounted δ → ι} {bus : SystemBus δ} {index : Nat}
    {mounted : Mounted δ} (found : bus.devices[index]? = some mounted) {device : δ}
    (same : label { mounted with device } = label mounted) :
    (bus.setDevice index mounted device).devices.map label = bus.devices.map label := by
  obtain ⟨inside, rfl⟩ := List.getElem?_eq_some_iff.mp found
  simp only [setDevice, List.map_set]
  apply List.ext_getElem?
  intro i
  rw [List.getElem?_set]
  split
  · rename_i here
    subst here
    simp [inside, same]
  · rfl

theorem ranges_setDevice {bus : SystemBus δ} {index : Nat} {mounted : Mounted δ}
    (found : bus.devices[index]? = some mounted) (device : δ) :
    (bus.setDevice index mounted device).ranges = bus.ranges :=
  labels_setDevice found rfl

section

variable [Device δ] {bus : SystemBus δ}

/-- A read, once the device is known. -/
theorem read_eq (layout : Layout bus.ranges) (address : PhysAddr) (width : AccessWidth)
    (kind : AccessKind) :
    ∃ last, read address width kind bus =
      match searchDevice bus.devices address width with
      | none => ({ fault := .unmapped }, { bus with lastDevice := last })
      | some (index, mounted) =>
        ((Device.read (address - mounted.range.base) width mounted.device).1,
          { bus.setDevice index mounted
              (Device.read (address - mounted.range.base) width mounted.device).2 with
            lastDevice := last }) := by
  obtain ⟨last, found⟩ := findDevice_eq layout address width
  refine ⟨last, ?_⟩
  unfold read
  rw [found]
  cases searchDevice bus.devices address width with
  | none => rfl
  | some found => rfl

/-- A write, once the device is known. -/
theorem write_eq (layout : Layout bus.ranges) (address : PhysAddr) (width : AccessWidth)
    (value : BitVec 64) (kind : AccessKind) :
    ∃ last, write address width value kind bus =
      match searchDevice bus.devices address width with
      | none => (.unmapped, { bus with lastDevice := last })
      | some (index, mounted) =>
        ((Device.write (address - mounted.range.base) width value mounted.device).1,
          { bus.setDevice index mounted
              (Device.write (address - mounted.range.base) width value mounted.device).2 with
            lastDevice := last
            writeEpoch :=
              if (Device.write (address - mounted.range.base) width value mounted.device).1 = .none
              then bus.writeEpoch + 1 else bus.writeEpoch }) := by
  obtain ⟨last, found⟩ := findDevice_eq layout address width
  refine ⟨last, ?_⟩
  unfold write
  rw [found]
  cases searchDevice bus.devices address width with
  | none => rfl
  | some found => rfl

/-- Something about a device on the bus that no transfer changes. -/
structure Lasting (label : Mounted δ → ι) : Prop where
  read : ∀ (mounted : Mounted δ) offset width,
    label { mounted with device := (Device.read offset width mounted.device).2 } = label mounted
  write : ∀ (mounted : Mounted δ) offset width value,
    label { mounted with device := (Device.write offset width value mounted.device).2 } =
      label mounted

theorem Lasting.range : Lasting (δ := δ) (·.range) := ⟨fun _ _ _ => rfl, fun _ _ _ _ => rfl⟩

section

variable {label : Mounted δ → ι} (lasting : Lasting label)

include lasting

theorem labels_read (layout : Layout bus.ranges) (address : PhysAddr) (width : AccessWidth)
    (kind : AccessKind) :
    (read address width kind bus).2.devices.map label = bus.devices.map label := by
  obtain ⟨last, same⟩ := read_eq layout address width kind
  rw [same]
  cases found : searchDevice bus.devices address width with
  | none => rfl
  | some device =>
    exact labels_setDevice ((searchDevice_eq_some_iff layout).mp found).1 (lasting.read ..)

theorem labels_write (layout : Layout bus.ranges) (address : PhysAddr) (width : AccessWidth)
    (value : BitVec 64) (kind : AccessKind) :
    (write address width value kind bus).2.devices.map label = bus.devices.map label := by
  obtain ⟨last, same⟩ := write_eq layout address width value kind
  rw [same]
  cases found : searchDevice bus.devices address width with
  | none => rfl
  | some device =>
    exact labels_setDevice ((searchDevice_eq_some_iff layout).mp found).1 (lasting.write ..)

theorem labels_loadReserved (layout : Layout bus.ranges) (width : AccessWidth) (hart : BitVec 32)
    (address : PhysAddr) :
    (loadReserved width hart address bus).2.devices.map label = bus.devices.map label := by
  have kept := labels_read lasting layout address width .atomic
  simp only [loadReserved]
  split
  · rfl
  · split <;> exact kept

theorem labels_storeConditional (layout : Layout bus.ranges) (width : AccessWidth)
    (hart : BitVec 32) (address : PhysAddr) (value : BitVec 64) :
    (storeConditional width hart address value bus).2.devices.map label =
      bus.devices.map label := by
  simp only [storeConditional]
  split
  · rfl
  generalize released : ({ bus with reservations := _ } : SystemBus δ) = free
  have same : free.devices = bus.devices := by rw [← released]
  rw [← same]
  rw [ranges, ← same] at layout
  obtain ⟨last, found⟩ := findDevice_eq layout address width
  rw [found]
  cases searchDevice free.devices address width with
  | none => rfl
  | some device =>
    dsimp only
    split
    · rfl
    · have moved : Layout ({ free with lastDevice := last } : SystemBus δ).ranges := layout
      exact labels_write lasting moved address width value .atomic

theorem labels_atomic (layout : Layout bus.ranges) (width : AccessWidth) (address : PhysAddr)
    (operation : AmoOperation) (operand : BitVec w) :
    (atomic width address operation operand bus).2.devices.map label = bus.devices.map label := by
  have kept := labels_read lasting layout address width .atomic
  have after : Layout (read address width .atomic bus).2.ranges := by
    rw [ranges, labels_read .range layout]
    exact layout
  simp only [atomic]
  split
  · rfl
  split
  · exact kept
  · rw [← kept]
    exact labels_write lasting after address width _ .atomic

theorem labels_perform (layout : Layout bus.ranges) (command : BusCommand) :
    (CpuBus.perform command bus).2.devices.map label = bus.devices.map label := by
  cases command with
  | read address width kind => exact labels_read lasting layout address width kind
  | write address width value kind => exact labels_write lasting layout address width value kind
  | loadReservedWord hart address => exact labels_loadReserved lasting layout .word hart address
  | storeConditionalWord hart address value =>
    exact labels_storeConditional lasting layout .word hart address _
  | atomicWord hart address operation operand =>
    exact labels_atomic lasting layout .word address operation operand
  | loadReservedDoubleword hart address =>
    exact labels_loadReserved lasting layout .doubleWord hart address
  | storeConditionalDoubleword hart address value =>
    exact labels_storeConditional lasting layout .doubleWord hart address value
  | atomicDoubleword hart address operation operand =>
    exact labels_atomic lasting layout .doubleWord address operation operand

end

theorem ranges_read (layout : Layout bus.ranges) (address : PhysAddr) (width : AccessWidth)
    (kind : AccessKind) : (read address width kind bus).2.ranges = bus.ranges :=
  labels_read .range layout address width kind

theorem ranges_write (layout : Layout bus.ranges) (address : PhysAddr) (width : AccessWidth)
    (value : BitVec 64) (kind : AccessKind) :
    (write address width value kind bus).2.ranges = bus.ranges :=
  labels_write .range layout address width value kind

theorem ranges_perform (layout : Layout bus.ranges) (command : BusCommand) :
    (CpuBus.perform command bus).2.ranges = bus.ranges :=
  labels_perform .range layout command

end

end SystemBus

end RvEmulator.Platform
