import RvEmulator.Platform.Lookup

/-! Routing after any history: which devices are on the bus, and which one an
access reaches. -/

namespace RvEmulator.Platform.SystemBus

variable {δ : Type}

theorem addDevice_cases (bus : SystemBus δ) (device : Option (Mounted δ)) :
    (∃ error, addDevice device bus = (.error error, bus)) ∨
      ∃ new, device = some new ∧ new.range.Valid ∧
        (∀ other ∈ bus.devices, new.range.overlaps other.range = false) ∧
        addDevice device bus =
          (.ok (), { bus with
            devices := (bus.devices ++ [new]).insertionSort baseOrder
            lastDevice := none }) := by
  unfold addDevice
  split
  · exact .inl ⟨_, rfl⟩
  split
  · exact .inl ⟨_, rfl⟩
  split
  · exact .inl ⟨_, rfl⟩
  · rename_i new valid free
    refine .inr ⟨new, rfl, (AddressRange.valid_iff _).mp valid, ?_, rfl⟩
    intro other member
    simp only [List.any_eq_true, not_exists, not_and, Bool.not_eq_true] at free
    exact free other member

theorem apart_of_overlaps {bus : SystemBus δ} (layout : Layout bus.ranges) {new : AddressRange}
    (valid : new.Valid) :
    (∀ other ∈ bus.devices, new.overlaps other.range = false) ↔
      ∀ other ∈ bus.devices, new.Apart other.range := by
  refine forall₂_congr fun other member => ?_
  have otherValid := layout.valid other.range (List.mem_map_of_mem member)
  rw [← not_iff_not, Bool.not_eq_false]
  exact AddressRange.overlaps_iff valid otherValid

theorem addDevice_ok_iff {bus : SystemBus δ} (layout : Layout bus.ranges)
    (device : Option (Mounted δ)) :
    (addDevice device bus).1 = .ok () ↔
      ∃ new, device = some new ∧ new.range.Valid ∧
        ∀ other ∈ bus.devices, new.range.Apart other.range := by
  constructor
  · intro accepted
    rcases addDevice_cases bus device with ⟨error, rejected⟩ | ⟨new, rfl, valid, free, _⟩
    · rw [rejected] at accepted
      cases accepted
    · exact ⟨new, rfl, valid, (apart_of_overlaps layout valid).mp free⟩
  · rintro ⟨new, rfl, valid, apart⟩
    have free := (apart_of_overlaps layout valid).mpr apart
    unfold addDevice
    dsimp only
    rw [if_neg ((AddressRange.valid_iff _).mpr valid), if_neg]
    simpa only [List.any_eq_true, not_exists, not_and, Bool.not_eq_true] using free

instance : Std.Total (baseOrder (δ := δ)) where
  total left right := BitVec.le_total left.range.base right.range.base

instance : IsTrans (Mounted δ) baseOrder where
  trans _ _ _ first second := BitVec.le_trans first second

/-- Sorting ranges without common addresses gives a layout. -/
theorem layout_insertionSort {devices : List (Mounted δ)} {new : Mounted δ}
    (layout : Layout (devices.map (·.range))) (valid : new.range.Valid)
    (apart : ∀ other ∈ devices, new.range.Apart other.range) :
    Layout (((devices ++ [new]).insertionSort baseOrder).map (·.range)) := by
  have sorted := List.pairwise_insertionSort baseOrder (devices ++ [new])
  have same := List.perm_insertionSort baseOrder (devices ++ [new])
  have valids : ∀ mounted ∈ (devices ++ [new]).insertionSort baseOrder, mounted.range.Valid := by
    intro mounted member
    rcases List.mem_append.mp (same.mem_iff.mp member) with old | added
    · exact layout.valid _ (List.mem_map_of_mem old)
    · rw [List.mem_singleton.mp added]
      exact valid
  have aparts : ((devices ++ [new]).insertionSort baseOrder).Pairwise
      fun left right => left.range.Apart right.range := by
    refine same.symm.pairwise ?_ fun apart => apart.symm
    rw [List.pairwise_append]
    refine ⟨List.pairwise_map.mp layout.apart, List.pairwise_singleton _ _, ?_⟩
    intro left member right added
    rw [List.mem_singleton.mp added]
    exact (apart left member).symm
  refine ⟨?_, List.pairwise_map.mpr aparts, ?_⟩
  · refine List.pairwise_map.mpr ((sorted.and aparts).imp_of_mem ?_)
    intro left right first second both
    rcases Nat.lt_or_eq_of_le (BitVec.le_def.mp both.1) with below | equal
    · exact BitVec.lt_def.mpr below
    · refine absurd ⟨(valids left first).holds_base, ?_⟩ (both.2 left.range.base.toNat)
      rw [equal]
      exact (valids right second).holds_base
  · intro range member
    obtain ⟨mounted, present, rfl⟩ := List.mem_map.mp member
    exact valids mounted present

section

variable [Device δ]

/-- Each operation keeps the layout. -/
theorem layout_apply {bus : SystemBus δ} (layout : Layout bus.ranges) (operation : Operation δ) :
    Layout (bus.apply operation).ranges := by
  cases operation with
  | addDevice device =>
    simp only [apply]
    rcases addDevice_cases bus device with ⟨error, rejected⟩ | ⟨new, rfl, valid, free, accepted⟩
    · rw [rejected]
      exact layout
    · rw [accepted]
      exact layout_insertionSort layout valid ((apart_of_overlaps layout valid).mp free)
  | setTimeSource timeValue => exact layout
  | clearReservations => exact layout
  | perform command =>
    simp only [apply]
    rw [ranges_perform layout command]
    exact layout
  | instructionCacheable address => exact layout
  | deviceChanged index device =>
    simp only [apply]
    split
    · rename_i mounted found
      rw [ranges_setDevice found]
      exact layout
    · exact layout

theorem layout_run (operations : List (Operation δ)) : Layout (run operations).ranges := by
  have steps : ∀ (operations : List (Operation δ)) (bus : SystemBus δ), Layout bus.ranges →
      Layout (operations.foldl apply bus).ranges := by
    intro operations
    induction operations with
    | nil => exact fun _ layout => layout
    | cons operation rest ih => exact fun bus layout => ih _ (layout_apply layout operation)
  exact steps operations {} ⟨.nil, .nil, by simp [ranges]⟩

end

open Classical in
/-- What `add_device` is for: the devices accepted so far, each as it was then, in any order. A
new one is accepted if its range is valid and shares no address with those present. -/
noncomputable def accept (devices : List (Mounted δ)) : Operation δ → List (Mounted δ)
  | .addDevice (some device) =>
    if device.range.Valid ∧ ∀ other ∈ devices, device.range.Apart other.range then
      device :: devices
    else devices
  | _ => devices

noncomputable def accepted (operations : List (Operation δ)) : List (Mounted δ) :=
  operations.foldl accept []

section

variable [Device δ] {ι : Type}

/-- The changes of a device on its own leave the label, too. -/
def Operation.Leaves (label : Mounted δ → ι) (bus : SystemBus δ) : Operation δ → Prop
  | .deviceChanged index device =>
    ∀ mounted, bus.devices[index]? = some mounted → label { mounted with device } = label mounted
  | _ => True

/-- All operations of a run leave the label of the devices that are on the bus by then. -/
def Leaving (label : Mounted δ → ι) : SystemBus δ → List (Operation δ) → Prop
  | _, [] => True
  | bus, operation :: rest => operation.Leaves label bus ∧ Leaving label (bus.apply operation) rest

/-- The devices on the bus are the accepted ones, step by step: the ranges decide, and whatever
lasts stays with them. -/
theorem perm_accept {bus : SystemBus δ} (layout : Layout bus.ranges) {devices : List (Mounted δ)}
    {label : Mounted δ → ι} (lasting : Lasting label)
    (placed : bus.ranges.Perm (devices.map (·.range)))
    (same : (bus.devices.map label).Perm (devices.map label)) {operation : Operation δ}
    (leaves : operation.Leaves label bus) :
    (bus.apply operation).ranges.Perm ((accept devices operation).map (·.range)) ∧
      ((bus.apply operation).devices.map label).Perm ((accept devices operation).map label) := by
  cases operation with
  | addDevice device =>
    have criterion : ∀ new : AddressRange,
        (∀ other ∈ devices, new.Apart other.range) ↔
          ∀ other ∈ bus.devices, new.Apart other.range := by
      intro new
      constructor
      · intro apart other member
        obtain ⟨old, present, same⟩ :=
          List.mem_map.mp (placed.mem_iff.mp (List.mem_map_of_mem member))
        exact same ▸ apart old present
      · intro apart old member
        obtain ⟨other, present, same⟩ :=
          List.mem_map.mp (placed.mem_iff.mpr (List.mem_map_of_mem member))
        exact same ▸ apart other present
    simp only [apply]
    have decided := addDevice_ok_iff layout device
    rcases addDevice_cases bus device with ⟨error, rejected⟩ | ⟨new, rfl, valid, free, accepted⟩
    · rw [rejected] at decided ⊢
      cases device with
      | none => exact ⟨placed, same⟩
      | some new =>
        simp only [accept]
        rw [if_neg]
        · exact ⟨placed, same⟩
        · rintro ⟨valid, apart⟩
          exact nomatch decided.mpr ⟨new, rfl, valid, (criterion new.range).mp apart⟩
    · have apart := (apart_of_overlaps layout valid).mp free
      rw [accepted]
      simp only [accept]
      rw [if_pos ⟨valid, (criterion new.range).mpr apart⟩]
      have sorted := (List.perm_insertionSort baseOrder (bus.devices ++ [new])).trans
        List.perm_append_comm
      exact ⟨(sorted.map _).trans (placed.cons _), (sorted.map _).trans (same.cons _)⟩
  | setTimeSource timeValue => exact ⟨placed, same⟩
  | clearReservations => exact ⟨placed, same⟩
  | perform command =>
    simp only [apply, accept]
    rw [ranges_perform layout command, labels_perform lasting layout command]
    exact ⟨placed, same⟩
  | instructionCacheable address => exact ⟨placed, same⟩
  | deviceChanged index device =>
    simp only [apply, accept]
    split
    · rename_i mounted found
      rw [ranges_setDevice found, labels_setDevice found (leaves mounted found)]
      exact ⟨placed, same⟩
    · exact ⟨placed, same⟩

theorem perm_accepted {label : Mounted δ → ι} (lasting : Lasting label)
    (operations : List (Operation δ)) (leaving : Leaving label {} operations) :
    ((run operations).devices.map label).Perm ((accepted operations).map label) := by
  have steps : ∀ (operations : List (Operation δ)) (bus : SystemBus δ) (devices : List (Mounted δ)),
      Layout bus.ranges → bus.ranges.Perm (devices.map (·.range)) →
      (bus.devices.map label).Perm (devices.map label) → Leaving label bus operations →
      ((operations.foldl apply bus).devices.map label).Perm
        ((operations.foldl accept devices).map label) := by
    intro operations
    induction operations with
    | nil => exact fun _ _ _ _ same _ => same
    | cons operation rest ih =>
      intro bus devices layout placed same leaving
      obtain ⟨placed, same⟩ := perm_accept layout lasting placed same leaving.1
      exact ih _ _ (layout_apply layout operation) placed same leaving.2
  exact steps operations {} [] ⟨.nil, .nil, by simp [ranges]⟩ .nil .nil leaving

/-- Who a device is: something that neither a read nor a write changes. -/
structure Identity (δ ι : Type) [Device δ] where
  of : δ → ι
  read : ∀ offset width device, of (Device.read offset width device).2 = of device
  write : ∀ offset width value device, of (Device.write offset width value device).2 = of device

/-- A device that is known by its identity only. -/
def Identity.tag (identity : Identity δ ι) (mounted : Mounted δ) : Mounted ι :=
  { range := mounted.range
    instructionCacheable := mounted.instructionCacheable
    device := identity.of mounted.device }

theorem Identity.lasting (identity : Identity δ ι) : Lasting identity.tag where
  read mounted offset width := by
    unfold tag
    rw [identity.read]
  write mounted offset width value := by
    unfold tag
    rw [identity.write]

/-- Routing after any history. The devices on the bus are those accepted, each with its own range
and cacheability, sorted and apart; whether a device is accepted depends on its range only; and a
lookup finds the unique device around the access, whatever the shortcut points to. -/
theorem routing (operations : List (Operation δ)) :
    (∀ (ι : Type) (identity : Identity δ ι), Leaving identity.tag {} operations →
        ((run operations).devices.map identity.tag).Perm
          ((accepted operations).map identity.tag)) ∧
      (run operations).ranges.Pairwise (fun left right => left.base < right.base) ∧
      (run operations).ranges.Pairwise AddressRange.Apart ∧
      (∀ device, (addDevice device (run operations)).1 = .ok () ↔
        ∃ new, device = some new ∧ new.range.Valid ∧
          ∀ other ∈ (run operations).devices, new.range.Apart other.range) ∧
      (∀ new, (addDevice (some new) (run operations)).1 = .ok () →
        (addDevice (some new) (run operations)).2.devices.Perm
          (new :: (run operations).devices)) ∧
      (∀ device error, (addDevice device (run operations)).1 = .error error →
        (addDevice device (run operations)).2 = run operations) ∧
      (∀ last address width index mounted,
        (findDevice address width { run operations with lastDevice := last }).1 =
            some (index, mounted) ↔
          (run operations).devices[index]? = some mounted ∧
            mounted.range.Covers address width.bytes) ∧
      (∀ (i j : Nat) (left right : Mounted δ) (address : PhysAddr) (width : AccessWidth),
        (run operations).devices[i]? = some left → (run operations).devices[j]? = some right →
        left.range.Covers address width.bytes → right.range.Covers address width.bytes → i = j) ∧
      (∀ last address,
        ({ run operations with lastDevice := last } : SystemBus δ).instructionCacheable address =
            true ↔
          ∃ mounted ∈ (run operations).devices, mounted.range.Covers address 1 ∧
            mounted.instructionCacheable = true) := by
  have layout := layout_run operations
  refine ⟨fun ι identity => perm_accepted identity.lasting operations, layout.sorted, layout.apart,
    addDevice_ok_iff layout, ?_, ?_, ?_, ?_, ?_⟩
  · intro new accepted
    rcases addDevice_cases (run operations) (some new) with ⟨_, same⟩ | ⟨_, this, _, _, added⟩
    · rw [same] at accepted
      cases accepted
    · cases this
      rw [added]
      exact (List.perm_insertionSort baseOrder _).trans List.perm_append_comm
  · intro device error rejected
    rcases addDevice_cases (run operations) device with ⟨_, same⟩ | ⟨_, _, _, _, accepted⟩
    · rw [same]
    · rw [accepted] at rejected
      cases rejected
  · intro last address width index mounted
    rw [findDevice_eq_search (show Layout
      ({ run operations with lastDevice := last } : SystemBus δ).ranges from layout)]
    exact searchDevice_eq_some_iff layout
  · intro i j left right address width first second here there
    have positive := width.bytes_pos
    exact index_unique layout first second address.toNat (here.holds positive)
      (there.holds positive)
  · intro last address
    rw [instructionCacheable_eq_search (show Layout
      ({ run operations with lastDevice := last } : SystemBus δ).ranges from layout),
      Option.any_eq_true]
    constructor
    · rintro ⟨⟨index, mounted⟩, found, cacheable⟩
      obtain ⟨present, covers⟩ := (searchDevice_eq_some_iff layout).mp found
      exact ⟨mounted, List.mem_of_getElem? present, covers, cacheable⟩
    · rintro ⟨mounted, member, covers, cacheable⟩
      obtain ⟨index, present⟩ := List.getElem?_of_mem member
      exact ⟨(index, mounted), (searchDevice_eq_some_iff layout).mpr ⟨present, covers⟩, cacheable⟩

end

end RvEmulator.Platform.SystemBus
