import RvEmulator.Library.Pointwise
import RvEmulator.Platform.Lookup

/-! What a bus does to its devices: nothing but reads and writes of theirs. -/

namespace RvEmulator.Platform

open Library

/-- A relation between what a device was and what it is, which its reads and writes respect. -/
structure Respects [Device δ] (follows : δ → δ → Prop) : Prop where
  refl : ∀ device, follows device device
  trans : ∀ {first second third}, follows first second → follows second third →
    follows first third
  read : ∀ offset width device, follows device (Device.read offset width device).2
  write : ∀ offset width value device, follows device (Device.write offset width value device).2

/-- A device that has changed on the bus. -/
structure Mounted.Follows (follows : δ → δ → Prop) (old new : Mounted δ) : Prop where
  range : new.range = old.range
  instructionCacheable : new.instructionCacheable = old.instructionCacheable
  device : follows old.device new.device

namespace SystemBus

variable {δ : Type} [Device δ] {follows : δ → δ → Prop}

/-- Every device of a bus has followed what it was. -/
def Evolves (follows : δ → δ → Prop) (before after : SystemBus δ) : Prop :=
  List.Forall₂ (Mounted.Follows follows) before.devices after.devices

variable (respects : Respects follows) {bus : SystemBus δ}

include respects

theorem follows_refl (mounted : Mounted δ) : mounted.Follows follows mounted :=
  ⟨rfl, rfl, respects.refl mounted.device⟩

theorem evolves_of_same {after : SystemBus δ} (same : after.devices = bus.devices) :
    Evolves follows bus after := by
  unfold Evolves
  rw [same]
  exact List.forall₂_same.mpr fun mounted _ => follows_refl respects mounted

theorem evolves_trans {middle after : SystemBus δ} (first : Evolves follows bus middle)
    (second : Evolves follows middle after) : Evolves follows bus after := by
  refine forall₂_trans ?_ first second
  rintro old found new ⟨range, cacheable, device⟩ ⟨range', cacheable', device'⟩
  exact ⟨range'.trans range, cacheable'.trans cacheable, respects.trans device device'⟩

theorem evolves_setDevice {index : Nat} {mounted : Mounted δ} {device : δ}
    (found : bus.devices[index]? = some mounted) (step : follows mounted.device device) :
    Evolves follows bus (bus.setDevice index mounted device) :=
  forall₂_set (List.forall₂_same.mpr fun mounted _ => follows_refl respects mounted) found
    ⟨rfl, rfl, step⟩

omit [Device δ] respects in
/-- What is found is there, and looking for it changes no device. -/
theorem findDevice_found (bus : SystemBus δ) (address : PhysAddr) (width : AccessWidth) :
    (findDevice address width bus).2.devices = bus.devices ∧
      ∀ index mounted, (findDevice address width bus).1 = some (index, mounted) →
        bus.devices[index]? = some mounted := by
  unfold findDevice
  split
  · rename_i found cached
    refine ⟨rfl, fun index mounted same => ?_⟩
    cases same
    exact (cachedDevice_eq_some cached).1
  · split
    · rename_i found searched
      refine ⟨rfl, fun index mounted same => ?_⟩
      cases same
      unfold searchDevice at searched
      dsimp only at searched
      split at searched
      · cases searched
      · exact (deviceAt_eq_some_iff.mp searched).2.1
    · exact ⟨rfl, fun index mounted same => nomatch same⟩

theorem evolves_read (address : PhysAddr) (width : AccessWidth) (kind : AccessKind) :
    Evolves follows bus (read address width kind bus).2 := by
  obtain ⟨same, present⟩ := findDevice_found bus address width
  unfold read
  generalize findDevice address width bus = answer at same present ⊢
  obtain ⟨_ | ⟨index, mounted⟩, after⟩ := answer
  · exact evolves_of_same respects same
  · refine evolves_trans respects (evolves_of_same respects same)
      (evolves_setDevice respects ?_ (respects.read _ _ _))
    rw [same]
    exact present index mounted rfl

theorem evolves_write (address : PhysAddr) (width : AccessWidth) (value : BitVec 64)
    (kind : AccessKind) : Evolves follows bus (write address width value kind bus).2 := by
  obtain ⟨same, present⟩ := findDevice_found bus address width
  unfold write
  generalize findDevice address width bus = answer at same present ⊢
  obtain ⟨_ | ⟨index, mounted⟩, after⟩ := answer
  · exact evolves_of_same respects same
  · refine evolves_trans respects (evolves_of_same respects same)
      (evolves_setDevice respects ?_ (respects.write _ _ value _))
    rw [same]
    exact present index mounted rfl

theorem evolves_loadReserved (width : AccessWidth) (hart : BitVec 32) (address : PhysAddr) :
    Evolves follows bus (loadReserved width hart address bus).2 := by
  have kept : Evolves follows bus (read address width .atomic bus).2 :=
    evolves_read respects address width .atomic
  simp only [loadReserved]
  split
  · exact evolves_of_same respects rfl
  · split <;> exact kept

theorem evolves_storeConditional (width : AccessWidth) (hart : BitVec 32) (address : PhysAddr)
    (value : BitVec 64) :
    Evolves follows bus (storeConditional width hart address value bus).2 := by
  simp only [storeConditional]
  split
  · exact evolves_of_same respects rfl
  generalize released : ({ bus with reservations := _ } : SystemBus δ) = free
  have same : free.devices = bus.devices := by rw [← released]
  obtain ⟨kept, _⟩ := findDevice_found free address width
  generalize findDevice address width free = answer at kept ⊢
  obtain ⟨_ | found, after⟩ := answer
  · exact evolves_of_same respects (kept.trans same)
  · dsimp only
    split
    · exact evolves_of_same respects (kept.trans same)
    · exact evolves_trans respects (evolves_of_same respects (kept.trans same))
        (evolves_write respects address width value .atomic)

theorem evolves_atomic (width : AccessWidth) (address : PhysAddr) (operation : AmoOperation)
    (operand : BitVec w) :
    Evolves follows bus (atomic width address operation operand bus).2 := by
  have kept : Evolves follows bus (read address width .atomic bus).2 :=
    evolves_read respects address width .atomic
  simp only [atomic]
  split
  · exact evolves_of_same respects rfl
  split
  · exact kept
  · exact evolves_trans respects kept (evolves_write respects address width _ .atomic)

/-- Whatever command a bus takes, its devices go on from where they were. -/
theorem evolves_perform (command : BusCommand) (bus : SystemBus δ) :
    Evolves follows bus (CpuBus.perform command bus).2 := by
  cases command with
  | read address width kind => exact evolves_read respects address width kind
  | write address width value kind => exact evolves_write respects address width value kind
  | loadReservedWord hart address => exact evolves_loadReserved respects .word hart address
  | storeConditionalWord hart address value =>
    exact evolves_storeConditional respects .word hart address _
  | atomicWord hart address operation operand =>
    exact evolves_atomic respects .word address operation operand
  | loadReservedDoubleword hart address =>
    exact evolves_loadReserved respects .doubleWord hart address
  | storeConditionalDoubleword hart address value =>
    exact evolves_storeConditional respects .doubleWord hart address value
  | atomicDoubleword hart address operation operand =>
    exact evolves_atomic respects .doubleWord address operation operand

end SystemBus

end RvEmulator.Platform
