import RvEmulator.Devices.Virtqueue

/-! Direct memory access with a record of what a device asked for, and of what was refused. -/

namespace RvEmulator.Devices

open Library Platform

/-- An access, and whether it was answered. -/
inductive Access where
  | read (address : PhysAddr) (width : AccessWidth) (answered : Bool)
  | write (address : PhysAddr) (width : AccessWidth) (value : BitVec 64) (accepted : Bool)
deriving DecidableEq

/-- A write to guest memory. -/
structure Store where
  address : PhysAddr
  width : AccessWidth
  value : BitVec 64
deriving DecidableEq

/-- The write of an access, if it is one that was accepted. -/
def Access.store : Access → Option Store
  | .write address width value true => some { address, width, value }
  | _ => none

/-- Whether an access is for reading, or a write of a permitted width. -/
def Access.Within (stored : AccessWidth → Prop) : Access → Prop
  | .read .. => True
  | .write _ width _ _ => stored width

/-- What accesses can turn direct memory access into, whether they are refused or not. -/
inductive Accessed [DmaAccess δ] (stored : AccessWidth → Prop) (dma : δ) : δ → Prop where
  | refl : Accessed stored dma dma
  | read : Accessed stored dma middle →
      Accessed stored dma (DmaAccess.dmaRead address width middle).2
  | write : Accessed stored dma middle → stored width →
      Accessed stored dma (DmaAccess.dmaWrite address width value middle).2

theorem Accessed.trans [DmaAccess δ] {stored : AccessWidth → Prop} {dma middle after : δ}
    (first : Accessed stored dma middle) (second : Accessed stored middle after) :
    Accessed stored dma after := by
  induction second with
  | refl => exact first
  | read _ ih => exact ih.read
  | write _ width ih => exact ih.write width

theorem Accessed.mono [DmaAccess δ] {stored more : AccessWidth → Prop} {dma after : δ}
    (accessed : Accessed stored dma after) (wider : ∀ width, stored width → more width) :
    Accessed more dma after := by
  induction accessed with
  | refl => exact .refl
  | read _ ih => exact ih.read
  | write _ width ih => exact ih.write (wider _ width)

theorem Accessed.sound [DmaAccess δ] {memory : DmaMemory δ} {stored : AccessWidth → Prop}
    {dma after : δ} (accessed : Accessed stored dma after) (sound : memory.sound dma) :
    memory.sound after := by
  induction accessed with
  | refl => exact sound
  | read _ ih => exact memory.sound_read ih
  | write _ _ ih => exact memory.sound_write ih

/-- Reads leave memory as it is. -/
theorem Accessed.reads [DmaAccess δ] {memory : DmaMemory δ} {dma after : δ}
    (accessed : Accessed (fun _ => False) dma after) (sound : memory.sound dma) :
    memory.sound after ∧ memory.contents after = memory.contents dma := by
  induction accessed with
  | refl => exact ⟨sound, rfl⟩
  | read _ ih => exact ⟨memory.sound_read ih.1, (memory.contents_read ih.1).trans ih.2⟩
  | write _ none => exact none.elim

theorem Accessed.readDescriptor [DmaAccess δ] {stored : AccessWidth → Prop} {dma middle : δ}
    (accessed : Accessed stored dma middle) (rings : Rings) (index : BitVec 16) :
    Accessed stored dma (rings.readDescriptor index middle).2 := by
  unfold Rings.readDescriptor
  dsimp only
  split <;> exact accessed.read.read.read.read

/-- Direct memory access with the accesses so far, the oldest one first. -/
structure Recorded (δ : Type) where
  dma : δ
  accesses : List Access := []

namespace Recorded

/-- Nothing has been accessed yet. -/
def start (dma : δ) : Recorded δ := { dma }

/-- The writes that were accepted. -/
def stores (recorded : Recorded δ) : List Store := recorded.accesses.filterMap Access.store

section

variable [DmaAccess δ]

instance : DmaAccess (Recorded δ) where
  dmaRead address width recorded :=
    let read := DmaAccess.dmaRead address width recorded.dma
    (read.1,
      { dma := read.2, accesses := recorded.accesses ++ [.read address width read.1.ok] })
  dmaWrite address width value recorded :=
    let written := DmaAccess.dmaWrite address width value recorded.dma
    (written.1,
      { dma := written.2
        accesses := recorded.accesses ++ [.write address width value (written.1 == .none)] })

/-- The memory behind a record. -/
def memory (memory : DmaMemory δ) : DmaMemory (Recorded δ) where
  sound recorded := memory.sound recorded.dma
  contents recorded := memory.contents recorded.dma
  answers := memory.answers
  sound_read := memory.sound_read
  contents_read := memory.contents_read
  read_value := memory.read_value
  readable := memory.readable
  sound_write := memory.sound_write
  written := memory.written
  refused := memory.refused
  writable := memory.writable

variable {recorded before after : Recorded δ} {address : PhysAddr} {width : AccessWidth}
  {value : BitVec 64} {stored : AccessWidth → Prop}

/-- The record only ever grows. -/
theorem accesses_of_accessed (accessed : Accessed stored before after) :
    ∃ later, after.accesses = before.accesses ++ later ∧
      ∀ access ∈ later, access.Within stored := by
  induction accessed with
  | refl => exact ⟨[], (List.append_nil _).symm, fun _ member => absurd member List.not_mem_nil⟩
  | read _ ih =>
    obtain ⟨later, grown, within⟩ := ih
    refine ⟨later ++ [_], (congrArg (· ++ [_]) grown).trans (List.append_assoc ..), ?_⟩
    intro access member
    obtain old | new := List.mem_append.mp member
    · exact within access old
    · rw [List.mem_singleton.mp new]
      trivial
  | write _ permitted ih =>
    obtain ⟨later, grown, within⟩ := ih
    refine ⟨later ++ [_], (congrArg (· ++ [_]) grown).trans (List.append_assoc ..), ?_⟩
    intro access member
    obtain old | new := List.mem_append.mp member
    · exact within access old
    · rw [List.mem_singleton.mp new]
      exact permitted

/-- What was not permitted was not done. -/
theorem mem_of_accessed (accessed : Accessed stored before after) {access : Access}
    (member : access ∈ after.accesses) (other : ¬access.Within stored) :
    access ∈ before.accesses := by
  obtain ⟨later, grown, within⟩ := accesses_of_accessed accessed
  rw [grown] at member
  obtain old | new := List.mem_append.mp member
  · exact old
  · exact absurd (within access new) other

theorem stores_of_accessed (accessed : Accessed stored before after) :
    before.stores <+: after.stores := by
  obtain ⟨later, grown, _⟩ := accesses_of_accessed accessed
  unfold stores
  rw [grown, List.filterMap_append]
  exact List.prefix_append _ _

theorem stores_of_reads (accessed : Accessed (fun _ => False) before after) :
    after.stores = before.stores := by
  obtain ⟨later, grown, within⟩ := accesses_of_accessed accessed
  unfold stores
  rw [grown, List.filterMap_append, List.append_right_eq_self, List.filterMap_eq_nil_iff]
  intro access member
  cases access with
  | read => rfl
  | write address width value accepted => exact (within _ member).elim

@[simp]
theorem stores_read (recorded : Recorded δ) (address : PhysAddr) (width : AccessWidth) :
    (DmaAccess.dmaRead address width recorded).2.stores = recorded.stores := by
  change (recorded.accesses ++ [_]).filterMap _ = _
  rw [List.filterMap_append]
  exact List.append_nil _

theorem stores_write (accepted : (DmaAccess.dmaWrite address width value recorded).1 = .none) :
    (DmaAccess.dmaWrite address width value recorded).2.stores =
      recorded.stores ++ [⟨address, width, value⟩] := by
  change (DmaAccess.dmaWrite address width value recorded.dma).1 = .none at accepted
  change (recorded.accesses ++ [Access.write address width value
    ((DmaAccess.dmaWrite address width value recorded.dma).1 == .none)]).filterMap _ = _
  rw [List.filterMap_append, accepted]
  rfl

theorem stores_refused (refused : (DmaAccess.dmaWrite address width value recorded).1 ≠ .none) :
    (DmaAccess.dmaWrite address width value recorded).2.stores = recorded.stores := by
  change (DmaAccess.dmaWrite address width value recorded.dma).1 ≠ .none at refused
  change (recorded.accesses ++ [Access.write address width value
    ((DmaAccess.dmaWrite address width value recorded.dma).1 == .none)]).filterMap _ = _
  rw [List.filterMap_append, beq_eq_false_iff_ne.mpr refused]
  exact List.append_nil _

@[simp]
theorem stores_readDescriptor (rings : Rings) (index : BitVec 16) (recorded : Recorded δ) :
    (rings.readDescriptor index recorded).2.stores = recorded.stores := by
  unfold Rings.readDescriptor
  dsimp only
  split <;> simp only [stores_read]

end

end Recorded

end RvEmulator.Devices
