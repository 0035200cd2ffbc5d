import RvEmulator.Devices.VirtioBlock
import RvEmulator.Devices.VirtioNetQueues
import RvEmulator.Library.Unstopped

/-! Devices whose direct memory access may reach their own registers. What such a device
writes can then change the device itself, between two statements of its tick. -/

namespace RvEmulator.Devices

open Library Platform

/-- What must not happen in a tick. -/
inductive Hazard where
  | moduloByZero
  | outOfRange
  | frameGone
  | endless
deriving DecidableEq, Repr

/-- The registers of a device. They are written by words only. -/
class RegisterFile (Δ : Type) where
  write : Δ → BitVec 64 → AccessWidth → BitVec 64 → BusFault × Δ
  write_narrow : width ≠ .word → (write device offset width value).2 = device

instance : RegisterFile (VirtioNet ν) where
  write := VirtioNet.write
  write_narrow narrow := by
    rw [VirtioNet.write]
    split
    · rfl
    · rw [if_pos (.inl narrow)]

instance : RegisterFile (VirtioBlock σ) where
  write := VirtioBlock.write
  write_narrow narrow := by
    rw [VirtioBlock.write]
    split
    · rfl
    · rw [if_pos (.inl narrow)]

/-- What a device reaches by direct memory access. A write reaches an offset in the
registers of the device, or something else that accepts it or not; a read may find
anything. -/
class Surroundings (Δ δ : Type) where
  dmaRead : PhysAddr → AccessWidth → Δ → StateM δ ReadResult
  dmaWrite : PhysAddr → AccessWidth → BitVec 64 → Δ → StateM δ (BitVec 64 ⊕ BusFault)

/-- A computation of a device amid its surroundings that a hazard may stop. -/
abbrev Hazardous (Δ δ : Type) : Type → Type := Exec (Δ × δ) Hazard

namespace Hazardous

variable {Δ δ α : Type}

def device : Hazardous Δ δ Δ := .lift fun state => (state.1, state)

def change (update : Δ → Δ) : Hazardous Δ δ Unit := .lift fun state => ((), update state.1, state.2)

/-- `index % size`. -/
def modulo (index size : BitVec 16) : Hazardous Δ δ (BitVec 16) :=
  if size = 0 then .stop .moduloByZero else pure (index % size)

/-- `items[index]`. -/
def elementAt (items : List α) (index : Nat) : Hazardous Δ δ α :=
  match items[index]? with
  | none => .stop .outOfRange
  | some item => pure item

/-- `items[index] = item`. -/
def storeAt (items : List α) (index : Nat) (item : α) : Hazardous Δ δ (List α) :=
  if index < items.length then pure (items.set index item) else .stop .outOfRange

/-- `span(items).first(count)`. -/
def firstOf (items : List α) (count : Nat) : Hazardous Δ δ (List α) :=
  if items.length < count then .stop .outOfRange else pure (items.take count)

def dmaRead [Surroundings Δ δ] (address : PhysAddr) (width : AccessWidth) :
    Hazardous Δ δ ReadResult := .lift fun (device, dma) =>
  let answer := Surroundings.dmaRead address width device dma
  (answer.1, device, answer.2)

/-- Whether a write was accepted. A write to the registers takes effect before the device
goes on. -/
def dmaWrite [RegisterFile Δ] [Surroundings Δ δ] (address : PhysAddr) (width : AccessWidth)
    (value : BitVec 64) : Hazardous Δ δ Bool := .lift fun (device, dma) =>
  match Surroundings.dmaWrite address width value device dma with
  | (.inl offset, dma) =>
    let written := RegisterFile.write device offset width value
    (written.1 == .none, written.2, dma)
  | (.inr fault, dma) => (fault == .none, device, dma)

/-- The two words of a used element; the second one is written if the first one was. -/
def writeElement [RegisterFile Δ] [Surroundings Δ δ] (element : PhysAddr) (head : BitVec 16)
    (bytesWritten : BitVec 32) : Hazardous Δ δ Bool := do
  let id ← dmaWrite element .word (head.setWidth 64)
  if id then dmaWrite (element + 4) .word (bytesWritten.setWidth 64) else pure false

/-- The four reads of a descriptor; `none` if one of them is refused. -/
def readDescriptor [Surroundings Δ δ] (table : PhysAddr) (index : BitVec 16) :
    Hazardous Δ δ (Option Descriptor) := do
  let address := table + index.setWidth 64 * 16
  let guestAddress ← dmaRead address .doubleWord
  let length ← dmaRead (address + 8) .word
  let flags ← dmaRead (address + 12) .halfWord
  let next ← dmaRead (address + 14) .halfWord
  pure (if guestAddress.ok && length.ok && flags.ok && next.ok then
    some
      { address := guestAddress.value
        length := length.value.setWidth 32
        flags := flags.value.setWidth 16
        next := next.value.setWidth 16 }
    else none)

/-- A counter below some bound does not wrap around. -/
theorem toNat_succ {count bound : BitVec 16} (below : ¬bound ≤ count) :
    (count + 1).toNat = count.toNat + 1 := by
  have room : count.toNat < bound.toNat := BitVec.not_le.mp below
  exact BitVec.toNat_add_of_lt (Nat.lt_of_le_of_lt room bound.isLt)

/-- The guard of a loop is what makes its divisors positive. -/
theorem ne_zero_of_guard {size processed : BitVec 16} (more : ¬size ≤ processed) : size ≠ 0 := by
  rintro rfl
  exact more (Nat.zero_le _)

/-! ### What is known of the device -/

variable {kept : Δ → Prop} {pre : Δ × δ → Prop}

/-- No hazard stops the computation if this is known of the device before. -/
abbrev Safe (kept : Δ → Prop) (x : Hazardous Δ δ α) : Prop :=
  Exec.Safe (fun state => kept state.1) x

/-- No hazard stops the computation, and what is known of the device stays known. -/
abbrev Secure (kept : Δ → Prop) (x : Hazardous Δ δ α) (post : α → Prop) : Prop :=
  Exec.Secure (fun state => kept state.1) x post

theorem secure_device : Secure (δ := δ) kept device kept :=
  .lift fun _ before => ⟨before, before⟩

theorem secure_change {update : Δ → Δ} (stable : ∀ found, kept found → kept (update found)) :
    Secure (δ := δ) kept (change update) fun _ => True :=
  .lift fun _ before => ⟨stable _ before, trivial⟩

theorem safe_change {update : Δ → Δ} : Exec.Safe (σ := Δ × δ) pre (change update) :=
  Exec.Ensures.lift fun _ _ => trivial

theorem secure_modulo {size : BitVec 16} (positive : size ≠ 0) (index : BitVec 16) :
    Secure (δ := δ) kept (modulo index size) fun _ => True := by
  rw [modulo, if_neg positive]
  exact .pure trivial

theorem secure_elementAt {items : List α} {index : Nat} (inside : index < items.length) :
    Secure (δ := δ) kept (elementAt items index) fun _ => True := by
  rw [elementAt, List.getElem?_eq_getElem inside]
  exact .pure trivial

theorem secure_storeAt {items : List α} {index : Nat} (inside : index < items.length) (item : α) :
    Secure (δ := δ) kept (storeAt items index item) fun stored => stored.length = items.length := by
  rw [storeAt, if_pos inside]
  exact .pure List.length_set

theorem secure_firstOf {items : List α} {count : Nat} (fits : count ≤ items.length) :
    Secure (δ := δ) kept (firstOf items count) fun first => first.length = count := by
  rw [firstOf, if_neg (Nat.not_lt.mpr fits)]
  exact .pure (List.length_take_of_le fits)

/-- What is found in the device is known of it. -/
theorem safe_device {next : Δ → Hazardous Δ δ α}
    (safe : ∀ found, Safe (fun device => device = found) (next found)) :
    Exec.Safe pre (device >>= next) :=
  fun state _ => safe state.1 state rfl

section

variable [Surroundings Δ δ]

theorem secure_dmaRead (address : PhysAddr) (width : AccessWidth) :
    Secure (δ := δ) kept (dmaRead address width) fun _ => True :=
  .lift fun _ before => ⟨before, trivial⟩

theorem safe_dmaRead (address : PhysAddr) (width : AccessWidth) :
    Exec.Safe (σ := Δ × δ) pre (dmaRead address width) :=
  Exec.Ensures.lift fun _ _ => trivial

theorem secure_readDescriptor (table : PhysAddr) (index : BitVec 16) :
    Secure (δ := δ) kept (readDescriptor table index) fun _ => True :=
  .bind (secure_dmaRead _ _) fun _ _ => .bind (secure_dmaRead _ _) fun _ _ =>
    .bind (secure_dmaRead _ _) fun _ _ => .bind (secure_dmaRead _ _) fun _ _ => .pure trivial

variable [RegisterFile Δ]

/-- A write that is narrower than a word leaves the registers alone. -/
theorem secure_dmaWrite {width : AccessWidth} (narrow : width ≠ .word) (address : PhysAddr)
    (value : BitVec 64) : Secure (δ := δ) kept (dmaWrite address width value) fun _ => True := by
  apply Exec.Secure.lift
  rintro ⟨device, dma⟩ before
  dsimp only
  split
  · refine ⟨?_, trivial⟩
    rw [RegisterFile.write_narrow narrow]
    exact before
  · exact ⟨before, trivial⟩

/-- After a write of any width nothing is known of the device. -/
theorem safe_dmaWrite (address : PhysAddr) (width : AccessWidth) (value : BitVec 64) :
    Exec.Safe (σ := Δ × δ) pre (dmaWrite address width value) :=
  Exec.Ensures.lift fun _ _ => trivial

theorem safe_writeElement (element : PhysAddr) (head : BitVec 16) (bytesWritten : BitVec 32) :
    Exec.Safe (σ := Δ × δ) pre (writeElement element head bytesWritten) :=
  .andThen (safe_dmaWrite _ _ _) fun _ => .ite (fun _ => safe_dmaWrite _ _ _) fun _ => .pure

end

end Hazardous

end RvEmulator.Devices
