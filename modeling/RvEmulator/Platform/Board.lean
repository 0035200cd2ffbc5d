import RvEmulator.Platform.Routing

/-! The bus of a machine, and images loaded into the RAM on it
(`devices/src/ram.cpp`, `Machine::Machine` and `Machine::load_image`). -/

namespace RvEmulator.Platform

open Library

/-- A span of bytes; its size is a `size_t`. -/
structure Image where
  bytes : List (BitVec 8)
  bounded : bytes.length < 2 ^ 64

def Image.size (image : Image) : BitVec 64 := BitVec.ofNat 64 image.bytes.length

@[simp]
theorem Image.toNat_size (image : Image) : image.size.toNat = image.bytes.length := by
  rw [size, BitVec.toNat_ofNat, Nat.mod_eq_of_lt image.bounded]

namespace Bytes

/-- `std::copy` of an image to an offset. -/
def copied (bytes : Bytes) (offset : Nat) (image : Image) : Bytes :=
  { bytes with
    byte := fun index =>
      if offset ≤ index ∧ index < offset + image.bytes.length then
        image.bytes.getD (index - offset) 0
      else bytes.byte index }

@[simp]
theorem size_copied (bytes : Bytes) (offset : Nat) (image : Image) :
    (bytes.copied offset image).size = bytes.size := rfl

/-- The image is in the bytes, from the offset on. -/
def Present (bytes : Bytes) (offset : Nat) (image : Image) : Prop :=
  ∀ index (inside : index < image.bytes.length), bytes.byte (offset + index) = image.bytes[index]

theorem present_copied (bytes : Bytes) (offset : Nat) (image : Image) :
    (bytes.copied offset image).Present offset image := by
  intro index inside
  have chosen : offset ≤ offset + index ∧ offset + index < offset + image.bytes.length := by omega
  simp only [copied, if_pos chosen, Nat.add_sub_cancel_left]
  rw [List.getD_eq_getElem?_getD, List.getElem?_eq_getElem inside, Option.getD_some]

theorem byte_copied {bytes : Bytes} {offset index : Nat} {image : Image}
    (outside : index < offset ∨ offset + image.bytes.length ≤ index) :
    (bytes.copied offset image).byte index = bytes.byte index := by
  have other : ¬(offset ≤ index ∧ index < offset + image.bytes.length) := by omega
  simp only [copied, if_neg other]

/-- An image is still there after another was put before or after it. -/
theorem Present.copied {bytes : Bytes} {offset place : Nat} {image other : Image}
    (present : bytes.Present offset image)
    (apart : offset + image.bytes.length ≤ place ∨ place + other.bytes.length ≤ offset) :
    (bytes.copied place other).Present offset image := by
  intro index inside
  rw [byte_copied (by omega), present index inside]

end Bytes

namespace Ram

def loadImage (image : Image) (offset : BitVec 64) : StateM Ram BusFault := fun ram =>
  let available := BitVec.ofNat 64 ram.data.size
  if available < image.size ∨ available - image.size < offset then (.outOfRange, ram)
  else (.none, { data := ram.data.copied offset.toNat image })

theorem loadImage_eq {ram : Ram} {image : Image} {offset : BitVec 64}
    (bounded : ram.data.size < 2 ^ 64)
    (fits : offset.toNat + image.bytes.length ≤ ram.data.size) :
    loadImage image offset ram = (.none, { data := ram.data.copied offset.toNat image }) := by
  have available : (BitVec.ofNat 64 ram.data.size).toNat = ram.data.size := by
    rw [BitVec.toNat_ofNat, Nat.mod_eq_of_lt bounded]
  have enough : image.size ≤ BitVec.ofNat 64 ram.data.size := by
    rw [BitVec.le_def, available, Image.toNat_size]
    omega
  unfold loadImage
  dsimp only
  rw [if_neg]
  rw [not_or, BitVec.not_lt, BitVec.not_lt]
  refine ⟨enough, ?_⟩
  rw [BitVec.le_def, BitVec.toNat_sub_of_le enough, available, Image.toNat_size]
  omega

theorem new_eq {base : PhysAddr} {size : BitVec 64} {mounted : Mounted Ram}
    (made : new base size = some mounted) :
    mounted.range = { base, size } ∧ mounted.device.data.size = mounted.range.size.toNat := by
  unfold new at made
  split at made
  · cases made
  · cases made
    exact ⟨rfl, rfl⟩

end Ram

/-- What is mounted on a machine's bus: its RAM, or another device. -/
inductive Component (δ : Type) where
  | ram (ram : Ram)
  | other (device : δ)

namespace Mounted

variable {δ : Type}

def component (mounted : Mounted Ram) : Mounted (Component δ) :=
  { range := mounted.range
    instructionCacheable := mounted.instructionCacheable
    device := .ram mounted.device }

def other (mounted : Mounted δ) : Mounted (Component δ) :=
  { range := mounted.range
    instructionCacheable := mounted.instructionCacheable
    device := .other mounted.device }

def isRam (mounted : Mounted (Component δ)) : Bool :=
  match mounted.device with
  | .ram _ => true
  | .other _ => false

end Mounted

namespace AddressMap

def dramBase : PhysAddr := 0x80000000

end AddressMap

open AddressMap

/-- The bus of a machine and the RAM that `ram_` points to, which is on the bus as
its constructor and `addDevice` have left it. -/
structure Board (δ : Type) where
  bus : SystemBus (Component δ)
  ramIndex : Nat
  ram : Mounted Ram
  mounted : bus.devices[ramIndex]? = some ram.component
  base : ram.range.base = dramBase
  size : ram.device.data.size = ram.range.size.toNat
  valid : ram.range.Valid

namespace Board

variable {δ : Type}

def withRam (board : Board δ) (data : Bytes) (same : data.size = board.ram.device.data.size) :
    Board δ where
  bus := board.bus.setDevice board.ramIndex board.ram.component (.ram { data })
  ramIndex := board.ramIndex
  ram := { board.ram with device := { data } }
  mounted := by
    obtain ⟨inside, _⟩ := List.getElem?_eq_some_iff.mp board.mounted
    exact List.getElem?_set_self inside
  base := board.base
  size := same.trans board.size
  valid := board.valid

theorem size_loadImage (image : Image) (offset : BitVec 64) (ram : Ram) :
    (Ram.loadImage image offset ram).2.data.size = ram.data.size := by
  unfold Ram.loadImage
  dsimp only
  split <;> rfl

def loadImage (image : Image) (physicalAddress : PhysAddr) : StateM (Board δ) BusFault :=
  fun board =>
    if physicalAddress < dramBase then (.outOfRange, board)
    else
      let loaded := Ram.loadImage image (physicalAddress - dramBase) board.ram.device
      (loaded.1, board.withRam loaded.2.data (size_loadImage _ _ _))

theorem range_loadImage (image : Image) (physicalAddress : PhysAddr) (board : Board δ) :
    (loadImage image physicalAddress board).2.ram.range = board.ram.range := by
  unfold loadImage
  split <;> rfl

def clearReservations (board : Board δ) : Board δ :=
  { board with bus := board.bus.clearReservations }

/-- The devices of a constructor, put on the bus in turn. -/
def emplaceAll : List (Mounted (Component δ)) → Exec (SystemBus (Component δ)) AddDeviceError Unit
  | [] => pure ()
  | device :: devices => do
    SystemBus.addDevice (some device)
    emplaceAll devices

theorem emplaceAll_ok {devices : List (Mounted (Component δ))} {bus after : SystemBus (Component δ)}
    (emplaced : emplaceAll devices bus = (.ok (), after)) :
    after.devices.Perm (devices ++ bus.devices) ∧ ∀ device ∈ devices, device.range.Valid := by
  induction devices generalizing bus with
  | nil =>
    cases emplaced
    exact ⟨.refl _, by simp⟩
  | cons device devices ih =>
    obtain ⟨_, middle, added, rest⟩ := Exec.bind_returned emplaced
    rcases SystemBus.addDevice_cases bus (some device) with ⟨_, refused⟩ | ⟨new, same, valid, _, done⟩
    · rw [refused] at added
      cases added
    · obtain ⟨perm, valids⟩ := ih rest
      rw [done] at added
      cases same
      cases added
      refine ⟨?_, List.forall_mem_cons.mpr ⟨valid, valids⟩⟩
      have sorted := (List.perm_insertionSort SystemBus.baseOrder (bus.devices ++ [device])).trans
        (List.perm_append_singleton device bus.devices)
      exact perm.trans ((sorted.append_left devices).trans List.perm_middle)

/-- Wherever the RAM has been sorted in, it is found there. -/
theorem find_ram {devices : List (Mounted (Component δ))} {ram : Mounted Ram}
    {others : List (Mounted δ)}
    (perm : devices.Perm (ram.component :: others.map Mounted.other)) :
    devices[devices.findIdx Mounted.isRam]? = some ram.component := by
  have member : ram.component ∈ devices := perm.mem_iff.mpr List.mem_cons_self
  have found : (ram.component : Mounted (Component δ)).isRam = true := rfl
  have inside := List.findIdx_lt_length_of_exists ⟨_, member, found⟩
  have chosen := @List.findIdx_getElem _ Mounted.isRam devices inside
  rw [List.getElem?_eq_getElem inside]
  rcases List.mem_cons.mp (perm.mem_iff.mp (List.getElem_mem inside)) with same | other
  · rw [same]
  · obtain ⟨mounted, _, same⟩ := List.mem_map.mp other
    rw [← same] at chosen
    cases chosen

/-- `none` where the constructor throws. -/
def new (ramSize : BitVec 64) (others : List (Mounted δ)) : Option (Board δ) :=
  match made : Ram.new dramBase ramSize with
  | none => none
  | some ram =>
    match emplaced : emplaceAll (ram.component :: others.map Mounted.other) {} with
    | (.error _, _) => none
    | (.ok (), bus) =>
      some
        { bus
          ramIndex := bus.devices.findIdx Mounted.isRam
          ram
          mounted := by
            obtain ⟨perm, _⟩ := emplaceAll_ok emplaced
            exact find_ram (by rwa [List.append_nil] at perm)
          base := by rw [(Ram.new_eq made).1]
          size := (Ram.new_eq made).2
          valid := (emplaceAll_ok emplaced).2 _ List.mem_cons_self }

end Board

end RvEmulator.Platform
