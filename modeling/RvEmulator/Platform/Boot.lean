import Mathlib.Tactic.NormNum
import RvEmulator.Library.Unsigned
import RvEmulator.Platform.Board

/-! The boot layout and the three images loaded by it, as both platforms share
them (`boot.hpp`, `Machine::load_boot`). -/

namespace RvEmulator.Platform

open Library AddressMap

def kernelLoadOffset : BitVec 64 := 4 * 1024 * 1024
def deviceTreeAlignment : BitVec 64 := 4096
def deviceTreeFirmwarePadding : BitVec 64 := 64 * 1024

structure BootImages where
  firmware : Image
  kernel : Image
  deviceTree : Image

structure BootConfig (w : Nat) extends BootImages where
  hartId : BitVec w := 0

structure BootLayout where
  firmwareAddress : PhysAddr := dramBase
  kernelAddress : PhysAddr := dramBase + kernelLoadOffset
  deviceTreeAddress : PhysAddr := 0
deriving DecidableEq

/-- `addressOutOfRange` is an error of the RV32 platform only. -/
inductive BootError where
  | none | missingFirmware | missingKernel | missingDeviceTree | ramTooSmall | imagesOverlap
  | addressOutOfRange | imageLoadFailed
deriving DecidableEq, Repr

structure BootResult where
  error : BootError := .none
  layout : BootLayout := {}
deriving DecidableEq

/-- The first image that is empty, if one is. -/
def BootImages.missing (images : BootImages) : Option BootError :=
  if images.firmware.bytes.isEmpty then some .missingFirmware
  else if images.kernel.bytes.isEmpty then some .missingKernel
  else if images.deviceTree.bytes.isEmpty then some .missingDeviceTree
  else none

theorem BootImages.error_of_missing (images : BootImages) {error : BootError}
    (missing : images.missing = some error) : error ≠ .none ∧ error ≠ .imageLoadFailed := by
  unfold BootImages.missing at missing
  split at missing
  · cases missing
    decide
  split at missing
  · cases missing
    decide
  split at missing
  · cases missing
    decide
  · cases missing

/-- The address of the device tree, or the error of a layout that does not fit. -/
def BootImages.deviceTreeAddress [Monad m] (arithmetic : Arithmetic 64 m) (ramRange : AddressRange)
    (images : BootImages) : m (Except BootError PhysAddr) := do
  let firmwareSize := images.firmware.size
  let kernelSize := images.kernel.size
  let deviceTreeSize := images.deviceTree.size
  if ramRange.size < kernelLoadOffset ∨ ramRange.size < deviceTreeSize then
    pure (.error .ramTooSmall)
  else
    let rest ← arithmetic.sub ramRange.size deviceTreeSize
    if rest < deviceTreeFirmwarePadding then pure (.error .ramTooSmall)
    else if kernelLoadOffset < firmwareSize then pure (.error .imagesOverlap)
    else
      let top ← arithmetic.sub rest deviceTreeFirmwarePadding
      let deviceTreeOffset ← arithmetic.mul (top / deviceTreeAlignment) deviceTreeAlignment
      if deviceTreeOffset < kernelLoadOffset then pure (.error .imagesOverlap)
      else
        let space ← arithmetic.sub deviceTreeOffset kernelLoadOffset
        if space < kernelSize then pure (.error .imagesOverlap)
        else
          let address ← arithmetic.add ramRange.base deviceTreeOffset
          pure (.ok address)

/-- The three loads, which stop at the first that fails. -/
def Board.loadImages (images : BootImages) (layout : BootLayout) : StateM (Board δ) Bool :=
  fun board =>
    let first := loadImage images.firmware layout.firmwareAddress board
    if first.1 ≠ .none then (false, first.2)
    else
      let second := loadImage images.kernel layout.kernelAddress first.2
      if second.1 ≠ .none then (false, second.2)
      else
        let third := loadImage images.deviceTree layout.deviceTreeAddress second.2
        (third.1 == .none, third.2)

/-- The images one after the other in the RAM, with nothing shared. -/
structure BootLayout.Fits (layout : BootLayout) (ramRange : AddressRange) (images : BootImages) :
    Prop where
  firmware : layout.firmwareAddress = dramBase
  kernel : layout.kernelAddress = dramBase + kernelLoadOffset
  afterFirmware : dramBase.toNat + images.firmware.bytes.length ≤ layout.kernelAddress.toNat
  afterKernel : layout.kernelAddress.toNat + images.kernel.bytes.length ≤
    layout.deviceTreeAddress.toNat
  inside : layout.deviceTreeAddress.toNat + images.deviceTree.bytes.length +
    deviceTreeFirmwarePadding.toNat ≤ ramRange.base.toNat + ramRange.size.toNat
  aligned : layout.deviceTreeAddress.toNat % deviceTreeAlignment.toNat = 0

theorem toNat_alignDown (value : BitVec 64) :
    (value / deviceTreeAlignment * deviceTreeAlignment).toNat = value.toNat / 4096 * 4096 := by
  have bounded := value.isLt
  have alignment : deviceTreeAlignment.toNat = 4096 := rfl
  rw [BitVec.toNat_mul, BitVec.toNat_udiv, alignment, Nat.mod_eq_of_lt (by omega)]

/-- What the layout computes: an error, or an address that leaves room for every image.
Nothing wraps around on the way. -/
theorem BootImages.deviceTreeAddress_cases (images : BootImages) {ramRange : AddressRange}
    (base : ramRange.base = dramBase) (valid : ramRange.Valid) :
    (∃ error, (error = .ramTooSmall ∨ error = .imagesOverlap) ∧
      images.deviceTreeAddress .wrapping ramRange = .error error ∧
      images.deviceTreeAddress .checked ramRange = some (.error error)) ∨
    ∃ address, BootLayout.Fits { deviceTreeAddress := address } ramRange images ∧
      images.deviceTreeAddress .wrapping ramRange = .ok address ∧
      images.deviceTreeAddress .checked ramRange = some (.ok address) := by
  have offset : kernelLoadOffset.toNat = 4194304 := rfl
  have padding : deviceTreeFirmwarePadding.toNat = 65536 := rfl
  have alignment : deviceTreeAlignment.toNat = 4096 := rfl
  have dram : dramBase.toNat = 2147483648 := rfl
  have kernelAddress : (dramBase + kernelLoadOffset).toNat = 2151677952 := rfl
  have bounded := valid.2
  rw [base, dram] at bounded
  unfold deviceTreeAddress
  dsimp only
  by_cases small : ramRange.size < kernelLoadOffset ∨ ramRange.size < images.deviceTree.size
  · exact .inl ⟨.ramTooSmall, .inl rfl, if_pos small, if_pos small⟩
  rw [if_neg small, if_neg small]
  rw [not_or, BitVec.not_lt, BitVec.not_lt, BitVec.le_def, BitVec.le_def] at small
  have rest := BitVec.toNat_sub_of_le (BitVec.le_def.mpr small.2)
  rw [Arithmetic.wrapping_sub, Arithmetic.checked_sub _ small.2]
  rw [Image.toNat_size] at rest
  generalize ramRange.size - images.deviceTree.size = room at rest ⊢
  by_cases narrow : room < deviceTreeFirmwarePadding
  · exact .inl ⟨.ramTooSmall, .inl rfl, if_pos narrow, if_pos narrow⟩
  rw [if_neg narrow, if_neg narrow]
  rw [BitVec.not_lt] at narrow
  by_cases firmware : kernelLoadOffset < images.firmware.size
  · exact .inl ⟨.imagesOverlap, .inr rfl, if_pos firmware, if_pos firmware⟩
  rw [if_neg firmware, if_neg firmware]
  rw [BitVec.not_lt, BitVec.le_def, Image.toNat_size] at firmware
  have top := BitVec.toNat_sub_of_le narrow
  rw [BitVec.le_def] at narrow
  rw [Arithmetic.wrapping_sub, Arithmetic.checked_sub _ narrow]
  generalize room - deviceTreeFirmwarePadding = last at top ⊢
  have down := toNat_alignDown last
  have quotient : (last / deviceTreeAlignment).toNat = last.toNat / 4096 := BitVec.toNat_udiv
  rw [Arithmetic.wrapping_mul, Arithmetic.checked_mul _ (by rw [alignment]; omega)]
  generalize last / deviceTreeAlignment * deviceTreeAlignment = aligned at down ⊢
  by_cases below : aligned < kernelLoadOffset
  · exact .inl ⟨.imagesOverlap, .inr rfl, if_pos below, if_pos below⟩
  rw [if_neg below, if_neg below]
  rw [BitVec.not_lt] at below
  have space := BitVec.toNat_sub_of_le below
  rw [BitVec.le_def] at below
  rw [Arithmetic.wrapping_sub, Arithmetic.checked_sub _ below]
  by_cases kernel : aligned - kernelLoadOffset < images.kernel.size
  · exact .inl ⟨.imagesOverlap, .inr rfl, if_pos kernel, if_pos kernel⟩
  rw [if_neg kernel, if_neg kernel]
  rw [BitVec.not_lt, BitVec.le_def, Image.toNat_size] at kernel
  have fits : ramRange.base.toNat + aligned.toNat < 2 ^ 64 := by
    rw [base, dram]
    omega
  have address := BitVec.toNat_add_of_lt fits
  rw [Arithmetic.wrapping_add, Arithmetic.checked_add _ fits]
  rw [base, dram] at address
  refine .inr ⟨_, ?_, rfl, rfl⟩
  rw [base]
  constructor <;> dsimp only
  · omega
  · omega
  · rw [base]
    omega
  · rw [alignment]
    omega

/-- No operation of the layout wraps around, whatever the sizes. -/
theorem BootImages.deviceTreeAddress_checked (images : BootImages) {ramRange : AddressRange}
    (base : ramRange.base = dramBase) (valid : ramRange.Valid) :
    images.deviceTreeAddress .checked ramRange =
      some (images.deviceTreeAddress .wrapping ramRange) := by
  rcases images.deviceTreeAddress_cases base valid with
    ⟨_, _, wrapping, checked⟩ | ⟨_, _, wrapping, checked⟩
  · rw [wrapping, checked]
  · rw [wrapping, checked]

theorem Board.loadImage_ok {board : Board δ} {image : Image} {address : PhysAddr}
    (above : dramBase.toNat ≤ address.toNat)
    (inside : address.toNat + image.bytes.length ≤
      board.ram.range.base.toNat + board.ram.range.size.toNat) :
    ∃ after, loadImage image address board = (.none, after) ∧
      after.ram.range = board.ram.range ∧
      after.ram.device.data =
        board.ram.device.data.copied (address.toNat - dramBase.toNat) image := by
  have ordered : dramBase ≤ address := BitVec.le_def.mpr above
  have offset : (address - dramBase).toNat = address.toNat - dramBase.toNat :=
    BitVec.toNat_sub_of_le ordered
  have bounded := board.ram.range.size.isLt
  rw [board.base] at inside
  have loaded : Ram.loadImage image (address - dramBase) board.ram.device =
      (.none, { data := board.ram.device.data.copied (address - dramBase).toNat image }) :=
    Ram.loadImage_eq (by rw [board.size]; exact bounded) (by rw [board.size, offset]; omega)
  have started : ¬address < dramBase := BitVec.not_lt.mpr ordered
  rw [offset] at loaded
  have stored : (loadImage image address board).1 = .none ∧
      (loadImage image address board).2.ram.device.data =
        board.ram.device.data.copied (address.toNat - dramBase.toNat) image := by
    simp only [loadImage, if_neg started, loaded, withRam, and_self]
  exact ⟨_, Prod.ext stored.1 rfl, range_loadImage _ _ _, stored.2⟩

/-- A layout that fits is loaded completely. -/
theorem Board.loadImages_ok {board : Board δ} {images : BootImages} {layout : BootLayout}
    (fits : layout.Fits board.ram.range images) :
    ∃ after, loadImages images layout board = (true, after) ∧
      after.ram.range = board.ram.range ∧
      after.ram.device.data =
        ((board.ram.device.data.copied 0 images.firmware).copied
          (layout.kernelAddress.toNat - dramBase.toNat) images.kernel).copied
          (layout.deviceTreeAddress.toNat - dramBase.toNat) images.deviceTree := by
  obtain ⟨firmware, _, afterFirmware, afterKernel, inside, _⟩ := fits
  have started : layout.firmwareAddress.toNat = dramBase.toNat := by rw [firmware]
  obtain ⟨first, firstLoaded, firstRange, firstData⟩ :=
    @loadImage_ok _ board images.firmware layout.firmwareAddress (by omega) (by omega)
  obtain ⟨second, secondLoaded, secondRange, secondData⟩ :=
    @loadImage_ok _ first images.kernel layout.kernelAddress (by omega) (by rw [firstRange]; omega)
  rw [firstRange] at secondRange
  obtain ⟨third, thirdLoaded, thirdRange, thirdData⟩ :=
    @loadImage_ok _ second images.deviceTree layout.deviceTreeAddress (by omega)
      (by rw [secondRange]; omega)
  refine ⟨third, ?_, thirdRange.trans secondRange, ?_⟩
  · simp [loadImages, firstLoaded, secondLoaded, thirdLoaded]
  · rw [thirdData, secondData, firstData, started, Nat.sub_self]

/-- What the three images take up; the device tree takes its padding too. -/
def BootLayout.footprints (layout : BootLayout) (images : BootImages) : List AddressRange :=
  [{ base := layout.firmwareAddress, size := images.firmware.size },
    { base := layout.kernelAddress, size := images.kernel.size },
    { base := layout.deviceTreeAddress, size := images.deviceTree.size + deviceTreeFirmwarePadding }]

/-- The RAM after a boot: every image at its place, and nothing else changed. -/
structure BootLayout.Placed (layout : BootLayout) (ramRange : AddressRange) (images : BootImages)
    (before after : Bytes) : Prop where
  size : after.size = before.size
  inside : ∀ range ∈ layout.footprints images, ∀ address, range.Holds address →
    ramRange.Holds address
  apart : (layout.footprints images).Pairwise AddressRange.Apart
  aligned : layout.deviceTreeAddress.toNat % deviceTreeAlignment.toNat = 0
  firmware : after.Present (layout.firmwareAddress.toNat - ramRange.base.toNat) images.firmware
  kernel : after.Present (layout.kernelAddress.toNat - ramRange.base.toNat) images.kernel
  deviceTree : after.Present (layout.deviceTreeAddress.toNat - ramRange.base.toNat)
    images.deviceTree
  kept : ∀ address, ramRange.Holds address →
    (∀ place ∈ [(layout.firmwareAddress, images.firmware), (layout.kernelAddress, images.kernel),
      (layout.deviceTreeAddress, images.deviceTree)],
      ¬AddressRange.Holds { base := place.1, size := place.2.size } address) →
    after.byte (address - ramRange.base.toNat) = before.byte (address - ramRange.base.toNat)

theorem BootLayout.Fits.placed {layout : BootLayout} {ramRange : AddressRange}
    {images : BootImages} {bytes : Bytes} (fits : layout.Fits ramRange images)
    (base : ramRange.base = dramBase) (valid : ramRange.Valid) :
    layout.Placed ramRange images bytes
      (((bytes.copied 0 images.firmware).copied
        (layout.kernelAddress.toNat - dramBase.toNat) images.kernel).copied
        (layout.deviceTreeAddress.toNat - dramBase.toNat) images.deviceTree) := by
  have bounded := valid.2
  obtain ⟨firmware, kernel, afterFirmware, afterKernel, inside, aligned⟩ := fits
  have padding : deviceTreeFirmwarePadding.toNat = 65536 := rfl
  have padded : (images.deviceTree.size + deviceTreeFirmwarePadding).toNat =
      images.deviceTree.bytes.length + 65536 := by
    rw [BitVec.toNat_add_of_lt] <;> rw [Image.toNat_size, padding]
    omega
  rw [padding] at inside
  have started : layout.firmwareAddress.toNat = dramBase.toNat := by rw [firmware]
  rw [base] at inside bounded
  constructor
  case size => rw [Bytes.size_copied, Bytes.size_copied, Bytes.size_copied]
  case inside =>
    intro range member address held
    simp only [footprints, List.mem_cons, List.not_mem_nil, or_false] at member
    rcases member with rfl | rfl | rfl <;>
      simp only [AddressRange.Holds, base, Image.toNat_size, padded] at held ⊢ <;> omega
  case apart =>
    simp only [footprints, List.pairwise_cons, List.mem_cons, List.not_mem_nil, or_false,
      forall_eq_or_imp, forall_eq, AddressRange.Apart, AddressRange.Holds, Image.toNat_size, padded]
    refine ⟨⟨?_, ?_⟩, ?_, by simp⟩ <;> omega
  case aligned => exact aligned
  case firmware =>
    rw [base, started, Nat.sub_self]
    exact ((Bytes.present_copied _ _ _).copied (by omega)).copied (by omega)
  case kernel =>
    rw [base]
    exact (Bytes.present_copied _ _ _).copied (by omega)
  case deviceTree =>
    rw [base]
    exact Bytes.present_copied _ _ _
  case kept =>
    intro address held apart
    simp only [List.mem_cons, List.not_mem_nil, or_false, forall_eq_or_imp, forall_eq,
      AddressRange.Holds, Image.toNat_size, base] at held apart ⊢
    rw [Bytes.byte_copied (by omega), Bytes.byte_copied (by omega), Bytes.byte_copied (by omega)]

/-- What a boot of either platform comes to before it knows its layout: an error of the
images or of their sizes, or an address for the device tree at which all three load. -/
inductive BootImages.Prepared (images : BootImages) (board : Board δ) : Prop where
  | missing (failed : error ≠ .none) (other : error ≠ .imageLoadFailed) :
      images.missing = some error → Prepared images board
  | misfit (failed : error ≠ .none) (other : error ≠ .imageLoadFailed) :
      images.missing = none →
      images.deviceTreeAddress .wrapping board.ram.range = .error error → Prepared images board
  | loaded {after : Board δ} : images.missing = none →
      images.deviceTreeAddress .wrapping board.ram.range = .ok address →
      Board.loadImages images { deviceTreeAddress := address } board =
        (true, after) →
      after.ram.range = board.ram.range →
      BootLayout.Placed { deviceTreeAddress := address } board.ram.range images
        board.ram.device.data after.ram.device.data → Prepared images board

theorem BootImages.prepared (images : BootImages) (board : Board δ) : images.Prepared board := by
  cases missing : images.missing with
  | some error =>
    obtain ⟨failed, other⟩ := images.error_of_missing missing
    exact .missing failed other missing
  | none =>
    rcases images.deviceTreeAddress_cases board.base board.valid with
      ⟨error, kind, computed, _⟩ | ⟨address, fits, computed, _⟩
    · refine .misfit ?_ ?_ missing computed
      all_goals rcases kind with rfl | rfl <;> exact BootError.noConfusion
    · obtain ⟨after, loaded, range, data⟩ := Board.loadImages_ok fits
      have placed := @BootLayout.Fits.placed _ _ _ board.ram.device.data fits board.base board.valid
      rw [← data] at placed
      exact .loaded missing computed loaded range placed

end RvEmulator.Platform
