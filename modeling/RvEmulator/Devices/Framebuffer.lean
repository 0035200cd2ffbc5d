import RvEmulator.Library.Rectangle
import RvEmulator.Library.Unsigned
import RvEmulator.Platform.MemoryLaws

/-! The linear framebuffer and its dirty region (`devices/src/framebuffer.cpp`). -/

namespace RvEmulator.Devices

open Library Platform

structure FramebufferDirtyRegion where
  x : BitVec 32 := 0
  y : BitVec 32 := 0
  width : BitVec 32 := 0
  height : BitVec 32 := 0
deriving DecidableEq, Repr

namespace FramebufferDirtyRegion

def empty (region : FramebufferDirtyRegion) : Bool := region.width == 0 || region.height == 0

/-- The region that is dirty after an update, with additions and subtractions of words as
`narrow` has them. -/
def join [Monad m] (narrow : Arithmetic 32 m) (region update : FramebufferDirtyRegion) :
    m FramebufferDirtyRegion :=
  if region.empty then pure update
  else do
    let left := if update.x < region.x then update.x else region.x
    let top := if update.y < region.y then update.y else region.y
    let oldRight ← narrow.add region.x region.width
    let newRight ← narrow.add update.x update.width
    let right := if oldRight < newRight then newRight else oldRight
    let oldBottom ← narrow.add region.y region.height
    let newBottom ← narrow.add update.y update.height
    let bottom := if oldBottom < newBottom then newBottom else oldBottom
    let width ← narrow.sub right left
    let height ← narrow.sub bottom top
    pure { x := left, y := top, width, height }

end FramebufferDirtyRegion

structure FramebufferStatistics where
  writeOperations : BitVec 64 := 0
  bytesWritten : BitVec 64 := 0
  dirtyRegionUpdates : BitVec 64 := 0
deriving DecidableEq, Repr

/-- The dimensions that the constructor accepts. -/
structure FramebufferGeometry where
  width : BitVec 32
  height : BitVec 32
  bytesPerPixel : BitVec 32
  positive : 0 < width.toNat ∧ 0 < height.toNat ∧ 0 < bytesPerPixel.toNat
  bounded : width.toNat * height.toNat * bytesPerPixel.toNat < 2 ^ 64

namespace FramebufferGeometry

theorem toNat_wide (word : BitVec 32) : (word.setWidth 64).toNat = word.toNat := by
  rw [BitVec.toNat_setWidth, Nat.mod_eq_of_lt (by omega)]

theorem toNat_pixelCount (width height : BitVec 32) :
    (width.setWidth 64 * height.setWidth 64).toNat = width.toNat * height.toNat := by
  have product : width.toNat * height.toNat ≤ (2 ^ 32 - 1) * (2 ^ 32 - 1) :=
    Nat.mul_le_mul (Nat.le_sub_one_of_lt width.isLt) (Nat.le_sub_one_of_lt height.isLt)
  rw [BitVec.toNat_mul, toNat_wide, toNat_wide, Nat.mod_eq_of_lt (by omega)]

theorem bounded_of_check {width height bytesPerPixel : BitVec 32}
    (positive : 0 < bytesPerPixel.toNat)
    (small : ¬BitVec.allOnes 64 / bytesPerPixel.setWidth 64 <
      width.setWidth 64 * height.setWidth 64) :
    width.toNat * height.toNat * bytesPerPixel.toNat < 2 ^ 64 := by
  rw [BitVec.lt_def, Nat.not_lt, toNat_pixelCount, BitVec.toNat_udiv, toNat_wide,
    Nat.le_div_iff_mul_le positive] at small
  exact Nat.lt_of_le_of_lt small (BitVec.isLt _)

/-- What the constructor checks, with its arithmetic of 64 bits; `none` where it throws. -/
def new (width height bytesPerPixel : BitVec 32) : Option FramebufferGeometry :=
  if zero : width = 0 ∨ height = 0 ∨ bytesPerPixel = 0 then none
  else
    let pixelCount := width.setWidth 64 * height.setWidth 64
    if large : BitVec.allOnes 64 / bytesPerPixel.setWidth 64 < pixelCount then none
    else
      have nonzero (word : BitVec 32) (some : word ≠ 0) : 0 < word.toNat :=
        Nat.pos_of_ne_zero fun zero => some (BitVec.eq_of_toNat_eq zero)
      have positive := not_or.mp zero
      some
        { width, height, bytesPerPixel
          positive := ⟨nonzero width positive.1, nonzero height (not_or.mp positive.2).1,
            nonzero bytesPerPixel (not_or.mp positive.2).2⟩
          bounded := bounded_of_check (nonzero bytesPerPixel (not_or.mp positive.2).2) large }

def byteCount (geometry : FramebufferGeometry) : Nat :=
  geometry.width.toNat * geometry.height.toNat * geometry.bytesPerPixel.toNat

/-- The region that a write of some bytes touches, with additions and subtractions as `wide`
and `narrow` have them. -/
def update [Monad m] (wide : Arithmetic 64 m) (narrow : Arithmetic 32 m)
    (geometry : FramebufferGeometry) (offset byteCount : BitVec 64) : m FramebufferDirtyRegion := do
  let firstPixel := offset / geometry.bytesPerPixel.setWidth 64
  let stop ← wide.add offset byteCount
  let last ← wide.sub stop 1
  let lastPixel := last / geometry.bytesPerPixel.setWidth 64
  let firstY := (firstPixel / geometry.width.setWidth 64).setWidth 32
  let lastY := (lastPixel / geometry.width.setWidth 64).setWidth 32
  let rows ← narrow.sub lastY firstY
  let height ← narrow.add rows 1
  if firstY = lastY then
    let x := (firstPixel % geometry.width.setWidth 64).setWidth 32
    let lastX := (lastPixel % geometry.width.setWidth 64).setWidth 32
    let columns ← narrow.sub lastX x
    let width ← narrow.add columns 1
    pure { x, y := firstY, width, height }
  else
    -- The write crosses scanlines: all of them are marked.
    pure { x := 0, y := firstY, width := geometry.width, height }

end FramebufferGeometry

structure Framebuffer where
  base : PhysAddr
  geometry : FramebufferGeometry
  pixels : Bytes
  sized : pixels.size = geometry.byteCount
  dirtyRegion : FramebufferDirtyRegion := {}
  statistics : FramebufferStatistics := {}

namespace Framebuffer

def new (base : PhysAddr) (width height bytesPerPixel : BitVec 32) : Option Framebuffer :=
  (FramebufferGeometry.new width height bytesPerPixel).map fun geometry =>
    { base, geometry, pixels := { size := geometry.byteCount }, sized := rfl }

def range (framebuffer : Framebuffer) : AddressRange where
  base := framebuffer.base
  size := BitVec.ofNat 64 framebuffer.geometry.byteCount

def dirty (framebuffer : Framebuffer) : Bool := !framebuffer.dirtyRegion.empty

def clearDirty (framebuffer : Framebuffer) : Framebuffer := { framebuffer with dirtyRegion := {} }

/-- The dirty region after a successful write. -/
def touch [Monad m] (wide : Arithmetic 64 m) (narrow : Arithmetic 32 m) (framebuffer : Framebuffer)
    (offset : BitVec 64) (width : AccessWidth) : m FramebufferDirtyRegion := do
  let update ← framebuffer.geometry.update wide narrow offset (BitVec.ofNat 64 width.bytes)
  framebuffer.dirtyRegion.join narrow update

def write (offset : BitVec 64) (width : AccessWidth) (value : BitVec 64) :
    StateM Framebuffer BusFault := fun framebuffer =>
  if (framebuffer.pixels.writeLittleEndian offset width value).1 = .none then
    (.none,
      { framebuffer with
        pixels := (framebuffer.pixels.writeLittleEndian offset width value).2
        sized := (Bytes.write_size ..).trans framebuffer.sized
        dirtyRegion := Id.run (framebuffer.touch .wrapping .wrapping offset width)
        statistics :=
          { writeOperations := framebuffer.statistics.writeOperations + 1
            bytesWritten := framebuffer.statistics.bytesWritten + BitVec.ofNat 64 width.bytes
            dirtyRegionUpdates := framebuffer.statistics.dirtyRegionUpdates + 1 } })
  else ((framebuffer.pixels.writeLittleEndian offset width value).1, framebuffer)

instance : Device Framebuffer where
  read offset width := fun framebuffer =>
    (framebuffer.pixels.readLittleEndian offset width, framebuffer)
  write := write
  refused := by
    intro offset width value framebuffer failed
    unfold write at failed ⊢
    split at failed
    · exact absurd rfl failed
    · rename_i refused
      rw [if_neg refused]

end Framebuffer

end RvEmulator.Devices
