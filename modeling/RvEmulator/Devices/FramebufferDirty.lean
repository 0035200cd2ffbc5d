import Mathlib.Data.Set.Lattice
import RvEmulator.Devices.Framebuffer

/-! The dirty region of a framebuffer covers every pixel that was written since it was
cleared, and its computation does not wrap around. -/

namespace RvEmulator.Devices

open Library Platform

namespace FramebufferDirtyRegion

def rectangle (region : FramebufferDirtyRegion) : Rectangle where
  left := region.x.toNat
  top := region.y.toNat
  right := region.x.toNat + region.width.toNat
  bottom := region.y.toNat + region.height.toNat

variable {region update : FramebufferDirtyRegion} {width height : BitVec 32}

theorem not_empty (inside : region.rectangle.Inside width.toNat height.toNat) :
    region.empty = false := by
  obtain ⟨columns, rows, _, _⟩ := inside
  dsimp only [rectangle] at columns rows
  rw [empty, Bool.or_eq_false_iff, beq_eq_false_iff_ne, beq_eq_false_iff_ne]
  constructor
  · intro zero
    rw [zero] at columns
    exact Nat.lt_irrefl _ columns
  · intro zero
    rw [zero] at rows
    exact Nat.lt_irrefl _ rows

theorem join_empty [Monad m] {narrow : Arithmetic 32 m} (empty : region.empty = true) :
    region.join narrow update = pure update := if_pos empty

/-- Two regions inside the screen are joined without wrapping around, to their hull. -/
theorem join_eq (old : region.rectangle.Inside width.toNat height.toNat)
    (new : update.rectangle.Inside width.toNat height.toNat) :
    (∀ {m : Type → Type} [Monad m] [LawfulMonad m] {narrow : Arithmetic 32 m}, narrow.Lawful →
      region.join narrow update = pure (Id.run (region.join .wrapping update))) ∧
    (Id.run (region.join .wrapping update)).rectangle = region.rectangle.hull update.rectangle := by
  have dirty := not_empty old
  obtain ⟨columns, rows, right, bottom⟩ := old
  obtain ⟨moreColumns, moreRows, moreRight, moreBottom⟩ := new
  dsimp only [rectangle] at columns rows right bottom moreColumns moreRows moreRight moreBottom
  have wide := width.isLt
  have high := height.isLt
  have oldRight : region.x.toNat + region.width.toNat < 2 ^ 32 := by omega
  have newRight : update.x.toNat + update.width.toNat < 2 ^ 32 := by omega
  have oldBottom : region.y.toNat + region.height.toNat < 2 ^ 32 := by omega
  have newBottom : update.y.toNat + update.height.toNat < 2 ^ 32 := by omega
  have columnsOrdered : (if update.x < region.x then update.x else region.x).toNat ≤
      (if region.x + region.width < update.x + update.width then update.x + update.width
        else region.x + region.width).toNat := by
    rw [toNat_min, toNat_max, BitVec.toNat_add_of_lt oldRight]
    omega
  have rowsOrdered : (if update.y < region.y then update.y else region.y).toNat ≤
      (if region.y + region.height < update.y + update.height then update.y + update.height
        else region.y + region.height).toNat := by
    rw [toNat_min, toNat_max, BitVec.toNat_add_of_lt oldBottom]
    omega
  constructor
  · intro m _ _ narrow lawful
    simp only [join, dirty, Bool.false_eq_true, if_false, lawful.add oldRight, lawful.add newRight,
      lawful.add oldBottom, lawful.add newBottom, lawful.sub columnsOrdered,
      lawful.sub rowsOrdered, pure_bind]
    rfl
  · have joined : Id.run (region.join .wrapping update) =
        { x := if update.x < region.x then update.x else region.x
          y := if update.y < region.y then update.y else region.y
          width := (if region.x + region.width < update.x + update.width then
              update.x + update.width else region.x + region.width) -
            if update.x < region.x then update.x else region.x
          height := (if region.y + region.height < update.y + update.height then
              update.y + update.height else region.y + region.height) -
            if update.y < region.y then update.y else region.y } := by
      simp only [join, dirty, Bool.false_eq_true, if_false]
      rfl
    rw [joined]
    dsimp only [rectangle, Rectangle.hull]
    rw [BitVec.toNat_sub_of_le (BitVec.le_def.mpr columnsOrdered),
      BitVec.toNat_sub_of_le (BitVec.le_def.mpr rowsOrdered), Nat.add_sub_cancel' columnsOrdered,
      Nat.add_sub_cancel' rowsOrdered, toNat_min, toNat_min, toNat_max, toNat_max,
      BitVec.toNat_add_of_lt oldRight, BitVec.toNat_add_of_lt newRight,
      BitVec.toNat_add_of_lt oldBottom, BitVec.toNat_add_of_lt newBottom]

/-- The second half of an update: from the first and the last pixel to their region. -/
def span [Monad m] (narrow : Arithmetic 32 m) (screen firstX firstY lastX lastY : BitVec 32) :
    m FramebufferDirtyRegion := do
  let rows ← narrow.sub lastY firstY
  let height ← narrow.add rows 1
  if firstY = lastY then
    let columns ← narrow.sub lastX firstX
    let width ← narrow.add columns 1
    pure { x := firstX, y := firstY, width, height }
  else pure { x := 0, y := firstY, width := screen, height }

theorem span_eq {screen firstX firstY lastX lastY : BitVec 32} (rows : firstY.toNat ≤ lastY.toNat)
    (bottom : lastY.toNat + 1 < 2 ^ 32)
    (columns : firstY.toNat = lastY.toNat → firstX.toNat ≤ lastX.toNat)
    (right : lastX.toNat + 1 < 2 ^ 32) :
    (∀ {m : Type → Type} [Monad m] [LawfulMonad m] {narrow : Arithmetic 32 m}, narrow.Lawful →
      span narrow screen firstX firstY lastX lastY =
        pure (Id.run (span .wrapping screen firstX firstY lastX lastY))) ∧
    (Id.run (span .wrapping screen firstX firstY lastX lastY)).rectangle =
      { left := if firstY.toNat = lastY.toNat then firstX.toNat else 0
        top := firstY.toNat
        right := if firstY.toNat = lastY.toNat then lastX.toNat + 1 else screen.toNat
        bottom := lastY.toNat + 1 } := by
  have unit : (1 : BitVec 32).toNat = 1 := rfl
  have rowsCount : (lastY - firstY).toNat = lastY.toNat - firstY.toNat :=
    BitVec.toNat_sub_of_le (BitVec.le_def.mpr rows)
  have heightFits : (lastY - firstY).toNat + (1 : BitVec 32).toNat < 2 ^ 32 := by omega
  have height : (lastY - firstY + 1).toNat = lastY.toNat - firstY.toNat + 1 := by
    rw [BitVec.toNat_add_of_lt heightFits, rowsCount, unit]
  by_cases same : firstY = lastY
  · have columns := columns (congrArg BitVec.toNat same)
    have columnsCount : (lastX - firstX).toNat = lastX.toNat - firstX.toNat :=
      BitVec.toNat_sub_of_le (BitVec.le_def.mpr columns)
    have widthFits : (lastX - firstX).toNat + (1 : BitVec 32).toNat < 2 ^ 32 := by omega
    have width : (lastX - firstX + 1).toNat = lastX.toNat - firstX.toNat + 1 := by
      rw [BitVec.toNat_add_of_lt widthFits, columnsCount, unit]
    unfold span
    simp only [if_pos same]
    constructor
    · intro m _ _ narrow lawful
      simp only [lawful.sub rows, lawful.add heightFits, lawful.sub columns, lawful.add widthFits,
        pure_bind]
      rfl
    · simp only [Arithmetic.wrapping_sub, Arithmetic.wrapping_add, if_pos (congrArg BitVec.toNat same)]
      dsimp only [rectangle, Id.run, pure]
      rw [width, height]
      congr 1 <;> omega
  · have apart : firstY.toNat ≠ lastY.toNat := fun equal => same (BitVec.eq_of_toNat_eq equal)
    unfold span
    simp only [if_neg same]
    constructor
    · intro m _ _ narrow lawful
      simp only [lawful.sub rows, lawful.add heightFits, pure_bind]
      rfl
    · simp only [Arithmetic.wrapping_sub, Arithmetic.wrapping_add, if_neg apart]
      dsimp only [rectangle, Id.run, pure]
      rw [height]
      congr 1
      · exact Nat.zero_add _
      · omega

end FramebufferDirtyRegion

namespace FramebufferGeometry

variable (geometry : FramebufferGeometry)

/-- The column and the row of the pixel that a byte belongs to. -/
def column (byte : Nat) : Nat := byte / geometry.bytesPerPixel.toNat % geometry.width.toNat

def row (byte : Nat) : Nat := byte / geometry.bytesPerPixel.toNat / geometry.width.toNat

/-- The pixels of some bytes, or all pixels of their rows if there are several. -/
def touched (first last : Nat) : Rectangle where
  left := if geometry.row first = geometry.row last then geometry.column first else 0
  top := geometry.row first
  right := if geometry.row first = geometry.row last then geometry.column last + 1
    else geometry.width.toNat
  bottom := geometry.row last + 1

variable {geometry} {first last : Nat}

theorem row_lt {byte : Nat} (inside : byte < geometry.byteCount) :
    geometry.row byte < geometry.height.toNat := by
  unfold row byteCount at *
  rw [Nat.div_div_eq_div_mul, Nat.div_lt_iff_lt_mul (Nat.mul_pos geometry.positive.2.2
    geometry.positive.1)]
  rwa [Nat.mul_comm geometry.width.toNat, Nat.mul_assoc, Nat.mul_comm geometry.width.toNat] at inside

theorem column_lt (byte : Nat) : geometry.column byte < geometry.width.toNat :=
  Nat.mod_lt _ geometry.positive.1

theorem row_le (ordered : first ≤ last) : geometry.row first ≤ geometry.row last :=
  Nat.div_le_div_right (Nat.div_le_div_right ordered)

/-- In one row, later bytes are not further left. -/
theorem column_le (ordered : first ≤ last) (same : geometry.row first = geometry.row last) :
    geometry.column first ≤ geometry.column last := by
  have pixels : first / geometry.bytesPerPixel.toNat ≤ last / geometry.bytesPerPixel.toNat :=
    Nat.div_le_div_right ordered
  have before := Nat.div_add_mod (first / geometry.bytesPerPixel.toNat) geometry.width.toNat
  have after := Nat.div_add_mod (last / geometry.bytesPerPixel.toNat) geometry.width.toNat
  unfold row at same
  unfold column
  rw [same] at before
  omega

theorem touched_inside (ordered : first ≤ last) (inside : last < geometry.byteCount) :
    (geometry.touched first last).Inside geometry.width.toNat geometry.height.toNat := by
  have rows := @row_le geometry _ _ ordered
  have bottom := row_lt inside
  have right := geometry.column_lt last
  have positive := geometry.positive.1
  constructor <;> dsimp only [touched]
  · split
    · have columns := column_le ordered ‹_›
      omega
    · exact positive
  · omega
  · split <;> omega
  · omega

/-- The pixel of every byte between two bytes is touched. -/
theorem touched_holds {byte : Nat} (after : first ≤ byte) (before : byte ≤ last) :
    (geometry.touched first last).Holds (geometry.column byte) (geometry.row byte) := by
  have top := @row_le geometry _ _ after
  have bottom := @row_le geometry _ _ before
  refine ⟨?_, ?_, top, Nat.lt_succ_of_le bottom⟩ <;> dsimp only [touched]
  · split
    · exact column_le after (by omega)
    · exact Nat.zero_le _
  · split
    · exact Nat.lt_succ_of_le (column_le before (by omega))
    · exact geometry.column_lt byte

/-! ### The words of an update -/

theorem toNat_pixel (byte : BitVec 64) :
    (byte / geometry.bytesPerPixel.setWidth 64).toNat =
      byte.toNat / geometry.bytesPerPixel.toNat := by
  rw [BitVec.toNat_udiv, toNat_wide]

/-- The words of `update` for the row and the column of a byte. -/
def rowWord (geometry : FramebufferGeometry) (byte : BitVec 64) : BitVec 32 :=
  (byte / geometry.bytesPerPixel.setWidth 64 / geometry.width.setWidth 64).setWidth 32

def columnWord (geometry : FramebufferGeometry) (byte : BitVec 64) : BitVec 32 :=
  (byte / geometry.bytesPerPixel.setWidth 64 % geometry.width.setWidth 64).setWidth 32

theorem toNat_rowWord {byte : BitVec 64} (inside : byte.toNat < geometry.byteCount) :
    (geometry.rowWord byte).toNat = geometry.row byte.toNat := by
  have small := row_lt inside
  have high := geometry.height.isLt
  rw [rowWord, BitVec.toNat_setWidth, BitVec.toNat_udiv, toNat_pixel, toNat_wide]
  exact Nat.mod_eq_of_lt (by unfold row at small; omega)

theorem toNat_columnWord (byte : BitVec 64) :
    (geometry.columnWord byte).toNat = geometry.column byte.toNat := by
  have small := geometry.column_lt byte.toNat
  have wide := geometry.width.isLt
  rw [columnWord, BitVec.toNat_setWidth, BitVec.toNat_umod, toNat_pixel, toNat_wide]
  exact Nat.mod_eq_of_lt (by unfold column at small; omega)

theorem update_span [Monad m] (wide : Arithmetic 64 m) (narrow : Arithmetic 32 m)
    (offset byteCount : BitVec 64) :
    geometry.update wide narrow offset byteCount =
      (wide.add offset byteCount >>= fun stop => wide.sub stop 1 >>= fun last =>
        FramebufferDirtyRegion.span narrow geometry.width (geometry.columnWord offset)
          (geometry.rowWord offset) (geometry.columnWord last) (geometry.rowWord last)) := rfl

/-- An update does not wrap around; it is the rectangle of the pixels that were touched. -/
theorem update_eq {offset byteCount : BitVec 64} (some : 0 < byteCount.toNat)
    (fits : offset.toNat + byteCount.toNat ≤ geometry.byteCount) :
    (∀ {m : Type → Type} [Monad m] [LawfulMonad m] {wide : Arithmetic 64 m}
      {narrow : Arithmetic 32 m}, wide.Lawful → narrow.Lawful →
      geometry.update wide narrow offset byteCount =
        pure (Id.run (geometry.update .wrapping .wrapping offset byteCount))) ∧
    (Id.run (geometry.update .wrapping .wrapping offset byteCount)).rectangle =
      geometry.touched offset.toNat (offset.toNat + byteCount.toNat - 1) := by
  have bounded := geometry.bounded
  have total : geometry.byteCount < 2 ^ 64 := bounded
  have wideWidth := geometry.width.isLt
  have wideHeight := geometry.height.isLt
  have one : (1 : BitVec 64).toNat = 1 := rfl
  have unit : (1 : BitVec 32).toNat = 1 := rfl
  have stopFits : offset.toNat + byteCount.toNat < 2 ^ 64 := by omega
  have stop : (offset + byteCount).toNat = offset.toNat + byteCount.toNat :=
    BitVec.toNat_add_of_lt stopFits
  have stopPositive : (1 : BitVec 64).toNat ≤ (offset + byteCount).toNat := by omega
  have last : (offset + byteCount - 1).toNat = offset.toNat + byteCount.toNat - 1 := by
    rw [BitVec.toNat_sub_of_le (BitVec.le_def.mpr stopPositive), stop, one]
  have lastInside : (offset + byteCount - 1).toNat < geometry.byteCount := by omega
  have firstInside : offset.toNat < geometry.byteCount := by omega
  have ordered : offset.toNat ≤ offset.toNat + byteCount.toNat - 1 := by omega
  have firstRow := toNat_rowWord firstInside
  have lastRow := toNat_rowWord lastInside
  have firstColumn : (geometry.columnWord offset).toNat = geometry.column offset.toNat :=
    toNat_columnWord offset
  have lastColumn : (geometry.columnWord (offset + byteCount - 1)).toNat = _ :=
    toNat_columnWord (offset + byteCount - 1)
  have below := row_lt lastInside
  rw [last] at lastRow lastColumn below
  have rows := @row_le geometry _ _ ordered
  have columns := @column_le geometry _ _ ordered
  have right := geometry.column_lt (offset.toNat + byteCount.toNat - 1)
  rw [← firstRow, ← lastRow] at rows columns
  rw [← firstColumn, ← lastColumn] at columns
  obtain ⟨exactly, rectangle⟩ := @FramebufferDirtyRegion.span_eq geometry.width _ _ _ _ rows
    (by omega) columns (by omega)
  constructor
  · intro m _ _ wide narrow lawful lawfulNarrow
    rw [update_span, lawful.add stopFits, pure_bind, lawful.sub stopPositive, pure_bind,
      exactly lawfulNarrow]
    rfl
  · rw [firstRow, lastRow, firstColumn, lastColumn] at rectangle
    exact rectangle

end FramebufferGeometry

namespace Framebuffer

/-! ### Runs -/

inductive Event where
  | write (offset : BitVec 64) (width : AccessWidth) (value : BitVec 64)
  | clearDirty
deriving DecidableEq, Repr

/-- A framebuffer, and which bytes were written since the dirty region was cleared, by how
many writes. -/
structure Tracked where
  framebuffer : Framebuffer
  bytes : Set Nat := ∅
  writes : Nat := 0

namespace Tracked

def next (tracked : Tracked) : Event → Tracked
  | .write offset width value =>
    let result := write offset width value tracked.framebuffer
    if result.1 = .none then
      { framebuffer := result.2
        bytes := tracked.bytes ∪ Set.Ico offset.toNat (offset.toNat + width.bytes)
        writes := tracked.writes + 1 }
    else { tracked with framebuffer := result.2 }
  | .clearDirty => { framebuffer := tracked.framebuffer.clearDirty }

/-- The dirty region is as it was made, or it is on the screen and holds the pixels of the
bytes that were written. -/
structure Sound (tracked : Tracked) (geometry : FramebufferGeometry) : Prop where
  same : tracked.framebuffer.geometry = geometry
  clean : tracked.writes = 0 → tracked.framebuffer.dirtyRegion = {} ∧ tracked.bytes = ∅
  inside : tracked.writes ≠ 0 → tracked.framebuffer.dirtyRegion.rectangle.Inside
    geometry.width.toNat geometry.height.toNat
  holds : ∀ byte ∈ tracked.bytes, tracked.framebuffer.dirtyRegion.rectangle.Holds
    (geometry.column byte) (geometry.row byte)

end Tracked

variable {framebuffer : Framebuffer} {offset : BitVec 64} {width : AccessWidth}

/-- What a write does to the dirty region. -/
theorem touch_eq (fits : framebuffer.pixels.Fits offset width)
    (old : framebuffer.dirtyRegion = {} ∨ framebuffer.dirtyRegion.rectangle.Inside
      framebuffer.geometry.width.toNat framebuffer.geometry.height.toNat) :
    framebuffer.touch .checked .checked offset width =
        some (Id.run (framebuffer.touch .wrapping .wrapping offset width)) ∧
      (Id.run (framebuffer.touch .wrapping .wrapping offset width)).rectangle =
        if framebuffer.dirtyRegion = {} then
          framebuffer.geometry.touched offset.toNat (offset.toNat + width.bytes - 1)
        else framebuffer.dirtyRegion.rectangle.hull
          (framebuffer.geometry.touched offset.toNat (offset.toNat + width.bytes - 1)) := by
  have few := width.bytes_le
  have positive := width.bytes_pos
  have count : (BitVec.ofNat 64 width.bytes).toNat = width.bytes := by
    rw [BitVec.toNat_ofNat]
    omega
  have within : offset.toNat + width.bytes ≤ framebuffer.geometry.byteCount :=
    framebuffer.sized ▸ fits
  obtain ⟨exactly, rectangle⟩ := @FramebufferGeometry.update_eq framebuffer.geometry offset
    (BitVec.ofNat 64 width.bytes) (by omega) (by omega)
  have checked := exactly Arithmetic.lawful_checked Arithmetic.lawful_checked
  rw [count] at rectangle
  have touched := @FramebufferGeometry.touched_inside framebuffer.geometry offset.toNat
    (offset.toNat + width.bytes - 1) (by omega) (by omega)
  rw [← rectangle] at touched ⊢
  rcases old with clean | dirty
  · unfold touch
    rw [checked, clean, if_pos rfl]
    exact ⟨rfl, rfl⟩
  · have marked : framebuffer.dirtyRegion ≠ {} := by
      intro clean
      have columns := dirty.columns
      rw [clean] at columns
      exact absurd columns (by decide)
    obtain ⟨joins, hull⟩ := FramebufferDirtyRegion.join_eq dirty touched
    rw [if_neg marked, ← hull]
    unfold touch
    rw [checked]
    exact ⟨joins Arithmetic.lawful_checked, rfl⟩

theorem write_eq (fits : framebuffer.pixels.Fits offset width) (value : BitVec 64) :
    (write offset width value framebuffer).1 = .none ∧
      (write offset width value framebuffer).2.geometry = framebuffer.geometry ∧
      (write offset width value framebuffer).2.dirtyRegion =
        Id.run (framebuffer.touch .wrapping .wrapping offset width) := by
  have stored : (framebuffer.pixels.writeLittleEndian offset width value).1 = .none := by
    rw [Bytes.write_fault, if_pos fits]
  unfold write
  rw [if_pos stored]
  exact ⟨rfl, rfl, rfl⟩

theorem write_refused (outside : ¬framebuffer.pixels.Fits offset width) (value : BitVec 64) :
    write offset width value framebuffer = (.outOfRange, framebuffer) := by
  have fault := framebuffer.pixels.write_fault offset width value
  rw [if_neg outside] at fault
  unfold write
  rw [fault, if_neg nofun]

namespace Tracked

variable {tracked : Tracked} {geometry : FramebufferGeometry}

theorem Sound.before (sound : tracked.Sound geometry) :
    tracked.framebuffer.dirtyRegion = {} ∨ tracked.framebuffer.dirtyRegion.rectangle.Inside
      tracked.framebuffer.geometry.width.toNat tracked.framebuffer.geometry.height.toNat := by
  by_cases none : tracked.writes = 0
  · exact .inl (sound.clean none).1
  · rw [sound.same]
    exact .inr (sound.inside none)

theorem Sound.next (sound : tracked.Sound geometry) (event : Event) :
    (tracked.next event).Sound geometry := by
  cases event with
  | clearDirty => exact ⟨sound.same, fun _ => ⟨rfl, rfl⟩, fun some => absurd rfl some, nofun⟩
  | write offset width value =>
    by_cases fits : tracked.framebuffer.pixels.Fits offset width
    · obtain ⟨stored, same, region⟩ := write_eq fits value
      obtain ⟨_, rectangle⟩ := touch_eq fits sound.before
      have positive := width.bytes_pos
      have within : offset.toNat + width.bytes ≤ tracked.framebuffer.geometry.byteCount :=
        tracked.framebuffer.sized ▸ fits
      have touched := @FramebufferGeometry.touched_inside tracked.framebuffer.geometry offset.toNat
        (offset.toNat + width.bytes - 1) (by omega) (by omega)
      have pixels {byte : Nat} (inside : byte ∈ Set.Ico offset.toNat (offset.toNat + width.bytes)) :=
        @FramebufferGeometry.touched_holds tracked.framebuffer.geometry _ _ byte inside.1
          (Nat.le_sub_one_of_lt inside.2)
      rw [sound.same] at touched pixels
      rw [← region, sound.same] at rectangle
      simp only [Tracked.next, if_pos stored]
      by_cases clean : tracked.framebuffer.dirtyRegion = {}
      · rw [if_pos clean] at rectangle
        refine ⟨same.trans sound.same, nofun, fun _ => rectangle ▸ touched, ?_⟩
        rintro byte (old | new)
        · have holds := sound.holds byte old
          rw [clean] at holds
          exact absurd holds.2.1 (Nat.not_lt_zero _)
        · exact rectangle ▸ pixels new
      · rw [if_neg clean] at rectangle
        have some : tracked.writes ≠ 0 := fun none => clean (sound.clean none).1
        refine ⟨same.trans sound.same, nofun, fun _ => rectangle ▸ (sound.inside some).hull touched, ?_⟩
        rintro byte (old | new)
        · exact rectangle ▸ (sound.holds byte old).hull_left
        · exact rectangle ▸ (pixels new).hull_right
    · simp only [Tracked.next, write_refused fits]
      rw [if_neg nofun]
      exact sound

theorem sound_new {base : PhysAddr} {width height bytesPerPixel : BitVec 32}
    {framebuffer : Framebuffer} (made : new base width height bytesPerPixel = some framebuffer) :
    Tracked.Sound { framebuffer } framebuffer.geometry ∧
      framebuffer.geometry.width = width ∧ framebuffer.geometry.height = height ∧
      framebuffer.geometry.bytesPerPixel = bytesPerPixel := by
  obtain ⟨geometry, accepted, rfl⟩ := Option.map_eq_some_iff.mp made
  refine ⟨⟨rfl, fun _ => ⟨rfl, rfl⟩, fun some => absurd rfl some, nofun⟩, ?_⟩
  unfold FramebufferGeometry.new at accepted
  split at accepted
  · cases accepted
  · dsimp only at accepted
    split at accepted
    · cases accepted
    · cases accepted
      exact ⟨rfl, rfl, rfl⟩

theorem Sound.run (sound : tracked.Sound geometry) (events : List Event) :
    (events.foldl Tracked.next tracked).Sound geometry := by
  induction events generalizing tracked with
  | nil => exact sound
  | cons event events ih => exact ih (sound.next event)

theorem Sound.empty_iff (sound : tracked.Sound geometry) :
    tracked.framebuffer.dirtyRegion.empty = true ↔ tracked.writes = 0 := by
  constructor
  · intro empty
    by_contra some
    rw [FramebufferDirtyRegion.not_empty (sound.inside some)] at empty
    cases empty
  · intro none
    rw [(sound.clean none).1]
    rfl

theorem Sound.on_screen (sound : tracked.Sound geometry) :
    tracked.framebuffer.dirtyRegion.rectangle.right ≤ geometry.width.toNat ∧
      tracked.framebuffer.dirtyRegion.rectangle.bottom ≤ geometry.height.toNat := by
  by_cases none : tracked.writes = 0
  · rw [(sound.clean none).1]
    exact ⟨Nat.zero_le _, Nat.zero_le _⟩
  · exact ⟨(sound.inside none).right, (sound.inside none).bottom⟩

end Tracked

/-- The dirty region after any writes and clears: it holds every pixel that was written, it is
empty if and only if nothing was, it stays on the screen, and no step wraps around. -/
theorem dirty_region_sound {base : PhysAddr} {width height bytesPerPixel : BitVec 32}
    {framebuffer : Framebuffer} (made : new base width height bytesPerPixel = some framebuffer)
    (events : List Event) :
    let tracked := events.foldl Tracked.next { framebuffer }
    let region := tracked.framebuffer.dirtyRegion
    (∀ byte ∈ tracked.bytes, region.rectangle.Holds
      (byte / bytesPerPixel.toNat % width.toNat) (byte / bytesPerPixel.toNat / width.toNat)) ∧
    (region.empty = true ↔ tracked.writes = 0) ∧
    region.x.toNat + region.width.toNat ≤ width.toNat ∧
    region.y.toNat + region.height.toNat ≤ height.toNat ∧
    ∀ (offset : BitVec 64) (access : AccessWidth) (value : BitVec 64),
      (write offset access value tracked.framebuffer).1 = .none →
        tracked.framebuffer.touch .checked .checked offset access =
          some (write offset access value tracked.framebuffer).2.dirtyRegion := by
  intro tracked region
  obtain ⟨start, rfl, rfl, rfl⟩ := Tracked.sound_new made
  have sound : tracked.Sound framebuffer.geometry := start.run events
  have fits {offset : BitVec 64} {access : AccessWidth} {value : BitVec 64}
      (stored : (write offset access value tracked.framebuffer).1 = .none) :
      tracked.framebuffer.pixels.Fits offset access := by
    by_contra outside
    rw [write_refused outside] at stored
    cases stored
  refine ⟨sound.holds, sound.empty_iff, sound.on_screen.1, sound.on_screen.2,
    fun offset access value stored => ?_⟩
  rw [(write_eq (fits stored) value).2.2]
  exact (touch_eq (fits stored) sound.before).1

/-- A write over the end of the first of eight scanlines marks the pixels on both sides. -/
theorem dirty_region_sound_crossing :
    ∃ framebuffer, new 0x10000000 16 8 4 = some framebuffer ∧
      let region := ([.write 0 .word 1, .clearDirty, .write 60 .doubleWord 0].foldl Tracked.next
        { framebuffer }).framebuffer.dirtyRegion
      region.rectangle.Holds 15 0 ∧ region.rectangle.Holds 0 1 := by
  obtain ⟨framebuffer, made⟩ : ∃ framebuffer, new 0x10000000 16 8 4 = some framebuffer := ⟨_, rfl⟩
  obtain ⟨holds, _⟩ := dirty_region_sound made
    [.write 0 .word 1, .clearDirty, .write 60 .doubleWord 0]
  refine ⟨framebuffer, made, holds 60 ?_, holds 64 ?_⟩ <;> cases made <;>
    exact .inr ⟨by decide, by decide⟩

end Framebuffer

end RvEmulator.Devices
