import Mathlib.Algebra.Ring.Nat
import RvEmulator.Library.BigEndian

/-! The patch of the memory node in a flattened device tree
(`platform64/src/device_tree.cpp`). An access outside the bytes it is made to is `none`. -/

namespace RvEmulator.Platform.DeviceTree

open Library

abbrev Blob := List (BitVec 8)

/-- The bytes of a C string literal. -/
def text (literal : String) : Blob := literal.toList.map fun char => BitVec.ofNat 8 char.toNat

inductive PatchError where
  | none | invalidBlob | memoryNodeNotFound | memoryRegNotFound | unexpectedMemoryLayout
deriving DecidableEq, Repr

def fdtMagic : BitVec 32 := 0xD00DFEED
def fdtBeginNode : BitVec 32 := 1
def fdtEndNode : BitVec 32 := 2
def fdtProperty : BitVec 32 := 3
def fdtNop : BitVec 32 := 4
def fdtEnd : BitVec 32 := 9
def fdtHeaderSize : Nat := 40

/-- The largest `size_t`. -/
def sizeMax : Nat := 2 ^ 64 - 1

/-- A sum of `size_t` values. -/
def sizeAdd (left right : Nat) : Nat := (left + right) % 2 ^ 64

def containsRange (containerSize offset size : Nat) : Bool :=
  decide (offset ≤ containerSize ∧ size ≤ containerSize - offset)

def readBe32 (bytes : Blob) (offset : Nat) : Option (BitVec 32) := do
  let first ← bytes[offset]?
  let second ← bytes[offset + 1]?
  let third ← bytes[offset + 2]?
  let fourth ← bytes[offset + 3]?
  some (first.setWidth 32 <<< 24 ||| second.setWidth 32 <<< 16 ||| third.setWidth 32 <<< 8 |||
    fourth.setWidth 32)

def readBe64 (bytes : Blob) (offset : Nat) : Option (BitVec 64) := do
  let high ← readBe32 bytes offset
  let low ← readBe32 bytes (offset + 4)
  some (high.setWidth 64 <<< 32 ||| low.setWidth 64)

/-- `bytes[offset] = byte`. -/
def writeByte (bytes : Blob) (offset : Nat) (byte : BitVec 8) : Option Blob :=
  if offset < bytes.length then some (bytes.set offset byte) else none

/-- The loop that stores the bytes from an index on. -/
def writeBe64From (offset : Nat) (value : BitVec 64) : (count index : Nat) → Blob → Option Blob
  | 0, _, bytes => some bytes
  | count + 1, index, bytes => do
    let stored ← writeByte bytes (offset + index) ((value >>> ((7 - index) * 8)).setWidth 8)
    writeBe64From offset value count (index + 1) stored

def writeBe64 (bytes : Blob) (offset : Nat) (value : BitVec 64) : Option Blob :=
  writeBe64From offset value 8 0 bytes

def alignToWord (value : Nat) : Option Nat :=
  if sizeMax - 3 < value then none
  else some ((BitVec.ofNat 64 (sizeAdd value 3) &&& ~~~3).toNat)

/-- The loop that looks for the end of a string; `count` bytes are left. -/
def findZero (bytes : Blob) : (count : Nat) → (position : Nat) → Option Nat
  | 0, position => some position
  | count + 1, position => do
    let byte ← bytes[position]?
    if byte = 0 then some position else findZero bytes count (position + 1)

/-- The string at an offset and the position behind it, if it ends inside the bytes. -/
def readCString (bytes : Blob) (offset : Nat) : Option (Option (Blob × Nat)) :=
  if bytes.length ≤ offset then some none
  else do
    let position ← findZero bytes (bytes.length - offset) offset
    if position = bytes.length then some none
    else some (some ((bytes.drop offset).take (position - offset), sizeAdd position 1))

def isMemoryNode (name : Blob) : Bool := name == text "memory" || (text "memory@").isPrefixOf name

/-- The variables of the loop. -/
structure Scan where
  cursor : Nat := 0
  depth : Nat := 0
  memoryDepth : Nat := sizeMax
  memoryFound : Bool := false
deriving DecidableEq, Repr

/-- How the loop ends: with an error, or with the position of a value to patch. -/
inductive Verdict where
  | failed (error : PatchError)
  | found (position : Nat)
deriving DecidableEq, Repr

inductive Round where
  | next (scan : Scan)
  | ended (verdict : Verdict)
deriving DecidableEq, Repr

def invalid : Option Round := some (.ended (.failed .invalidBlob))

/-- The branch of `FDT_BEGIN_NODE`. -/
def beginNode (structureBlock : Blob) (scan : Scan) : Option Round := do
  match ← readCString structureBlock scan.cursor with
  | none => invalid
  | some (name, next) =>
    match alignToWord next with
    | none => invalid
    | some next =>
      if structureBlock.length < next then invalid
      else
        let depth := sizeAdd scan.depth 1
        if scan.memoryFound = false ∧ depth = 2 ∧ isMemoryNode name = true then
          some (.next { cursor := next, depth, memoryDepth := depth, memoryFound := true })
        else some (.next { scan with cursor := next, depth })

/-- The branch of `FDT_END_NODE`. -/
def endNode (scan : Scan) : Option Round :=
  if scan.depth = 0 then invalid
  else if scan.depth = scan.memoryDepth then some (.ended (.failed .memoryRegNotFound))
  else some (.next { scan with depth := scan.depth - 1 })

/-- What is done with a property whose value starts at the cursor. -/
def propertyValue (structureBlock : Blob) (expectedBase : BitVec 64) (scan : Scan) (valueSize : Nat)
    (name : Blob) : Option Round :=
  if scan.depth = scan.memoryDepth ∧ name = text "reg" then
    if valueSize ≠ 16 then some (.ended (.failed .unexpectedMemoryLayout))
    else do
      let base ← readBe64 structureBlock scan.cursor
      if base ≠ expectedBase then some (.ended (.failed .unexpectedMemoryLayout))
      else some (.ended (.found (sizeAdd scan.cursor 8)))
  else
    match alignToWord (sizeAdd scan.cursor valueSize) with
    | none => invalid
    | some next =>
      if structureBlock.length < next then invalid else some (.next { scan with cursor := next })

/-- The branch of `FDT_PROP`. -/
def property (structureBlock strings : Blob) (expectedBase : BitVec 64) (scan : Scan) :
    Option Round :=
  if !containsRange structureBlock.length scan.cursor 8 then invalid
  else do
    let valueSize := (← readBe32 structureBlock scan.cursor).toNat
    let nameOffset := (← readBe32 structureBlock (sizeAdd scan.cursor 4)).toNat
    let scan := { scan with cursor := sizeAdd scan.cursor 8 }
    if !containsRange structureBlock.length scan.cursor valueSize ∨ strings.length ≤ nameOffset then
      invalid
    else
      match ← readCString strings nameOffset with
      | none => invalid
      | some (name, _) => propertyValue structureBlock expectedBase scan valueSize name

/-- One round of the loop, or its exit. -/
def round (structureBlock strings : Blob) (expectedBase : BitVec 64) (scan : Scan) : Option Round :=
  if !containsRange structureBlock.length scan.cursor 4 then invalid
  else do
    let token ← readBe32 structureBlock scan.cursor
    let scan := { scan with cursor := sizeAdd scan.cursor 4 }
    if token = fdtBeginNode then beginNode structureBlock scan
    else if token = fdtEndNode then endNode scan
    else if token = fdtProperty then property structureBlock strings expectedBase scan
    else if token = fdtNop then some (.next scan)
    else if token = fdtEnd then
      some (.ended (.failed
        (if scan.memoryFound then .memoryRegNotFound else .memoryNodeNotFound)))
    else invalid

/-- The loop; `none` also when `fuel` rounds were not enough. -/
def scanTokens (structureBlock strings : Blob) (expectedBase : BitVec 64) :
    (fuel : Nat) → Scan → Option Verdict
  | 0, _ => none
  | fuel + 1, scan => do
    match ← round structureBlock strings expectedBase scan with
    | .next scan => scanTokens structureBlock strings expectedBase fuel scan
    | .ended verdict => some verdict

/-- A part of a blob, as a span. -/
def subspan (blob : Blob) (offset count : Nat) : Option Blob :=
  if offset + count ≤ blob.length then some ((blob.drop offset).take count) else none

/-- The blob after a span of it was written to. -/
def withSpan (blob : Blob) (offset : Nat) (span : Blob) : Blob :=
  blob.take offset ++ span ++ blob.drop (offset + span.length)

/-- The parts of a blob that its header describes. -/
structure Parts where
  structureOffset : Nat
  structureSize : Nat
  stringsOffset : Nat
  stringsSize : Nat
deriving DecidableEq, Repr

/-- The checks of the header. -/
def readHeader (blob : Blob) : Option (Option Parts) :=
  if blob.length < fdtHeaderSize then some none
  else do
    if (← readBe32 blob 0) ≠ fdtMagic then some none
    else
      let totalSize := (← readBe32 blob 4).toNat
      let structureOffset := (← readBe32 blob 8).toNat
      let stringsOffset := (← readBe32 blob 12).toNat
      let stringsSize := (← readBe32 blob 32).toNat
      let structureSize := (← readBe32 blob 36).toNat
      if blob.length < totalSize ∨ totalSize < fdtHeaderSize ∨
          !containsRange totalSize structureOffset structureSize ∨
          !containsRange totalSize stringsOffset stringsSize then
        some none
      else some (some { structureOffset, structureSize, stringsOffset, stringsSize })

/-- The error and the blob afterwards. -/
def patchDeviceTreeMemory (blob : Blob) (expectedBase size : BitVec 64) :
    Option (PatchError × Blob) := do
  match ← readHeader blob with
  | none => some (.invalidBlob, blob)
  | some parts =>
    let structureBlock ← subspan blob parts.structureOffset parts.structureSize
    let strings ← subspan blob parts.stringsOffset parts.stringsSize
    match ← scanTokens structureBlock strings expectedBase (structureBlock.length + 1) {} with
    | .failed error => some (error, blob)
    | .found position =>
      let patched ← writeBe64 structureBlock position size
      some (.none, withSpan blob parts.structureOffset patched)

end RvEmulator.Platform.DeviceTree
