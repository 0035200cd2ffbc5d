import RvEmulator.Platform.DeviceTreeSafety

/-! Device trees and their flattened encodings. -/

namespace RvEmulator.Platform.DeviceTree

open Library

/-- What a node contains. -/
inductive Item where
  | property (name value : Blob)
  | node (name : Blob) (items : List Item)

structure Tree where
  name : Blob
  items : List Item

/-! ### The memory node -/

/-- `memory`, or `memory` with a unit address. -/
def IsMemory (name : Blob) : Prop := name = text "memory" ∨ text "memory@" <+: name

instance : DecidablePred IsMemory := fun _ => inferInstanceAs (Decidable (_ ∨ _))

theorem isMemoryNode_iff (name : Blob) : isMemoryNode name = true ↔ IsMemory name := by
  rw [isMemoryNode, Bool.or_eq_true, beq_iff_eq, List.isPrefixOf_iff_prefix]
  rfl

/-- The contents of the first child that is a memory node. -/
def memoryNode : List Item → Option (List Item)
  | [] => none
  | .property _ _ :: items => memoryNode items
  | .node name children :: items => if IsMemory name then some children else memoryNode items

/-- The value of the first property `reg`. -/
def firstReg : List Item → Option Blob
  | [] => none
  | .property name value :: items => if name = text "reg" then some value else firstReg items
  | .node _ _ :: items => firstReg items

/-- A base and a size of 64 bits. -/
def Expected (expectedBase : BitVec 64) (value : Blob) : Prop :=
  value.length = 16 ∧ value.take 8 = bigEndian 8 expectedBase

instance : Decidable (Expected expectedBase value) := inferInstanceAs (Decidable (_ ∧ _))

def withSize (size : BitVec 64) (value : Blob) : Blob := value.take 8 ++ bigEndian 8 size

/-- The first property `reg` gets another size. -/
def setReg (size : BitVec 64) : List Item → List Item
  | [] => []
  | .property name value :: items =>
    if name = text "reg" then .property name (withSize size value) :: items
    else .property name value :: setReg size items
  | .node name children :: items => .node name children :: setReg size items

/-- The first memory node gets another size. -/
def setMemory (size : BitVec 64) : List Item → List Item
  | [] => []
  | .property name value :: items => .property name value :: setMemory size items
  | .node name children :: items =>
    if IsMemory name then .node name (setReg size children) :: items
    else .node name children :: setMemory size items

namespace Tree

def memory (tree : Tree) : Option (List Item) := memoryNode tree.items

def withMemorySize (tree : Tree) (size : BitVec 64) : Tree :=
  { tree with items := setMemory size tree.items }

end Tree

/-! ### Encodings -/

/-- Zeros up to the next word. -/
def padded (bytes : Blob) : Blob :=
  bytes ++ List.replicate (nextWord bytes.length - bytes.length) 0

@[simp]
theorem length_padded (bytes : Blob) : (padded bytes).length = nextWord bytes.length := by
  rw [padded, List.length_append, List.length_replicate]
  unfold nextWord
  omega

theorem nextWord_mod (position : Nat) : nextWord position % 4 = 0 := Nat.mul_mod_left _ _

theorem nextWord_add {start : Nat} (aligned : start % 4 = 0) (count : Nat) :
    nextWord (start + count) = start + nextWord count := by
  unfold nextWord
  omega

def token (word : BitVec 32) : Blob := bigEndian 4 word

@[simp]
theorem length_token (word : BitVec 32) : (token word).length = 4 := length_bigEndian 4 word

/-- The words before the value of a property. -/
def propertyHeader (value : Blob) (nameOffset : BitVec 32) : Blob :=
  token fdtProperty ++ token (BitVec.ofNat 32 value.length) ++ token nameOffset

@[simp]
theorem length_propertyHeader (value : Blob) (nameOffset : BitVec 32) :
    (propertyHeader value nameOffset).length = 12 := by
  simp [propertyHeader]

def nodeHeader (name : Blob) : Blob := token fdtBeginNode ++ padded (name ++ [0])

/-- The bytes of items, with `FDT_NOP` anywhere between them. A name of a property is
any place in the strings block where it stands. -/
inductive Flattens (strings : Blob) : List Item → Blob → Prop where
  | nil : Flattens strings [] []
  | nop : Flattens strings items bytes → Flattens strings items (token fdtNop ++ bytes)
  | property {name value : Blob} {nameOffset : BitVec 32} : StringAt strings nameOffset.toNat name →
      value.length < 2 ^ 32 → Flattens strings items bytes →
      Flattens strings (.property name value :: items)
        (propertyHeader value nameOffset ++ padded value ++ bytes)
  | node {name inner : Blob} : 0 ∉ name → Flattens strings children inner → Flattens strings items bytes →
      Flattens strings (.node name children :: items)
        (nodeHeader name ++ inner ++ token fdtEndNode ++ bytes)

theorem length_nodeHeader (name : Blob) :
    (nodeHeader name).length = 4 + nextWord (name.length + 1) := by
  simp [nodeHeader]

theorem property_mod (value : Blob) (nameOffset : BitVec 32) :
    (propertyHeader value nameOffset ++ padded value).length % 4 = 0 := by
  have word := nextWord_mod value.length
  rw [List.length_append, length_propertyHeader, length_padded]
  omega

theorem nodeHeader_mod (name : Blob) : (nodeHeader name).length % 4 = 0 := by
  have word := nextWord_mod (name.length + 1)
  rw [length_nodeHeader]
  omega

theorem node_mod (name : Blob) {inner : Blob} (whole : inner.length % 4 = 0) :
    (nodeHeader name ++ inner ++ token fdtEndNode).length % 4 = 0 := by
  have header := nodeHeader_mod name
  rw [List.length_append, List.length_append, length_token]
  omega

theorem Flattens.length_mod {strings : Blob} {items : List Item} {bytes : Blob}
    (flattens : Flattens strings items bytes) : bytes.length % 4 = 0 := by
  induction flattens with
  | nil => rfl
  | nop _ ih =>
    rw [List.length_append, length_token]
    omega
  | @property items bytes name value nameOffset _ _ _ ih =>
    have whole := property_mod value nameOffset
    rw [List.length_append]
    omega
  | @node _ _ _ name _ _ _ _ inner ih =>
    have whole := node_mod name inner
    rw [List.length_append]
    omega

/-- The words of a header behind the magic number. -/
structure Header where
  totalSize : BitVec 32
  structureOffset : BitVec 32
  stringsOffset : BitVec 32
  reservationOffset : BitVec 32
  version : BitVec 32
  lastCompatibleVersion : BitVec 32
  bootCpu : BitVec 32
  stringsSize : BitVec 32
  structureSize : BitVec 32

namespace Header

def bytes (header : Header) : Blob :=
  token fdtMagic ++ token header.totalSize ++ token header.structureOffset ++
    token header.stringsOffset ++ token header.reservationOffset ++ token header.version ++
    token header.lastCompatibleVersion ++ token header.bootCpu ++ token header.stringsSize ++
    token header.structureSize

def parts (header : Header) : Parts where
  structureOffset := header.structureOffset.toNat
  structureSize := header.structureSize.toNat
  stringsOffset := header.stringsOffset.toNat
  stringsSize := header.stringsSize.toNat

end Header

/-- A flattened device tree. Its blocks lie behind the header and do not overlap; there may
be more bytes around and behind them. -/
structure Encodes (tree : Tree) (header : Header) (blob : Blob) : Prop where
  words : header.bytes <+: blob
  totalSize : header.totalSize.toNat ≤ blob.length
  structureInside : header.structureOffset.toNat + header.structureSize.toNat ≤
    header.totalSize.toNat
  stringsInside : header.stringsOffset.toNat + header.stringsSize.toNat ≤ header.totalSize.toNat
  behind : fdtHeaderSize ≤ header.structureOffset.toNat
  apart : header.structureOffset.toNat + header.structureSize.toNat ≤ header.stringsOffset.toNat ∨
    header.stringsOffset.toNat + header.stringsSize.toNat ≤ header.structureOffset.toNat
  flattens : ∃ bytes rest, Flattens (header.parts.strings blob) [.node tree.name tree.items] bytes ∧
    header.parts.structureBlock blob = bytes ++ token fdtEnd ++ rest

end RvEmulator.Platform.DeviceTree
