import RvEmulator.Platform.DeviceTreeSearch

/-! The patch of a flattened device tree is the patch of the tree. -/

namespace RvEmulator.Platform.DeviceTree

open Library

/-! ### The header -/

theorem Header.length_bytes (header : Header) : header.bytes.length = fdtHeaderSize := by
  simp [Header.bytes, fdtHeaderSize]

namespace Encodes

variable {tree : Tree} {header : Header} {blob : Blob} (encodes : Encodes tree header blob)

include encodes

theorem inside : header.parts.Inside blob where
  header := header.length_bytes ▸ List.IsPrefix.length_le encodes.words
  structureBlock := encodes.structureInside.trans encodes.totalSize
  structureBounded := header.structureSize.isLt
  strings := encodes.stringsInside.trans encodes.totalSize
  stringsBounded := header.stringsSize.isLt

theorem readHeader : readHeader blob = some (some header.parts) := by
  have start : At blob 0 header.bytes := encodes.words
  have long := encodes.inside.header
  have prior := start.left.left.left.left.left.left
  have structureSize := start.right.readBe32
  have stringsSize := start.left.right.readBe32
  have stringsOffset := prior.right.readBe32
  have structureOffset := prior.left.right.readBe32
  have totalSize := prior.left.left.right.readBe32
  have magic := prior.left.left.left.readBe32
  simp only [List.length_append, length_token] at structureSize stringsSize stringsOffset
  simp only [List.length_append, length_token] at structureOffset totalSize
  have first := encodes.structureInside
  have second := encodes.stringsInside
  have behind := encodes.behind
  unfold DeviceTree.readHeader
  rw [if_neg (Nat.not_lt.mpr long), magic, totalSize, structureOffset, stringsOffset, stringsSize,
    structureSize]
  simp only [Option.bind_eq_bind, Option.bind_some]
  rw [if_neg (not_not.mpr rfl), if_neg]
  · rfl
  · simp only [not_or, Bool.not_eq_true, Bool.not_eq_false', containsRange_iff]
    exact ⟨Nat.not_lt.mpr encodes.totalSize, by omega, first, second⟩

/-- A size that is stored in the structure block changes the tree. -/
theorem patched {changed : Tree} {bytes rest : Blob} {place : Nat} {size : BitVec 64}
    (split : header.parts.structureBlock blob = bytes ++ token fdtEnd ++ rest)
    (fits : place + 16 ≤ bytes.length)
    (flattens : Flattens (header.parts.strings blob) [.node changed.name changed.items]
      (patched bytes place size)) :
    Encodes changed header (patched blob (header.parts.structureOffset + place) size) := by
  have inside := encodes.inside
  have whole := inside.length_structureBlock
  have room := inside.structureBlock
  have behind := encodes.behind
  have apart := encodes.apart
  rw [split, List.length_append, List.length_append] at whole
  have within : header.parts.structureOffset + place + 16 ≤ blob.length := by omega
  refine { encodes with words := ?_, totalSize := ?_, flattens := ?_ }
  · have start := List.prefix_take_iff.mpr ⟨encodes.words, show header.bytes.length ≤
      header.parts.structureOffset + place + 8 by
        rw [header.length_bytes]
        exact Nat.le_add_right_of_le (Nat.le_add_right_of_le behind)⟩
    unfold DeviceTree.patched
    rw [List.append_assoc]
    exact start.trans (List.prefix_append _ _)
  · rw [length_patched within]
    exact encodes.totalSize
  · have strings : header.parts.strings
        (DeviceTree.patched blob (header.parts.structureOffset + place) size) =
          header.parts.strings blob := by
      refine Parts.strings_congr fun index above below => getElem?_patched within ?_
      dsimp only [Header.parts] at above below whole ⊢
      omega
    refine ⟨_, rest, strings ▸ flattens, ?_⟩
    rw [inside.structureBlock_patched (by omega), split, List.append_assoc, List.append_assoc]
    have middle := @patched_append [] bytes (token fdtEnd ++ rest) place size fits
    rw [List.length_nil, Nat.zero_add] at middle
    exact middle

variable {expectedBase : BitVec 64}

theorem bounded : Bounded (header.parts.structureBlock blob) (header.parts.strings blob) :=
  ⟨encodes.inside.length_structureBlock.trans_lt header.structureSize.isLt,
    encodes.inside.length_strings.trans_lt header.stringsSize.isLt⟩

theorem scanned {verdict : Verdict}
    (finishes : Finishes (header.parts.structureBlock blob) (header.parts.strings blob)
      expectedBase {} verdict) :
    scanParts header.parts blob expectedBase = some verdict := by
  have bounded := encodes.bounded
  obtain ⟨other, scanned, _⟩ :=
    @scanTokens_ends _ _ expectedBase bounded.structureBlock bounded.strings
      (header.parts.structureSize + 1) {} (Nat.zero_le _)
      (by rw [encodes.inside.length_structureBlock]; dsimp only; omega)
  rw [scanParts, scanned, finishes.scanTokens scanned]

theorem failed {error : PatchError} (size : BitVec 64)
    (finishes : Finishes (header.parts.structureBlock blob) (header.parts.strings blob)
      expectedBase {} (.failed error)) :
    patchDeviceTreeMemory blob expectedBase size = some (error, blob) := by
  rw [patch_eq encodes.readHeader encodes.inside, encodes.scanned finishes]
  rfl

end Encodes

/-- The patch of a flattened tree finds the first memory node below the root and its first
`reg`, or says what is missing; a success changes that size in the tree and nothing else. -/
theorem patch_correct {tree : Tree} {header : Header} {blob : Blob}
    (encodes : Encodes tree header blob) (expectedBase size : BitVec 64) :
    ∃ error after, patchDeviceTreeMemory blob expectedBase size = some (error, after) ∧
      (error = .none ↔ ∃ items value, tree.memory = some items ∧ firstReg items = some value ∧
        Expected expectedBase value) ∧
      (error = .memoryNodeNotFound ↔ tree.memory = none) ∧
      (error = .memoryRegNotFound ↔ ∃ items, tree.memory = some items ∧ firstReg items = none) ∧
      (error = .unexpectedMemoryLayout ↔ ∃ items value, tree.memory = some items ∧
        firstReg items = some value ∧ ¬Expected expectedBase value) ∧
      (error = .none → Encodes (tree.withMemorySize size) header after ∧
        ∃ place, place + 16 ≤ blob.length ∧ after = patched blob place size) ∧
      (error ≠ .none → after = blob) := by
  have bounded := encodes.bounded
  obtain ⟨bytes, rest, flattens, split⟩ := encodes.flattens
  have found : At (header.parts.structureBlock blob) 0 (bytes ++ token fdtEnd) :=
    ⟨rest, split.symm⟩
  have search := @sought_root _ _ expectedBase bounded _ _ flattens {} rfl found.left ⟨rfl, rfl, rfl⟩
  cases memory : tree.memory with
  | none =>
    have finishes := search.missing memory _ (finishes_end bounded found.right rfl)
    exact ⟨_, _, encodes.failed size finishes, by simp⟩
  | some items =>
    cases reg : firstReg items with
    | none => exact ⟨_, _, encodes.failed size (search.without items memory reg), by simp [reg]⟩
    | some value =>
      have resolves := search.present items value memory reg
      by_cases expected : Expected expectedBase value
      · obtain ⟨place, finishes, fits, changes⟩ := resolves.expected expected
        have inside := encodes.inside
        have length := inside.length_structureBlock
        have room := inside.structureBlock
        rw [split, List.length_append, List.length_append] at length
        rw [Nat.zero_add] at finishes
        have whole : Encodes (tree.withMemorySize size) header
            (patched blob (header.parts.structureOffset + place) size) :=
          encodes.patched split fits (changes size)
        refine ⟨_, _, patch_of_found encodes.readHeader inside (by omega)
          (encodes.scanned finishes) size, by simp [reg, expected], by simp, by simp [reg],
          by simp [reg, expected], fun _ => ⟨whole, _, by omega, rfl⟩, fun fails => absurd rfl fails⟩
      · exact ⟨_, _, encodes.failed size (resolves.unexpected expected), by simp [reg, expected]⟩

namespace Sample

/-- A tree with properties around its nodes, a node below another one, and a memory node
whose `reg` is not its first property. -/
def tree (size : BitVec 64) : Tree where
  name := []
  items := [.property (text "soc-reg") [0, 0, 0, 1],
    .node (text "cpus") [.property (text "reg") [0, 0, 0, 0], .node (text "cpu") []],
    .node (text "memory@80000000") [.property (text "soc-reg") [0x5A],
      .property (text "reg") (bigEndian 8 (0x80000000 : BitVec 64) ++ bigEndian 8 size)]]

def header : Header :=
  ⟨0xD8, 0x38, 0xD0, 0x28, 0x11, 0x10, 0, 8, 0x98⟩

/-- Its bytes. There is a `FDT_NOP` before the memory node and one before its `reg`, and the
two names share the string. -/
def blob : Blob :=
  ([0xD00DFEED, 0xD8, 0x38, 0xD0, 0x28, 0x11, 0x10, 0, 8, 0x98, 0, 0, 0, 0,
    1, 0, 3, 4, 0, 1,
    1, 0x63707573, 0, 3, 4, 4, 0, 1, 0x63707500, 2, 2,
    4, 1, 0x6D656D6F, 0x72794038, 0x30303030, 0x30303000, 3, 1, 0, 0x5A000000,
    4, 3, 0x10, 4, 0, 0x80000000, 0, 0x10000000, 2, 2, 9,
    0x736F632D, 0x72656700] : List (BitVec 32)).flatMap (bigEndian 4)

theorem encodes : Encodes (tree 0x10000000) header blob where
  words := by
    rw [← List.isPrefixOf_iff_prefix]
    decide
  totalSize := by decide +kernel
  structureInside := by decide
  stringsInside := by decide
  behind := by decide
  apart := .inl (by decide)
  flattens := by
    have whole : StringAt (header.parts.strings blob) (0 : BitVec 32).toNat (text "soc-reg") :=
      ⟨by decide, List.isPrefixOf_iff_prefix.mp (by decide)⟩
    have shared : StringAt (header.parts.strings blob) (4 : BitVec 32).toNat (text "reg") :=
      ⟨by decide, List.isPrefixOf_iff_prefix.mp (by decide)⟩
    have cpu : 0 ∉ text "cpu" ∧ 0 ∉ text "cpus" := by decide
    have memory : 0 ∉ text "memory@80000000" := by decide
    exact ⟨_, [], .node (by decide) (.property whole (by decide)
      (.node cpu.2 (.property shared (by decide) (.node cpu.1 .nil .nil))
        (.nop (.node memory (.property whole (by decide)
          (.nop (.property shared (by decide) .nil))) .nil)))) .nil, by decide⟩

end Sample

/-- The memory of the sample is found and patched. -/
theorem patch_correct_sample :
    ∃ after, patchDeviceTreeMemory Sample.blob 0x80000000 0x20000000 = some (.none, after) ∧
      Encodes (Sample.tree 0x20000000) Sample.header after ∧
      ∃ place, after = patched Sample.blob place 0x20000000 := by
  obtain ⟨error, after, result, succeeds, _, _, _, whole, _⟩ :=
    patch_correct Sample.encodes 0x80000000 0x20000000
  have none : error = .none := succeeds.mpr ⟨_, _, rfl, rfl, by decide⟩
  subst none
  obtain ⟨changed, place, _, same⟩ := whole rfl
  have tree : (Sample.tree 0x10000000).withMemorySize 0x20000000 = Sample.tree 0x20000000 := rfl
  rw [tree] at changed
  exact ⟨after, result, changed, place, same⟩

end RvEmulator.Platform.DeviceTree
