import RvEmulator.Platform.DeviceTreeRounds

/-! The patch of a device tree on arbitrary bytes: it stays inside them, changes nothing
when it fails, and changes one size when it succeeds. -/

namespace RvEmulator.Platform.DeviceTree

open Library

/-! ### The header -/

/-- The parts lie inside the blob; their sizes come from words. -/
structure Parts.Inside (parts : Parts) (blob : Blob) : Prop where
  header : fdtHeaderSize ≤ blob.length
  structureBlock : parts.structureOffset + parts.structureSize ≤ blob.length
  structureBounded : parts.structureSize < 2 ^ 32
  strings : parts.stringsOffset + parts.stringsSize ≤ blob.length
  stringsBounded : parts.stringsSize < 2 ^ 32

theorem containsRange_iff {containerSize offset size : Nat} :
    containsRange containerSize offset size = true ↔ offset + size ≤ containerSize := by
  rw [containsRange, decide_eq_true_eq]
  omega

theorem readHeader_cases (blob : Blob) :
    readHeader blob = some none ∨
      ∃ parts : Parts, readHeader blob = some (some parts) ∧ parts.Inside blob := by
  unfold readHeader fdtHeaderSize
  by_cases short : blob.length < 40
  · exact .inl (if_pos short)
  rw [if_neg short, readBe32_eq (by omega), readBe32_eq (by omega), readBe32_eq (by omega),
    readBe32_eq (by omega), readBe32_eq (by omega), readBe32_eq (by omega)]
  simp only [Option.bind_eq_bind, Option.bind_some]
  split
  · exact .inl rfl
  split
  · exact .inl rfl
  · rename_i sound
    simp only [not_or, Bool.not_eq_true, Bool.not_eq_false', containsRange_iff] at sound
    obtain ⟨total, _, nodes, strings⟩ := sound
    refine .inr ⟨_, rfl, ?_⟩
    constructor
    · exact Nat.le_of_not_lt short
    · dsimp only
      omega
    · exact BitVec.isLt _
    · dsimp only
      omega
    · exact BitVec.isLt _

theorem readHeader_congr {blob other : Blob} (agree : Agree fdtHeaderSize blob other) :
    readHeader other = readHeader blob := by
  unfold fdtHeaderSize at agree
  unfold readHeader
  rw [agree.length, agree.readBe32 (by omega), agree.readBe32 (by omega),
    agree.readBe32 (by omega), agree.readBe32 (by omega), agree.readBe32 (by omega),
    agree.readBe32 (by omega)]

/-! ### The patched blob -/

/-- The blob with a size stored behind the base at a place. -/
def patched (blob : Blob) (place : Nat) (size : BitVec 64) : Blob :=
  blob.take (place + 8) ++ bigEndian 8 size ++ blob.drop (place + 16)

section

variable {blob : Blob} {place : Nat} {size : BitVec 64} (inside : place + 16 ≤ blob.length)

include inside

theorem length_patched : (patched blob place size).length = blob.length := by
  unfold patched
  rw [List.length_append, List.length_append, length_bigEndian, List.length_take, List.length_drop]
  omega

theorem getElem?_patched {index : Nat} (outside : index < place + 8 ∨ place + 16 ≤ index) :
    (patched blob place size)[index]? = blob[index]? := by
  have before : (blob.take (place + 8)).length = place + 8 := by
    rw [List.length_take]
    omega
  unfold patched
  rcases outside with below | above
  · rw [List.append_assoc, List.getElem?_append_left (by omega), List.getElem?_take_of_lt below]
  · rw [List.getElem?_append_right (by rw [List.length_append, before, length_bigEndian]; omega),
      List.length_append, before, length_bigEndian, List.getElem?_drop]
    congr 1
    omega

theorem size_patched : ((patched blob place size).drop (place + 8)).take 8 = bigEndian 8 size := by
  have before : (blob.take (place + 8)).length = place + 8 := by
    rw [List.length_take]
    omega
  unfold patched
  rw [List.append_assoc, List.drop_left' before, List.take_left' (length_bigEndian 8 size)]

/-- Only the last size counts. -/
theorem patched_patched (other : BitVec 64) :
    patched (patched blob place size) place other = patched blob place other := by
  have before : (blob.take (place + 8)).length = place + 8 := by
    rw [List.length_take]
    omega
  have upTo : (blob.take (place + 8) ++ bigEndian 8 size).length = place + 16 := by
    rw [List.length_append, before, length_bigEndian]
  have first : (patched blob place size).take (place + 8) = blob.take (place + 8) := by
    unfold patched
    rw [List.append_assoc, List.take_left' before]
  have last : (patched blob place size).drop (place + 16) = blob.drop (place + 16) := by
    unfold patched
    rw [List.drop_left' upTo]
  rw [patched, first, last]
  rfl

theorem agree_patched : Agree (place + 8) blob (patched blob place size) := by
  refine ⟨length_patched inside, ?_⟩
  apply List.ext_getElem?
  intro index
  by_cases below : index < place + 8
  · rw [List.getElem?_take_of_lt below, List.getElem?_take_of_lt below,
      getElem?_patched inside (.inl below)]
  · rw [List.getElem?_take_eq_none (by omega), List.getElem?_take_eq_none (by omega)]

end

/-- A patch in the middle of a blob. -/
theorem patched_append {before bytes after : Blob} {place : Nat} (size : BitVec 64)
    (inside : place + 16 ≤ bytes.length) :
    patched (before ++ bytes ++ after) (before.length + place) size =
      before ++ patched bytes place size ++ after := by
  unfold patched
  rw [List.append_assoc before, Nat.add_assoc, Nat.add_assoc, List.take_length_add_append,
    List.drop_length_add_append, List.take_append_of_le_length (by omega),
    List.drop_append_of_le_length (by omega)]
  simp only [List.append_assoc]

theorem withSpan_append {before bytes after span : Blob} (same : span.length = bytes.length) :
    withSpan (before ++ bytes ++ after) before.length span = before ++ span ++ after := by
  have upTo : (before ++ bytes).length = before.length + span.length := by
    rw [List.length_append, same]
  have first : (before ++ bytes ++ after).take before.length = before := by
    rw [List.append_assoc, List.take_left]
  rw [withSpan, List.drop_left' upTo, first]

/-! ### The patch -/

def Parts.structureBlock (parts : Parts) (blob : Blob) : Blob :=
  (blob.drop parts.structureOffset).take parts.structureSize

def Parts.strings (parts : Parts) (blob : Blob) : Blob :=
  (blob.drop parts.stringsOffset).take parts.stringsSize

namespace Parts.Inside

variable {parts : Parts} {blob : Blob} (inside : parts.Inside blob)

include inside

theorem length_structureBlock : (parts.structureBlock blob).length = parts.structureSize := by
  have fits := inside.structureBlock
  rw [Parts.structureBlock, List.length_take, List.length_drop]
  omega

theorem length_strings : (parts.strings blob).length = parts.stringsSize := by
  have fits := inside.strings
  rw [Parts.strings, List.length_take, List.length_drop]
  omega

/-- The blob around its structure block. -/
theorem split : ∃ before after, before.length = parts.structureOffset ∧
    blob = before ++ parts.structureBlock blob ++ after := by
  have fits := inside.structureBlock
  refine ⟨blob.take parts.structureOffset,
    (blob.drop parts.structureOffset).drop parts.structureSize, ?_, ?_⟩
  · rw [List.length_take]
    omega
  · rw [Parts.structureBlock, List.append_assoc, List.take_append_drop, List.take_append_drop]

theorem structureBlock_patched {place : Nat} {size : BitVec 64}
    (fits : place + 16 ≤ parts.structureSize) :
    parts.structureBlock (patched blob (parts.structureOffset + place) size) =
      patched (parts.structureBlock blob) place size := by
  have length := inside.length_structureBlock
  obtain ⟨before, rest, start, split⟩ := inside.split
  have written : patched blob (parts.structureOffset + place) size =
      before ++ patched (parts.structureBlock blob) place size ++ rest := by
    rw [← start, ← patched_append size (by omega), ← split]
  have sized : (patched (parts.structureBlock blob) place size).length = parts.structureSize :=
    (length_patched (by omega)).trans length
  rw [Parts.structureBlock, written, List.append_assoc, List.drop_left' start,
    List.take_left' sized]

end Parts.Inside

theorem Parts.strings_congr {parts : Parts} {blob after : Blob}
    (kept : ∀ index, parts.stringsOffset ≤ index →
      index < parts.stringsOffset + parts.stringsSize → after[index]? = blob[index]?) :
    parts.strings after = parts.strings blob := by
  apply List.ext_getElem?
  intro index
  unfold Parts.strings
  by_cases below : index < parts.stringsSize
  · rw [List.getElem?_take_of_lt below, List.getElem?_take_of_lt below, List.getElem?_drop,
      List.getElem?_drop, kept _ (by omega) (by omega)]
  · rw [List.getElem?_take_eq_none (by omega), List.getElem?_take_eq_none (by omega)]

/-- The loop of the patch, for a blob with a good header. -/
def scanParts (parts : Parts) (blob : Blob) (expectedBase : BitVec 64) : Option Verdict :=
  scanTokens (parts.structureBlock blob) (parts.strings blob) expectedBase
    (parts.structureSize + 1) {}

section

variable {blob : Blob} {parts : Parts} {expectedBase : BitVec 64}

theorem patch_eq (header : readHeader blob = some (some parts)) (inside : parts.Inside blob)
    (size : BitVec 64) :
    patchDeviceTreeMemory blob expectedBase size =
      (scanParts parts blob expectedBase).bind fun verdict =>
        match verdict with
        | .failed error => some (error, blob)
        | .found position =>
          (writeBe64 (parts.structureBlock blob) position size).bind fun written =>
            some (.none, withSpan blob parts.structureOffset written) := by
  unfold patchDeviceTreeMemory subspan
  rw [header]
  simp only [Option.bind_eq_bind, Option.bind_some]
  rw [if_pos inside.structureBlock, if_pos inside.strings, Option.bind_some, Option.bind_some]
  have length := inside.length_structureBlock
  unfold Parts.structureBlock at length
  rw [length]
  rfl

theorem patch_of_found (header : readHeader blob = some (some parts)) (inside : parts.Inside blob)
    {place : Nat} (fits : place + 16 ≤ parts.structureSize)
    (found : scanParts parts blob expectedBase = some (.found (place + 8))) (size : BitVec 64) :
    patchDeviceTreeMemory blob expectedBase size =
      some (.none, patched blob (parts.structureOffset + place) size) := by
  have length := inside.length_structureBlock
  obtain ⟨before, after, start, whole⟩ := inside.split
  rw [patch_eq header inside, found, Option.bind_some]
  dsimp only
  rw [writeBe64_eq size (by rw [length]; omega), Option.bind_some]
  have written : patched (parts.structureBlock blob) place size =
      (parts.structureBlock blob).take (place + 8) ++ bigEndian 8 size ++
        (parts.structureBlock blob).drop (place + 8 + 8) := rfl
  rw [← written]
  generalize parts.structureBlock blob = bytes at length whole ⊢
  rw [whole, ← start, patched_append size (by omega)]
  rw [withSpan_append (length_patched (by omega))]

/-- A patch fails, whatever the size, or it finds its place. -/
theorem patch_cases (blob : Blob) (expectedBase : BitVec 64) :
    (∃ error, error ≠ .none ∧
      ∀ size, patchDeviceTreeMemory blob expectedBase size = some (error, blob)) ∨
    ∃ (parts : Parts) (place : Nat), readHeader blob = some (some parts) ∧ parts.Inside blob ∧
      scanParts parts blob expectedBase = some (.found (place + 8)) ∧
      RegAt (parts.structureBlock blob) (parts.strings blob) expectedBase place := by
  rcases readHeader_cases blob with none | ⟨parts, header, inside⟩
  · refine .inl ⟨.invalidBlob, by decide, fun size => ?_⟩
    unfold patchDeviceTreeMemory
    rw [none]
    rfl
  have length := inside.length_structureBlock
  obtain ⟨verdict, scanned, ends⟩ :=
    @scanTokens_ends (parts.structureBlock blob) (parts.strings blob) expectedBase
      (by rw [length]; exact inside.structureBounded)
      (by rw [inside.length_strings]; exact inside.stringsBounded) (parts.structureSize + 1) {}
      (Nat.zero_le _) (by rw [length]; dsimp only; omega)
  cases ends with
  | failed error =>
    refine .inl ⟨_, error, fun size => ?_⟩
    rw [patch_eq header inside, scanParts, scanned]
    rfl
  | found _ reg => exact .inr ⟨parts, _, header, inside, scanned, reg⟩

/-- The size of a `reg` value is patched: eight bytes change and nothing else, and if no
other part reads them, a later patch forgets this one. -/
structure Patches (blob : Blob) (parts : Parts) (expectedBase size : BitVec 64) (place : Nat)
    (after : Blob) : Prop where
  header : readHeader blob = some (some parts)
  reg : RegAt (parts.structureBlock blob) (parts.strings blob) expectedBase place
  inside : parts.structureOffset + place + 16 ≤ blob.length
  length : after.length = blob.length
  others : ∀ index, index < parts.structureOffset + place + 8 ∨
    parts.structureOffset + place + 16 ≤ index → after[index]? = blob[index]?
  size : (after.drop (parts.structureOffset + place + 8)).take 8 = bigEndian 8 size
  again : (∀ index, parts.structureOffset + place + 8 ≤ index →
      index < parts.structureOffset + place + 16 → fdtHeaderSize ≤ index ∧
        ¬(parts.stringsOffset ≤ index ∧ index < parts.stringsOffset + parts.stringsSize)) →
    ∀ other, ∃ repatched,
      patchDeviceTreeMemory after expectedBase other = some (.none, repatched) ∧
        patchDeviceTreeMemory blob expectedBase other = some (.none, repatched)

theorem patches_of_found (header : readHeader blob = some (some parts))
    (inside : parts.Inside blob) {place : Nat}
    (found : scanParts parts blob expectedBase = some (.found (place + 8)))
    (reg : RegAt (parts.structureBlock blob) (parts.strings blob) expectedBase place)
    (size : BitVec 64) :
    Patches blob parts expectedBase size place
      (patched blob (parts.structureOffset + place) size) := by
  have length := inside.length_structureBlock
  have fits : place + 16 ≤ parts.structureSize := length ▸ reg.inside
  have within : parts.structureOffset + place + 16 ≤ blob.length := by
    have whole := inside.structureBlock
    omega
  refine ⟨header, reg, within, length_patched within, fun index => getElem?_patched within,
    size_patched within, fun clear other => ?_⟩
  generalize changed : patched blob (parts.structureOffset + place) size = after
  have sized : after.length = blob.length := changed ▸ length_patched within
  have kept : ∀ index, index < parts.structureOffset + place + 8 ∨
      parts.structureOffset + place + 16 ≤ index → after[index]? = blob[index]? :=
    fun index outside => changed ▸ getElem?_patched within outside
  -- The second run reads the same header and the same strings.
  have headerAgain : readHeader after = some (some parts) := by
    rw [readHeader_congr ⟨sized, List.ext_getElem? fun index => ?_⟩, header]
    by_cases below : index < fdtHeaderSize
    · rw [List.getElem?_take_of_lt below, List.getElem?_take_of_lt below, kept]
      by_contra inPatch
      have late := (clear index (by omega) (by omega)).1
      omega
    · rw [List.getElem?_take_eq_none (by omega), List.getElem?_take_eq_none (by omega)]
  have stringsAgain : parts.strings after = parts.strings blob := by
    refine Parts.strings_congr fun index above below => kept index ?_
    by_contra inPatch
    exact (clear index (by omega) (by omega)).2 ⟨above, below⟩
  -- It meets the same tokens, up to the place.
  have structureAgain : parts.structureBlock after =
      patched (parts.structureBlock blob) place size :=
    changed ▸ inside.structureBlock_patched fits
  have insideAgain : parts.Inside after :=
    ⟨sized ▸ inside.header, sized ▸ inside.structureBlock, inside.structureBounded,
      sized ▸ inside.strings, inside.stringsBounded⟩
  have foundAgain : scanParts parts after expectedBase = some (.found (place + 8)) := by
    unfold scanParts
    rw [structureAgain, stringsAgain]
    exact (scanTokens_found (by rw [length]; exact inside.structureBounded)
      (by rw [inside.length_strings]; exact inside.stringsBounded)
      (agree_patched reg.inside) {} found).1
  refine ⟨_, patch_of_found headerAgain insideAgain fits foundAgain other, ?_⟩
  rw [patch_of_found header inside fits found other, ← changed, patched_patched within]

end

/-- The patch of arbitrary bytes: every access is inside them and the loop ends, a failure
changes nothing, and a success changes one size. -/
theorem patch_safe (blob : Blob) (expectedBase size : BitVec 64) :
    ∃ error after, patchDeviceTreeMemory blob expectedBase size = some (error, after) ∧
      (error ≠ .none → after = blob) ∧
      (error = .none → ∃ parts place, Patches blob parts expectedBase size place after) := by
  rcases patch_cases blob expectedBase with ⟨error, fails, same⟩ | ⟨parts, place, header, inside, found, reg⟩
  · exact ⟨error, blob, same size, fun _ => rfl, fun none => absurd none fails⟩
  · have fits : place + 16 ≤ parts.structureSize := inside.length_structureBlock ▸ reg.inside
    exact ⟨_, _, patch_of_found header inside fits found size, fun fails => absurd rfl fails,
      fun _ => ⟨parts, place, patches_of_found header inside found reg size⟩⟩

/-- The tree with one memory node and one property that the platform's tests use. -/
def sampleBlob : Blob :=
  ([0xD00DFEED, 0x80, 0x38, 0x7C, 0x28, 0x11, 0x10, 0, 4, 0x44, 0, 0, 0, 0,
    1, 0, 1, 0x6D656D6F, 0x72794038, 0x30303030, 0x30303000, 3, 0x10, 0, 0, 0x80000000, 0,
    0x10000000, 2, 2, 9, 0x72656700] : List (BitVec 32)).flatMap (bigEndian 4)

/-- The sample is patched; a second patch gives what the first would have given. -/
theorem patch_safe_sample :
    ∃ after, patchDeviceTreeMemory sampleBlob 0x80000000 0x20000000 = some (.none, after) ∧
      ∃ again, patchDeviceTreeMemory after 0x80000000 0x40000000 = some (.none, again) ∧
        patchDeviceTreeMemory sampleBlob 0x80000000 0x40000000 = some (.none, again) := by
  obtain ⟨error, after, patched, _, succeeds⟩ := patch_safe sampleBlob 0x80000000 0x20000000
  have ok : (patchDeviceTreeMemory sampleBlob 0x80000000 0x20000000).map (·.1) = some .none := by
    decide +kernel
  rw [patched] at ok
  obtain rfl : error = .none := Option.some.inj ok
  obtain ⟨parts, place, patches⟩ := succeeds rfl
  have header : readHeader sampleBlob = some (some ⟨56, 68, 124, 4⟩) := by decide +kernel
  obtain rfl : parts = ⟨56, 68, 124, 4⟩ :=
    Option.some.inj (Option.some.inj (patches.header.symm.trans header))
  have inside := patches.reg.inside
  have length : (Parts.structureBlock ⟨56, 68, 124, 4⟩ sampleBlob).length = 68 := by decide
  refine ⟨after, patched, patches.again (fun index above below => ?_) 0x40000000⟩
  dsimp only at above below ⊢
  unfold fdtHeaderSize
  omega

end RvEmulator.Platform.DeviceTree
