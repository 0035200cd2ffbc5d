import Mathlib.Data.List.TakeWhile
import RvEmulator.Platform.DeviceTree

/-! What one round of the token loop reads and does, on any bytes. -/

namespace RvEmulator.Platform.DeviceTree

open Library

/-! ### Reading and writing -/

theorem readBe32_eq {bytes : Blob} {offset : Nat} (inside : offset + 4 ≤ bytes.length) :
    readBe32 bytes offset = some (fromBigEndian 32 ((bytes.drop offset).take 4)) := by
  unfold readBe32
  rw [List.getElem?_eq_getElem (by omega), List.getElem?_eq_getElem (by omega),
    List.getElem?_eq_getElem (by omega), List.getElem?_eq_getElem (by omega)]
  rw [List.drop_eq_getElem_cons (by omega), List.drop_eq_getElem_cons (by omega),
    List.drop_eq_getElem_cons (by omega), List.drop_eq_getElem_cons (by omega)]
  simp only [Option.bind_eq_bind, Option.bind_some, List.take_succ_cons, List.take_zero,
    fromBigEndian, List.foldl_cons, List.foldl_nil, Option.some.injEq]
  apply BitVec.eq_of_getLsbD_eq
  intro i small
  simp only [BitVec.getLsbD_or, BitVec.getLsbD_shiftLeft, BitVec.getLsbD_setWidth]
  grind

theorem readBe64_eq {bytes : Blob} {offset : Nat} (inside : offset + 8 ≤ bytes.length) :
    readBe64 bytes offset = some (fromBigEndian 64 ((bytes.drop offset).take 8)) := by
  have parts : (bytes.drop offset).take 8 =
      (bytes.drop offset).take 4 ++ (bytes.drop (offset + 4)).take 4 := by
    rw [← List.drop_drop, ← List.take_add]
  have length : ∀ place, place + 4 ≤ bytes.length → ((bytes.drop place).take 4).length = 4 := by
    intro place fits
    rw [List.length_take, List.length_drop]
    omega
  unfold readBe64
  rw [readBe32_eq (by omega), readBe32_eq (by omega), parts]
  have joined := @fromBigEndian_append 32 32 64 _ _
    (congrArg (· * 8) (length offset (by omega))).symm
    (congrArg (· * 8) (length (offset + 4) (by omega))).symm rfl
  rw [joined]
  rfl

theorem writeBe64From_eq {bytes : Blob} {offset : Nat} (value : BitVec 64) {count index : Nat}
    (whole : index + count = 8) (inside : offset + 8 ≤ bytes.length) :
    writeBe64From offset value count index bytes =
      some (bytes.take (offset + index) ++ (bigEndian 8 value).drop index ++
        bytes.drop (offset + 8)) := by
  induction count generalizing index bytes with
  | zero =>
    obtain rfl : index = 8 := whole
    rw [List.drop_of_length_le (Nat.le_of_eq (length_bigEndian 8 value)), List.append_nil,
      List.take_append_drop]
    rfl
  | succ count ih =>
    have fits : offset + index < bytes.length := by omega
    have here : index < (bigEndian 8 value).length := by
      rw [length_bigEndian]
      omega
    have byte : (value >>> ((7 - index) * 8)).setWidth 8 = (bigEndian 8 value)[index] := by
      have found := getElem_bigEndian value (show index < 8 by omega)
      rw [List.getElem?_eq_getElem here, Option.some.injEq] at found
      exact found.symm
    have stored : writeByte bytes (offset + index) ((value >>> ((7 - index) * 8)).setWidth 8) =
        some (bytes.set (offset + index) (bigEndian 8 value)[index]) := by
      rw [writeByte, if_pos fits, byte]
    unfold writeBe64From
    rw [stored]
    simp only [Option.bind_eq_bind, Option.bind_some]
    rw [ih (by omega) (by rw [List.length_set]; exact inside), List.drop_set_of_lt (by omega),
      ← Nat.add_assoc, List.take_add_one, List.getElem?_set_self fits, List.take_set_of_le (by omega),
      List.drop_eq_getElem_cons here]
    simp

theorem writeBe64_eq {bytes : Blob} {offset : Nat} (value : BitVec 64)
    (inside : offset + 8 ≤ bytes.length) :
    writeBe64 bytes offset value =
      some (bytes.take offset ++ bigEndian 8 value ++ bytes.drop (offset + 8)) :=
  writeBe64From_eq value rfl inside

theorem sizeAdd_eq {left right : Nat} (fits : left + right < 2 ^ 64) :
    sizeAdd left right = left + right := Nat.mod_eq_of_lt fits

theorem alignToWord_eq {value : Nat} (fits : value + 3 < 2 ^ 64) :
    alignToWord value = some ((value + 3) / 4 * 4) := by
  have three : ∀ i < 64, (3 : BitVec 64).getLsbD i = decide (i < 2) := by decide
  have masked : ∀ word : BitVec 64, word &&& ~~~(3 : BitVec 64) = word >>> 2 <<< 2 := by
    intro word
    apply BitVec.eq_of_getLsbD_eq
    intro i small
    rw [BitVec.getLsbD_and, BitVec.getLsbD_not, three i small, BitVec.getLsbD_shiftLeft,
      BitVec.getLsbD_ushiftRight]
    grind
  have small : ¬sizeMax - 3 < value := by
    unfold sizeMax
    omega
  unfold alignToWord
  rw [if_neg small, sizeAdd_eq fits, masked, BitVec.toNat_shiftLeft,
    BitVec.toNat_ushiftRight, BitVec.toNat_ofNat, Nat.shiftRight_eq_div_pow,
    Nat.shiftLeft_eq]
  congr 1
  omega

/-! ### Strings -/

/-- A string and the zero behind it, at an offset. -/
structure StringAt (bytes : Blob) (offset : Nat) (name : Blob) : Prop where
  nonzero : 0 ∉ name
  present : name ++ [0] <+: bytes.drop offset

theorem findZero_eq {bytes : Blob} {count position : Nat}
    (whole : position + count = bytes.length) :
    findZero bytes count position =
      some (position + ((bytes.drop position).takeWhile (· != 0)).length) := by
  induction count generalizing position with
  | zero =>
    rw [List.drop_of_length_le (by omega)]
    rfl
  | succ count ih =>
    have inside : position < bytes.length := by omega
    unfold findZero
    rw [List.getElem?_eq_getElem inside, List.drop_eq_getElem_cons inside, List.takeWhile_cons]
    simp only [Option.bind_eq_bind, Option.bind_some]
    by_cases zero : bytes[position] = 0
    · simp [zero]
    · have going : (bytes[position] != 0) = true := bne_iff_ne.mpr zero
      rw [if_neg zero, if_pos going, ih (by omega), List.length_cons, Nat.add_assoc, Nat.add_comm 1]

theorem StringAt.inside {bytes name : Blob} {offset : Nat} (string : StringAt bytes offset name) :
    offset + name.length + 1 ≤ bytes.length := by
  have length := string.present.length_le
  rw [List.length_append, List.length_singleton, List.length_drop] at length
  omega

theorem StringAt.takeWhile {bytes name : Blob} {offset : Nat}
    (string : StringAt bytes offset name) :
    (bytes.drop offset).takeWhile (· != 0) = name := by
  obtain ⟨nonzero, rest, split⟩ := string
  rw [← split, List.append_assoc, List.takeWhile_append_of_pos]
  · simp
  · intro byte member
    exact bne_iff_ne.mpr fun zero => nonzero (zero ▸ member)

theorem readCString_of_stringAt {bytes name : Blob} {offset : Nat}
    (string : StringAt bytes offset name) (bounded : bytes.length < 2 ^ 64) :
    readCString bytes offset = some (some (name, offset + name.length + 1)) := by
  have inside := string.inside
  obtain ⟨rest, split⟩ := string.present
  unfold readCString
  rw [if_neg (by omega), findZero_eq (by omega), string.takeWhile]
  simp only [Option.bind_eq_bind, Option.bind_some]
  rw [if_neg (by omega), Nat.add_sub_cancel_left, ← split, List.append_assoc, List.take_left,
    sizeAdd_eq (by omega)]

/-- A string is read, or there is none at the offset. -/
theorem readCString_cases {bytes : Blob} (offset : Nat) (bounded : bytes.length < 2 ^ 64) :
    readCString bytes offset = some none ∨
      ∃ name, StringAt bytes offset name ∧
        readCString bytes offset = some (some (name, offset + name.length + 1)) := by
  by_cases outside : bytes.length ≤ offset
  · exact .inl (if_pos outside)
  have split := List.takeWhile_append_dropWhile (p := (· != 0)) (l := bytes.drop offset)
  cases rest : (bytes.drop offset).dropWhile (· != 0) with
  | nil =>
    rw [rest, List.append_nil] at split
    unfold readCString
    rw [if_neg outside, findZero_eq (by omega), split, List.length_drop]
    simp only [Option.bind_eq_bind, Option.bind_some]
    rw [if_pos (by omega)]
    exact .inl rfl
  | cons byte others =>
    have zero : byte = 0 := by
      have stopped := List.head?_dropWhile_not (· != 0) (bytes.drop offset)
      rw [rest] at stopped
      simpa using stopped
    rw [rest, zero] at split
    have string : StringAt bytes offset ((bytes.drop offset).takeWhile (· != 0)) := by
      refine ⟨fun member => ?_, others, by rw [List.append_assoc]; exact split⟩
      simpa using List.mem_takeWhile_imp member
    exact .inr ⟨_, string, readCString_of_stringAt string bounded⟩

/-! ### Blobs that begin in the same way -/

structure Agree (count : Nat) (bytes other : Blob) : Prop where
  length : other.length = bytes.length
  first : other.take count = bytes.take count

namespace Agree

variable {bytes other : Blob} {count offset : Nat} (agree : Agree count bytes other)

include agree

theorem getElem? {index : Nat} (below : index < count) : other[index]? = bytes[index]? := by
  rw [← List.getElem?_take_of_lt below, agree.first, List.getElem?_take_of_lt below]

theorem readBe32 (below : offset + 4 ≤ count) : readBe32 other offset = readBe32 bytes offset := by
  unfold DeviceTree.readBe32
  rw [agree.getElem? (by omega), agree.getElem? (by omega), agree.getElem? (by omega),
    agree.getElem? (by omega)]

theorem readBe64 (below : offset + 8 ≤ count) : readBe64 other offset = readBe64 bytes offset := by
  unfold DeviceTree.readBe64
  rw [agree.readBe32 (by omega), agree.readBe32 (by omega)]

theorem stringAt {name : Blob} (string : StringAt bytes offset name)
    (below : offset + name.length + 1 ≤ count) : StringAt other offset name := by
  refine ⟨string.nonzero, ?_⟩
  have short : (name ++ [0]).length ≤ count - offset := by
    rw [List.length_append, List.length_singleton]
    omega
  have taken := List.prefix_take_iff.mpr ⟨string.present, short⟩
  rw [← List.drop_take, ← agree.first, List.drop_take] at taken
  exact (List.prefix_take_iff.mp taken).1

end Agree

/-! ### Rounds -/

/-- A property `reg` whose value of sixteen bytes begins with a base. -/
structure RegAt (structureBlock strings : Blob) (expectedBase : BitVec 64) (place : Nat) :
    Prop where
  after : 12 ≤ place
  inside : place + 16 ≤ structureBlock.length
  token : readBe32 structureBlock (place - 12) = some fdtProperty
  valueSize : readBe32 structureBlock (place - 8) = some 16
  name : ∃ offset, readBe32 structureBlock (place - 4) = some offset ∧
    StringAt strings offset.toNat (text "reg")
  base : readBe64 structureBlock place = some expectedBase

section

variable (structureBlock strings : Blob) (expectedBase : BitVec 64)

/-- What a round that starts at the cursor of `scan` can do. -/
inductive Effect (scan : Scan) : Round → Prop where
  | failed {error : PatchError} : error ≠ .none → Effect scan (.ended (.failed error))
  | next {next : Scan} : scan.cursor + 4 ≤ next.cursor → next.cursor ≤ structureBlock.length →
      Effect scan (.next next)
  | found : RegAt structureBlock strings expectedBase (scan.cursor + 12) →
      Effect scan (.ended (.found (scan.cursor + 20)))

end

/-- All that was read lies before a position. Nothing is said of failures. -/
def Round.Within (count : Nat) : Round → Prop
  | .next scan => scan.cursor ≤ count
  | .ended (.found position) => position ≤ count
  | .ended (.failed _) => False

/-- A part of a round gives a result, the same on all bytes that agree as far as it reads. -/
structure Gives (structureBlock : Blob) (part : Blob → Option Round) (result : Round) : Prop where
  here : part structureBlock = some result
  elsewhere : ∀ {count : Nat} {other : Blob}, Agree count structureBlock other →
    result.Within count → part other = some result

namespace Gives

variable {structureBlock : Blob} {part : Blob → Option Round}

theorem failed {error : PatchError}
    (here : part structureBlock = some (.ended (.failed error))) :
    Gives structureBlock part (.ended (.failed error)) :=
  ⟨here, fun _ outside => outside.elim⟩

theorem const {result : Round} (here : ∀ bytes, part bytes = some result) :
    Gives structureBlock part result :=
  ⟨here structureBlock, fun _ _ => here _⟩

end Gives

section

variable {structureBlock strings : Blob} {expectedBase : BitVec 64}

/-- The variables after the name of a node was read. -/
def Scan.enter (scan : Scan) (name : Blob) (next : Nat) : Scan :=
  let depth := sizeAdd scan.depth 1
  if scan.memoryFound = false ∧ depth = 2 ∧ isMemoryNode name = true then
    { cursor := next, depth, memoryDepth := depth, memoryFound := true }
  else { scan with cursor := next, depth }

@[simp]
theorem Scan.cursor_enter (scan : Scan) (name : Blob) (next : Nat) :
    (scan.enter name next).cursor = next := by
  unfold enter
  dsimp only
  split <;> rfl

/-- Where the next token is, behind bytes that end at a position. -/
def nextWord (position : Nat) : Nat := (position + 3) / 4 * 4

theorem beginNode_eq {bytes name : Blob} {scan : Scan} (string : StringAt bytes scan.cursor name)
    (bounded : bytes.length < 2 ^ 32) :
    let next := nextWord (scan.cursor + name.length + 1)
    beginNode bytes scan =
      if bytes.length < next then invalid else some (.next (scan.enter name next)) := by
  have inside := string.inside
  unfold beginNode
  rw [readCString_of_stringAt string (by omega)]
  simp only [Option.bind_eq_bind, Option.bind_some]
  rw [alignToWord_eq (by omega)]
  unfold nextWord Scan.enter
  dsimp only
  split
  · rfl
  split <;> rfl

theorem propertyValue_eq {bytes name : Blob} {scan : Scan} {valueSize : Nat}
    (inside : scan.cursor + valueSize ≤ bytes.length) (bounded : bytes.length < 2 ^ 32) :
    let next := nextWord (scan.cursor + valueSize)
    propertyValue bytes expectedBase scan valueSize name =
      if scan.depth = scan.memoryDepth ∧ name = text "reg" then
        if valueSize = 16 ∧ readBe64 bytes scan.cursor = some expectedBase then
          some (.ended (.found (scan.cursor + 8)))
        else some (.ended (.failed .unexpectedMemoryLayout))
      else if bytes.length < next then invalid
      else some (.next { scan with cursor := next }) := by
  unfold propertyValue
  dsimp only
  split
  · by_cases sized : valueSize = 16
    · rw [if_neg (not_not.mpr sized), readBe64_eq (by omega), sizeAdd_eq (by omega)]
      simp only [Option.bind_eq_bind, Option.bind_some, sized, true_and, Option.some.injEq]
      split <;> simp_all
    · rw [if_pos sized, if_neg fun both => sized both.1]
  · rw [sizeAdd_eq (by omega), alignToWord_eq (by omega)]
    rfl

theorem property_read {bytes : Blob} {scan : Scan} {valueSize nameOffset : BitVec 32}
    (inside : scan.cursor + 8 ≤ bytes.length) (bounded : bytes.length < 2 ^ 32)
    (sized : readBe32 bytes scan.cursor = some valueSize)
    (named : readBe32 bytes (scan.cursor + 4) = some nameOffset) :
    property bytes strings expectedBase scan =
      if bytes.length < scan.cursor + 8 + valueSize.toNat ∨ strings.length ≤ nameOffset.toNat then
        invalid
      else (readCString strings nameOffset.toNat).bind fun read =>
        match read with
        | none => invalid
        | some (name, _) =>
          propertyValue bytes expectedBase { scan with cursor := scan.cursor + 8 }
            valueSize.toNat name := by
  have header : containsRange bytes.length scan.cursor 8 = true := by
    rw [containsRange, decide_eq_true_eq]
    omega
  have value : (!containsRange bytes.length (scan.cursor + 8) valueSize.toNat) = true ↔
      bytes.length < scan.cursor + 8 + valueSize.toNat := by
    rw [containsRange, Bool.not_eq_true', decide_eq_false_iff_not]
    omega
  unfold property
  rw [header, sizeAdd_eq (by omega), sizeAdd_eq (by omega), sized, named]
  simp only [Option.bind_eq_bind, Option.bind_some, value]
  rfl

/-- A property with a name and a value inside the bytes. -/
theorem property_eq {bytes name : Blob} {scan : Scan} {valueSize nameOffset : BitVec 32}
    (inside : scan.cursor + 8 + valueSize.toNat ≤ bytes.length) (bounded : bytes.length < 2 ^ 32)
    (stringsBounded : strings.length < 2 ^ 32)
    (sized : readBe32 bytes scan.cursor = some valueSize)
    (named : readBe32 bytes (scan.cursor + 4) = some nameOffset)
    (string : StringAt strings nameOffset.toNat name) :
    let next := nextWord (scan.cursor + 8 + valueSize.toNat)
    property bytes strings expectedBase scan =
      if scan.depth = scan.memoryDepth ∧ name = text "reg" then
        if valueSize.toNat = 16 ∧ readBe64 bytes (scan.cursor + 8) = some expectedBase then
          some (.ended (.found (scan.cursor + 16)))
        else some (.ended (.failed .unexpectedMemoryLayout))
      else if bytes.length < next then invalid
      else some (.next { scan with cursor := next }) := by
  have stringInside := string.inside
  rw [property_read (by omega) bounded sized named, if_neg (by omega),
    readCString_of_stringAt string (by omega), Option.bind_some]
  exact @propertyValue_eq expectedBase _ _ { scan with cursor := scan.cursor + 8 } _ inside bounded

/-- What a round does with a token; the cursor of `scan` is behind it. -/
def dispatch (structureBlock strings : Blob) (expectedBase : BitVec 64) (token : BitVec 32)
    (scan : Scan) : Option Round :=
  if token = fdtBeginNode then beginNode structureBlock scan
  else if token = fdtEndNode then endNode scan
  else if token = fdtProperty then property structureBlock strings expectedBase scan
  else if token = fdtNop then some (.next scan)
  else if token = fdtEnd then
    some (.ended (.failed (if scan.memoryFound then .memoryRegNotFound else .memoryNodeNotFound)))
  else invalid

theorem round_eq {bytes : Blob} {scan : Scan} {token : BitVec 32}
    (inside : scan.cursor + 4 ≤ bytes.length) (bounded : bytes.length < 2 ^ 32)
    (read : readBe32 bytes scan.cursor = some token) :
    round bytes strings expectedBase scan =
      dispatch bytes strings expectedBase token { scan with cursor := scan.cursor + 4 } := by
  have room : containsRange bytes.length scan.cursor 4 = true := by
    rw [containsRange, decide_eq_true_eq]
    omega
  unfold round
  rw [room, sizeAdd_eq (by omega), read]
  rfl

variable {scan : Scan}

theorem beginNode_gives (bounded : structureBlock.length < 2 ^ 32) :
    ∃ result, Gives structureBlock (beginNode · { scan with cursor := scan.cursor + 4 }) result ∧
      Effect structureBlock strings expectedBase scan result := by
  rcases readCString_cases (scan.cursor + 4) (show structureBlock.length < 2 ^ 64 by omega) with
    none | ⟨name, string, _⟩
  · refine ⟨.ended (.failed .invalidBlob), .failed ?_, .failed (by decide)⟩
    unfold beginNode
    dsimp only
    rw [none]
    rfl
  have inside := string.inside
  have here := @beginNode_eq _ _ { scan with cursor := scan.cursor + 4 } string bounded
  generalize word : nextWord (scan.cursor + 4 + name.length + 1) = next at here
  have aligned : scan.cursor + 4 + name.length + 1 ≤ next := by
    unfold nextWord at word
    omega
  dsimp only at here
  split at here
  · exact ⟨_, .failed here, .failed (by decide)⟩
  · rename_i fits
    refine ⟨_, ⟨here, fun agree within => ?_⟩, .next ?_ ?_⟩
    · rw [Round.Within, Scan.cursor_enter] at within
      have there := @beginNode_eq _ _ { scan with cursor := scan.cursor + 4 }
        (agree.stringAt string (by dsimp only; omega)) (by rw [agree.length]; exact bounded)
      dsimp only at there
      rw [word, if_neg (by rw [agree.length]; exact fits)] at there
      exact there
    · rw [Scan.cursor_enter]
      omega
    · rw [Scan.cursor_enter]
      omega

theorem endNode_effect {result : Round} (fits : scan.cursor + 4 ≤ structureBlock.length)
    (here : endNode { scan with cursor := scan.cursor + 4 } = some result) :
    Effect structureBlock strings expectedBase scan result := by
  unfold endNode at here
  split at here
  · cases here
    exact .failed (by decide)
  split at here
  · cases here
    exact .failed (by decide)
  · cases here
    exact .next (Nat.le_refl _) fits

theorem property_gives (bounded : structureBlock.length < 2 ^ 32)
    (stringsBounded : strings.length < 2 ^ 32) (fits : scan.cursor + 4 ≤ structureBlock.length)
    (token : readBe32 structureBlock scan.cursor = some fdtProperty) :
    ∃ result,
      Gives structureBlock
        (property · strings expectedBase { scan with cursor := scan.cursor + 4 }) result ∧
      Effect structureBlock strings expectedBase scan result := by
  by_cases outside : structureBlock.length < scan.cursor + 12
  · refine ⟨.ended (.failed .invalidBlob), .failed ?_, .failed (by decide)⟩
    have short : containsRange structureBlock.length (scan.cursor + 4) 8 = false := by
      rw [containsRange, decide_eq_false_iff_not]
      omega
    unfold property
    rw [short]
    rfl
  have sized := @readBe32_eq structureBlock (scan.cursor + 4) (by omega)
  have named := @readBe32_eq structureBlock (scan.cursor + 8) (by omega)
  generalize fromBigEndian 32 ((structureBlock.drop (scan.cursor + 4)).take 4) = valueSize at sized
  generalize fromBigEndian 32 ((structureBlock.drop (scan.cursor + 8)).take 4) = nameOffset at named
  have read := @property_read strings expectedBase _ { scan with cursor := scan.cursor + 4 } _ _
    (by dsimp only; omega) bounded sized named
  dsimp only at read
  by_cases wrong : structureBlock.length < scan.cursor + 4 + 8 + valueSize.toNat ∨
      strings.length ≤ nameOffset.toNat
  · rw [if_pos wrong] at read
    exact ⟨_, .failed read, .failed (by decide)⟩
  rw [if_neg wrong] at read
  rcases readCString_cases nameOffset.toNat (show strings.length < 2 ^ 64 by omega) with
    none | ⟨name, string, _⟩
  · rw [none] at read
    exact ⟨_, .failed read, .failed (by decide)⟩
  have whole : ∀ {bytes : Blob}, bytes.length = structureBlock.length →
      readBe32 bytes (scan.cursor + 4) = some valueSize →
      readBe32 bytes (scan.cursor + 8) = some nameOffset →
      property bytes strings expectedBase { scan with cursor := scan.cursor + 4 } = _ :=
    fun same sized named => @property_eq strings expectedBase _ _
      { scan with cursor := scan.cursor + 4 } _ _ (by dsimp only; omega) (by omega) stringsBounded
      sized named string
  dsimp only at whole
  have here := whole rfl sized named
  by_cases reg : scan.depth = scan.memoryDepth ∧ name = text "reg"
  · rw [if_pos reg] at here
    by_cases matching : valueSize.toNat = 16 ∧
        readBe64 structureBlock (scan.cursor + 4 + 8) = some expectedBase
    · rw [if_pos matching] at here
      refine ⟨_, ⟨here, fun agree within => ?_⟩, .found ?_⟩
      · rw [Round.Within] at within
        rw [whole agree.length ((agree.readBe32 (by omega)).trans sized)
          ((agree.readBe32 (by omega)).trans named), if_pos reg, agree.readBe64 (by omega),
          if_pos matching]
      · have sixteen : valueSize = 16 := BitVec.eq_of_toNat_eq matching.1
        rw [sixteen] at sized
        rw [reg.2] at string
        exact ⟨by omega, by omega, token, sized, ⟨nameOffset, named, string⟩, matching.2⟩
    · rw [if_neg matching] at here
      exact ⟨_, .failed here, .failed (by decide)⟩
  · rw [if_neg reg] at here
    generalize word : nextWord (scan.cursor + 4 + 8 + valueSize.toNat) = next at here whole
    have after : scan.cursor + 4 + 8 ≤ next := by
      unfold nextWord at word
      omega
    by_cases beyond : structureBlock.length < next
    · rw [if_pos beyond] at here
      exact ⟨_, .failed here, .failed (by decide)⟩
    · rw [if_neg beyond] at here
      refine ⟨_, ⟨here, fun agree within => ?_⟩, .next ?_ ?_⟩
      · rw [Round.Within] at within
        dsimp only at within
        rw [whole agree.length ((agree.readBe32 (by omega)).trans sized)
          ((agree.readBe32 (by omega)).trans named), if_neg reg, agree.length, if_neg beyond]
      · dsimp only
        omega
      · dsimp only
        omega

theorem dispatch_gives (bounded : structureBlock.length < 2 ^ 32)
    (stringsBounded : strings.length < 2 ^ 32) (fits : scan.cursor + 4 ≤ structureBlock.length)
    {token : BitVec 32} (read : readBe32 structureBlock scan.cursor = some token) :
    ∃ result,
      Gives structureBlock
        (dispatch · strings expectedBase token { scan with cursor := scan.cursor + 4 }) result ∧
      Effect structureBlock strings expectedBase scan result := by
  unfold dispatch
  by_cases begins : token = fdtBeginNode
  · simp only [if_pos begins]
    exact beginNode_gives bounded
  simp only [if_neg begins]
  by_cases ends : token = fdtEndNode
  · simp only [if_pos ends]
    have here : ∃ result, endNode { scan with cursor := scan.cursor + 4 } = some result := by
      unfold endNode
      split
      · exact ⟨_, rfl⟩
      split <;> exact ⟨_, rfl⟩
    obtain ⟨result, here⟩ := here
    exact ⟨result, .const fun _ => here, endNode_effect fits here⟩
  simp only [if_neg ends]
  by_cases properties : token = fdtProperty
  · simp only [if_pos properties]
    exact property_gives bounded stringsBounded fits (properties ▸ read)
  simp only [if_neg properties]
  by_cases nops : token = fdtNop
  · simp only [if_pos nops]
    exact ⟨_, .const fun _ => rfl, .next (Nat.le_refl _) fits⟩
  simp only [if_neg nops]
  by_cases finishes : token = fdtEnd
  · simp only [if_pos finishes]
    refine ⟨_, .const fun _ => rfl, .failed ?_⟩
    split <;> decide
  · simp only [if_neg finishes]
    exact ⟨_, .const fun _ => rfl, .failed (by decide)⟩

/-- Every round has a result, which depends on what it has read only. -/
theorem round_gives (bounded : structureBlock.length < 2 ^ 32)
    (stringsBounded : strings.length < 2 ^ 32) (scan : Scan) :
    ∃ result, Gives structureBlock (round · strings expectedBase scan) result ∧
      Effect structureBlock strings expectedBase scan result := by
  by_cases outside : structureBlock.length < scan.cursor + 4
  · refine ⟨.ended (.failed .invalidBlob), .failed ?_, .failed (by decide)⟩
    have short : containsRange structureBlock.length scan.cursor 4 = false := by
      rw [containsRange, decide_eq_false_iff_not]
      omega
    unfold round
    rw [short]
    rfl
  have read := @readBe32_eq structureBlock scan.cursor (by omega)
  obtain ⟨result, gives, effect⟩ :=
    @dispatch_gives structureBlock strings expectedBase scan bounded stringsBounded (by omega) _ read
  refine ⟨result, ⟨?_, @fun count other agree within => ?_⟩, effect⟩
  · rw [round_eq (by omega) bounded read]
    exact gives.here
  · have beyond : scan.cursor + 4 ≤ count := by
      cases effect with
      | failed => exact within.elim
      | next after => exact after.trans within
      | found => exact Nat.le_trans (by omega) within
    rw [round_eq (by rw [agree.length]; omega) (by rw [agree.length]; exact bounded)
      ((agree.readBe32 beyond).trans read)]
    exact gives.elsewhere agree within

/-! ### The loop -/

/-- What the loop can end with, from a position on. -/
inductive Ends (structureBlock strings : Blob) (expectedBase : BitVec 64) (start : Nat) :
    Verdict → Prop where
  | failed {error : PatchError} : error ≠ .none →
      Ends structureBlock strings expectedBase start (.failed error)
  | found {place : Nat} : start ≤ place → RegAt structureBlock strings expectedBase place →
      Ends structureBlock strings expectedBase start (.found (place + 8))

theorem scanTokens_ends (bounded : structureBlock.length < 2 ^ 32)
    (stringsBounded : strings.length < 2 ^ 32) {fuel : Nat} (scan : Scan)
    (inside : scan.cursor ≤ structureBlock.length)
    (enough : structureBlock.length < scan.cursor + fuel) :
    ∃ verdict, scanTokens structureBlock strings expectedBase fuel scan = some verdict ∧
      Ends structureBlock strings expectedBase scan.cursor verdict := by
  induction fuel generalizing scan with
  | zero => omega
  | succ fuel ih =>
    obtain ⟨result, gives, effect⟩ :=
      @round_gives structureBlock strings expectedBase bounded stringsBounded scan
    unfold scanTokens
    rw [gives.here]
    simp only [Option.bind_eq_bind, Option.bind_some]
    cases effect with
    | failed error => exact ⟨_, rfl, .failed error⟩
    | found reg => exact ⟨_, rfl, .found (by omega) reg⟩
    | @next next after fits =>
      obtain ⟨verdict, scanned, ends⟩ := ih next fits (by omega)
      refine ⟨verdict, scanned, ?_⟩
      cases ends with
      | failed error => exact .failed error
      | found beyond reg => exact .found (by omega) reg

/-- Bytes that agree before the value that was found lead to it too. -/
theorem scanTokens_found {other : Blob} {position fuel : Nat}
    (bounded : structureBlock.length < 2 ^ 32) (stringsBounded : strings.length < 2 ^ 32)
    (agree : Agree position structureBlock other) (scan : Scan)
    (found : scanTokens structureBlock strings expectedBase fuel scan = some (.found position)) :
    scanTokens other strings expectedBase fuel scan = some (.found position) ∧
      scan.cursor ≤ position := by
  induction fuel generalizing scan with
  | zero => cases found
  | succ fuel ih =>
    obtain ⟨result, gives, effect⟩ :=
      @round_gives structureBlock strings expectedBase bounded stringsBounded scan
    unfold scanTokens at found ⊢
    rw [gives.here] at found
    simp only [Option.bind_eq_bind, Option.bind_some] at found
    cases effect with
    | failed => cases found
    | found =>
      cases found
      rw [gives.elsewhere agree (Nat.le_refl _)]
      exact ⟨rfl, by omega⟩
    | @next next after fits =>
      obtain ⟨same, before⟩ := ih next found
      rw [gives.elsewhere agree before]
      exact ⟨same, by omega⟩

end

end RvEmulator.Platform.DeviceTree
