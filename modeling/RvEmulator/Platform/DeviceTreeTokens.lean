import RvEmulator.Platform.FlattenedTree

/-! What the loop of the patch does with the tokens of a flattened tree. -/

namespace RvEmulator.Platform.DeviceTree

open Library

/-! ### Parts of bytes -/

/-- Some bytes at an offset. -/
def At (bytes : Blob) (offset : Nat) (part : Blob) : Prop := part <+: bytes.drop offset

namespace At

variable {bytes part other : Blob} {offset : Nat}

theorem left (found : At bytes offset (part ++ other)) : At bytes offset part :=
  (List.prefix_append part other).trans found

theorem right (found : At bytes offset (part ++ other)) : At bytes (offset + part.length) other := by
  obtain ⟨rest, split⟩ := found
  refine ⟨rest, ?_⟩
  rw [← List.drop_drop, ← split, List.append_assoc, List.drop_left]

theorem inside (found : At bytes offset part) (some : part ≠ []) :
    offset + part.length ≤ bytes.length := by
  have short := List.IsPrefix.length_le found
  have positive := List.length_pos_iff.mpr some
  rw [List.length_drop] at short
  omega

theorem readBe32 {word : BitVec 32} (found : At bytes offset (token word)) :
    readBe32 bytes offset = Option.some word := by
  have inside := found.inside (List.ne_nil_of_length_eq_add_one (length_token word))
  rw [length_token] at inside
  obtain ⟨rest, split⟩ := found
  rw [readBe32_eq inside, ← split, List.take_left' (length_token word), token,
    fromBigEndian_bigEndian word rfl]

end At

/-! ### Runs of the loop -/

namespace Scan

def forward (scan : Scan) (count : Nat) : Scan := { scan with cursor := scan.cursor + count }

/-- Inside a node. -/
def descend (scan : Scan) (count : Nat) : Scan :=
  { scan with cursor := scan.cursor + count, depth := scan.depth + 1 }

theorem forward_forward (scan : Scan) (count other : Nat) :
    (scan.forward count).forward other = scan.forward (count + other) := by
  unfold forward
  rw [Nat.add_assoc]

theorem forward_descend (scan : Scan) (count other : Nat) :
    (scan.descend count).forward other = scan.descend (count + other) := by
  unfold forward descend
  rw [Nat.add_assoc]

theorem aligned_forward {scan : Scan} {count : Nat} (aligned : scan.cursor % 4 = 0)
    (whole : count % 4 = 0) : (scan.forward count).cursor % 4 = 0 := by
  dsimp only [forward]
  omega

end Scan

section

variable {structureBlock strings : Blob} {expectedBase : BitVec 64}

/-- The loop comes to an end. -/
inductive Finishes (structureBlock strings : Blob) (expectedBase : BitVec 64) :
    Scan → Verdict → Prop where
  | ended : round structureBlock strings expectedBase scan = some (.ended verdict) →
      Finishes structureBlock strings expectedBase scan verdict
  | next : round structureBlock strings expectedBase scan = some (.next later) →
      Finishes structureBlock strings expectedBase later verdict →
      Finishes structureBlock strings expectedBase scan verdict

/-- The loop goes from one place to another. -/
def Skips (structureBlock strings : Blob) (expectedBase : BitVec 64) (scan later : Scan) : Prop :=
  ∀ verdict, Finishes structureBlock strings expectedBase later verdict →
    Finishes structureBlock strings expectedBase scan verdict

theorem Finishes.scanTokens {scan : Scan} {verdict other : Verdict} {fuel : Nat}
    (finishes : Finishes structureBlock strings expectedBase scan verdict)
    (scanned : scanTokens structureBlock strings expectedBase fuel scan = some other) :
    other = verdict := by
  induction finishes generalizing fuel with
  | ended result =>
    cases fuel with
    | zero => cases scanned
    | succ fuel =>
      rw [DeviceTree.scanTokens, result] at scanned
      exact (Option.some.inj scanned).symm
  | next result _ ih =>
    cases fuel with
    | zero => cases scanned
    | succ fuel =>
      rw [DeviceTree.scanTokens, result] at scanned
      exact ih scanned

namespace Skips

theorem refl (scan : Scan) : Skips structureBlock strings expectedBase scan scan :=
  fun _ finishes => finishes

theorem trans {first second third : Scan}
    (before : Skips structureBlock strings expectedBase first second)
    (after : Skips structureBlock strings expectedBase second third) :
    Skips structureBlock strings expectedBase first third :=
  fun verdict finishes => before verdict (after verdict finishes)

theorem append {scan : Scan} {part other : Blob}
    (before : Skips structureBlock strings expectedBase scan (scan.forward part.length))
    (after : Skips structureBlock strings expectedBase (scan.forward part.length)
      ((scan.forward part.length).forward other.length)) :
    Skips structureBlock strings expectedBase scan (scan.forward (part ++ other).length) := by
  rw [Scan.forward_forward, ← List.length_append] at after
  exact before.trans after

end Skips

/-! ### Tokens -/

/-- The bytes that are scanned; their sizes are words. -/
structure Bounded (structureBlock strings : Blob) : Prop where
  structureBlock : structureBlock.length < 2 ^ 32
  strings : strings.length < 2 ^ 32

theorem Bounded.cursor (bounded : Bounded structureBlock strings) {offset : Nat} {part : Blob}
    (found : At structureBlock offset part) (some : part ≠ []) : offset < 2 ^ 32 := by
  have inside := found.inside some
  have short := bounded.structureBlock
  omega

variable (bounded : Bounded structureBlock strings) {scan : Scan}

include bounded

theorem round_token {word : BitVec 32} (found : At structureBlock scan.cursor (token word)) :
    round structureBlock strings expectedBase scan =
      dispatch structureBlock strings expectedBase word { scan with cursor := scan.cursor + 4 } := by
  have inside := found.inside (List.ne_nil_of_length_eq_add_one (length_token word))
  rw [length_token] at inside
  exact round_eq inside bounded.structureBlock found.readBe32

theorem skips_nop (found : At structureBlock scan.cursor (token fdtNop)) :
    Skips structureBlock strings expectedBase scan (scan.forward (token fdtNop).length) :=
  fun _ => .next (round_token bounded found)

theorem round_endNode (found : At structureBlock scan.cursor (token fdtEndNode)) :
    round structureBlock strings expectedBase scan =
      endNode { scan with cursor := scan.cursor + 4 } :=
  round_token bounded found

theorem skips_endNode {count : Nat}
    (found : At structureBlock (scan.cursor + count) (token fdtEndNode))
    (other : scan.depth + 1 ≠ scan.memoryDepth) :
    Skips structureBlock strings expectedBase (scan.descend count)
      (scan.forward (count + (token fdtEndNode).length)) := by
  refine fun _ => .next ?_
  rw [Scan.forward, length_token, ← Nat.add_assoc]
  exact (round_endNode bounded found).trans
    ((if_neg (Nat.succ_ne_zero scan.depth)).trans (if_neg other))

theorem finishes_endNode (found : At structureBlock scan.cursor (token fdtEndNode))
    (inner : scan.depth ≠ 0) (same : scan.depth = scan.memoryDepth) :
    Finishes structureBlock strings expectedBase scan (.failed .memoryRegNotFound) := by
  refine .ended ?_
  rw [round_endNode bounded found, endNode, if_neg inner, if_pos same]

theorem finishes_end (found : At structureBlock scan.cursor (token fdtEnd))
    (missing : scan.memoryFound = false) :
    Finishes structureBlock strings expectedBase scan (.failed .memoryNodeNotFound) := by
  refine .ended ?_
  rw [round_token bounded found]
  unfold dispatch
  rw [if_neg (by decide), if_neg (by decide), if_neg (by decide), if_neg (by decide), if_pos rfl,
    missing]
  rfl

theorem skips_nodeHeader {name : Blob} (aligned : scan.cursor % 4 = 0) (nonzero : 0 ∉ name)
    (found : At structureBlock scan.cursor (nodeHeader name)) :
    Skips structureBlock strings expectedBase scan
      (scan.enter name (scan.cursor + (nodeHeader name).length)) := by
  have named := found.right
  rw [length_token] at named
  have inside := named.inside (by simp [padded])
  rw [length_padded, List.length_append, List.length_singleton] at inside
  have string : StringAt structureBlock (scan.cursor + 4) name := ⟨nonzero, named.left⟩
  have word := @nextWord_add (scan.cursor + 4) (by omega) (name.length + 1)
  rw [← Nat.add_assoc (scan.cursor + 4)] at word
  have next : scan.cursor + (nodeHeader name).length =
      nextWord (scan.cursor + 4 + name.length + 1) := by
    rw [word, nodeHeader, List.length_append, length_token, length_padded, List.length_append,
      List.length_singleton]
    omega
  have fits : ¬structureBlock.length < nextWord (scan.cursor + 4 + name.length + 1) := by
    omega
  refine fun _ => .next ?_
  rw [round_token bounded found.left]
  have entered := @beginNode_eq _ _ { scan with cursor := scan.cursor + 4 } string
    bounded.structureBlock
  dsimp only at entered
  rw [if_neg fits] at entered
  rw [next]
  exact entered

/-- A property that stands at the cursor, and what the round does with it. -/
theorem round_property {name value : Blob} {nameOffset : BitVec 32}
    (aligned : scan.cursor % 4 = 0) (string : StringAt strings nameOffset.toNat name)
    (short : value.length < 2 ^ 32)
    (found : At structureBlock scan.cursor (propertyHeader value nameOffset ++ padded value)) :
    round structureBlock strings expectedBase scan =
      if scan.depth = scan.memoryDepth ∧ name = text "reg" then
        if value.length = 16 ∧ readBe64 structureBlock (scan.cursor + 12) = some expectedBase then
          some (.ended (.found (scan.cursor + 20)))
        else some (.ended (.failed .unexpectedMemoryLayout))
      else some (.next { scan with cursor := scan.cursor + (12 + nextWord value.length) }) := by
  have inside := found.inside (by simp [propertyHeader, token, bigEndian])
  have behind := found.right
  rw [List.length_append, length_propertyHeader, length_padded] at inside
  have header := found.left
  have sized := header.left.right.readBe32
  have named := header.right.readBe32
  rw [List.length_append, length_token, length_token] at named
  rw [length_token] at sized
  have count : (BitVec.ofNat 32 value.length).toNat = value.length :=
    BitVec.toNat_ofNat _ _ ▸ Nat.mod_eq_of_lt short
  have padding : value.length ≤ nextWord value.length := by
    unfold nextWord
    omega
  have word := @nextWord_add (scan.cursor + 12) (by omega) value.length
  have result := @property_eq strings expectedBase structureBlock name
    { scan with cursor := scan.cursor + 4 } _ _ (by dsimp only; omega) bounded.structureBlock
    bounded.strings sized named string
  rw [round_token bounded header.left.left]
  dsimp only at result
  rw [count, Nat.add_assoc scan.cursor, Nat.add_assoc scan.cursor, word, Nat.add_assoc,
    if_neg (Nat.not_lt.mpr inside)] at result
  exact result

theorem skips_property {name value : Blob} {nameOffset : BitVec 32}
    (aligned : scan.cursor % 4 = 0) (string : StringAt strings nameOffset.toNat name)
    (short : value.length < 2 ^ 32)
    (found : At structureBlock scan.cursor (propertyHeader value nameOffset ++ padded value))
    (other : ¬(scan.depth = scan.memoryDepth ∧ name = text "reg")) :
    Skips structureBlock strings expectedBase scan
      (scan.forward (propertyHeader value nameOffset ++ padded value).length) := by
  refine fun _ => .next ?_
  rw [round_property bounded aligned string short found, if_neg other, List.length_append,
    length_propertyHeader, length_padded]
  rfl

theorem finishes_reg {value : Blob} {nameOffset : BitVec 32}
    (aligned : scan.cursor % 4 = 0) (string : StringAt strings nameOffset.toNat (text "reg"))
    (short : value.length < 2 ^ 32)
    (found : At structureBlock scan.cursor (propertyHeader value nameOffset ++ padded value))
    (same : scan.depth = scan.memoryDepth) :
    Finishes structureBlock strings expectedBase scan
      (if Expected expectedBase value then .found (scan.cursor + 20)
      else .failed .unexpectedMemoryLayout) := by
  have based : value.length = 16 ∧ readBe64 structureBlock (scan.cursor + 12) = some expectedBase ↔
      Expected expectedBase value := by
    refine and_congr_right fun sized => ?_
    have first := found.right.left
    rw [length_propertyHeader] at first
    have eight : (value.take 8).length = 8 := by
      rw [List.length_take, sized]
      rfl
    have inside := first.inside (List.ne_nil_of_length_eq_add_one sized)
    obtain ⟨rest, split⟩ := first
    rw [readBe64_eq (by omega), ← split, List.take_append_of_le_length (by omega),
      Option.some.injEq]
    have back := @bigEndian_fromBigEndian 64 _ (congrArg (· * 8) eight).symm
    rw [eight] at back
    constructor
    · rintro rfl
      exact back.symm
    · intro read
      rw [read, fromBigEndian_bigEndian expectedBase rfl]
  refine .ended ?_
  rw [round_property bounded aligned string short found, if_pos ⟨same, rfl⟩]
  simp only [based]
  split <;> rfl

end

end RvEmulator.Platform.DeviceTree
