import RvEmulator.Common.Halfword
import RvEmulator.Core32.DecodeReads
import RvEmulator.Core32.Outcome

/-! What the specification expands the 16-bit encodings to in RV32, and that the decoder finds
these expansions. -/

namespace RvEmulator.Core32

open Halfword Library

/-! ### The expansions of the specification -/

/-- Without floating-point registers, C.FLW, C.FSW, C.FLD and C.FSD are reserved. -/
def expandQuadrant0 (word : BitVec 16) : Option (InstructionKind × Operands 32) :=
  let low := lowerShort word
  let base := upperShort word
  let wordOffset := (wordOffset word).setWidth 32
  match funct3 word with
  | 0#3 =>
    if stackOffset word = 0 then none
    else some (.addi, { rd := low, rs1 := 2, immediate := (stackOffset word).setWidth 32 })
  | 2#3 => some (.lw, { rd := low, rs1 := base, immediate := wordOffset })
  | 6#3 => some (.sw, { rs1 := base, rs2 := low, immediate := wordOffset })
  | _ => none

def expandArithmetic (word : BitVec 16) : Option (InstructionKind × Operands 32) :=
  let rd := upperShort word
  let rs2 := lowerShort word
  match funct2 word, bit12 word with
  | 0#2, 0#1 => some (.srli, { rd, rs1 := rd, immediate := (shiftAmount word).setWidth 32 })
  | 1#2, 0#1 => some (.srai, { rd, rs1 := rd, immediate := (shiftAmount word).setWidth 32 })
  | 2#2, _ => some (.andi, { rd, rs1 := rd, immediate := (immediate6 word).signExtend 32 })
  | 3#2, 0#1 =>
    match operation word with
    | 0#2 => some (.sub, { rd, rs1 := rd, rs2 })
    | 1#2 => some (.xor, { rd, rs1 := rd, rs2 })
    | 2#2 => some (.or, { rd, rs1 := rd, rs2 })
    | _ => some (.and, { rd, rs1 := rd, rs2 })
  | _, _ => none

def expandQuadrant1 (word : BitVec 16) : Option (InstructionKind × Operands 32) :=
  let rd := rd word
  let immediate := (immediate6 word).signExtend 32
  let jump := (jumpOffset word).signExtend 32
  let branch := (branchOffset word).signExtend 32
  match funct3 word with
  | 0#3 => some (.addi, { rd, rs1 := rd, immediate })
  | 1#3 => some (.jal, { rd := 1, immediate := jump })
  | 2#3 => some (.addi, { rd, immediate })
  | 3#3 =>
    if rd = 2 then
      if stackAdjustment word = 0 then none
      else
        some (.addi, { rd := 2, rs1 := 2, immediate := (stackAdjustment word).signExtend 32 })
    else if immediate6 word = 0 then none
    else some (.lui, { rd, immediate := (immediate6 word ++ 0#12).signExtend 32 })
  | 4#3 => expandArithmetic word
  | 5#3 => some (.jal, { immediate := jump })
  | 6#3 => some (.beq, { rs1 := upperShort word, immediate := branch })
  | _ => some (.bne, { rs1 := upperShort word, immediate := branch })

def expandJumpRegister (word : BitVec 16) : Option (InstructionKind × Operands 32) :=
  let rd := rd word
  let rs2 := rs2 word
  if bit12 word = 0 then
    if rs2 = 0 then if rd = 0 then none else some (.jalr, { rs1 := rd })
    else some (.add, { rd, rs2 })
  else if rs2 = 0 then
    if rd = 0 then some (.ebreak, {}) else some (.jalr, { rd := 1, rs1 := rd })
  else some (.add, { rd, rs1 := rd, rs2 })

def expandQuadrant2 (word : BitVec 16) : Option (InstructionKind × Operands 32) :=
  let rd := rd word
  let rs2 := rs2 word
  match funct3 word with
  | 0#3 =>
    if bit12 word ≠ 0 then none
    else some (.slli, { rd, rs1 := rd, immediate := (shiftAmount word).setWidth 32 })
  | 2#3 =>
    if rd = 0 then none
    else some (.lw, { rd, rs1 := 2, immediate := (stackWordLoad word).setWidth 32 })
  | 4#3 => expandJumpRegister word
  | 6#3 => some (.sw, { rs1 := 2, rs2, immediate := (stackWordStore word).setWidth 32 })
  | _ => none

/-- The expansion of a halfword; `none` for the reserved ones. -/
def expand (word : BitVec 16) : Option (InstructionKind × Operands 32) :=
  match quadrant word with
  | 0#2 => expandQuadrant0 word
  | 1#2 => expandQuadrant1 word
  | 2#2 => expandQuadrant2 word
  | _ => none

/-! ### The decoder finds the expansions -/

namespace Decode

variable (word : BitVec 16)

theorem reader_getBits : Reader getBits :=
  fun _ _ _ order inside => by
    rw [getBits_eq _ ⟨by omega, order⟩ (by omega), extractLsb'_wide]

theorem compressedRegister_eq (field : BitVec 3) :
    compressedRegister (field.setWidth 32) = (1#2 ++ field).setWidth 32 := by
  revert field
  decide

theorem lowerShort_eq :
    compressedRegister (getBits (word.setWidth 32) 4 2) = (lowerShort word).setWidth 32 := by
  rw [reader_getBits word (by decide) (by decide)]
  exact compressedRegister_eq _

theorem upperShort_eq :
    compressedRegister (getBits (word.setWidth 32) 9 7) = (upperShort word).setWidth 32 := by
  rw [reader_getBits word (by decide) (by decide)]
  exact compressedRegister_eq _

theorem wordOffset_eq :
    Decode.wordOffset (word.setWidth 32) = (Halfword.wordOffset word).setWidth 32 :=
  reader_getBits.wordOffset word

theorem signExtend_half {n : Nat} (positive : 0 < n) (short : n < 32) (value : BitVec n) :
    signExtend (value.setWidth 32) n = value.signExtend 32 := by
  rw [signExtend_eq positive short, BitVec.setWidth_setWidth_of_le _ (by omega),
    BitVec.setWidth_eq]

theorem compressedJump_eq :
    compressedJump (word.setWidth 32) = (jumpOffset word).signExtend 32 :=
  (congrArg (signExtend · 12) (reader_getBits.jumpOffset word)).trans
    (signExtend_half (by decide) (by decide) _)

theorem compressedBranch_eq :
    compressedBranch (word.setWidth 32) = (branchOffset word).signExtend 32 :=
  (congrArg (signExtend · 9) (reader_getBits.branchOffset word)).trans
    (signExtend_half (by decide) (by decide) _)

/-- The halfword is decoded as its expansion, with its own length and bits. -/
def Expands (decoded : DecodedInstruction) : Option (InstructionKind × Operands 32) → Prop
  | some (kind, operands) =>
    decoded =
      makeCompressed word kind (operands.rd.setWidth 32) (operands.rs1.setWidth 32)
        (operands.rs2.setWidth 32) operands.immediate
  | none => decoded = makeCompressed word .illegal

theorem expands_choice {condition expected : Prop} [Decidable condition] [Decidable expected]
    (same : condition ↔ expected) {decoded other : DecodedInstruction}
    {expansion another : Option (InstructionKind × Operands 32)}
    (first : Expands word decoded expansion) (second : Expands word other another) :
    Expands word (if condition then decoded else other)
      (if expected then expansion else another) := by
  by_cases holds : condition
  · rw [if_pos holds, if_pos (same.mp holds)]
    exact first
  · rw [if_neg holds, if_neg fun expected => holds (same.mpr expected)]
    exact second

/-- A reserved encoding is an illegal instruction. -/
theorem expands_unless {refused reserved : Prop} [Decidable refused] [Decidable reserved]
    (same : refused ↔ reserved) {decoded : DecodedInstruction}
    {expansion : Option (InstructionKind × Operands 32)}
    (expands : Expands word decoded expansion) :
    Expands word (if refused then makeCompressed word .illegal else decoded)
      (if reserved then none else expansion) :=
  expands_choice word same rfl expands

theorem expands_quadrant0 : Expands word (decodeQuadrant0 word) (expandQuadrant0 word) := by
  unfold decodeQuadrant0 expandQuadrant0
  simp only [lowerShort_eq, upperShort_eq, wordOffset_eq, reader_getBits.stackOffset,
    reader_getBits.funct3]
  rcases funct3_cases (funct3 word) with
    third | third | third | third | third | third | third | third <;> rw [third]
  case inl => exact expands_unless word (setWidth_eq_zero_iff (by decide) _) rfl
  all_goals exact rfl

theorem expands_arithmetic :
    Expands word (decodeCompressedArithmetic word ((immediate6 word).signExtend 32))
      (expandArithmetic word) := by
  unfold decodeCompressedArithmetic expandArithmetic
  simp only [lowerShort_eq, upperShort_eq, reader_getBits.funct2, reader_getBits.bit12,
    reader_getBits.operation, reader_getBits.rs2]
  rcases field2_cases (funct2 word) with second | second | second | second <;>
    rcases bit_cases (bit12 word) with twelfth | twelfth <;>
    rcases field2_cases (operation word) with sixth | sixth | sixth | sixth <;>
    rw [second, twelfth, sixth] <;> exact rfl

theorem rd_eq_two_iff : (rd word).setWidth 32 = 2#32 ↔ rd word = 2 :=
  ⟨fun same => Fields.eq_of_extended (by decide) same, fun same => by rw [same]; rfl⟩

theorem expands_quadrant1 : Expands word (decodeQuadrant1 word) (expandQuadrant1 word) := by
  unfold decodeQuadrant1 expandQuadrant1
  simp only [upperShort_eq, reader_getBits.immediate6, reader_getBits.stackAdjustment,
    reader_getBits.funct3, reader_getBits.rd,
    signExtend_half (show 0 < 6 by decide) (show 6 < 32 by decide),
    signExtend_half (show 0 < 10 by decide) (show 10 < 32 by decide), compressedJump_eq,
    compressedBranch_eq, upperImmediate_eq]
  rcases funct3_cases (funct3 word) with
    third | third | third | third | third | third | third | third <;> rw [third]
  case inr.inr.inr.inl =>
    exact expands_choice word (rd_eq_two_iff word)
      (expands_unless word (signExtend_eq_zero_iff (by decide) _) rfl)
      (expands_unless word (signExtend_eq_zero_iff (by decide) _) rfl)
  case inr.inr.inr.inr.inl => exact expands_arithmetic word
  all_goals exact rfl

theorem expands_quadrant2 : Expands word (decodeQuadrant2 word) (expandQuadrant2 word) := by
  unfold decodeQuadrant2 expandQuadrant2 expandJumpRegister
  simp only [reader_getBits.funct3, reader_getBits.rd, reader_getBits.rs2,
    reader_getBits.stackWordLoad, reader_getBits.stackWordStore]
  rw [reader_getBits.bit12]
  rcases funct3_cases (funct3 word) with
    third | third | third | third | third | third | third | third <;> rw [third]
  case inl => exact expands_unless word (not_congr (setWidth_eq_zero_iff (by decide) _)) rfl
  case inr.inr.inl => exact expands_unless word (setWidth_eq_zero_iff (by decide) _) rfl
  case inr.inr.inr.inr.inl =>
    have none_zero := setWidth_eq_zero_iff (show 5 ≤ 32 by decide) (rd word)
    have other_zero := setWidth_eq_zero_iff (show 5 ≤ 32 by decide) (rs2 word)
    exact expands_choice word (setWidth_eq_zero_iff (by decide) _)
      (expands_choice word other_zero (expands_unless word none_zero rfl) rfl)
      (expands_choice word other_zero (expands_choice word none_zero rfl rfl) rfl)
  all_goals exact rfl

theorem expands_decode (short : quadrant word ≠ 3) :
    Expands word (decodeCompressedInstruction word) (expand word) := by
  unfold decodeCompressedInstruction expand
  simp only [reader_getBits.quadrant]
  rcases field2_cases (quadrant word) with zero | one | two | three
  · rw [zero]
    exact expands_quadrant0 word
  · rw [one]
    exact expands_quadrant1 word
  · rw [two]
    exact expands_quadrant2 word
  · exact absurd three short

theorem decodeFetched_half (short : quadrant word ≠ 3) :
    decodeFetched (word.setWidth 32) = decodeCompressedInstruction word := by
  have low : (word.setWidth 32 &&& 0x3) ≠ 0x3 := by
    intro same
    have field : (quadrant word).setWidth 32 = word.setWidth 32 &&& 0x3 := by
      rw [← reader_getBits.quadrant]
      unfold getBits
      rw [if_pos (by decide)]
      dsimp only
      rw [if_neg (by decide), BitVec.ushiftRight_zero]
      rfl
    exact short (Fields.eq_of_extended (by decide) (field.trans same))
  unfold decodeFetched decodeDirect
  rw [if_pos low, if_pos rfl, BitVec.setWidth_setWidth_of_le _ (by decide), BitVec.setWidth_eq]

end Decode

/-! ### The expansions are 32-bit instructions -/

/-- The encoding of an instruction. -/
def encode (kind : InstructionKind) (operands : Operands 32) : BitVec 32 :=
  (operands.fields (layout kind)).word

/-- The kinds that have short forms. -/
def InstructionKind.abbreviable : InstructionKind → Bool
  | .lui | .jal | .jalr | .beq | .bne | .lw | .sw | .addi | .andi | .slli | .srli | .srai | .add
  | .sub | .xor | .or | .and | .ebreak => true
  | _ => false

/-- The operands have an encoding, and nothing but what the format holds. -/
def Encodable : Option (InstructionKind × Operands 32) → Prop
  | some (kind, operands) =>
    kind.abbreviable = true ∧ operands.InRange (layout kind) ∧
      operands.used (layout kind) = operands
  | none => True

section

variable (word : BitVec 16)

theorem encodable_quadrant0 : Encodable (expandQuadrant0 word) := by
  unfold expandQuadrant0
  dsimp only
  repeat' split
  all_goals dsimp only [Encodable, layout, Operands.InRange]
  all_goals exact ⟨rfl, unsigned_inRange (by decide) (by decide) _, rfl⟩

theorem encodable_arithmetic : Encodable (expandArithmetic word) := by
  unfold expandArithmetic
  dsimp only
  repeat' split
  all_goals dsimp only [Encodable, layout, Operands.InRange]
  case h_1 | h_2 => exact ⟨rfl, Operands.zeroExtended (by decide) _, rfl⟩
  case h_3 => exact ⟨rfl, signed_inRange (by decide) (by decide) _, rfl⟩
  all_goals exact ⟨rfl, trivial, rfl⟩

theorem encodable_quadrant1 : Encodable (expandQuadrant1 word) := by
  unfold expandQuadrant1
  dsimp only
  repeat' split
  case h_5 => exact encodable_arithmetic word
  all_goals dsimp only [Encodable, layout, Operands.InRange]
  case h_2 | h_6 =>
    refine ⟨rfl, ⟨signed_inRange (by decide) (by decide) _, ?_⟩, rfl⟩
    simp only [BitVec.getLsbD_signExtend, jumpOffset, BitVec.getLsbD_append]
    simp
  case h_7 | h_8 =>
    refine ⟨rfl, ⟨signed_inRange (by decide) (by decide) _, ?_⟩, rfl⟩
    simp only [BitVec.getLsbD_signExtend, branchOffset, BitVec.getLsbD_append]
    simp
  case h_4.isFalse.isFalse =>
    refine ⟨rfl, ⟨signed_inRange (by decide) (by decide) _, ?_⟩, rfl⟩
    apply BitVec.eq_of_getLsbD_eq
    intro i inside
    simp only [BitVec.getLsbD_setWidth, BitVec.getLsbD_signExtend, BitVec.getLsbD_append]
    grind
  all_goals exact ⟨rfl, signed_inRange (by decide) (by decide) _, rfl⟩

theorem encodable_quadrant2 : Encodable (expandQuadrant2 word) := by
  unfold expandQuadrant2 expandJumpRegister
  dsimp only
  repeat' split
  all_goals dsimp only [Encodable, layout, Operands.InRange]
  all_goals
    first
      | exact ⟨rfl, trivial, rfl⟩
      | exact ⟨rfl, Operands.zeroExtended (by decide) _, rfl⟩
      | exact ⟨rfl, unsigned_inRange (by decide) (by decide) _, rfl⟩
      | exact ⟨rfl, by decide, rfl⟩

theorem encodable_expand : Encodable (expand word) := by
  unfold expand
  split
  · exact encodable_quadrant0 word
  · exact encodable_quadrant1 word
  · exact encodable_quadrant2 word
  · exact trivial

end

/-! ### The decoder on the expansions -/

/-- What the format of an instruction does not have is left at its default. -/
def DecodedInstruction.Plain (decoded : DecodedInstruction) : Prop :=
  decoded.kind.abbreviable = true →
    decoded.operands.used (layout decoded.kind) = decoded.operands

open Decode in
theorem plain_decode (instruction : BitVec 32) : (decodeInstruction instruction).Plain := by
  have branch (funct3 : BitVec 32) : (decodeBranch instruction funct3).Plain := by
    unfold decodeBranch
    split <;> exact fun _ => rfl
  have load (funct3 : BitVec 32) : (decodeLoad instruction funct3).Plain := by
    unfold decodeLoad
    split <;> exact fun _ => rfl
  have store (funct3 : BitVec 32) : (decodeStore instruction funct3).Plain := by
    unfold decodeStore
    split <;> exact fun _ => rfl
  have opImm (funct3 funct7 rs2 : BitVec 32) :
      (decodeOpImm instruction funct3 funct7 rs2).Plain := by
    unfold decodeOpImm
    repeat' split
    all_goals exact fun _ => rfl
  have op (funct3 funct7 : BitVec 32) : (decodeOp instruction funct3 funct7).Plain := by
    unfold decodeOp
    repeat' split
    all_goals exact fun _ => rfl
  have amo (funct3 rs2 : BitVec 32) : (decodeAmo instruction funct3 rs2).Plain := by
    unfold decodeAmo
    repeat' split
    all_goals rintro ⟨⟩
  have miscMem (funct3 : BitVec 32) : (decodeMiscMem instruction funct3).Plain := by
    unfold decodeMiscMem
    repeat' split
    all_goals exact fun _ => rfl
  have system (funct3 rs1 rs2 : BitVec 32) :
      (decodeSystem instruction funct3 rs1 rs2).Plain := by
    unfold decodeSystem
    repeat' split
    all_goals exact fun _ => rfl
  unfold decodeInstruction
  dsimp only
  split
  all_goals
    first
      | exact fun _ => rfl
      | exact branch _
      | exact load _
      | exact store _
      | exact opImm _ _ _
      | exact op _ _
      | exact amo _ _
      | exact miscMem _
      | exact system _ _ _
      | (split <;> exact fun _ => rfl)

theorem decode_encodable {kind : InstructionKind} {operands : Operands 32}
    (encodable : Encodable (some (kind, operands))) :
    (decodeInstruction (encode kind operands)).kind = kind ∧
      (decodeInstruction (encode kind operands)).operands = operands := by
  obtain ⟨short, inRange, used⟩ := encodable
  have rounds : operands.Rounds (layout kind) := by
    cases kind <;> exact trivial
  have fields : Fields.of (encode kind operands) = operands.fields (layout kind) :=
    Fields.of_word _
  have same : (decodeInstruction (encode kind operands)).kind = kind :=
    Decode.kind_of_admits (fields ▸ Operands.admits_fields inRange rounds)
  have legal : (decodeInstruction (encode kind operands)).kind ≠ .illegal := by
    rw [same]
    rintro rfl
    cases short
  have read := (Decode.reads_decode _ legal).2
  have plain := plain_decode (encode kind operands) (same.symm ▸ short)
  rw [same] at read plain
  refine ⟨same, plain.symm.trans (read.trans ?_)⟩
  rw [fields, Operands.of_fields inRange, used]

theorem plain_defaults {kind : InstructionKind} {operands : Operands 32}
    (short : kind.abbreviable = true) (used : operands.used (layout kind) = operands) :
    operands.acquire = false ∧ operands.release = false ∧ operands.csr = 0 := by
  rw [← used]
  cases kind <;> cases short <;> exact ⟨rfl, rfl, rfl⟩

/-- The decoder takes a halfword for its expansion, but for its length and its bits. -/
theorem decode_half {word : BitVec 16} (short : quadrant word ≠ 3) {kind : InstructionKind}
    {operands : Operands 32} (found : expand word = some (kind, operands)) :
    decodeFetched (word.setWidth 32) =
      { decodeInstruction (encode kind operands) with raw := word.setWidth 32, length := 2 } := by
  have encodable := encodable_expand word
  have expands := Decode.expands_decode word short
  rw [found] at encodable expands
  obtain ⟨same, read⟩ := decode_encodable encodable
  obtain ⟨abbreviable, _, used⟩ := encodable
  rw [Decode.decodeFetched_half word short, expands]
  generalize decodeInstruction (encode kind operands) = decoded at same read
  subst same read
  obtain ⟨acquire, release, csr⟩ :
      decoded.acquire = false ∧ decoded.release = false ∧ decoded.csr = 0 :=
    plain_defaults abbreviable used
  unfold Decode.makeCompressed Decode.makeDecoded
  simp only [DecodedInstruction.operands, Decode.narrow, acquire, release, csr]

end RvEmulator.Core32
