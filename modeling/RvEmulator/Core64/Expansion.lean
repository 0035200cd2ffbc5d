import RvEmulator.Common.Halfword
import RvEmulator.Core64.Compressed
import RvEmulator.Core64.DecodeEncode

/-! What the specification expands the 16-bit encodings to, and that the decoder finds these
expansions. -/

namespace RvEmulator.Core64

open Halfword Library

/-! ### The expansions of the specification -/

def expandQuadrant0 (word : BitVec 16) : Option (InstructionKind × Operands 64) :=
  let low := lowerShort word
  let base := upperShort word
  let wordOffset := (wordOffset word).setWidth 64
  let doublewordOffset := (doublewordOffset word).setWidth 64
  match funct3 word with
  | 0#3 =>
    if stackOffset word = 0 then none
    else some (.addi, { rd := low, rs1 := 2, immediate := (stackOffset word).setWidth 64 })
  | 1#3 => some (.fld, { rd := low, rs1 := base, immediate := doublewordOffset })
  | 2#3 => some (.lw, { rd := low, rs1 := base, immediate := wordOffset })
  | 3#3 => some (.ld, { rd := low, rs1 := base, immediate := doublewordOffset })
  | 5#3 => some (.fsd, { rs1 := base, rs2 := low, immediate := doublewordOffset })
  | 6#3 => some (.sw, { rs1 := base, rs2 := low, immediate := wordOffset })
  | 7#3 => some (.sd, { rs1 := base, rs2 := low, immediate := doublewordOffset })
  | _ => none

def expandArithmetic (word : BitVec 16) : Option (InstructionKind × Operands 64) :=
  let rd := upperShort word
  let rs2 := lowerShort word
  match funct2 word with
  | 0#2 => some (.srli, { rd, rs1 := rd, immediate := (immediate6 word).setWidth 64 })
  | 1#2 => some (.srai, { rd, rs1 := rd, immediate := (immediate6 word).setWidth 64 })
  | 2#2 => some (.andi, { rd, rs1 := rd, immediate := (immediate6 word).signExtend 64 })
  | _ =>
    match bit12 word, operation word with
    | 0#1, 0#2 => some (.sub, { rd, rs1 := rd, rs2 })
    | 0#1, 1#2 => some (.xor, { rd, rs1 := rd, rs2 })
    | 0#1, 2#2 => some (.or, { rd, rs1 := rd, rs2 })
    | 0#1, 3#2 => some (.and, { rd, rs1 := rd, rs2 })
    | 1#1, 0#2 => some (.subw, { rd, rs1 := rd, rs2 })
    | 1#1, 1#2 => some (.addw, { rd, rs1 := rd, rs2 })
    | _, _ => none

def expandQuadrant1 (word : BitVec 16) : Option (InstructionKind × Operands 64) :=
  let rd := rd word
  let immediate := (immediate6 word).signExtend 64
  let branch := (branchOffset word).signExtend 64
  match funct3 word with
  | 0#3 => some (.addi, { rd, rs1 := rd, immediate })
  | 1#3 => if rd = 0 then none else some (.addiw, { rd, rs1 := rd, immediate })
  | 2#3 => some (.addi, { rd, immediate })
  | 3#3 =>
    if rd = 2 then
      if stackAdjustment word = 0 then none
      else
        some (.addi, { rd := 2, rs1 := 2, immediate := (stackAdjustment word).signExtend 64 })
    else if immediate6 word = 0 then none
    else some (.lui, { rd, immediate := (immediate6 word ++ 0#12).signExtend 64 })
  | 4#3 => expandArithmetic word
  | 5#3 => some (.jal, { immediate := (jumpOffset word).signExtend 64 })
  | 6#3 => some (.beq, { rs1 := upperShort word, immediate := branch })
  | _ => some (.bne, { rs1 := upperShort word, immediate := branch })

def expandJumpRegister (word : BitVec 16) : Option (InstructionKind × Operands 64) :=
  let rd := rd word
  let rs2 := rs2 word
  if bit12 word = 0 then
    if rs2 = 0 then if rd = 0 then none else some (.jalr, { rs1 := rd })
    else some (.add, { rd, rs2 })
  else if rs2 = 0 then
    if rd = 0 then some (.ebreak, {}) else some (.jalr, { rd := 1, rs1 := rd })
  else some (.add, { rd, rs1 := rd, rs2 })

def expandQuadrant2 (word : BitVec 16) : Option (InstructionKind × Operands 64) :=
  let rd := rd word
  let rs2 := rs2 word
  let doublewordLoad := (stackDoublewordLoad word).setWidth 64
  let doublewordStore := (stackDoublewordStore word).setWidth 64
  match funct3 word with
  | 0#3 => some (.slli, { rd, rs1 := rd, immediate := (immediate6 word).setWidth 64 })
  | 1#3 => some (.fld, { rd, rs1 := 2, immediate := doublewordLoad })
  | 2#3 =>
    if rd = 0 then none
    else some (.lw, { rd, rs1 := 2, immediate := (stackWordLoad word).setWidth 64 })
  | 3#3 => if rd = 0 then none else some (.ld, { rd, rs1 := 2, immediate := doublewordLoad })
  | 4#3 => expandJumpRegister word
  | 5#3 => some (.fsd, { rs1 := 2, rs2, immediate := doublewordStore })
  | 6#3 => some (.sw, { rs1 := 2, rs2, immediate := (stackWordStore word).setWidth 64 })
  | _ => some (.sd, { rs1 := 2, rs2, immediate := doublewordStore })

/-- The expansion of a halfword; `none` for the reserved ones. -/
def expand (word : BitVec 16) : Option (InstructionKind × Operands 64) :=
  match quadrant word with
  | 0#2 => expandQuadrant0 word
  | 1#2 => expandQuadrant1 word
  | 2#2 => expandQuadrant2 word
  | _ => none

/-- C.LUI with x0 for its destination, which the specification leaves for hints; the decoder
takes it for an illegal instruction. -/
def LuiHint (word : BitVec 16) : Prop :=
  quadrant word = 1 ∧ funct3 word = 3 ∧ rd word = 0 ∧ immediate6 word ≠ 0

instance (word : BitVec 16) : Decidable (LuiHint word) := inferInstanceAs (Decidable (_ ∧ _))

/-- The halfwords that the specification leaves for hints. -/
inductive Hint (word : BitVec 16) : Prop where
  /-- C.NOP with an immediate, and C.ADDI without one. -/
  | addi (place : quadrant word = 1 ∧ funct3 word = 0)
      (idle : rd word = 0 ∧ immediate6 word ≠ 0 ∨ rd word ≠ 0 ∧ immediate6 word = 0)
  | li (place : quadrant word = 1 ∧ funct3 word = 2) (target : rd word = 0)
  | lui (hint : LuiHint word)
  /-- C.SRLI and C.SRAI. -/
  | shiftRight (place : quadrant word = 1 ∧ funct3 word = 4)
      (shift : funct2 word = 0 ∨ funct2 word = 1) (idle : immediate6 word = 0)
  | slli (place : quadrant word = 2 ∧ funct3 word = 0) (idle : rd word = 0 ∨ immediate6 word = 0)
  /-- C.MV and C.ADD. -/
  | add (place : quadrant word = 2 ∧ funct3 word = 4) (target : rd word = 0)
      (source : rs2 word ≠ 0)

/-! ### The decoder finds the expansions -/

namespace Decode

variable (word : BitVec 16)

theorem bits_half {high low : Nat} (narrow : high - low + 1 < 32) :
    bits (word.setWidth 32) high low = (word.extractLsb' low (high - low + 1)).setWidth 32 := by
  rw [bits_eq _ narrow, extractLsb'_wide]

theorem compressedRegister_eq (field : BitVec 3) :
    compressedRegister (field.setWidth 32) = 1#2 ++ field := by
  revert field
  decide

theorem register_half (low : Nat) :
    register (word.setWidth 32) low = word.extractLsb' low 5 := by
  unfold register
  rw [bits_half word (by omega), show low + 4 - low + 1 = 5 by omega,
    BitVec.setWidth_setWidth_of_le _ (by decide), BitVec.setWidth_eq]

/-- The halfword is decoded as its expansion, with its own length and bits. -/
def Expands (decoded : DecodedInstruction) : Option (InstructionKind × Operands 64) → Prop
  | some (kind, operands) =>
    decoded =
      makeCompressed word kind operands.rd operands.rs1 operands.rs2 operands.immediate
  | none => decoded = makeCompressed word .illegal

theorem lowerShort_eq : compressedRegister (bits (word.setWidth 32) 4 2) = lowerShort word := by
  rw [bits_half word (by decide)]
  exact compressedRegister_eq _

theorem upperShort_eq : compressedRegister (bits (word.setWidth 32) 9 7) = upperShort word := by
  rw [bits_half word (by decide)]
  exact compressedRegister_eq _

theorem reader_bits : Reader bits := fun word _ _ _ _ => bits_half word (by omega)

theorem wordOffset_eq :
    Decode.wordOffset (word.setWidth 32) = (Halfword.wordOffset word).setWidth 64 :=
  (congrArg (BitVec.setWidth 64) (reader_bits.wordOffset word)).trans
    (BitVec.setWidth_setWidth (by decide))

theorem doublewordOffset_eq :
    Decode.doublewordOffset (word.setWidth 32) = (Halfword.doublewordOffset word).setWidth 64 :=
  (congrArg (BitVec.setWidth 64) (reader_bits.doublewordOffset word)).trans
    (BitVec.setWidth_setWidth (by decide))

theorem signExtend_half {n : Nat} (positive : 0 < n) (narrow : n ≤ 32) (value : BitVec n) :
    signExtend (value.setWidth 32) n = value.signExtend 64 := by
  rw [signExtend_eq positive narrow, BitVec.setWidth_setWidth_of_le _ narrow, BitVec.setWidth_eq]

theorem compressedJump_eq :
    compressedJump (word.setWidth 32) = (jumpOffset word).signExtend 64 :=
  (congrArg (signExtend · 12) (reader_bits.jumpOffset word)).trans
    (signExtend_half (by decide) (by decide) _)

theorem compressedBranch_eq :
    compressedBranch (word.setWidth 32) = (branchOffset word).signExtend 64 :=
  (congrArg (signExtend · 9) (reader_bits.branchOffset word)).trans
    (signExtend_half (by decide) (by decide) _)

theorem rd_eq : register (word.setWidth 32) 7 = rd word := register_half word 7

theorem rs2_eq : register (word.setWidth 32) 2 = rs2 word := register_half word 2

theorem widen {n : Nat} (narrow : n ≤ 32) (value : BitVec n) :
    (value.setWidth 32).setWidth 64 = value.setWidth 64 :=
  BitVec.setWidth_setWidth (by omega)

theorem expands_choice {condition expected : Prop} [Decidable condition] [Decidable expected]
    (same : condition ↔ expected) {decoded other : DecodedInstruction}
    {expansion another : Option (InstructionKind × Operands 64)}
    (first : Expands word decoded expansion) (second : Expands word other another) :
    Expands word (if condition then decoded else other)
      (if expected then expansion else another) := by
  by_cases holds : condition
  · rw [if_pos holds, if_pos (same.mp holds)]
    exact first
  · rw [if_neg holds, if_neg fun expected => holds (same.mpr expected)]
    exact second

/-- A reserved encoding is an illegal instruction. -/
theorem expands_unless {refused reserved : Prop} [Decidable refused] [Decidable reserved]
    (same : refused ↔ reserved) {decoded : DecodedInstruction}
    {expansion : Option (InstructionKind × Operands 64)}
    (expands : Expands word decoded expansion) :
    Expands word (if refused then makeCompressed word .illegal else decoded)
      (if reserved then none else expansion) :=
  expands_choice word same rfl expands

theorem expands_quadrant0 : Expands word (decodeQuadrant0 word) (expandQuadrant0 word) := by
  unfold decodeQuadrant0 expandQuadrant0
  simp only [lowerShort_eq, upperShort_eq, wordOffset_eq, doublewordOffset_eq,
    reader_bits.stackOffset, reader_bits.funct3, widen (show 10 ≤ 32 by decide)]
  rcases funct3_cases (funct3 word) with
    third | third | third | third | third | third | third | third <;> rw [third]
  case inl => exact expands_unless word (setWidth_eq_zero_iff (by decide) _) rfl
  all_goals exact rfl

theorem expands_arithmetic :
    Expands word (decodeCompressedArithmetic word ((immediate6 word).signExtend 64))
      (expandArithmetic word) := by
  unfold decodeCompressedArithmetic expandArithmetic
  simp only [lowerShort_eq, upperShort_eq, reader_bits.immediate6, widen (show 6 ≤ 32 by decide)]
  simp only [reader_bits.funct2, reader_bits.bit12, reader_bits.operation]
  rcases field2_cases (funct2 word) with second | second | second | second <;> rw [second]
  case inr.inr.inr =>
    rcases bit_cases (bit12 word) with twelfth | twelfth <;>
      rcases field2_cases (operation word) with sixth | sixth | sixth | sixth <;>
      rw [twelfth, sixth] <;> exact rfl
  all_goals exact rfl

theorem expands_quadrant1 (other : ¬LuiHint word) (first : quadrant word = 1) :
    Expands word (decodeQuadrant1 word) (expandQuadrant1 word) := by
  unfold decodeQuadrant1 expandQuadrant1
  simp only [upperShort_eq, reader_bits.immediate6, reader_bits.stackAdjustment,
    reader_bits.funct3, rd_eq, signExtend_half (show 0 < 6 by decide) (show 6 ≤ 32 by decide),
    signExtend_half (show 0 < 10 by decide) (show 10 ≤ 32 by decide), compressedJump_eq,
    compressedBranch_eq, upperImmediate_eq]
  rcases funct3_cases (funct3 word) with
    third | third | third | third | third | third | third | third <;> rw [third]
  case inr.inl => exact expands_unless word Iff.rfl rfl
  case inr.inr.inr.inl =>
    have refused :
        rd word = 0 ∨ (immediate6 word).signExtend 64 = 0 ↔ immediate6 word = 0 := by
      rw [signExtend_eq_zero_iff (by decide)]
      refine ⟨?_, .inr⟩
      rintro (zero | zero)
      · by_contra nonzero
        exact other ⟨first, third, zero, nonzero⟩
      · exact zero
    exact expands_choice word Iff.rfl
      (expands_unless word (signExtend_eq_zero_iff (by decide) _) rfl)
      (expands_unless word refused rfl)
  case inr.inr.inr.inr.inl => exact expands_arithmetic word
  all_goals exact rfl

theorem expands_jumpRegister :
    Expands word (decodeCompressedJumpRegister word) (expandJumpRegister word) := by
  unfold decodeCompressedJumpRegister expandJumpRegister
  simp only [rd_eq, rs2_eq, reader_bits.bit12]
  exact expands_choice word (setWidth_eq_zero_iff (by decide) _)
    (expands_choice word Iff.rfl (expands_unless word Iff.rfl rfl) rfl)
    (expands_choice word Iff.rfl (expands_choice word Iff.rfl rfl rfl) rfl)

theorem expands_quadrant2 : Expands word (decodeQuadrant2 word) (expandQuadrant2 word) := by
  unfold decodeQuadrant2 expandQuadrant2
  simp only [rd_eq, rs2_eq, reader_bits.funct3, reader_bits.immediate6, reader_bits.stackWordLoad,
    reader_bits.stackDoublewordLoad, reader_bits.stackWordStore, reader_bits.stackDoublewordStore,
    widen (show 6 ≤ 32 by decide), widen (show 8 ≤ 32 by decide),
    widen (show 9 ≤ 32 by decide)]
  rcases funct3_cases (funct3 word) with
    third | third | third | third | third | third | third | third <;> rw [third]
  case inr.inr.inl => exact expands_unless word Iff.rfl rfl
  case inr.inr.inr.inl => exact expands_unless word Iff.rfl rfl
  case inr.inr.inr.inr.inl => exact expands_jumpRegister word
  all_goals exact rfl

theorem expands_decode (other : ¬LuiHint word) (short : quadrant word ≠ 3) :
    Expands word (decodeCompressedInstruction word) (expand word) := by
  unfold decodeCompressedInstruction expand
  simp only [reader_bits.quadrant]
  rcases field2_cases (quadrant word) with zero | one | two | three
  · rw [zero]
    exact expands_quadrant0 word
  · rw [one]
    exact expands_quadrant1 word other one
  · rw [two]
    exact expands_quadrant2 word
  · exact absurd three short

theorem decode_hint (hint : LuiHint word) :
    (decodeCompressedInstruction word).kind = .illegal := by
  obtain ⟨first, third, zero, _⟩ := hint
  unfold decodeCompressedInstruction
  rw [reader_bits.quadrant, first]
  change (decodeQuadrant1 word).kind = .illegal
  unfold decodeQuadrant1
  simp only [reader_bits.funct3, rd_eq]
  rw [third, zero]
  rfl

theorem decodeFetched_half (short : quadrant word ≠ 3) :
    decodeFetched (word.setWidth 32) = decodeCompressedInstruction word := by
  have low : (word.setWidth 32 &&& 0x3) ≠ 0x3 := by
    intro same
    have field : (quadrant word).setWidth 32 = word.setWidth 32 &&& 0x3 := by
      rw [← reader_bits.quadrant]
      unfold bits
      rw [BitVec.ushiftRight_zero]
      rfl
    exact short (Fields.eq_of_extended (by decide) (field.trans same))
  unfold decodeFetched decodeDirect
  rw [if_pos low, if_pos rfl, BitVec.setWidth_setWidth_of_le _ (by decide), BitVec.setWidth_eq]

end Decode

/-! ### The expansions are 32-bit instructions -/

/-- The kinds that have short forms. -/
def InstructionKind.abbreviable : InstructionKind → Bool
  | .lui | .jal | .jalr | .beq | .bne | .lw | .ld | .fld | .sw | .sd | .fsd | .addi | .andi | .slli
  | .srli | .srai | .addiw | .add | .sub | .xor | .or | .and | .addw | .subw | .ebreak => true
  | _ => false

def Encodable : Option (InstructionKind × Operands 64) → Prop
  | some (kind, operands) =>
    kind.abbreviable = true ∧ operands.InRange (layout kind) ∧ operands.Rounds (layout kind)
  | none => True

variable (word : BitVec 16)

theorem encodable_quadrant0 : Encodable (expandQuadrant0 word) := by
  unfold expandQuadrant0
  dsimp only
  repeat' split
  all_goals dsimp only [Encodable, layout, Operands.InRange, Operands.Rounds]
  all_goals exact ⟨rfl, unsigned_inRange (by decide) (by decide) _, trivial⟩

theorem encodable_arithmetic : Encodable (expandArithmetic word) := by
  unfold expandArithmetic
  dsimp only
  repeat' split
  all_goals dsimp only [Encodable, layout, Operands.InRange, Operands.Rounds]
  case h_1 | h_2 => exact ⟨rfl, Operands.zeroExtended (by decide) _, trivial⟩
  case h_3 => exact ⟨rfl, signed_inRange (by decide) (by decide) _, trivial⟩
  all_goals exact ⟨rfl, trivial, trivial⟩

theorem encodable_quadrant1 : Encodable (expandQuadrant1 word) := by
  unfold expandQuadrant1
  dsimp only
  repeat' split
  case h_5 => exact encodable_arithmetic word
  all_goals dsimp only [Encodable, layout, Operands.InRange, Operands.Rounds]
  case h_6 =>
    refine ⟨rfl, ⟨signed_inRange (by decide) (by decide) _, ?_⟩, trivial⟩
    simp only [BitVec.getLsbD_signExtend, jumpOffset, BitVec.getLsbD_append]
    simp
  case h_7 | h_8 =>
    refine ⟨rfl, ⟨signed_inRange (by decide) (by decide) _, ?_⟩, trivial⟩
    simp only [BitVec.getLsbD_signExtend, branchOffset, BitVec.getLsbD_append]
    simp
  case h_4.isFalse.isFalse =>
    refine ⟨rfl, ⟨signed_inRange (by decide) (by decide) _, ?_⟩, trivial⟩
    apply BitVec.eq_of_getLsbD_eq
    intro i inside
    simp only [BitVec.getLsbD_setWidth, BitVec.getLsbD_signExtend, BitVec.getLsbD_append]
    grind
  all_goals exact ⟨rfl, signed_inRange (by decide) (by decide) _, trivial⟩

theorem encodable_quadrant2 : Encodable (expandQuadrant2 word) := by
  unfold expandQuadrant2 expandJumpRegister
  dsimp only
  repeat' split
  all_goals dsimp only [Encodable, layout, Operands.InRange, Operands.Rounds]
  all_goals
    first
      | exact ⟨rfl, trivial, trivial⟩
      | exact ⟨rfl, Operands.zeroExtended (by decide) _, trivial⟩
      | exact ⟨rfl, unsigned_inRange (by decide) (by decide) _, trivial⟩
      | exact ⟨rfl, by decide, trivial⟩

theorem encodable_expand : Encodable (expand word) := by
  unfold expand
  split
  · exact encodable_quadrant0 word
  · exact encodable_quadrant1 word
  · exact encodable_quadrant2 word
  · exact trivial

end RvEmulator.Core64
