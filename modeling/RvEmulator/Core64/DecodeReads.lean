import RvEmulator.Core64.DecodeKinds

/-! The decoder finds the operands where the formats have them. -/

namespace RvEmulator.Core64

open Fields

namespace Decode

/-- A decoded instruction, if valid, has the format of its kind and the operands that this
format finds in the word. -/
def Reads (instruction : BitVec 32) (decoded : DecodedInstruction) : Prop :=
  decoded.kind ≠ .illegal →
    (layout decoded.kind).Admits (Fields.of instruction) ∧
      decoded.operands.used (layout decoded.kind) =
        Operands.of (layout decoded.kind) (Fields.of instruction)

variable {instruction : BitVec 32}

theorem reads_illegal {immediate : BitVec 64} :
    Reads instruction (make instruction .illegal immediate) :=
  fun valid => absurd rfl valid

theorem operands_make (kind : InstructionKind) (immediate : BitVec 64) :
    (make instruction kind immediate).operands =
      { rd := (Fields.of instruction).rd
        rs1 := (Fields.of instruction).rs1
        rs2 := (Fields.of instruction).rs2
        immediate } := by
  simp only [make, DecodedInstruction.operands, register_eq]
  rfl

/-- A family of instructions with one format. -/
theorem reads_make {kind : InstructionKind} {immediate : BitVec 64} {format : Layout}
    (family : kind = .illegal ∨ layout kind = format)
    (admits : format.Admits (Fields.of instruction))
    (found : Operands.used
      { rd := (Fields.of instruction).rd, rs1 := (Fields.of instruction).rs1,
        rs2 := (Fields.of instruction).rs2, immediate } format =
      Operands.of format (Fields.of instruction)) :
    Reads instruction (make instruction kind immediate) := by
  intro valid
  rcases family with none | rfl
  · exact absurd none valid
  · refine ⟨admits, ?_⟩
    rw [operands_make]
    exact found

theorem opcode_of (opcode : BitVec 7) (same : bits instruction 6 0 = opcode.setWidth 32) :
    (Fields.of instruction).opcode = opcode :=
  eq_of_extended (by decide) ((bits_opcode instruction).symm.trans same)

theorem funct3_of (funct3 : BitVec 3) (same : bits instruction 14 12 = funct3.setWidth 32) :
    (Fields.of instruction).funct3 = funct3 :=
  eq_of_extended (by decide) ((bits_funct3 instruction).symm.trans same)

theorem funct7_of (funct7 : BitVec 7) (same : bits instruction 31 25 = funct7.setWidth 32) :
    (Fields.of instruction).funct7 = funct7 :=
  eq_of_extended (by decide) ((bits_funct7 instruction).symm.trans same)

theorem rs2_of (rs2 : BitVec 5) (same : bits instruction 24 20 = rs2.setWidth 32) :
    (Fields.of instruction).rs2 = rs2 :=
  eq_of_extended (by decide) ((bits_rs2 instruction).symm.trans same)

/-! The families. -/

theorem branchKind_layout : ∀ funct3 : BitVec 3,
    branchKind (funct3.setWidth 32) = .illegal ∨
      layout (branchKind (funct3.setWidth 32)) = .branch 0x63 funct3 := by
  decide

theorem loadKind_layout : ∀ funct3 : BitVec 3,
    loadKind (funct3.setWidth 32) = .illegal ∨
      layout (loadKind (funct3.setWidth 32)) = .immediate 0x03 funct3 := by
  decide

theorem storeKind_layout : ∀ funct3 : BitVec 3,
    storeKind (funct3.setWidth 32) = .illegal ∨
      layout (storeKind (funct3.setWidth 32)) = .store 0x23 funct3 := by
  decide

theorem opKind_layout : ∀ (funct3 : BitVec 3) (funct7 : BitVec 7),
    opKind (funct3.setWidth 32) (funct7.setWidth 32) = .illegal ∨
      layout (opKind (funct3.setWidth 32) (funct7.setWidth 32)) =
        .register 0x33 funct3 funct7 := by
  decide

theorem op32Kind_layout : ∀ (funct3 : BitVec 3) (funct7 : BitVec 7),
    op32Kind (funct3.setWidth 32) (funct7.setWidth 32) = .illegal ∨
      layout (op32Kind (funct3.setWidth 32) (funct7.setWidth 32)) =
        .register 0x3B funct3 funct7 := by
  decide

theorem atomicKind_layout : ∀ (funct5 : BitVec 5) (doubleword : Bool),
    let kind := atomicKind (funct5.setWidth 32) doubleword
    kind = .illegal ∨
      layout kind = (if kind = .lrW ∨ kind = .lrD then
        .loadReserved (if doubleword then 3 else 2) funct5 else
        .atomic (if doubleword then 3 else 2) funct5) := by
  decide

theorem signInjectionKind_layout : ∀ (funct3 : BitVec 3) (doublePrecision : Bool),
    signInjectionKind (funct3.setWidth 32) doublePrecision = .illegal ∨
      layout (signInjectionKind (funct3.setWidth 32) doublePrecision) =
        .register 0x53 funct3 (if doublePrecision then 0x11 else 0x10) := by
  decide

theorem minMaxKind_layout : ∀ (funct3 : BitVec 3) (doublePrecision : Bool),
    minMaxKind (funct3.setWidth 32) doublePrecision = .illegal ∨
      layout (minMaxKind (funct3.setWidth 32) doublePrecision) =
        .register 0x53 funct3 (if doublePrecision then 0x15 else 0x14) := by
  decide

theorem comparisonKind_layout : ∀ (funct3 : BitVec 3) (doublePrecision : Bool),
    comparisonKind (funct3.setWidth 32) doublePrecision = .illegal ∨
      layout (comparisonKind (funct3.setWidth 32) doublePrecision) =
        .register 0x53 funct3 (if doublePrecision then 0x51 else 0x50) := by
  decide

theorem moveKind_layout {word : BitVec 32} {kind : InstructionKind}
    (selected : moveKind? word = some kind) :
    layout kind = .unary 0x53 (Fields.of word).funct3 (Fields.of word).rs2
      (Fields.of word).funct7 := by
  unfold moveKind? at selected
  split at selected
  case h_7 => cases selected
  all_goals
    cases selected
    decide

theorem conversionKind_layout {word : BitVec 32} {kind : InstructionKind}
    (selected : conversionKind? word = some kind) :
    layout kind = .roundedUnary (Fields.of word).rs2 (Fields.of word).funct7 := by
  unfold conversionKind? at selected
  split at selected
  case h_19 => cases selected
  all_goals
    cases selected
    decide

/-! The formats. -/

section

variable {kind : InstructionKind} {opcode : BitVec 7} {funct3 : BitVec 3} {rs2 : BitVec 5}
  {funct7 : BitVec 7}

theorem reads_register (family : kind = .illegal ∨ layout kind = .register opcode funct3 funct7)
    (first : (Fields.of instruction).opcode = opcode)
    (third : (Fields.of instruction).funct3 = funct3)
    (seventh : (Fields.of instruction).funct7 = funct7) :
    Reads instruction (make instruction kind) :=
  reads_make family ⟨first, third, seventh⟩ rfl

theorem reads_immediate (family : kind = .illegal ∨ layout kind = .immediate opcode funct3)
    (first : (Fields.of instruction).opcode = opcode)
    (third : (Fields.of instruction).funct3 = funct3) :
    Reads instruction (make instruction kind (iImmediate instruction)) := by
  apply reads_make family ⟨first, third⟩
  rw [iImmediate_eq]
  rfl

theorem reads_store (family : kind = .illegal ∨ layout kind = .store opcode funct3)
    (first : (Fields.of instruction).opcode = opcode)
    (third : (Fields.of instruction).funct3 = funct3) :
    Reads instruction (make instruction kind (sImmediate instruction)) := by
  apply reads_make family ⟨first, third⟩
  rw [sImmediate_eq]
  rfl

theorem reads_branch (family : kind = .illegal ∨ layout kind = .branch opcode funct3)
    (first : (Fields.of instruction).opcode = opcode)
    (third : (Fields.of instruction).funct3 = funct3) :
    Reads instruction (make instruction kind (bImmediate instruction)) := by
  apply reads_make family ⟨first, third⟩
  rw [bImmediate_eq]
  rfl

theorem reads_upper (family : kind = .illegal ∨ layout kind = .upper opcode)
    (first : (Fields.of instruction).opcode = opcode) :
    Reads instruction (make instruction kind (uImmediate instruction)) := by
  apply reads_make family first
  rw [uImmediate_eq]
  rfl

theorem reads_jump (family : kind = .illegal ∨ layout kind = .jump opcode)
    (first : (Fields.of instruction).opcode = opcode) :
    Reads instruction (make instruction kind (jImmediate instruction)) := by
  apply reads_make family first
  rw [jImmediate_eq]
  rfl

theorem reads_shift {funct6 : BitVec 6}
    (family : kind = .illegal ∨ layout kind = .shift opcode funct3 funct6)
    (first : (Fields.of instruction).opcode = opcode)
    (third : (Fields.of instruction).funct3 = funct3)
    (sixth : bits instruction 31 26 = funct6.setWidth 32) :
    Reads instruction (make instruction kind ((bits instruction 25 20).setWidth 64)) := by
  have amount : (bits instruction 25 20).setWidth 64 =
      (Fields.of instruction).shiftAmount.setWidth 64 := by
    rw [bits_eq _ (by decide), BitVec.setWidth_setWidth (by decide)]
    congr 1
    apply BitVec.eq_of_getLsbD_eq
    intro i inside
    simp only [Fields.shiftAmount, Fields.of, BitVec.getLsbD_append, BitVec.getLsbD_extractLsb']
    grind
  refine reads_make family ⟨first, third, ?_⟩ (by rw [amount]; rfl)
  exact eq_of_extended (by decide) ((bits_funct6 instruction).symm.trans sixth)

theorem reads_shiftWord (family : kind = .illegal ∨ layout kind = .shiftWord opcode funct3 funct7)
    (first : (Fields.of instruction).opcode = opcode)
    (third : (Fields.of instruction).funct3 = funct3)
    (seventh : (Fields.of instruction).funct7 = funct7) :
    Reads instruction (make instruction kind ((bits instruction 24 20).setWidth 64)) := by
  refine reads_make family ⟨first, third, seventh⟩ ?_
  rw [bits_rs2, BitVec.setWidth_setWidth (by decide)]
  rfl

/-- An instruction that rounds: a reserved rounding mode makes it invalid. -/
theorem reads_makeFloating {fused : Bool} {format : Layout}
    (shape : layout kind = format)
    (admits : Layout.ValidRounding (Fields.of instruction).funct3 →
      format.Admits (Fields.of instruction))
    (found : Operands.used
      { rd := (Fields.of instruction).rd, rs1 := (Fields.of instruction).rs1,
        rs2 := (Fields.of instruction).rs2,
        rs3 := if fused then (Fields.of instruction).funct7.extractLsb' 2 5 else 0,
        roundingMode := (Fields.of instruction).funct3.setWidth 8 } format =
      (Operands.of format (Fields.of instruction) : Operands 64)) :
    Reads instruction (makeFloating instruction kind fused) := by
  intro legal
  have mode : (bits instruction 14 12).setWidth 8 = (Fields.of instruction).funct3.setWidth 8 := by
    rw [bits_funct3, BitVec.setWidth_setWidth (by decide)]
  have third : register instruction 27 = (Fields.of instruction).funct7.extractLsb' 2 5 := by
    rw [register_eq]
    apply BitVec.eq_of_getLsbD_eq
    intro i inside
    simp only [Fields.of, BitVec.getLsbD_extractLsb']
    grind
  have valid : validRoundingMode ((bits instruction 14 12).setWidth 8) = true := by
    by_contra invalid
    exact legal (if_neg invalid)
  have kept : (makeFloating instruction kind fused).kind = kind := if_pos valid
  have operands : (makeFloating instruction kind fused).operands =
      { rd := (Fields.of instruction).rd, rs1 := (Fields.of instruction).rs1,
        rs2 := (Fields.of instruction).rs2,
        rs3 := if fused then (Fields.of instruction).funct7.extractLsb' 2 5 else 0,
        roundingMode := (Fields.of instruction).funct3.setWidth 8 } := by
    rw [← mode, ← third]
    simp only [makeFloating, make, DecodedInstruction.operands, register_eq]
    rfl
  rw [kept, shape, operands]
  rw [bits_funct3] at valid
  exact ⟨admits ((validRounding_iff _).mp valid), found⟩

end

/-! ### One lemma for each part of the decoder -/

theorem reads_opImm (first : (Fields.of instruction).opcode = 0x13) :
    Reads instruction (decodeOpImm instruction (bits instruction 14 12)) := by
  unfold decodeOpImm
  split
  next third => exact reads_immediate (.inr rfl) first (funct3_of 0 third)
  next third => exact reads_immediate (.inr rfl) first (funct3_of 2 third)
  next third => exact reads_immediate (.inr rfl) first (funct3_of 3 third)
  next third => exact reads_immediate (.inr rfl) first (funct3_of 4 third)
  next third => exact reads_immediate (.inr rfl) first (funct3_of 6 third)
  next third => exact reads_immediate (.inr rfl) first (funct3_of 7 third)
  next third =>
    split
    next sixth => exact reads_shift (.inr rfl) first (funct3_of 1 third) sixth
    next => exact reads_illegal
  next third =>
    split
    next sixth => exact reads_shift (.inr rfl) first (funct3_of 5 third) sixth
    next =>
      split
      next sixth => exact reads_shift (.inr rfl) first (funct3_of 5 third) sixth
      next => exact reads_illegal
  next => exact reads_illegal

theorem reads_opImm32 (first : (Fields.of instruction).opcode = 0x1B) :
    Reads instruction
      (decodeOpImm32 instruction (bits instruction 14 12) (bits instruction 31 25)) := by
  unfold decodeOpImm32
  split
  next third => exact reads_immediate (.inr rfl) first (funct3_of 0 third)
  next =>
    split
    next both =>
      exact reads_shiftWord (.inr rfl) first (funct3_of 1 both.1) (funct7_of 0 both.2)
    next =>
      split
      next both =>
        exact reads_shiftWord (.inr rfl) first (funct3_of 5 both.1) (funct7_of 0 both.2)
      next =>
        split
        next both =>
          exact reads_shiftWord (.inr rfl) first (funct3_of 5 both.1) (funct7_of 0x20 both.2)
        next => exact reads_illegal

theorem reads_fused {opcode : BitVec 7} (first : (Fields.of instruction).opcode = opcode)
    (fused : opcode = 0x43 ∨ opcode = 0x47 ∨ opcode = 0x4B ∨ opcode = 0x4F) :
    Reads instruction (decodeFused instruction (opcode.setWidth 32)) := by
  have formats : ∀ format : BitVec 2, ¬ format.setWidth 32 > (1 : BitVec 32) →
      layout (fusedKind (opcode.setWidth 32) (format.setWidth 32 = (1 : BitVec 32))) =
        .fused opcode format := by
    rcases fused with rfl | rfl | rfl | rfl <;> decide
  unfold decodeFused
  rw [bits_format]
  dsimp only
  split
  next => exact reads_illegal
  next small => exact reads_makeFloating (formats _ small) (fun valid => ⟨first, valid, rfl⟩) rfl

theorem bits_flag {position : Nat} (low : position < 7) :
    (bits instruction (25 + position) (25 + position) != 0) =
      (Fields.of instruction).funct7.getLsbD position := by
  have width : 25 + position - (25 + position) + 1 = 1 := by omega
  rw [bits_eq _ (by omega), width, bit_funct7 _ low]

/-- The atomic instructions of one width. -/
theorem reads_width (doubleword : Bool) (first : (Fields.of instruction).opcode = 0x2F)
    (third : (Fields.of instruction).funct3 = if doubleword then 3 else 2)
    (rest : ¬ ((atomicKind (bits instruction 31 27) doubleword = .lrW ∨
      atomicKind (bits instruction 31 27) doubleword = .lrD) ∧ bits instruction 24 20 ≠ 0)) :
    Reads instruction
      { make instruction (atomicKind (bits instruction 31 27) doubleword) with
        acquire := bits instruction 26 26 != 0
        release := bits instruction 25 25 != 0 } := by
  intro legal
  rw [bits_funct5] at rest legal ⊢
  rw [bits_flag (by decide : 1 < 7), bits_flag (by decide : 0 < 7)]
  simp only [DecodedInstruction.operands, make, register_eq] at legal ⊢
  rcases (atomicKind_layout _ doubleword) with none | shape
  · exact absurd none legal
  · by_cases reserves : atomicKind (((Fields.of instruction).funct7.extractLsb' 2 5).setWidth 32)
        doubleword = .lrW ∨ atomicKind
          (((Fields.of instruction).funct7.extractLsb' 2 5).setWidth 32) doubleword = .lrD
    · have second : bits instruction 24 20 = 0 := by
        by_contra used
        exact rest ⟨reserves, used⟩
      rw [shape, if_pos reserves]
      exact ⟨⟨first, third, rs2_of 0 second, rfl⟩, rfl⟩
    · rw [shape, if_neg reserves]
      exact ⟨⟨first, third, rfl⟩, rfl⟩

theorem reads_atomic (first : (Fields.of instruction).opcode = 0x2F) :
    Reads instruction (decodeAtomic instruction (bits instruction 14 12)) := by
  unfold decodeAtomic
  split
  next => exact reads_illegal
  next width =>
    dsimp only
    split
    next => exact reads_illegal
    next rest =>
      by_cases doubleword : bits instruction 14 12 = 3
      · simp only [doubleword, decide_true] at rest ⊢
        exact reads_width true first (funct3_of 3 doubleword) rest
      · have word : bits instruction 14 12 = 2 := by
          by_contra other
          exact width ⟨other, doubleword⟩
        simp only [doubleword, decide_false] at rest ⊢
        exact reads_width false first (funct3_of 2 word) rest

theorem reads_misc (first : (Fields.of instruction).opcode = 0x53) :
    Reads instruction
      (decodeFloatingMisc instruction (bits instruction 14 12) (bits instruction 31 25)) := by
  unfold decodeFloatingMisc
  split
  next either =>
    rcases either with seventh | seventh
    · rw [seventh, bits_funct3]
      exact reads_register (signInjectionKind_layout _ false) first rfl (funct7_of 0x10 seventh)
    · rw [seventh, bits_funct3]
      exact reads_register (signInjectionKind_layout _ true) first rfl (funct7_of 0x11 seventh)
  next =>
  split
  next either =>
    rcases either with seventh | seventh
    · rw [seventh, bits_funct3]
      exact reads_register (minMaxKind_layout _ false) first rfl (funct7_of 0x14 seventh)
    · rw [seventh, bits_funct3]
      exact reads_register (minMaxKind_layout _ true) first rfl (funct7_of 0x15 seventh)
  next =>
  split
  next either =>
    rcases either with seventh | seventh
    · rw [seventh, bits_funct3]
      exact reads_register (comparisonKind_layout _ false) first rfl (funct7_of 0x50 seventh)
    · rw [seventh, bits_funct3]
      exact reads_register (comparisonKind_layout _ true) first rfl (funct7_of 0x51 seventh)
  next =>
  split
  next kind selected =>
    have shape := moveKind_layout selected
    simp only [of_and_move] at shape
    exact reads_make (.inr shape) ⟨first, rfl, rfl, rfl⟩ rfl
  next =>
  split
  next kind selected =>
    have shape := conversionKind_layout selected
    simp only [of_and_conversion] at shape
    exact reads_makeFloating shape (fun valid => ⟨first, valid, rfl, rfl⟩) rfl
  next => exact reads_illegal

theorem reads_floating (first : (Fields.of instruction).opcode = 0x53) :
    Reads instruction
      (decodeFloating instruction (bits instruction 14 12) (bits instruction 31 25)) := by
  have rounded {kind : InstructionKind} (funct7 : BitVec 7)
      (shape : layout kind = .rounded funct7)
      (seventh : bits instruction 31 25 = funct7.setWidth 32) :
      Reads instruction (makeFloating instruction kind) :=
    reads_makeFloating shape (fun valid => ⟨first, valid, funct7_of _ seventh⟩) rfl
  have root {kind : InstructionKind} (funct7 : BitVec 7)
      (shape : layout kind = .roundedUnary 0 funct7)
      (seventh : bits instruction 31 25 = funct7.setWidth 32) :
      Reads instruction (if bits instruction 24 20 = 0 then makeFloating instruction kind
        else make instruction .illegal) := by
    split
    next second =>
      exact reads_makeFloating shape
        (fun valid => ⟨first, valid, rs2_of 0 second, funct7_of _ seventh⟩) rfl
    next => exact reads_illegal
  unfold decodeFloating
  split
  next seventh => exact rounded 0x00 rfl seventh
  next seventh => exact rounded 0x01 rfl seventh
  next seventh => exact rounded 0x04 rfl seventh
  next seventh => exact rounded 0x05 rfl seventh
  next seventh => exact rounded 0x08 rfl seventh
  next seventh => exact rounded 0x09 rfl seventh
  next seventh => exact rounded 0x0C rfl seventh
  next seventh => exact rounded 0x0D rfl seventh
  next seventh => exact root 0x2C rfl seventh
  next seventh => exact root 0x2D rfl seventh
  next => exact reads_misc first

theorem reads_miscMem (first : (Fields.of instruction).opcode = 0x0F) :
    Reads instruction (decodeMiscMem instruction (bits instruction 14 12)) := by
  unfold decodeMiscMem
  split
  next third => exact reads_make (.inr rfl) ⟨first, funct3_of 0 third⟩ rfl
  next =>
  split
  next all =>
    obtain ⟨third, upper, source, destination⟩ := all
    have csr : (Fields.of instruction).csr = 0 := by
      rw [bits_csr] at upper
      exact eq_of_extended (by decide) upper
    refine reads_make (.inr rfl) ?_ rfl
    apply Fields.ext
    · exact first
    · exact eq_of_extended (by decide) ((bits_rd instruction).symm.trans destination)
    · exact funct3_of 1 third
    · exact eq_of_extended (by decide) ((bits_rs1 instruction).symm.trans source)
    · exact BitVec.extractLsb'_append_eq_right.symm.trans (congrArg (BitVec.extractLsb' 0 5) csr)
    · exact BitVec.extractLsb'_append_eq_left.symm.trans (congrArg (BitVec.extractLsb' 5 7) csr)
  next => exact reads_illegal

theorem reads_makeCsr {kind : InstructionKind} {format : Layout} {immediate : Bool}
    (shape : layout kind = format) (admits : format.Admits (Fields.of instruction))
    (found : Operands.used
      { rd := (Fields.of instruction).rd, rs1 := (Fields.of instruction).rs1,
        rs2 := (Fields.of instruction).rs2,
        immediate := if immediate then (Fields.of instruction).rs1.setWidth 64 else 0,
        csr := (Fields.of instruction).csr.setWidth 16 } format =
      Operands.of format (Fields.of instruction)) :
    Reads instruction (makeCsr instruction kind immediate) := by
  intro _
  have operands : (makeCsr instruction kind immediate).operands =
      { rd := (Fields.of instruction).rd, rs1 := (Fields.of instruction).rs1,
        rs2 := (Fields.of instruction).rs2,
        immediate := if immediate then (Fields.of instruction).rs1.setWidth 64 else 0,
        csr := (Fields.of instruction).csr.setWidth 16 } := by
    simp only [makeCsr, make, DecodedInstruction.operands, register_eq, bits_csr, bits_rs1]
    rw [BitVec.setWidth_setWidth (by decide), BitVec.setWidth_setWidth (by decide)]
    rfl
  have kept : (makeCsr instruction kind immediate).kind = kind := rfl
  rw [kept, shape, operands]
  exact ⟨admits, found⟩

theorem reads_constant {kind : InstructionKind} {opcode : BitVec 7} {funct3 : BitVec 3}
    {rs2 : BitVec 5} {funct7 : BitVec 7} (shape : layout kind = .constant opcode funct3 rs2 funct7)
    (same : Fields.of instruction = { opcode, funct3, rs2, funct7 }) :
    Reads instruction (make instruction kind) :=
  reads_make (.inr shape) same rfl

theorem reads_system (first : (Fields.of instruction).opcode = 0x73) :
    Reads instruction (decodeSystem instruction (bits instruction 14 12)) := by
  unfold decodeSystem
  split
  next same => exact reads_constant rfl (by rw [same]; decide)
  next =>
  split
  next same => exact reads_constant rfl (by rw [same]; decide)
  next =>
  split
  next same => exact reads_constant rfl (by rw [same]; decide)
  next =>
  split
  next same => exact reads_constant rfl (by rw [same]; decide)
  next =>
  split
  next same => exact reads_constant rfl (by rw [same]; decide)
  next =>
  split
  next masked =>
    have parts := of_and_addressFence instruction
    rw [masked] at parts
    exact reads_make (.inr rfl) ⟨first, (congrArg Fields.rd parts).symm,
      (congrArg Fields.funct3 parts).symm, (congrArg Fields.funct7 parts).symm⟩ rfl
  next =>
  split
  next third => exact reads_makeCsr rfl ⟨first, funct3_of 1 third⟩ rfl
  next third => exact reads_makeCsr rfl ⟨first, funct3_of 2 third⟩ rfl
  next third => exact reads_makeCsr rfl ⟨first, funct3_of 3 third⟩ rfl
  next third => exact reads_makeCsr rfl ⟨first, funct3_of 5 third⟩ rfl
  next third => exact reads_makeCsr rfl ⟨first, funct3_of 6 third⟩ rfl
  next third => exact reads_makeCsr rfl ⟨first, funct3_of 7 third⟩ rfl
  next => exact reads_illegal

/-- The decoder reads every word as the format of its result does. -/
theorem reads_decode (instruction : BitVec 32) :
    Reads instruction (decodeInstruction instruction) := by
  unfold decodeInstruction
  dsimp only
  split
  next first => exact reads_upper (.inr rfl) (opcode_of 0x37 first)
  next first => exact reads_upper (.inr rfl) (opcode_of 0x17 first)
  next first => exact reads_jump (.inr rfl) (opcode_of 0x6F first)
  next first =>
    split
    next third => exact reads_immediate (.inr rfl) (opcode_of 0x67 first) (funct3_of 0 third)
    next => exact reads_illegal
  next first =>
    rw [bits_funct3]
    exact reads_branch (branchKind_layout _) (opcode_of 0x63 first) rfl
  next first =>
    rw [bits_funct3]
    exact reads_immediate (loadKind_layout _) (opcode_of 0x03 first) rfl
  next first =>
    split
    next third => exact reads_immediate (.inr rfl) (opcode_of 0x07 first) (funct3_of 2 third)
    next =>
    split
    next third => exact reads_immediate (.inr rfl) (opcode_of 0x07 first) (funct3_of 3 third)
    next => exact reads_illegal
  next first =>
    rw [bits_funct3]
    exact reads_store (storeKind_layout _) (opcode_of 0x23 first) rfl
  next first =>
    split
    next third => exact reads_store (.inr rfl) (opcode_of 0x27 first) (funct3_of 2 third)
    next =>
    split
    next third => exact reads_store (.inr rfl) (opcode_of 0x27 first) (funct3_of 3 third)
    next => exact reads_illegal
  next first => exact reads_opImm (opcode_of 0x13 first)
  next first => exact reads_opImm32 (opcode_of 0x1B first)
  next first =>
    rw [bits_funct3, bits_funct7]
    exact reads_register (opKind_layout _ _) (opcode_of 0x33 first) rfl rfl
  next first =>
    rw [bits_funct3, bits_funct7]
    exact reads_register (op32Kind_layout _ _) (opcode_of 0x3B first) rfl rfl
  next first => exact reads_atomic (opcode_of 0x2F first)
  next first =>
    rw [first]
    exact reads_fused (opcode_of 0x43 first) (by decide)
  next first =>
    rw [first]
    exact reads_fused (opcode_of 0x47 first) (by decide)
  next first =>
    rw [first]
    exact reads_fused (opcode_of 0x4B first) (by decide)
  next first =>
    rw [first]
    exact reads_fused (opcode_of 0x4F first) (by decide)
  next first => exact reads_floating (opcode_of 0x53 first)
  next first => exact reads_miscMem (opcode_of 0x0F first)
  next first => exact reads_system (opcode_of 0x73 first)
  next => exact reads_illegal

end Decode

end RvEmulator.Core64
