import RvEmulator.Core32.DecodeKinds

/-! The RV32 decoder finds the operands where the formats have them. -/

namespace RvEmulator.Core32

open Fields

namespace Decode

variable {instruction : BitVec 32}

/-- A decoded instruction, if valid, has the format of its kind and the operands that this
format finds in the word. -/
def Reads (instruction : BitVec 32) (decoded : DecodedInstruction) : Prop :=
  decoded.kind ≠ .illegal →
    (layout decoded.kind).Admits (Fields.of instruction) ∧
      decoded.operands.used (layout decoded.kind) =
        Operands.of (layout decoded.kind) (Fields.of instruction)

theorem reads_illegal : Reads instruction (illegal instruction) :=
  fun valid => absurd rfl valid

theorem narrow (value : BitVec 5) : (value.setWidth 32).setWidth 5 = value := by
  rw [BitVec.setWidth_setWidth_of_le _ (by decide), BitVec.setWidth_eq]

section

variable {kind : InstructionKind} {opcode : BitVec 7} {funct3 : BitVec 3} {rs2 : BitVec 5}
  {funct7 : BitVec 7}

theorem reads_makeR (shape : layout kind = .register opcode funct3 funct7)
    (first : (Fields.of instruction).opcode = opcode)
    (third : (Fields.of instruction).funct3 = funct3)
    (seventh : (Fields.of instruction).funct7 = funct7) :
    Reads instruction (makeR instruction kind) := by
  intro _
  simp only [makeR, makeDecoded, extractFields_eq, DecodedInstruction.operands, narrow]
  rw [shape]
  exact ⟨⟨first, third, seventh⟩, rfl⟩

theorem reads_makeI (shape : layout kind = .immediate opcode funct3)
    (first : (Fields.of instruction).opcode = opcode)
    (third : (Fields.of instruction).funct3 = funct3) :
    Reads instruction (makeI instruction kind (decodeIImm instruction)) := by
  intro _
  simp only [makeI, makeDecoded, extractFields_eq, DecodedInstruction.operands, narrow,
    decodeIImm_eq]
  rw [shape]
  exact ⟨⟨first, third⟩, rfl⟩

theorem reads_shift (shape : layout kind = .shiftWord opcode funct3 funct7)
    (first : (Fields.of instruction).opcode = opcode)
    (third : (Fields.of instruction).funct3 = funct3)
    (seventh : (Fields.of instruction).funct7 = funct7) :
    Reads instruction (makeI instruction kind ((Fields.of instruction).rs2.setWidth 32)) := by
  intro _
  simp only [makeI, makeDecoded, extractFields_eq, DecodedInstruction.operands, narrow]
  rw [shape]
  exact ⟨⟨first, third, seventh⟩, rfl⟩

theorem reads_makeS (shape : layout kind = .store opcode funct3)
    (first : (Fields.of instruction).opcode = opcode)
    (third : (Fields.of instruction).funct3 = funct3) :
    Reads instruction (makeS instruction kind) := by
  intro _
  simp only [makeS, makeDecoded, extractFields_eq, DecodedInstruction.operands, narrow,
    decodeSImm_eq]
  rw [shape]
  exact ⟨⟨first, third⟩, rfl⟩

theorem reads_makeB (shape : layout kind = .branch opcode funct3)
    (first : (Fields.of instruction).opcode = opcode)
    (third : (Fields.of instruction).funct3 = funct3) :
    Reads instruction (makeB instruction kind) := by
  intro _
  simp only [makeB, makeDecoded, extractFields_eq, DecodedInstruction.operands, narrow,
    decodeBImm_eq]
  rw [shape]
  exact ⟨⟨first, third⟩, rfl⟩

theorem operands_makeA : (makeA instruction kind).operands =
    { rd := (Fields.of instruction).rd
      rs1 := (Fields.of instruction).rs1
      rs2 := (Fields.of instruction).rs2
      acquire := (Fields.of instruction).funct7.getLsbD 1
      release := (Fields.of instruction).funct7.getLsbD 0 } := by
  simp only [makeA, makeDecoded, extractFields_eq, DecodedInstruction.operands, narrow]
  rw [getBits_eq _ (by decide) (by decide), getBits_eq _ (by decide) (by decide),
    ← bit_funct7 _ (by decide : 1 < 7), ← bit_funct7 _ (by decide : 0 < 7)]

theorem reads_makeA {funct5 : BitVec 5} (shape : layout kind = .atomic funct3 funct5)
    (first : (Fields.of instruction).opcode = 0x2F)
    (third : (Fields.of instruction).funct3 = funct3)
    (fifth : getBits instruction 31 27 = funct5.setWidth 32) :
    Reads instruction (makeA instruction kind) := by
  intro _
  have kept : (makeA instruction kind).kind = kind := rfl
  rw [kept, shape, operands_makeA]
  rw [getBits_eq _ (by decide) (by decide), funct5_of] at fifth
  exact ⟨⟨first, third, eq_of_extended (by decide) fifth⟩, rfl⟩

theorem reads_makeCsr {format : Layout} {immediateForm : Bool}
    (shape : layout kind = format) (admits : format.Admits (Fields.of instruction))
    (found : Operands.used
      { rd := (Fields.of instruction).rd
        rs1 := if immediateForm then 0 else (Fields.of instruction).rs1
        immediate := if immediateForm then (Fields.of instruction).rs1.setWidth 32 else 0
        csr := (Fields.of instruction).csr.setWidth 16 } format =
      Operands.of format (Fields.of instruction)) :
    Reads instruction (makeCsr instruction kind immediateForm) := by
  intro _
  have csr : (getBits instruction 31 20).setWidth 16 =
      (Fields.of instruction).csr.setWidth 16 := by
    rw [getBits_eq _ (by decide) (by decide), BitVec.setWidth_setWidth (by decide)]
    exact congrArg _ (iImmediate_of instruction)
  simp only [makeCsr, makeDecoded, extractFields_eq, DecodedInstruction.operands, narrow, csr]
  rw [shape]
  refine ⟨admits, ?_⟩
  rw [← found]
  cases immediateForm <;> simp

theorem reads_constant (shape : layout kind = .constant opcode funct3 rs2 funct7)
    (same : Fields.of instruction = { opcode, funct3, rs2, funct7 }) :
    Reads instruction (makeDecoded instruction kind) := by
  intro _
  simp only [makeDecoded]
  rw [shape]
  exact ⟨same, rfl⟩

end

theorem funct3_of {funct3 : BitVec 3} (value : BitVec 3)
    (same : funct3.setWidth 32 = value.setWidth 32) : funct3 = value :=
  eq_of_extended (by decide) same

theorem funct7_of {funct7 : BitVec 7} (value : BitVec 7)
    (same : funct7.setWidth 32 = value.setWidth 32) : funct7 = value :=
  eq_of_extended (by decide) same

theorem reads_branch (first : (Fields.of instruction).opcode = 0x63) :
    Reads instruction
      (decodeBranch instruction ((Fields.of instruction).funct3.setWidth 32)) := by
  unfold decodeBranch
  split
  next third => exact reads_makeB rfl first (funct3_of 0 third)
  next third => exact reads_makeB rfl first (funct3_of 1 third)
  next third => exact reads_makeB rfl first (funct3_of 4 third)
  next third => exact reads_makeB rfl first (funct3_of 5 third)
  next third => exact reads_makeB rfl first (funct3_of 6 third)
  next third => exact reads_makeB rfl first (funct3_of 7 third)
  next => exact reads_illegal

theorem reads_load (first : (Fields.of instruction).opcode = 0x03) :
    Reads instruction (decodeLoad instruction ((Fields.of instruction).funct3.setWidth 32)) := by
  unfold decodeLoad
  split
  next third => exact reads_makeI rfl first (funct3_of 0 third)
  next third => exact reads_makeI rfl first (funct3_of 1 third)
  next third => exact reads_makeI rfl first (funct3_of 2 third)
  next third => exact reads_makeI rfl first (funct3_of 4 third)
  next third => exact reads_makeI rfl first (funct3_of 5 third)
  next => exact reads_illegal

theorem reads_store (first : (Fields.of instruction).opcode = 0x23) :
    Reads instruction (decodeStore instruction ((Fields.of instruction).funct3.setWidth 32)) := by
  unfold decodeStore
  split
  next third => exact reads_makeS rfl first (funct3_of 0 third)
  next third => exact reads_makeS rfl first (funct3_of 1 third)
  next third => exact reads_makeS rfl first (funct3_of 2 third)
  next => exact reads_illegal

theorem reads_opImm (first : (Fields.of instruction).opcode = 0x13) :
    Reads instruction (decodeOpImm instruction ((Fields.of instruction).funct3.setWidth 32)
      ((Fields.of instruction).funct7.setWidth 32)
      ((Fields.of instruction).rs2.setWidth 32)) := by
  unfold decodeOpImm
  split
  next third => exact reads_makeI rfl first (funct3_of 0 third)
  next third => exact reads_makeI rfl first (funct3_of 2 third)
  next third => exact reads_makeI rfl first (funct3_of 3 third)
  next third => exact reads_makeI rfl first (funct3_of 4 third)
  next third => exact reads_makeI rfl first (funct3_of 6 third)
  next third => exact reads_makeI rfl first (funct3_of 7 third)
  next third =>
    split
    next seventh => exact reads_shift rfl first (funct3_of 1 third) (funct7_of 0x00 seventh)
    next => exact reads_illegal
  next third =>
    split
    next seventh => exact reads_shift rfl first (funct3_of 5 third) (funct7_of 0x00 seventh)
    next =>
    split
    next seventh => exact reads_shift rfl first (funct3_of 5 third) (funct7_of 0x20 seventh)
    next => exact reads_illegal
  next => exact reads_illegal

/-- The choice between a base instruction and one of multiplication and division. -/
theorem reads_choice {base multiply : InstructionKind} {funct3 : BitVec 3}
    {rest : DecodedInstruction} (first : (Fields.of instruction).opcode = 0x33)
    (third : (Fields.of instruction).funct3 = funct3)
    (baseShape : layout base = .register 0x33 funct3 0x00)
    (multiplyShape : layout multiply = .register 0x33 funct3 0x01)
    (others : Reads instruction rest) :
    Reads instruction
      (if (Fields.of instruction).funct7.setWidth 32 = (0x00 : BitVec 32) then
        makeR instruction base
      else if (Fields.of instruction).funct7.setWidth 32 = (0x01 : BitVec 32) then
        makeR instruction multiply
      else rest) := by
  split
  next seventh => exact reads_makeR baseShape first third (funct7_of 0x00 seventh)
  next =>
  split
  next seventh => exact reads_makeR multiplyShape first third (funct7_of 0x01 seventh)
  next => exact others

theorem reads_alternate {kind : InstructionKind} {funct3 : BitVec 3}
    (first : (Fields.of instruction).opcode = 0x33)
    (third : (Fields.of instruction).funct3 = funct3)
    (shape : layout kind = .register 0x33 funct3 0x20) :
    Reads instruction
      (if (Fields.of instruction).funct7.setWidth 32 = (0x20 : BitVec 32) then
        makeR instruction kind
      else illegal instruction) := by
  split
  next seventh => exact reads_makeR shape first third (funct7_of 0x20 seventh)
  next => exact reads_illegal

theorem reads_op (first : (Fields.of instruction).opcode = 0x33) :
    Reads instruction (decodeOp instruction ((Fields.of instruction).funct3.setWidth 32)
      ((Fields.of instruction).funct7.setWidth 32)) := by
  unfold decodeOp
  split
  next third =>
    exact reads_choice first (funct3_of 0 third) rfl rfl
      (reads_alternate first (funct3_of 0 third) rfl)
  next third => exact reads_choice first (funct3_of 1 third) rfl rfl reads_illegal
  next third => exact reads_choice first (funct3_of 2 third) rfl rfl reads_illegal
  next third => exact reads_choice first (funct3_of 3 third) rfl rfl reads_illegal
  next third => exact reads_choice first (funct3_of 4 third) rfl rfl reads_illegal
  next third =>
    exact reads_choice first (funct3_of 5 third) rfl rfl
      (reads_alternate first (funct3_of 5 third) rfl)
  next third => exact reads_choice first (funct3_of 6 third) rfl rfl reads_illegal
  next third => exact reads_choice first (funct3_of 7 third) rfl rfl reads_illegal
  next => exact reads_illegal

theorem reads_amo (first : (Fields.of instruction).opcode = 0x2F) :
    Reads instruction (decodeAmo instruction ((Fields.of instruction).funct3.setWidth 32)
      ((Fields.of instruction).rs2.setWidth 32)) := by
  unfold decodeAmo
  split
  next => exact reads_illegal
  next word =>
    have third : (Fields.of instruction).funct3 = 2 := funct3_of 2 (not_not.mp word)
    split
    next fifth => exact reads_makeA rfl first third fifth
    next fifth => exact reads_makeA rfl first third fifth
    next fifth =>
      split
      next second =>
        intro _
        have same : (Fields.of instruction).rs2 = 0 := eq_of_extended (by decide) second
        have kept : (makeA instruction .lrW).kind = .lrW := rfl
        rw [getBits_eq _ (by decide) (by decide), Fields.funct5_of] at fifth
        rw [kept, operands_makeA]
        exact ⟨⟨first, third, same, eq_of_extended (by decide) fifth⟩, rfl⟩
      next => exact reads_illegal
    next fifth => exact reads_makeA rfl first third fifth
    next fifth => exact reads_makeA rfl first third fifth
    next fifth => exact reads_makeA rfl first third fifth
    next fifth => exact reads_makeA rfl first third fifth
    next fifth => exact reads_makeA rfl first third fifth
    next fifth => exact reads_makeA rfl first third fifth
    next fifth => exact reads_makeA rfl first third fifth
    next fifth => exact reads_makeA rfl first third fifth
    next => exact reads_illegal

theorem reads_miscMem (first : (Fields.of instruction).opcode = 0x0F) :
    Reads instruction
      (decodeMiscMem instruction ((Fields.of instruction).funct3.setWidth 32)) := by
  unfold decodeMiscMem
  split
  next third => exact fun _ => ⟨⟨first, funct3_of 0 third⟩, rfl⟩
  next =>
  split
  next third => exact fun _ => ⟨⟨first, funct3_of 1 third⟩, rfl⟩
  next => exact reads_illegal

theorem reads_system (first : (Fields.of instruction).opcode = 0x73) :
    Reads instruction (decodeSystem instruction ((Fields.of instruction).funct3.setWidth 32)
      ((Fields.of instruction).rs1.setWidth 32) ((Fields.of instruction).rs2.setWidth 32)) := by
  unfold decodeSystem
  split
  next same => exact reads_constant rfl (by rw [same]; decide)
  next =>
  split
  next same => exact reads_constant rfl (by rw [same]; decide)
  next =>
  split
  next same => exact reads_constant rfl (by rw [same]; decide)
  next =>
  split
  next same => exact reads_constant rfl (by rw [same]; decide)
  next =>
  split
  next same => exact reads_constant rfl (by rw [same]; decide)
  next =>
  split
  next masked =>
    have parts := of_and_addressFence instruction
    rw [masked] at parts
    intro _
    refine ⟨⟨first, (congrArg Fields.rd parts).symm, (congrArg Fields.funct3 parts).symm,
      (congrArg Fields.funct7 parts).symm⟩, ?_⟩
    simp only [makeDecoded, DecodedInstruction.operands, narrow]
    rfl
  next =>
  split
  next third => exact reads_makeCsr rfl ⟨first, funct3_of 1 third⟩ rfl
  next third => exact reads_makeCsr rfl ⟨first, funct3_of 2 third⟩ rfl
  next third => exact reads_makeCsr rfl ⟨first, funct3_of 3 third⟩ rfl
  next third => exact reads_makeCsr rfl ⟨first, funct3_of 5 third⟩ rfl
  next third => exact reads_makeCsr rfl ⟨first, funct3_of 6 third⟩ rfl
  next third => exact reads_makeCsr rfl ⟨first, funct3_of 7 third⟩ rfl
  next => exact reads_illegal

/-- The decoder reads every word as the format of its result does. -/
theorem reads_decode (instruction : BitVec 32) :
    Reads instruction (decodeInstruction instruction) := by
  have opcode_of (value : BitVec 7)
      (same : (Fields.of instruction).opcode.setWidth 32 = value.setWidth 32) :
      (Fields.of instruction).opcode = value :=
    eq_of_extended (by decide) same
  rw [decode_opcode]
  split
  next first =>
    intro _
    simp only [makeDecoded, DecodedInstruction.operands, narrow, decodeUImm_eq]
    exact ⟨opcode_of 0x37 first, rfl⟩
  next first =>
    intro _
    simp only [makeDecoded, DecodedInstruction.operands, narrow, decodeUImm_eq]
    exact ⟨opcode_of 0x17 first, rfl⟩
  next first =>
    intro _
    simp only [makeDecoded, DecodedInstruction.operands, narrow, decodeJImm_eq]
    exact ⟨opcode_of 0x6F first, rfl⟩
  next first =>
    split
    next third => exact reads_makeI rfl (opcode_of 0x67 first) (funct3_of 0 third)
    next => exact reads_illegal
  next first => exact reads_branch (opcode_of 0x63 first)
  next first => exact reads_load (opcode_of 0x03 first)
  next first => exact reads_store (opcode_of 0x23 first)
  next first => exact reads_opImm (opcode_of 0x13 first)
  next first => exact reads_op (opcode_of 0x33 first)
  next first => exact reads_amo (opcode_of 0x2F first)
  next first => exact reads_miscMem (opcode_of 0x0F first)
  next first => exact reads_system (opcode_of 0x73 first)
  next => exact reads_illegal

end Decode

end RvEmulator.Core32
