import RvEmulator.Common.RoundTrip
import RvEmulator.Core64.Encoding

/-! The decoder's fields and immediates are those of the instruction formats. -/

namespace RvEmulator.Core64

open Library

namespace Decode

variable (instruction : BitVec 32)

theorem bits_opcode : bits instruction 6 0 = (Fields.of instruction).opcode.setWidth 32 :=
  bits_eq instruction (by decide)

theorem bits_rd : bits instruction 11 7 = (Fields.of instruction).rd.setWidth 32 :=
  bits_eq instruction (by decide)

theorem bits_funct3 : bits instruction 14 12 = (Fields.of instruction).funct3.setWidth 32 :=
  bits_eq instruction (by decide)

theorem bits_rs1 : bits instruction 19 15 = (Fields.of instruction).rs1.setWidth 32 :=
  bits_eq instruction (by decide)

theorem bits_rs2 : bits instruction 24 20 = (Fields.of instruction).rs2.setWidth 32 :=
  bits_eq instruction (by decide)

theorem bits_funct7 : bits instruction 31 25 = (Fields.of instruction).funct7.setWidth 32 :=
  bits_eq instruction (by decide)

theorem signExtend_eq {width : Nat} (positive : 0 < width) (narrow : width ≤ 32)
    (value : BitVec 32) : signExtend value width = (value.setWidth width).signExtend 64 := by
  refine (flip_sub_eq_signExtend positive (by omega) (value.setWidth 64)).trans ?_
  rw [BitVec.setWidth_setWidth_of_le _ (by omega)]

theorem iImmediate_eq :
    iImmediate instruction = (Fields.of instruction).iImmediate.signExtend 64 := by
  unfold iImmediate
  rw [signExtend_eq (by decide) (by decide), bits_eq _ (by decide),
    BitVec.setWidth_setWidth_of_le _ (by decide), BitVec.setWidth_eq, ← Fields.iImmediate_of]

theorem sImmediate_eq :
    sImmediate instruction = (Fields.of instruction).sImmediate.signExtend 64 := by
  unfold sImmediate
  rw [signExtend_eq (by decide) (by decide), bits_eq _ (by decide), bits_eq _ (by decide),
    ← Fields.sImmediate_of]

theorem bImmediate_eq :
    bImmediate instruction = (Fields.of instruction).bImmediate.signExtend 64 := by
  unfold bImmediate
  rw [signExtend_eq (by decide) (by decide), bits_eq _ (by decide), bits_eq _ (by decide),
    bits_eq _ (by decide), bits_eq _ (by decide), ← Fields.bImmediate_of]

theorem uImmediate_eq :
    uImmediate instruction = (Fields.of instruction).uImmediate.signExtend 64 := by
  unfold uImmediate
  rw [signExtend_eq (by decide) (by decide), BitVec.setWidth_eq, Fields.uImmediate_of]

theorem jImmediate_eq :
    jImmediate instruction = (Fields.of instruction).jImmediate.signExtend 64 := by
  unfold jImmediate
  rw [signExtend_eq (by decide) (by decide), bits_eq _ (by decide), bits_eq _ (by decide),
    bits_eq _ (by decide), bits_eq _ (by decide), ← Fields.jImmediate_of]

theorem bits_csr : bits instruction 31 20 = (Fields.of instruction).csr.setWidth 32 := by
  rw [bits_eq _ (by decide)]
  exact congrArg _ (Fields.iImmediate_of instruction)

theorem bits_funct6 :
    bits instruction 31 26 = ((Fields.of instruction).funct7.extractLsb' 1 6).setWidth 32 := by
  rw [bits_eq _ (by decide), ← Fields.funct6_of]

theorem bits_funct5 :
    bits instruction 31 27 = ((Fields.of instruction).funct7.extractLsb' 2 5).setWidth 32 := by
  rw [bits_eq _ (by decide), ← Fields.funct5_of]

theorem bits_format :
    bits instruction 26 25 = ((Fields.of instruction).funct7.extractLsb' 0 2).setWidth 32 := by
  rw [bits_eq _ (by decide), ← Fields.format_of]

theorem validRounding_iff (funct3 : BitVec 3) :
    validRoundingMode ((funct3.setWidth 32).setWidth 8) = true ↔ Layout.ValidRounding funct3 := by
  revert funct3
  decide

theorem kind_makeFloating {kind : InstructionKind} {fused : Bool}
    (valid : Layout.ValidRounding (Fields.of instruction).funct3) :
    (makeFloating instruction kind fused).kind = kind := by
  have mode := (validRounding_iff _).mpr valid
  rw [← bits_funct3] at mode
  exact if_pos mode

end Decode

end RvEmulator.Core64
