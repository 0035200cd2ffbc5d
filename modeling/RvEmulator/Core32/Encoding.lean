import RvEmulator.Common.RoundTrip
import RvEmulator.Core32.Decode
import RvEmulator.Library.Bits

/-! The encodings of the instructions that the 32-bit core implements, and that its decoder
takes these and no others. -/

namespace RvEmulator.Core32

open Library Fields

/-- FENCE.I is taken with any values in its reserved fields. -/
def layout : InstructionKind → Layout
  | .illegal => .none
  | .lui => .upper 0x37
  | .auipc => .upper 0x17
  | .jal => .jump 0x6F
  | .jalr => .immediate 0x67 0
  | .beq => .branch 0x63 0
  | .bne => .branch 0x63 1
  | .blt => .branch 0x63 4
  | .bge => .branch 0x63 5
  | .bltu => .branch 0x63 6
  | .bgeu => .branch 0x63 7
  | .lb => .immediate 0x03 0
  | .lh => .immediate 0x03 1
  | .lw => .immediate 0x03 2
  | .lbu => .immediate 0x03 4
  | .lhu => .immediate 0x03 5
  | .sb => .store 0x23 0
  | .sh => .store 0x23 1
  | .sw => .store 0x23 2
  | .addi => .immediate 0x13 0
  | .slti => .immediate 0x13 2
  | .sltiu => .immediate 0x13 3
  | .xori => .immediate 0x13 4
  | .ori => .immediate 0x13 6
  | .andi => .immediate 0x13 7
  | .slli => .shiftWord 0x13 1 0x00
  | .srli => .shiftWord 0x13 5 0x00
  | .srai => .shiftWord 0x13 5 0x20
  | .add => .register 0x33 0 0x00
  | .sub => .register 0x33 0 0x20
  | .sll => .register 0x33 1 0x00
  | .slt => .register 0x33 2 0x00
  | .sltu => .register 0x33 3 0x00
  | .xor => .register 0x33 4 0x00
  | .srl => .register 0x33 5 0x00
  | .sra => .register 0x33 5 0x20
  | .or => .register 0x33 6 0x00
  | .and => .register 0x33 7 0x00
  | .mul => .register 0x33 0 0x01
  | .mulh => .register 0x33 1 0x01
  | .mulhsu => .register 0x33 2 0x01
  | .mulhu => .register 0x33 3 0x01
  | .div => .register 0x33 4 0x01
  | .divu => .register 0x33 5 0x01
  | .rem => .register 0x33 6 0x01
  | .remu => .register 0x33 7 0x01
  | .lrW => .loadReserved 2 0x02
  | .scW => .atomic 2 0x03
  | .amoSwapW => .atomic 2 0x01
  | .amoAddW => .atomic 2 0x00
  | .amoXorW => .atomic 2 0x04
  | .amoAndW => .atomic 2 0x0C
  | .amoOrW => .atomic 2 0x08
  | .amoMinW => .atomic 2 0x10
  | .amoMaxW => .atomic 2 0x14
  | .amoMinuW => .atomic 2 0x18
  | .amoMaxuW => .atomic 2 0x1C
  | .fence => .fence 0
  | .fenceI => .fence 1
  | .csrrw => .csr 1
  | .csrrs => .csr 2
  | .csrrc => .csr 3
  | .csrrwi => .csrImmediate 5
  | .csrrsi => .csrImmediate 6
  | .csrrci => .csrImmediate 7
  | .ecall => .constant 0x73 0 0 0x00
  | .ebreak => .constant 0x73 0 1 0x00
  | .mret => .constant 0x73 0 2 0x18
  | .sret => .constant 0x73 0 2 0x08
  | .wfi => .constant 0x73 0 5 0x08
  | .sfenceVma => .addressFence 0x09

def DecodedInstruction.operands (decoded : DecodedInstruction) : Operands 32 where
  rd := decoded.rd
  rs1 := decoded.rs1
  rs2 := decoded.rs2
  immediate := decoded.immediate
  acquire := decoded.acquire
  release := decoded.release
  csr := decoded.csr

namespace Decode

variable (instruction : BitVec 32)

theorem getBits_eq {high low : Nat} (range : high < 32 ∧ low ≤ high)
    (narrow : high - low + 1 < 32) :
    getBits instruction high low = (instruction.extractLsb' low (high - low + 1)).setWidth 32 := by
  unfold getBits
  rw [if_pos range]
  dsimp only
  rw [if_neg (Nat.ne_of_lt narrow)]
  exact shift_mask_eq instruction low narrow

theorem extractFields_eq : extractFields instruction =
    { opcode := (Fields.of instruction).opcode.setWidth 32
      rd := (Fields.of instruction).rd.setWidth 32
      funct3 := (Fields.of instruction).funct3.setWidth 32
      rs1 := (Fields.of instruction).rs1.setWidth 32
      rs2 := (Fields.of instruction).rs2.setWidth 32
      funct7 := (Fields.of instruction).funct7.setWidth 32 } := by
  unfold extractFields
  rw [getBits_eq _ (by decide) (by decide), getBits_eq _ (by decide) (by decide),
    getBits_eq _ (by decide) (by decide), getBits_eq _ (by decide) (by decide),
    getBits_eq _ (by decide) (by decide), getBits_eq _ (by decide) (by decide)]
  rfl

theorem signExtend_eq {width : Nat} (positive : 0 < width) (narrow : width < 32)
    (value : BitVec 32) : signExtend value width = (value.setWidth width).signExtend 32 := by
  unfold signExtend
  rw [if_pos ⟨positive, Nat.le_of_lt narrow⟩, if_neg (Nat.ne_of_lt narrow)]
  exact fill_eq_signExtend positive narrow value

theorem decodeIImm_eq :
    decodeIImm instruction = (Fields.of instruction).iImmediate.signExtend 32 := by
  unfold decodeIImm
  rw [signExtend_eq (by decide) (by decide), getBits_eq _ (by decide) (by decide),
    BitVec.setWidth_setWidth_of_le _ (by decide), BitVec.setWidth_eq, ← Fields.iImmediate_of]

theorem decodeSImm_eq :
    decodeSImm instruction = (Fields.of instruction).sImmediate.signExtend 32 := by
  unfold decodeSImm
  rw [signExtend_eq (by decide) (by decide), getBits_eq _ (by decide) (by decide),
    getBits_eq _ (by decide) (by decide), ← Fields.sImmediate_of]

theorem decodeBImm_eq :
    decodeBImm instruction = (Fields.of instruction).bImmediate.signExtend 32 := by
  unfold decodeBImm
  rw [signExtend_eq (by decide) (by decide), getBits_eq _ (by decide) (by decide),
    getBits_eq _ (by decide) (by decide), getBits_eq _ (by decide) (by decide),
    getBits_eq _ (by decide) (by decide), ← Fields.bImmediate_of]

theorem decodeUImm_eq :
    decodeUImm instruction = (Fields.of instruction).uImmediate.signExtend 32 := by
  unfold decodeUImm
  rw [Fields.uImmediate_of, BitVec.signExtend_eq]

theorem decodeJImm_eq :
    decodeJImm instruction = (Fields.of instruction).jImmediate.signExtend 32 := by
  unfold decodeJImm
  rw [signExtend_eq (by decide) (by decide), getBits_eq _ (by decide) (by decide),
    getBits_eq _ (by decide) (by decide), getBits_eq _ (by decide) (by decide),
    getBits_eq _ (by decide) (by decide), ← Fields.jImmediate_of]

end Decode

end RvEmulator.Core32
