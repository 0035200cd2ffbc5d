import RvEmulator.Common.Encoding
import RvEmulator.Core64.Decode

/-! The encodings of the instructions that the 64-bit core implements, from the
specification: I, M, A, F, D, Zicsr, Zifencei and the privileged ones. -/

namespace RvEmulator.Core64

def layout : InstructionKind → Layout
  | .illegal => .none
  | .lui => .upper 0x37
  | .auipc => .upper 0x17
  | .jal => .jump 0x6F
  | .jalr => .immediate 0x67 0
  | .beq => .branch 0x63 0
  | .bne => .branch 0x63 1
  | .blt => .branch 0x63 4
  | .bge => .branch 0x63 5
  | .bltu => .branch 0x63 6
  | .bgeu => .branch 0x63 7
  | .lb => .immediate 0x03 0
  | .lh => .immediate 0x03 1
  | .lw => .immediate 0x03 2
  | .ld => .immediate 0x03 3
  | .lbu => .immediate 0x03 4
  | .lhu => .immediate 0x03 5
  | .lwu => .immediate 0x03 6
  | .flw => .immediate 0x07 2
  | .fld => .immediate 0x07 3
  | .sb => .store 0x23 0
  | .sh => .store 0x23 1
  | .sw => .store 0x23 2
  | .sd => .store 0x23 3
  | .fsw => .store 0x27 2
  | .fsd => .store 0x27 3
  | .addi => .immediate 0x13 0
  | .slti => .immediate 0x13 2
  | .sltiu => .immediate 0x13 3
  | .xori => .immediate 0x13 4
  | .ori => .immediate 0x13 6
  | .andi => .immediate 0x13 7
  | .slli => .shift 0x13 1 0x00
  | .srli => .shift 0x13 5 0x00
  | .srai => .shift 0x13 5 0x10
  | .addiw => .immediate 0x1B 0
  | .slliw => .shiftWord 0x1B 1 0x00
  | .srliw => .shiftWord 0x1B 5 0x00
  | .sraiw => .shiftWord 0x1B 5 0x20
  | .add => .register 0x33 0 0x00
  | .sub => .register 0x33 0 0x20
  | .sll => .register 0x33 1 0x00
  | .slt => .register 0x33 2 0x00
  | .sltu => .register 0x33 3 0x00
  | .xor => .register 0x33 4 0x00
  | .srl => .register 0x33 5 0x00
  | .sra => .register 0x33 5 0x20
  | .or => .register 0x33 6 0x00
  | .and => .register 0x33 7 0x00
  | .mul => .register 0x33 0 0x01
  | .mulh => .register 0x33 1 0x01
  | .mulhsu => .register 0x33 2 0x01
  | .mulhu => .register 0x33 3 0x01
  | .div => .register 0x33 4 0x01
  | .divu => .register 0x33 5 0x01
  | .rem => .register 0x33 6 0x01
  | .remu => .register 0x33 7 0x01
  | .addw => .register 0x3B 0 0x00
  | .subw => .register 0x3B 0 0x20
  | .sllw => .register 0x3B 1 0x00
  | .srlw => .register 0x3B 5 0x00
  | .sraw => .register 0x3B 5 0x20
  | .mulw => .register 0x3B 0 0x01
  | .divw => .register 0x3B 4 0x01
  | .divuw => .register 0x3B 5 0x01
  | .remw => .register 0x3B 6 0x01
  | .remuw => .register 0x3B 7 0x01
  | .lrW => .loadReserved 2 0x02
  | .scW => .atomic 2 0x03
  | .amoSwapW => .atomic 2 0x01
  | .amoAddW => .atomic 2 0x00
  | .amoXorW => .atomic 2 0x04
  | .amoAndW => .atomic 2 0x0C
  | .amoOrW => .atomic 2 0x08
  | .amoMinW => .atomic 2 0x10
  | .amoMaxW => .atomic 2 0x14
  | .amoMinuW => .atomic 2 0x18
  | .amoMaxuW => .atomic 2 0x1C
  | .lrD => .loadReserved 3 0x02
  | .scD => .atomic 3 0x03
  | .amoSwapD => .atomic 3 0x01
  | .amoAddD => .atomic 3 0x00
  | .amoXorD => .atomic 3 0x04
  | .amoAndD => .atomic 3 0x0C
  | .amoOrD => .atomic 3 0x08
  | .amoMinD => .atomic 3 0x10
  | .amoMaxD => .atomic 3 0x14
  | .amoMinuD => .atomic 3 0x18
  | .amoMaxuD => .atomic 3 0x1C
  | .fmvXW => .unary 0x53 0 0 0x70
  | .fclassS => .unary 0x53 1 0 0x70
  | .fmvWX => .unary 0x53 0 0 0x78
  | .fmvXD => .unary 0x53 0 0 0x71
  | .fclassD => .unary 0x53 1 0 0x71
  | .fmvDX => .unary 0x53 0 0 0x79
  | .faddS => .rounded 0x00
  | .fsubS => .rounded 0x04
  | .fmulS => .rounded 0x08
  | .fdivS => .rounded 0x0C
  | .fsqrtS => .roundedUnary 0 0x2C
  | .fmaddS => .fused 0x43 0
  | .fmsubS => .fused 0x47 0
  | .fnmsubS => .fused 0x4B 0
  | .fnmaddS => .fused 0x4F 0
  | .faddD => .rounded 0x01
  | .fsubD => .rounded 0x05
  | .fmulD => .rounded 0x09
  | .fdivD => .rounded 0x0D
  | .fsqrtD => .roundedUnary 0 0x2D
  | .fmaddD => .fused 0x43 1
  | .fmsubD => .fused 0x47 1
  | .fnmsubD => .fused 0x4B 1
  | .fnmaddD => .fused 0x4F 1
  | .fsgnjS => .register 0x53 0 0x10
  | .fsgnjnS => .register 0x53 1 0x10
  | .fsgnjxS => .register 0x53 2 0x10
  | .fsgnjD => .register 0x53 0 0x11
  | .fsgnjnD => .register 0x53 1 0x11
  | .fsgnjxD => .register 0x53 2 0x11
  | .fminS => .register 0x53 0 0x14
  | .fmaxS => .register 0x53 1 0x14
  | .fminD => .register 0x53 0 0x15
  | .fmaxD => .register 0x53 1 0x15
  | .feqS => .register 0x53 2 0x50
  | .fltS => .register 0x53 1 0x50
  | .fleS => .register 0x53 0 0x50
  | .feqD => .register 0x53 2 0x51
  | .fltD => .register 0x53 1 0x51
  | .fleD => .register 0x53 0 0x51
  | .fcvtSD => .roundedUnary 1 0x20
  | .fcvtDS => .roundedUnary 0 0x21
  | .fcvtWS => .roundedUnary 0 0x60
  | .fcvtWuS => .roundedUnary 1 0x60
  | .fcvtLS => .roundedUnary 2 0x60
  | .fcvtLuS => .roundedUnary 3 0x60
  | .fcvtWD => .roundedUnary 0 0x61
  | .fcvtWuD => .roundedUnary 1 0x61
  | .fcvtLD => .roundedUnary 2 0x61
  | .fcvtLuD => .roundedUnary 3 0x61
  | .fcvtSW => .roundedUnary 0 0x68
  | .fcvtSWu => .roundedUnary 1 0x68
  | .fcvtSL => .roundedUnary 2 0x68
  | .fcvtSLu => .roundedUnary 3 0x68
  | .fcvtDW => .roundedUnary 0 0x69
  | .fcvtDWu => .roundedUnary 1 0x69
  | .fcvtDL => .roundedUnary 2 0x69
  | .fcvtDLu => .roundedUnary 3 0x69
  | .fence => .fence 0
  | .fenceI => .constant 0x0F 1 0 0
  | .csrrw => .csr 1
  | .csrrs => .csr 2
  | .csrrc => .csr 3
  | .csrrwi => .csrImmediate 5
  | .csrrsi => .csrImmediate 6
  | .csrrci => .csrImmediate 7
  | .ecall => .constant 0x73 0 0 0x00
  | .ebreak => .constant 0x73 0 1 0x00
  | .mret => .constant 0x73 0 2 0x18
  | .sret => .constant 0x73 0 2 0x08
  | .wfi => .constant 0x73 0 5 0x08
  | .sfenceVma => .addressFence 0x09

def DecodedInstruction.operands (decoded : DecodedInstruction) : Operands 64 where
  rd := decoded.rd
  rs1 := decoded.rs1
  rs2 := decoded.rs2
  rs3 := decoded.rs3
  roundingMode := decoded.roundingMode
  immediate := decoded.immediate
  acquire := decoded.acquire
  release := decoded.release
  csr := decoded.csr

/-- The encoding of an instruction. -/
def encode (kind : InstructionKind) (operands : Operands 64) : BitVec 32 :=
  (operands.fields (layout kind)).word

/-- The bits of an encoding that are not ignored. -/
def significant (kind : InstructionKind) : BitVec 32 :=
  if kind = .fence then 0x0000707F else 0xFFFFFFFF

end RvEmulator.Core64
