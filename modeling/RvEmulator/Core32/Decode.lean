import RvEmulator.Common.Hart

/-! The RV32 decoder of the 32-bit encodings (`core32/src/decode.cpp`). -/

namespace RvEmulator.Core32

inductive InstructionKind where
  | illegal
  | lui | auipc | jal | jalr
  | beq | bne | blt | bge | bltu | bgeu
  | lb | lh | lw | lbu | lhu
  | sb | sh | sw
  | addi | slti | sltiu | xori | ori | andi | slli | srli | srai
  | add | sub | sll | slt | sltu | xor | srl | sra | or | and
  | mul | mulh | mulhsu | mulhu | div | divu | rem | remu
  | lrW | scW
  | amoSwapW | amoAddW | amoXorW | amoAndW | amoOrW | amoMinW | amoMaxW | amoMinuW | amoMaxuW
  | fence | fenceI
  | csrrw | csrrs | csrrc | csrrwi | csrrsi | csrrci
  | ecall | ebreak | mret | sret | wfi | sfenceVma
deriving DecidableEq, Repr

structure InstructionFields where
  opcode : BitVec 32
  rd : BitVec 32
  funct3 : BitVec 32
  rs1 : BitVec 32
  rs2 : BitVec 32
  funct7 : BitVec 32
deriving DecidableEq, Repr

structure DecodedInstruction where
  kind : InstructionKind := .illegal
  raw : BitVec 32 := 0
  rd : RegisterIndex := 0
  rs1 : RegisterIndex := 0
  rs2 : RegisterIndex := 0
  immediate : BitVec 32 := 0
  acquire : Bool := false
  release : Bool := false
  csr : BitVec 16 := 0
  length : BitVec 8 := 4
deriving DecidableEq, Repr

def DecodedInstruction.valid (decoded : DecodedInstruction) : Bool := decoded.kind != .illegal

namespace Decode

def getBits (value : BitVec 32) (high low : Nat) : BitVec 32 :=
  if high < 32 ∧ low ≤ high then
    let width := high - low + 1
    if width = 32 then value else (value >>> low) &&& ((1#32 <<< width) - 1)
  else 0

def signExtend (value : BitVec 32) (width : Nat) : BitVec 32 :=
  if 0 < width ∧ width ≤ 32 then
    if width = 32 then value
    else
      let valueMask := (1#32 <<< width) - 1
      let maskedValue := value &&& valueMask
      let signBit := 1#32 <<< (width - 1)
      if maskedValue &&& signBit ≠ 0 then maskedValue ||| ~~~valueMask else maskedValue
  else 0

def decodeIImm (instruction : BitVec 32) : BitVec 32 := signExtend (getBits instruction 31 20) 12

def decodeSImm (instruction : BitVec 32) : BitVec 32 :=
  signExtend ((getBits instruction 31 25 <<< 5) ||| getBits instruction 11 7) 12

def decodeBImm (instruction : BitVec 32) : BitVec 32 :=
  signExtend
    ((getBits instruction 31 31 <<< 12) ||| (getBits instruction 7 7 <<< 11) |||
      (getBits instruction 30 25 <<< 5) ||| (getBits instruction 11 8 <<< 1)) 13

def decodeUImm (instruction : BitVec 32) : BitVec 32 := instruction &&& 0xFFFFF000

def decodeJImm (instruction : BitVec 32) : BitVec 32 :=
  signExtend
    ((getBits instruction 31 31 <<< 20) ||| (getBits instruction 19 12 <<< 12) |||
      (getBits instruction 20 20 <<< 11) ||| (getBits instruction 30 21 <<< 1)) 21

def extractFields (instruction : BitVec 32) : InstructionFields where
  opcode := getBits instruction 6 0
  rd := getBits instruction 11 7
  funct3 := getBits instruction 14 12
  rs1 := getBits instruction 19 15
  rs2 := getBits instruction 24 20
  funct7 := getBits instruction 31 25

/-- Register numbers are at most 31, so five bits of them are kept. -/
def makeDecoded (raw : BitVec 32) (kind : InstructionKind) (rd rs1 rs2 immediate : BitVec 32 := 0)
    (acquire release : Bool := false) (csr : BitVec 16 := 0) : DecodedInstruction :=
  { kind, raw, rd := rd.setWidth 5, rs1 := rs1.setWidth 5, rs2 := rs2.setWidth 5, immediate,
    acquire, release, csr }

def illegal (instruction : BitVec 32) : DecodedInstruction := makeDecoded instruction .illegal

def makeR (instruction : BitVec 32) (kind : InstructionKind) : DecodedInstruction :=
  let fields := extractFields instruction
  makeDecoded instruction kind fields.rd fields.rs1 fields.rs2

def makeI (instruction : BitVec 32) (kind : InstructionKind) (immediate : BitVec 32) :
    DecodedInstruction :=
  let fields := extractFields instruction
  makeDecoded instruction kind fields.rd fields.rs1 0 immediate

def makeS (instruction : BitVec 32) (kind : InstructionKind) : DecodedInstruction :=
  let fields := extractFields instruction
  makeDecoded instruction kind 0 fields.rs1 fields.rs2 (decodeSImm instruction)

def makeB (instruction : BitVec 32) (kind : InstructionKind) : DecodedInstruction :=
  let fields := extractFields instruction
  makeDecoded instruction kind 0 fields.rs1 fields.rs2 (decodeBImm instruction)

def makeA (instruction : BitVec 32) (kind : InstructionKind) : DecodedInstruction :=
  let fields := extractFields instruction
  makeDecoded instruction kind fields.rd fields.rs1 fields.rs2 0
    (getBits instruction 26 26 != 0) (getBits instruction 25 25 != 0)

def makeCsr (instruction : BitVec 32) (kind : InstructionKind) (immediateForm : Bool) :
    DecodedInstruction :=
  let fields := extractFields instruction
  makeDecoded instruction kind fields.rd (if immediateForm then 0 else fields.rs1) 0
    (if immediateForm then fields.rs1 else 0) false false
    ((getBits instruction 31 20).setWidth 16)

def decodeBranch (instruction funct3 : BitVec 32) : DecodedInstruction :=
  match funct3 with
  | 0#32 => makeB instruction .beq
  | 1#32 => makeB instruction .bne
  | 4#32 => makeB instruction .blt
  | 5#32 => makeB instruction .bge
  | 6#32 => makeB instruction .bltu
  | 7#32 => makeB instruction .bgeu
  | _ => illegal instruction

def decodeLoad (instruction funct3 : BitVec 32) : DecodedInstruction :=
  match funct3 with
  | 0#32 => makeI instruction .lb (decodeIImm instruction)
  | 1#32 => makeI instruction .lh (decodeIImm instruction)
  | 2#32 => makeI instruction .lw (decodeIImm instruction)
  | 4#32 => makeI instruction .lbu (decodeIImm instruction)
  | 5#32 => makeI instruction .lhu (decodeIImm instruction)
  | _ => illegal instruction

def decodeStore (instruction funct3 : BitVec 32) : DecodedInstruction :=
  match funct3 with
  | 0#32 => makeS instruction .sb
  | 1#32 => makeS instruction .sh
  | 2#32 => makeS instruction .sw
  | _ => illegal instruction

def decodeOpImm (instruction funct3 funct7 rs2 : BitVec 32) : DecodedInstruction :=
  match funct3 with
  | 0#32 => makeI instruction .addi (decodeIImm instruction)
  | 2#32 => makeI instruction .slti (decodeIImm instruction)
  | 3#32 => makeI instruction .sltiu (decodeIImm instruction)
  | 4#32 => makeI instruction .xori (decodeIImm instruction)
  | 6#32 => makeI instruction .ori (decodeIImm instruction)
  | 7#32 => makeI instruction .andi (decodeIImm instruction)
  | 1#32 => if funct7 = 0x00 then makeI instruction .slli rs2 else illegal instruction
  | 5#32 =>
    if funct7 = 0x00 then makeI instruction .srli rs2
    else if funct7 = 0x20 then makeI instruction .srai rs2
    else illegal instruction
  | _ => illegal instruction

def decodeOp (instruction funct3 funct7 : BitVec 32) : DecodedInstruction :=
  match funct3 with
  | 0#32 =>
    if funct7 = 0x00 then makeR instruction .add
    else if funct7 = 0x01 then makeR instruction .mul
    else if funct7 = 0x20 then makeR instruction .sub
    else illegal instruction
  | 1#32 =>
    if funct7 = 0x00 then makeR instruction .sll
    else if funct7 = 0x01 then makeR instruction .mulh
    else illegal instruction
  | 2#32 =>
    if funct7 = 0x00 then makeR instruction .slt
    else if funct7 = 0x01 then makeR instruction .mulhsu
    else illegal instruction
  | 3#32 =>
    if funct7 = 0x00 then makeR instruction .sltu
    else if funct7 = 0x01 then makeR instruction .mulhu
    else illegal instruction
  | 4#32 =>
    if funct7 = 0x00 then makeR instruction .xor
    else if funct7 = 0x01 then makeR instruction .div
    else illegal instruction
  | 5#32 =>
    if funct7 = 0x00 then makeR instruction .srl
    else if funct7 = 0x01 then makeR instruction .divu
    else if funct7 = 0x20 then makeR instruction .sra
    else illegal instruction
  | 6#32 =>
    if funct7 = 0x00 then makeR instruction .or
    else if funct7 = 0x01 then makeR instruction .rem
    else illegal instruction
  | 7#32 =>
    if funct7 = 0x00 then makeR instruction .and
    else if funct7 = 0x01 then makeR instruction .remu
    else illegal instruction
  | _ => illegal instruction

def decodeAmo (instruction funct3 rs2 : BitVec 32) : DecodedInstruction :=
  if funct3 ≠ 2 then illegal instruction
  else
    match getBits instruction 31 27 with
    | 0x00#32 => makeA instruction .amoAddW
    | 0x01#32 => makeA instruction .amoSwapW
    | 0x02#32 => if rs2 = 0 then makeA instruction .lrW else illegal instruction
    | 0x03#32 => makeA instruction .scW
    | 0x04#32 => makeA instruction .amoXorW
    | 0x08#32 => makeA instruction .amoOrW
    | 0x0C#32 => makeA instruction .amoAndW
    | 0x10#32 => makeA instruction .amoMinW
    | 0x14#32 => makeA instruction .amoMaxW
    | 0x18#32 => makeA instruction .amoMinuW
    | 0x1C#32 => makeA instruction .amoMaxuW
    | _ => illegal instruction

/-- The other fields of FENCE and FENCE.I are ignored. -/
def decodeMiscMem (instruction funct3 : BitVec 32) : DecodedInstruction :=
  if funct3 = 0 then makeDecoded instruction .fence
  else if funct3 = 1 then makeDecoded instruction .fenceI
  else illegal instruction

def decodeSystem (instruction funct3 rs1 rs2 : BitVec 32) : DecodedInstruction :=
  if instruction = 0x00000073 then makeDecoded instruction .ecall
  else if instruction = 0x00100073 then makeDecoded instruction .ebreak
  else if instruction = 0x30200073 then makeDecoded instruction .mret
  else if instruction = 0x10200073 then makeDecoded instruction .sret
  else if instruction = 0x10500073 then makeDecoded instruction .wfi
  else if (instruction &&& 0xFE007FFF) = 0x12000073 then
    makeDecoded instruction .sfenceVma 0 rs1 rs2
  else
    match funct3 with
    | 1#32 => makeCsr instruction .csrrw false
    | 2#32 => makeCsr instruction .csrrs false
    | 3#32 => makeCsr instruction .csrrc false
    | 5#32 => makeCsr instruction .csrrwi true
    | 6#32 => makeCsr instruction .csrrsi true
    | 7#32 => makeCsr instruction .csrrci true
    | _ => illegal instruction

end Decode

open Decode in
def decodeInstruction (instruction : BitVec 32) : DecodedInstruction :=
  let fields := extractFields instruction
  match fields.opcode with
  | 0x37#32 => makeDecoded instruction .lui fields.rd 0 0 (decodeUImm instruction)
  | 0x17#32 => makeDecoded instruction .auipc fields.rd 0 0 (decodeUImm instruction)
  | 0x6F#32 => makeDecoded instruction .jal fields.rd 0 0 (decodeJImm instruction)
  | 0x67#32 => if fields.funct3 = 0 then makeI instruction .jalr (decodeIImm instruction)
      else illegal instruction
  | 0x63#32 => decodeBranch instruction fields.funct3
  | 0x03#32 => decodeLoad instruction fields.funct3
  | 0x23#32 => decodeStore instruction fields.funct3
  | 0x13#32 => decodeOpImm instruction fields.funct3 fields.funct7 fields.rs2
  | 0x33#32 => decodeOp instruction fields.funct3 fields.funct7
  | 0x2F#32 => decodeAmo instruction fields.funct3 fields.rs2
  | 0x0F#32 => decodeMiscMem instruction fields.funct3
  | 0x73#32 => decodeSystem instruction fields.funct3 fields.rs1 fields.rs2
  | _ => illegal instruction

end RvEmulator.Core32
