import RvEmulator.Common.Hart
import RvEmulator.Library.Bits

/-! The RV64 instruction decoder (`core64/src/decode.cpp`): one helper for each
major opcode, and one for each quadrant of the compressed encodings. -/

namespace RvEmulator.Core64

inductive InstructionKind where
  | illegal
  | lui | auipc | jal | jalr
  | beq | bne | blt | bge | bltu | bgeu
  | lb | lh | lw | ld | lbu | lhu | lwu
  | flw | fld
  | sb | sh | sw | sd
  | fsw | fsd
  | addi | slti | sltiu | xori | ori | andi | slli | srli | srai
  | addiw | slliw | srliw | sraiw
  | add | sub | sll | slt | sltu | xor | srl | sra | or | and
  | mul | mulh | mulhsu | mulhu | div | divu | rem | remu
  | addw | subw | sllw | srlw | sraw
  | mulw | divw | divuw | remw | remuw
  | lrW | scW
  | amoSwapW | amoAddW | amoXorW | amoAndW | amoOrW | amoMinW | amoMaxW | amoMinuW | amoMaxuW
  | lrD | scD
  | amoSwapD | amoAddD | amoXorD | amoAndD | amoOrD | amoMinD | amoMaxD | amoMinuD | amoMaxuD
  | fmvXW | fmvWX | fmvXD | fmvDX
  | faddS | fsubS | fmulS | fdivS | fsqrtS | fmaddS | fmsubS | fnmsubS | fnmaddS
  | faddD | fsubD | fmulD | fdivD | fsqrtD | fmaddD | fmsubD | fnmsubD | fnmaddD
  | fsgnjS | fsgnjnS | fsgnjxS | fsgnjD | fsgnjnD | fsgnjxD
  | fminS | fmaxS | fminD | fmaxD
  | feqS | fltS | fleS | feqD | fltD | fleD
  | fclassS | fclassD
  | fcvtSD | fcvtDS
  | fcvtWS | fcvtWuS | fcvtLS | fcvtLuS | fcvtWD | fcvtWuD | fcvtLD | fcvtLuD
  | fcvtSW | fcvtSWu | fcvtSL | fcvtSLu | fcvtDW | fcvtDWu | fcvtDL | fcvtDLu
  | fence | fenceI
  | csrrw | csrrs | csrrc | csrrwi | csrrsi | csrrci
  | ecall | ebreak | mret | sret | wfi | sfenceVma
deriving DecidableEq, Repr

structure DecodedInstruction where
  kind : InstructionKind := .illegal
  raw : BitVec 32 := 0
  rd : RegisterIndex := 0
  rs1 : RegisterIndex := 0
  rs2 : RegisterIndex := 0
  rs3 : RegisterIndex := 0
  roundingMode : BitVec 8 := 0
  immediate : BitVec 64 := 0
  acquire : Bool := false
  release : Bool := false
  csr : BitVec 16 := 0
  length : BitVec 8 := 4
deriving DecidableEq, Repr

def DecodedInstruction.valid (decoded : DecodedInstruction) : Bool := decoded.kind != .illegal

namespace Decode

def bits (value : BitVec 32) (high low : Nat) : BitVec 32 :=
  let width := high - low + 1
  let mask : BitVec 32 := if width = 32 then 0xFFFFFFFF else (1#32 <<< width) - 1
  (value >>> low) &&& mask

/-- A field of an instruction. -/
theorem bits_eq (value : BitVec 32) {high low : Nat} (narrow : high - low + 1 < 32) :
    bits value high low = (value.extractLsb' low (high - low + 1)).setWidth 32 := by
  unfold bits
  dsimp only
  rw [if_neg (Nat.ne_of_lt narrow)]
  exact Library.shift_mask_eq value low narrow

def signExtend (value : BitVec 32) (width : Nat) : BitVec 64 :=
  let sign := 1#64 <<< (width - 1)
  let masked := value.setWidth 64 &&& ((1#64 <<< width) - 1)
  (masked ^^^ sign) - sign

def iImmediate (instruction : BitVec 32) : BitVec 64 := signExtend (bits instruction 31 20) 12

def sImmediate (instruction : BitVec 32) : BitVec 64 :=
  signExtend ((bits instruction 31 25 <<< 5) ||| bits instruction 11 7) 12

def bImmediate (instruction : BitVec 32) : BitVec 64 :=
  signExtend
    ((bits instruction 31 31 <<< 12) ||| (bits instruction 7 7 <<< 11) |||
      (bits instruction 30 25 <<< 5) ||| (bits instruction 11 8 <<< 1)) 13

def uImmediate (instruction : BitVec 32) : BitVec 64 := signExtend (instruction &&& 0xFFFFF000) 32

def jImmediate (instruction : BitVec 32) : BitVec 64 :=
  signExtend
    ((bits instruction 31 31 <<< 20) ||| (bits instruction 19 12 <<< 12) |||
      (bits instruction 20 20 <<< 11) ||| (bits instruction 30 21 <<< 1)) 21

/-- A register field: five bits from position `low`. -/
def register (instruction : BitVec 32) (low : Nat) : RegisterIndex :=
  (bits instruction (low + 4) low).setWidth 5

theorem register_eq (instruction : BitVec 32) (low : Nat) :
    register instruction low = instruction.extractLsb' low 5 := by
  have width : low + 4 - low + 1 = 5 := by omega
  unfold register
  rw [bits_eq _ (by omega), width, BitVec.setWidth_setWidth_of_le _ (by decide), BitVec.setWidth_eq]

def make (instruction : BitVec 32) (kind : InstructionKind) (immediate : BitVec 64 := 0) :
    DecodedInstruction :=
  { kind
    raw := instruction
    rd := register instruction 7
    rs1 := register instruction 15
    rs2 := register instruction 20
    immediate }

def makeCsr (instruction : BitVec 32) (kind : InstructionKind) (immediate : Bool) :
    DecodedInstruction :=
  { make instruction kind (if immediate then (bits instruction 19 15).setWidth 64 else 0) with
    csr := (bits instruction 31 20).setWidth 16 }

def validRoundingMode (roundingMode : BitVec 8) : Bool := roundingMode ≤ 4 || roundingMode == 7

def makeFloating (instruction : BitVec 32) (kind : InstructionKind) (fused : Bool := false) :
    DecodedInstruction :=
  let roundingMode : BitVec 8 := (bits instruction 14 12).setWidth 8
  { make instruction (if validRoundingMode roundingMode then kind else .illegal) with
    roundingMode
    rs3 := if fused then register instruction 27 else 0 }

def atomicKind (funct5 : BitVec 32) (doubleword : Bool) : InstructionKind :=
  match funct5 with
  | 0x02#32 => if doubleword then .lrD else .lrW
  | 0x03#32 => if doubleword then .scD else .scW
  | 0x01#32 => if doubleword then .amoSwapD else .amoSwapW
  | 0x00#32 => if doubleword then .amoAddD else .amoAddW
  | 0x04#32 => if doubleword then .amoXorD else .amoXorW
  | 0x0C#32 => if doubleword then .amoAndD else .amoAndW
  | 0x08#32 => if doubleword then .amoOrD else .amoOrW
  | 0x10#32 => if doubleword then .amoMinD else .amoMinW
  | 0x14#32 => if doubleword then .amoMaxD else .amoMaxW
  | 0x18#32 => if doubleword then .amoMinuD else .amoMinuW
  | 0x1C#32 => if doubleword then .amoMaxuD else .amoMaxuW
  | _ => .illegal

def branchKind (funct3 : BitVec 32) : InstructionKind :=
  match funct3 with
  | 0#32 => .beq
  | 1#32 => .bne
  | 4#32 => .blt
  | 5#32 => .bge
  | 6#32 => .bltu
  | 7#32 => .bgeu
  | _ => .illegal

def loadKind (funct3 : BitVec 32) : InstructionKind :=
  match funct3 with
  | 0#32 => .lb
  | 1#32 => .lh
  | 2#32 => .lw
  | 3#32 => .ld
  | 4#32 => .lbu
  | 5#32 => .lhu
  | 6#32 => .lwu
  | _ => .illegal

def storeKind (funct3 : BitVec 32) : InstructionKind :=
  match funct3 with
  | 0#32 => .sb
  | 1#32 => .sh
  | 2#32 => .sw
  | 3#32 => .sd
  | _ => .illegal

/-- Opcode `0x13`. -/
def decodeOpImm (instruction funct3 : BitVec 32) : DecodedInstruction :=
  let shift := (bits instruction 25 20).setWidth 64
  match funct3 with
  | 0#32 => make instruction .addi (iImmediate instruction)
  | 2#32 => make instruction .slti (iImmediate instruction)
  | 3#32 => make instruction .sltiu (iImmediate instruction)
  | 4#32 => make instruction .xori (iImmediate instruction)
  | 6#32 => make instruction .ori (iImmediate instruction)
  | 7#32 => make instruction .andi (iImmediate instruction)
  | 1#32 => if bits instruction 31 26 = 0 then make instruction .slli shift
      else make instruction .illegal
  | 5#32 =>
    if bits instruction 31 26 = 0 then make instruction .srli shift
    else if bits instruction 31 26 = 0x10 then make instruction .srai shift
    else make instruction .illegal
  | _ => make instruction .illegal

/-- Opcode `0x1B`. -/
def decodeOpImm32 (instruction funct3 funct7 : BitVec 32) : DecodedInstruction :=
  let shift := (bits instruction 24 20).setWidth 64
  if funct3 = 0 then make instruction .addiw (iImmediate instruction)
  else if funct3 = 1 ∧ funct7 = 0 then make instruction .slliw shift
  else if funct3 = 5 ∧ funct7 = 0 then make instruction .srliw shift
  else if funct3 = 5 ∧ funct7 = 0x20 then make instruction .sraiw shift
  else make instruction .illegal

/-- Opcode `0x33`. -/
def opKind (funct3 funct7 : BitVec 32) : InstructionKind :=
  if funct7 = 0 then
    match funct3 with
    | 0#32 => .add
    | 1#32 => .sll
    | 2#32 => .slt
    | 3#32 => .sltu
    | 4#32 => .xor
    | 5#32 => .srl
    | 6#32 => .or
    | 7#32 => .and
    | _ => .illegal
  else if funct7 = 0x20 then
    if funct3 = 0 then .sub else if funct3 = 5 then .sra else .illegal
  else if funct7 = 1 then
    match funct3 with
    | 0#32 => .mul
    | 1#32 => .mulh
    | 2#32 => .mulhsu
    | 3#32 => .mulhu
    | 4#32 => .div
    | 5#32 => .divu
    | 6#32 => .rem
    | 7#32 => .remu
    | _ => .illegal
  else .illegal

/-- Opcode `0x3B`. -/
def op32Kind (funct3 funct7 : BitVec 32) : InstructionKind :=
  if funct7 = 0 then
    match funct3 with
    | 0#32 => .addw
    | 1#32 => .sllw
    | 5#32 => .srlw
    | _ => .illegal
  else if funct7 = 0x20 then
    if funct3 = 0 then .subw else if funct3 = 5 then .sraw else .illegal
  else if funct7 = 1 then
    match funct3 with
    | 0#32 => .mulw
    | 4#32 => .divw
    | 5#32 => .divuw
    | 6#32 => .remw
    | 7#32 => .remuw
    | _ => .illegal
  else .illegal

/-- Opcode `0x2F`. -/
def decodeAtomic (instruction funct3 : BitVec 32) : DecodedInstruction :=
  if funct3 ≠ 2 ∧ funct3 ≠ 3 then make instruction .illegal
  else
    let kind := atomicKind (bits instruction 31 27) (funct3 = 3)
    if (kind = .lrW ∨ kind = .lrD) ∧ bits instruction 24 20 ≠ 0 then make instruction .illegal
    else
      { make instruction kind with
        acquire := bits instruction 26 26 != 0
        release := bits instruction 25 25 != 0 }

/-- Opcodes `0x43`, `0x47`, `0x4B` and `0x4F`. -/
def fusedKind (opcode : BitVec 32) (doublePrecision : Bool) : InstructionKind :=
  if opcode = 0x43 then if doublePrecision then .fmaddD else .fmaddS
  else if opcode = 0x47 then if doublePrecision then .fmsubD else .fmsubS
  else if opcode = 0x4B then if doublePrecision then .fnmsubD else .fnmsubS
  else if doublePrecision then .fnmaddD else .fnmaddS

def decodeFused (instruction opcode : BitVec 32) : DecodedInstruction :=
  let format := bits instruction 26 25
  if format > 1 then make instruction .illegal
  else makeFloating instruction (fusedKind opcode (format = 1)) true

def signInjectionKind (funct3 : BitVec 32) (doublePrecision : Bool) : InstructionKind :=
  if funct3 = 0 then if doublePrecision then .fsgnjD else .fsgnjS
  else if funct3 = 1 then if doublePrecision then .fsgnjnD else .fsgnjnS
  else if funct3 = 2 then if doublePrecision then .fsgnjxD else .fsgnjxS
  else .illegal

def minMaxKind (funct3 : BitVec 32) (doublePrecision : Bool) : InstructionKind :=
  if funct3 = 0 then if doublePrecision then .fminD else .fminS
  else if funct3 = 1 then if doublePrecision then .fmaxD else .fmaxS
  else .illegal

def comparisonKind (funct3 : BitVec 32) (doublePrecision : Bool) : InstructionKind :=
  if funct3 = 2 then if doublePrecision then .feqD else .feqS
  else if funct3 = 1 then if doublePrecision then .fltD else .fltS
  else if funct3 = 0 then if doublePrecision then .fleD else .fleS
  else .illegal

/-- The moves and classifications, told apart by `funct7`, `rs2` and `funct3`. -/
def moveKind? (fields : BitVec 32) : Option InstructionKind :=
  match fields with
  | 0xE0000053#32 => some .fmvXW
  | 0xE0001053#32 => some .fclassS
  | 0xF0000053#32 => some .fmvWX
  | 0xE2000053#32 => some .fmvXD
  | 0xE2001053#32 => some .fclassD
  | 0xF2000053#32 => some .fmvDX
  | _ => none

/-- The conversions, told apart by `funct7` and `rs2`. -/
def conversionKind? (fields : BitVec 32) : Option InstructionKind :=
  match fields with
  | 0x40100053#32 => some .fcvtSD
  | 0x42000053#32 => some .fcvtDS
  | 0xC0000053#32 => some .fcvtWS
  | 0xC0100053#32 => some .fcvtWuS
  | 0xC0200053#32 => some .fcvtLS
  | 0xC0300053#32 => some .fcvtLuS
  | 0xC2000053#32 => some .fcvtWD
  | 0xC2100053#32 => some .fcvtWuD
  | 0xC2200053#32 => some .fcvtLD
  | 0xC2300053#32 => some .fcvtLuD
  | 0xD0000053#32 => some .fcvtSW
  | 0xD0100053#32 => some .fcvtSWu
  | 0xD0200053#32 => some .fcvtSL
  | 0xD0300053#32 => some .fcvtSLu
  | 0xD2000053#32 => some .fcvtDW
  | 0xD2100053#32 => some .fcvtDWu
  | 0xD2200053#32 => some .fcvtDL
  | 0xD2300053#32 => some .fcvtDLu
  | _ => none

/-- Opcode `0x53`, after the arithmetic selected by `funct7` alone. -/
def decodeFloatingMisc (instruction funct3 funct7 : BitVec 32) : DecodedInstruction :=
  if funct7 = 0x10 ∨ funct7 = 0x11 then
    make instruction (signInjectionKind funct3 (funct7 = 0x11))
  else if funct7 = 0x14 ∨ funct7 = 0x15 then
    make instruction (minMaxKind funct3 (funct7 = 0x15))
  else if funct7 = 0x50 ∨ funct7 = 0x51 then
    make instruction (comparisonKind funct3 (funct7 = 0x51))
  else
    match moveKind? (instruction &&& 0xFFF0707F) with
    | some kind => make instruction kind
    | none =>
      match conversionKind? (instruction &&& 0xFFF0007F) with
      | some kind => makeFloating instruction kind
      | none => make instruction .illegal

/-- Opcode `0x53`. -/
def decodeFloating (instruction funct3 funct7 : BitVec 32) : DecodedInstruction :=
  match funct7 with
  | 0x00#32 => makeFloating instruction .faddS
  | 0x01#32 => makeFloating instruction .faddD
  | 0x04#32 => makeFloating instruction .fsubS
  | 0x05#32 => makeFloating instruction .fsubD
  | 0x08#32 => makeFloating instruction .fmulS
  | 0x09#32 => makeFloating instruction .fmulD
  | 0x0C#32 => makeFloating instruction .fdivS
  | 0x0D#32 => makeFloating instruction .fdivD
  | 0x2C#32 => if bits instruction 24 20 = 0 then makeFloating instruction .fsqrtS
      else make instruction .illegal
  | 0x2D#32 => if bits instruction 24 20 = 0 then makeFloating instruction .fsqrtD
      else make instruction .illegal
  | _ => decodeFloatingMisc instruction funct3 funct7

/-- Opcode `0x0F`. -/
def decodeMiscMem (instruction funct3 : BitVec 32) : DecodedInstruction :=
  if funct3 = 0 then make instruction .fence
  else if funct3 = 1 ∧ bits instruction 31 20 = 0 ∧ bits instruction 19 15 = 0 ∧
      bits instruction 11 7 = 0 then
    make instruction .fenceI
  else make instruction .illegal

/-- Opcode `0x73`. -/
def decodeSystem (instruction funct3 : BitVec 32) : DecodedInstruction :=
  if instruction = 0x00000073 then make instruction .ecall
  else if instruction = 0x00100073 then make instruction .ebreak
  else if instruction = 0x30200073 then make instruction .mret
  else if instruction = 0x10200073 then make instruction .sret
  else if instruction = 0x10500073 then make instruction .wfi
  else if (instruction &&& 0xFE007FFF) = 0x12000073 then make instruction .sfenceVma
  else
    match funct3 with
    | 1#32 => makeCsr instruction .csrrw false
    | 2#32 => makeCsr instruction .csrrs false
    | 3#32 => makeCsr instruction .csrrc false
    | 5#32 => makeCsr instruction .csrrwi true
    | 6#32 => makeCsr instruction .csrrsi true
    | 7#32 => makeCsr instruction .csrrci true
    | _ => make instruction .illegal

end Decode

open Decode in
def decodeInstruction (instruction : BitVec 32) : DecodedInstruction :=
  let opcode := bits instruction 6 0
  let funct3 := bits instruction 14 12
  let funct7 := bits instruction 31 25
  match opcode with
  | 0x37#32 => make instruction .lui (uImmediate instruction)
  | 0x17#32 => make instruction .auipc (uImmediate instruction)
  | 0x6F#32 => make instruction .jal (jImmediate instruction)
  | 0x67#32 => if funct3 = 0 then make instruction .jalr (iImmediate instruction)
      else make instruction .illegal
  | 0x63#32 => make instruction (branchKind funct3) (bImmediate instruction)
  | 0x03#32 => make instruction (loadKind funct3) (iImmediate instruction)
  | 0x07#32 =>
    if funct3 = 2 then make instruction .flw (iImmediate instruction)
    else if funct3 = 3 then make instruction .fld (iImmediate instruction)
    else make instruction .illegal
  | 0x23#32 => make instruction (storeKind funct3) (sImmediate instruction)
  | 0x27#32 =>
    if funct3 = 2 then make instruction .fsw (sImmediate instruction)
    else if funct3 = 3 then make instruction .fsd (sImmediate instruction)
    else make instruction .illegal
  | 0x13#32 => decodeOpImm instruction funct3
  | 0x1B#32 => decodeOpImm32 instruction funct3 funct7
  | 0x33#32 => make instruction (opKind funct3 funct7)
  | 0x3B#32 => make instruction (op32Kind funct3 funct7)
  | 0x2F#32 => decodeAtomic instruction funct3
  | 0x43#32 | 0x47#32 | 0x4B#32 | 0x4F#32 => decodeFused instruction opcode
  | 0x53#32 => decodeFloating instruction funct3 funct7
  | 0x0F#32 => decodeMiscMem instruction funct3
  | 0x73#32 => decodeSystem instruction funct3
  | _ => make instruction .illegal

end RvEmulator.Core64
