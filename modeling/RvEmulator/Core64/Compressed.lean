import RvEmulator.Core64.Decode

namespace RvEmulator.Core64

open Library

namespace Decode

def compressedRegister (value : BitVec 32) : RegisterIndex := 8 + value.setWidth 5

def makeCompressed (instruction : BitVec 16) (kind : InstructionKind) (rd rs1 rs2 : RegisterIndex := 0)
    (immediate : BitVec 64 := 0) : DecodedInstruction :=
  { kind, raw := instruction.setWidth 32, rd, rs1, rs2, immediate, length := 2 }

/-- The scaled offset of a compressed doubleword access in quadrant 0. -/
def doublewordOffset (raw : BitVec 32) : BitVec 64 :=
  ((bits raw 12 10 <<< 3) ||| (bits raw 6 5 <<< 6)).setWidth 64

/-- The scaled offset of a compressed word access in quadrant 0. -/
def wordOffset (raw : BitVec 32) : BitVec 64 :=
  ((bits raw 6 6 <<< 2) ||| (bits raw 12 10 <<< 3) ||| (bits raw 5 5 <<< 6)).setWidth 64

def decodeQuadrant0 (instruction : BitVec 16) : DecodedInstruction :=
  let raw := instruction.setWidth 32
  let low := compressedRegister (bits raw 4 2)
  let base := compressedRegister (bits raw 9 7)
  match bits raw 15 13 with
  | 0#32 =>
    let immediate : BitVec 64 :=
      ((bits raw 6 6 <<< 2) ||| (bits raw 5 5 <<< 3) ||| (bits raw 12 11 <<< 4) |||
        (bits raw 10 7 <<< 6)).setWidth 64
    if immediate = 0 then makeCompressed instruction .illegal
    else makeCompressed instruction .addi low 2 0 immediate
  | 1#32 => makeCompressed instruction .fld low base 0 (doublewordOffset raw)
  | 2#32 => makeCompressed instruction .lw low base 0 (wordOffset raw)
  | 3#32 => makeCompressed instruction .ld low base 0 (doublewordOffset raw)
  | 6#32 => makeCompressed instruction .sw 0 base low (wordOffset raw)
  | 7#32 => makeCompressed instruction .sd 0 base low (doublewordOffset raw)
  | 5#32 => makeCompressed instruction .fsd 0 base low (doublewordOffset raw)
  | _ => makeCompressed instruction .illegal

/-- Quadrant 1, `funct3 = 4`: arithmetic on the eight compressed registers. -/
def decodeCompressedArithmetic (instruction : BitVec 16) (immediate6 : BitVec 64) :
    DecodedInstruction :=
  let raw := instruction.setWidth 32
  let operation := bits raw 11 10
  let rd := compressedRegister (bits raw 9 7)
  let rs2 := compressedRegister (bits raw 4 2)
  let subop := bits raw 6 5
  let shift : BitVec 64 := ((bits raw 12 12 <<< 5) ||| bits raw 6 2).setWidth 64
  if operation = 0 then makeCompressed instruction .srli rd rd 0 shift
  else if operation = 1 then makeCompressed instruction .srai rd rd 0 shift
  else if operation = 2 then makeCompressed instruction .andi rd rd 0 immediate6
  else if bits raw 12 12 = 0 then
    match subop with
    | 0#32 => makeCompressed instruction .sub rd rd rs2
    | 1#32 => makeCompressed instruction .xor rd rd rs2
    | 2#32 => makeCompressed instruction .or rd rd rs2
    | _ => makeCompressed instruction .and rd rd rs2
  else if subop = 0 then makeCompressed instruction .subw rd rd rs2
  else if subop = 1 then makeCompressed instruction .addw rd rd rs2
  else makeCompressed instruction .illegal

def compressedJump (raw : BitVec 32) : BitVec 64 :=
  signExtend
    ((bits raw 5 3 <<< 1) ||| (bits raw 11 11 <<< 4) ||| (bits raw 2 2 <<< 5) |||
      (bits raw 7 7 <<< 6) ||| (bits raw 6 6 <<< 7) ||| (bits raw 10 9 <<< 8) |||
      (bits raw 8 8 <<< 10) ||| (bits raw 12 12 <<< 11)) 12

def compressedBranch (raw : BitVec 32) : BitVec 64 :=
  signExtend
    ((bits raw 4 3 <<< 1) ||| (bits raw 11 10 <<< 3) ||| (bits raw 2 2 <<< 5) |||
      (bits raw 6 5 <<< 6) ||| (bits raw 12 12 <<< 8)) 9

def decodeQuadrant1 (instruction : BitVec 16) : DecodedInstruction :=
  let raw := instruction.setWidth 32
  let immediate6 := signExtend ((bits raw 12 12 <<< 5) ||| bits raw 6 2) 6
  let rd := register raw 7
  match bits raw 15 13 with
  | 0#32 => makeCompressed instruction .addi rd rd 0 immediate6
  | 1#32 => if rd = 0 then makeCompressed instruction .illegal
      else makeCompressed instruction .addiw rd rd 0 immediate6
  | 2#32 => makeCompressed instruction .addi rd 0 0 immediate6
  | 3#32 =>
    if rd = 2 then
      let immediate := signExtend
        ((bits raw 6 6 <<< 4) ||| (bits raw 2 2 <<< 5) ||| (bits raw 5 5 <<< 6) |||
          (bits raw 4 3 <<< 7) ||| (bits raw 12 12 <<< 9)) 10
      if immediate = 0 then makeCompressed instruction .illegal
      else makeCompressed instruction .addi 2 2 0 immediate
    else if rd = 0 ∨ immediate6 = 0 then makeCompressed instruction .illegal
    else makeCompressed instruction .lui rd 0 0 (immediate6 <<< 12)
  | 4#32 => decodeCompressedArithmetic instruction immediate6
  | 5#32 => makeCompressed instruction .jal 0 0 0 (compressedJump raw)
  | 6#32 => makeCompressed instruction .beq 0 (compressedRegister (bits raw 9 7)) 0
      (compressedBranch raw)
  | 7#32 => makeCompressed instruction .bne 0 (compressedRegister (bits raw 9 7)) 0
      (compressedBranch raw)
  | _ => makeCompressed instruction .illegal

/-- Quadrant 2, `funct3 = 4`: register jumps, moves, `c.ebreak` and `c.add`. -/
def decodeCompressedJumpRegister (instruction : BitVec 16) : DecodedInstruction :=
  let raw := instruction.setWidth 32
  let rd := register raw 7
  let rs2 := register raw 2
  if bits raw 12 12 = 0 then
    if rs2 = 0 then
      if rd = 0 then makeCompressed instruction .illegal
      else makeCompressed instruction .jalr 0 rd
    else makeCompressed instruction .add rd 0 rs2
  else if rs2 = 0 then
    if rd = 0 then makeCompressed instruction .ebreak
    else makeCompressed instruction .jalr 1 rd
  else makeCompressed instruction .add rd rd rs2

def decodeQuadrant2 (instruction : BitVec 16) : DecodedInstruction :=
  let raw := instruction.setWidth 32
  let rd := register raw 7
  let rs2 := register raw 2
  let shift : BitVec 64 := ((bits raw 12 12 <<< 5) ||| bits raw 6 2).setWidth 64
  let doublewordLoad : BitVec 64 :=
    ((bits raw 6 5 <<< 3) ||| (bits raw 12 12 <<< 5) ||| (bits raw 4 2 <<< 6)).setWidth 64
  let wordLoad : BitVec 64 :=
    ((bits raw 6 4 <<< 2) ||| (bits raw 12 12 <<< 5) ||| (bits raw 3 2 <<< 6)).setWidth 64
  let doublewordStore : BitVec 64 :=
    ((bits raw 12 10 <<< 3) ||| (bits raw 9 7 <<< 6)).setWidth 64
  let wordStore : BitVec 64 := ((bits raw 12 9 <<< 2) ||| (bits raw 8 7 <<< 6)).setWidth 64
  match bits raw 15 13 with
  | 0#32 => makeCompressed instruction .slli rd rd 0 shift
  | 1#32 => makeCompressed instruction .fld rd 2 0 doublewordLoad
  | 2#32 => if rd = 0 then makeCompressed instruction .illegal
      else makeCompressed instruction .lw rd 2 0 wordLoad
  | 3#32 => if rd = 0 then makeCompressed instruction .illegal
      else makeCompressed instruction .ld rd 2 0 doublewordLoad
  | 4#32 => decodeCompressedJumpRegister instruction
  | 6#32 => makeCompressed instruction .sw 0 2 rs2 wordStore
  | 7#32 => makeCompressed instruction .sd 0 2 rs2 doublewordStore
  | 5#32 => makeCompressed instruction .fsd 0 2 rs2 doublewordStore
  | _ => makeCompressed instruction .illegal

end Decode

open Decode in
def decodeCompressedInstruction (instruction : BitVec 16) : DecodedInstruction :=
  match bits (instruction.setWidth 32) 1 0 with
  | 3#32 => makeCompressed instruction .illegal
  | 0#32 => decodeQuadrant0 instruction
  | 1#32 => decodeQuadrant1 instruction
  | _ => decodeQuadrant2 instruction

/-- `Core::decode` without its cache. -/
def decodeDirect (instruction : BitVec 32) (length : BitVec 8) : DecodedInstruction :=
  if length = 2 then decodeCompressedInstruction (instruction.setWidth 16)
  else decodeInstruction instruction

/-- The decoding of what a fetch returns, whose lowest bits tell its length. -/
def decodeFetched (instruction : BitVec 32) : DecodedInstruction :=
  decodeDirect instruction (if (instruction &&& 0x3) ≠ 0x3 then 2 else 4)

/-- Kinds whose target is the program counter plus the immediate. -/
def InstructionKind.jumpsByImmediate : InstructionKind → Bool
  | .jal | .beq | .bne | .blt | .bge | .bltu | .bgeu => true
  | _ => false

/-- What the program counter's parity needs of a decoded instruction. -/
structure DecodedInstruction.Wellformed (decoded : DecodedInstruction) : Prop where
  length : BitEven decoded.length
  immediate : decoded.kind.jumpsByImmediate = true → BitEven decoded.immediate

namespace Decode

theorem even_signExtend {value : BitVec 32} {width : Nat} (even : BitEven value)
    (wide : 1 < width) : BitEven (signExtend value width) := by
  have sign : BitEven (1#64 <<< (width - 1)) := BitEven.shiftLeft _ (by omega)
  exact ((even.setWidth).and_left.xor sign).sub sign

theorem even_bImmediate (instruction : BitVec 32) : BitEven (bImmediate instruction) := by
  apply even_signExtend _ (by decide)
  simp [BitEven.or_iff, BitEven.shiftLeft]

theorem even_jImmediate (instruction : BitVec 32) : BitEven (jImmediate instruction) := by
  apply even_signExtend _ (by decide)
  simp [BitEven.or_iff, BitEven.shiftLeft]

theorem even_compressedJump (raw : BitVec 32) : BitEven (compressedJump raw) := by
  apply even_signExtend _ (by decide)
  simp [BitEven.or_iff, BitEven.shiftLeft]

theorem even_compressedBranch (raw : BitVec 32) : BitEven (compressedBranch raw) := by
  apply even_signExtend _ (by decide)
  simp [BitEven.or_iff, BitEven.shiftLeft]

theorem even_two : BitEven (2 : BitVec 8) := by decide

theorem even_four : BitEven (4 : BitVec 8) := by decide

/-- An instruction that is no relative jump needs an even length only. -/
theorem wellformed_of_no_jump {decoded : DecodedInstruction} (length : BitEven decoded.length)
    (none : decoded.kind.jumpsByImmediate = false) : decoded.Wellformed :=
  ⟨length, fun jumps => by simp [none] at jumps⟩

theorem wellformed_make {kind : InstructionKind} (instruction : BitVec 32) (immediate : BitVec 64)
    (none : kind.jumpsByImmediate = false) : (make instruction kind immediate).Wellformed :=
  wellformed_of_no_jump even_four none

theorem wellformed_makeCsr {kind : InstructionKind} (instruction : BitVec 32) (immediate : Bool)
    (none : kind.jumpsByImmediate = false) : (makeCsr instruction kind immediate).Wellformed :=
  wellformed_of_no_jump even_four none

theorem wellformed_makeFloating {kind : InstructionKind} (instruction : BitVec 32) (fused : Bool)
    (none : kind.jumpsByImmediate = false) : (makeFloating instruction kind fused).Wellformed := by
  apply wellformed_of_no_jump even_four
  simp only [makeFloating, make]
  split
  · exact none
  · rfl

theorem wellformed_makeCompressed {kind : InstructionKind} (instruction : BitVec 16)
    (rd rs1 rs2 : RegisterIndex) (immediate : BitVec 64)
    (none : kind.jumpsByImmediate = false) :
    (makeCompressed instruction kind rd rs1 rs2 immediate).Wellformed :=
  wellformed_of_no_jump even_two none

theorem branchKind_wellformed (instruction funct3 : BitVec 32) :
    (make instruction (branchKind funct3) (bImmediate instruction)).Wellformed :=
  ⟨even_four, fun _ => even_bImmediate instruction⟩

theorem loadKind_no_jump (funct3 : BitVec 32) : (loadKind funct3).jumpsByImmediate = false := by
  unfold loadKind
  split <;> rfl

theorem storeKind_no_jump (funct3 : BitVec 32) : (storeKind funct3).jumpsByImmediate = false := by
  unfold storeKind
  split <;> rfl

theorem opKind_no_jump (funct3 funct7 : BitVec 32) :
    (opKind funct3 funct7).jumpsByImmediate = false := by
  unfold opKind
  repeat' split
  all_goals rfl

theorem op32Kind_no_jump (funct3 funct7 : BitVec 32) :
    (op32Kind funct3 funct7).jumpsByImmediate = false := by
  unfold op32Kind
  repeat' split
  all_goals rfl

theorem atomicKind_no_jump (funct5 : BitVec 32) (doubleword : Bool) :
    (atomicKind funct5 doubleword).jumpsByImmediate = false := by
  unfold atomicKind
  cases doubleword <;> split <;> rfl

theorem fusedKind_no_jump (opcode : BitVec 32) (doublePrecision : Bool) :
    (fusedKind opcode doublePrecision).jumpsByImmediate = false := by
  unfold fusedKind
  cases doublePrecision <;> repeat' split
  all_goals rfl

theorem moveKind_no_jump (found : moveKind? fields = some kind) :
    kind.jumpsByImmediate = false := by
  unfold moveKind? at found
  split at found <;> cases found <;> rfl

theorem conversionKind_no_jump (found : conversionKind? fields = some kind) :
    kind.jumpsByImmediate = false := by
  unfold conversionKind? at found
  split at found <;> cases found <;> rfl

theorem wellformed_decodeOpImm (instruction funct3 : BitVec 32) :
    (decodeOpImm instruction funct3).Wellformed := by
  unfold decodeOpImm
  dsimp only
  repeat' split
  all_goals exact wellformed_make _ _ rfl

theorem wellformed_decodeOpImm32 (instruction funct3 funct7 : BitVec 32) :
    (decodeOpImm32 instruction funct3 funct7).Wellformed := by
  unfold decodeOpImm32
  dsimp only
  repeat' split
  all_goals exact wellformed_make _ _ rfl

theorem wellformed_decodeAtomic (instruction funct3 : BitVec 32) :
    (decodeAtomic instruction funct3).Wellformed := by
  unfold decodeAtomic
  dsimp only
  split
  · exact wellformed_make _ _ rfl
  · split
    · exact wellformed_make _ _ rfl
    · exact wellformed_of_no_jump even_four (atomicKind_no_jump _ _)

theorem wellformed_decodeFused (instruction opcode : BitVec 32) :
    (decodeFused instruction opcode).Wellformed := by
  unfold decodeFused
  dsimp only
  split
  · exact wellformed_make _ _ rfl
  · exact wellformed_makeFloating _ _ (fusedKind_no_jump _ _)

theorem wellformed_decodeFloatingMisc (instruction funct3 funct7 : BitVec 32) :
    (decodeFloatingMisc instruction funct3 funct7).Wellformed := by
  unfold decodeFloatingMisc
  split
  · refine wellformed_make _ _ ?_
    unfold signInjectionKind
    repeat' split
    all_goals rfl
  split
  · refine wellformed_make _ _ ?_
    unfold minMaxKind
    repeat' split
    all_goals rfl
  split
  · refine wellformed_make _ _ ?_
    unfold comparisonKind
    repeat' split
    all_goals rfl
  split
  · rename_i found
    exact wellformed_make _ _ (moveKind_no_jump found)
  split
  · rename_i found
    exact wellformed_makeFloating _ _ (conversionKind_no_jump found)
  · exact wellformed_make _ _ rfl

theorem wellformed_decodeFloating (instruction funct3 funct7 : BitVec 32) :
    (decodeFloating instruction funct3 funct7).Wellformed := by
  unfold decodeFloating
  repeat' split
  all_goals
    first
      | exact wellformed_makeFloating _ _ rfl
      | exact wellformed_make _ _ rfl
      | exact wellformed_decodeFloatingMisc _ _ _

theorem wellformed_decodeMiscMem (instruction funct3 : BitVec 32) :
    (decodeMiscMem instruction funct3).Wellformed := by
  unfold decodeMiscMem
  repeat' split
  all_goals exact wellformed_make _ _ rfl

theorem wellformed_decodeSystem (instruction funct3 : BitVec 32) :
    (decodeSystem instruction funct3).Wellformed := by
  unfold decodeSystem
  repeat' split
  all_goals
    first
      | exact wellformed_make _ _ rfl
      | exact wellformed_makeCsr _ _ rfl

theorem wellformed_decodeInstruction (instruction : BitVec 32) :
    (decodeInstruction instruction).Wellformed := by
  unfold decodeInstruction
  dsimp only
  split
  case h_3 => exact ⟨even_four, fun _ => even_jImmediate instruction⟩
  case h_5 => exact branchKind_wellformed _ _
  case h_6 => exact wellformed_make _ _ (loadKind_no_jump _)
  case h_8 => exact wellformed_make _ _ (storeKind_no_jump _)
  case h_10 => exact wellformed_decodeOpImm _ _
  case h_11 => exact wellformed_decodeOpImm32 _ _ _
  case h_12 => exact wellformed_make _ _ (opKind_no_jump _ _)
  case h_13 => exact wellformed_make _ _ (op32Kind_no_jump _ _)
  case h_14 => exact wellformed_decodeAtomic _ _
  case h_15 | h_16 | h_17 | h_18 => exact wellformed_decodeFused _ _
  case h_19 => exact wellformed_decodeFloating _ _ _
  case h_20 => exact wellformed_decodeMiscMem _ _
  case h_21 => exact wellformed_decodeSystem _ _
  all_goals
    repeat' split
    all_goals exact wellformed_make _ _ rfl

theorem wellformed_decodeQuadrant0 (instruction : BitVec 16) :
    (decodeQuadrant0 instruction).Wellformed := by
  unfold decodeQuadrant0
  dsimp only
  repeat' split
  all_goals exact wellformed_makeCompressed _ _ _ _ _ rfl

theorem wellformed_decodeCompressedArithmetic (instruction : BitVec 16) (immediate6 : BitVec 64) :
    (decodeCompressedArithmetic instruction immediate6).Wellformed := by
  unfold decodeCompressedArithmetic
  dsimp only
  repeat' split
  all_goals exact wellformed_makeCompressed _ _ _ _ _ rfl

theorem wellformed_decodeQuadrant1 (instruction : BitVec 16) :
    (decodeQuadrant1 instruction).Wellformed := by
  unfold decodeQuadrant1
  dsimp only
  split
  case h_5 => exact wellformed_decodeCompressedArithmetic _ _
  case h_6 => exact ⟨even_two, fun _ => even_compressedJump _⟩
  case h_7 | h_8 => exact ⟨even_two, fun _ => even_compressedBranch _⟩
  all_goals
    repeat' split
    all_goals exact wellformed_makeCompressed _ _ _ _ _ rfl

theorem wellformed_decodeQuadrant2 (instruction : BitVec 16) :
    (decodeQuadrant2 instruction).Wellformed := by
  unfold decodeQuadrant2 decodeCompressedJumpRegister
  dsimp only
  repeat' split
  all_goals exact wellformed_makeCompressed _ _ _ _ _ rfl

theorem wellformed_decodeCompressedInstruction (instruction : BitVec 16) :
    (decodeCompressedInstruction instruction).Wellformed := by
  unfold decodeCompressedInstruction
  split
  · exact wellformed_makeCompressed _ _ _ _ _ rfl
  · exact wellformed_decodeQuadrant0 _
  · exact wellformed_decodeQuadrant1 _
  · exact wellformed_decodeQuadrant2 _

end Decode

/-- Every word decodes to an instruction with an even length whose relative
jumps have even offsets. -/
theorem wellformed_decodeDirect (instruction : BitVec 32) (length : BitVec 8) :
    (decodeDirect instruction length).Wellformed := by
  unfold decodeDirect
  split
  · exact Decode.wellformed_decodeCompressedInstruction _
  · exact Decode.wellformed_decodeInstruction _

end RvEmulator.Core64
