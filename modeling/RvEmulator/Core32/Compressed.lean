import RvEmulator.Core32.Decode

/-! The RV32 decoder of the compressed encodings (`core32/src/decode.cpp`), one helper for each
quadrant. -/

namespace RvEmulator.Core32

namespace Decode

def compressedRegister (value : BitVec 32) : BitVec 32 := 8 + value

def makeCompressed (raw : BitVec 16) (kind : InstructionKind)
    (rd rs1 rs2 immediate : BitVec 32 := 0) : DecodedInstruction :=
  { makeDecoded (raw.setWidth 32) kind rd rs1 rs2 immediate with length := 2 }

/-- The scaled offset of a compressed word access in quadrant 0. -/
def wordOffset (raw : BitVec 32) : BitVec 32 :=
  (getBits raw 6 6 <<< 2) ||| (getBits raw 12 10 <<< 3) ||| (getBits raw 5 5 <<< 6)

def decodeQuadrant0 (instruction : BitVec 16) : DecodedInstruction :=
  let raw := instruction.setWidth 32
  let low := compressedRegister (getBits raw 4 2)
  let base := compressedRegister (getBits raw 9 7)
  match getBits raw 15 13 with
  | 0#32 =>
    let immediate :=
      (getBits raw 6 6 <<< 2) ||| (getBits raw 5 5 <<< 3) ||| (getBits raw 12 11 <<< 4) |||
        (getBits raw 10 7 <<< 6)
    if immediate = 0 then makeCompressed instruction .illegal
    else makeCompressed instruction .addi low 2 0 immediate
  | 2#32 => makeCompressed instruction .lw low base 0 (wordOffset raw)
  | 6#32 => makeCompressed instruction .sw 0 base low (wordOffset raw)
  | _ => makeCompressed instruction .illegal

/-- Quadrant 1, `funct3 = 4`: arithmetic on the eight compressed registers. -/
def decodeCompressedArithmetic (instruction : BitVec 16) (immediate6 : BitVec 32) :
    DecodedInstruction :=
  let raw := instruction.setWidth 32
  let operation := getBits raw 11 10
  let rd := compressedRegister (getBits raw 9 7)
  let rs2 := compressedRegister (getBits raw 4 2)
  if operation = 0 ∨ operation = 1 then
    if getBits raw 12 12 ≠ 0 then makeCompressed instruction .illegal
    else
      makeCompressed instruction (if operation = 0 then .srli else .srai) rd rd 0 (getBits raw 6 2)
  else if operation = 2 then makeCompressed instruction .andi rd rd 0 immediate6
  else if getBits raw 12 12 ≠ 0 then makeCompressed instruction .illegal
  else
    match getBits raw 6 5 with
    | 0#32 => makeCompressed instruction .sub rd rd rs2
    | 1#32 => makeCompressed instruction .xor rd rd rs2
    | 2#32 => makeCompressed instruction .or rd rd rs2
    | 3#32 => makeCompressed instruction .and rd rd rs2
    | _ => makeCompressed instruction .illegal

def compressedJump (raw : BitVec 32) : BitVec 32 :=
  signExtend
    ((getBits raw 5 3 <<< 1) ||| (getBits raw 11 11 <<< 4) ||| (getBits raw 2 2 <<< 5) |||
      (getBits raw 7 7 <<< 6) ||| (getBits raw 6 6 <<< 7) ||| (getBits raw 10 9 <<< 8) |||
      (getBits raw 8 8 <<< 10) ||| (getBits raw 12 12 <<< 11)) 12

def compressedBranch (raw : BitVec 32) : BitVec 32 :=
  signExtend
    ((getBits raw 4 3 <<< 1) ||| (getBits raw 11 10 <<< 3) ||| (getBits raw 2 2 <<< 5) |||
      (getBits raw 6 5 <<< 6) ||| (getBits raw 12 12 <<< 8)) 9

def decodeQuadrant1 (instruction : BitVec 16) : DecodedInstruction :=
  let raw := instruction.setWidth 32
  let immediate6 := signExtend ((getBits raw 12 12 <<< 5) ||| getBits raw 6 2) 6
  let rd := getBits raw 11 7
  match getBits raw 15 13 with
  | 0#32 => makeCompressed instruction .addi rd rd 0 immediate6
  | 1#32 => makeCompressed instruction .jal 1 0 0 (compressedJump raw)
  | 2#32 => makeCompressed instruction .addi rd 0 0 immediate6
  | 3#32 =>
    if rd = 2 then
      let immediate :=
        signExtend
          ((getBits raw 6 6 <<< 4) ||| (getBits raw 2 2 <<< 5) ||| (getBits raw 5 5 <<< 6) |||
            (getBits raw 4 3 <<< 7) ||| (getBits raw 12 12 <<< 9)) 10
      if immediate = 0 then makeCompressed instruction .illegal
      else makeCompressed instruction .addi 2 2 0 immediate
    else if immediate6 = 0 then makeCompressed instruction .illegal
    else makeCompressed instruction .lui rd 0 0 (immediate6 <<< 12)
  | 4#32 => decodeCompressedArithmetic instruction immediate6
  | 5#32 => makeCompressed instruction .jal 0 0 0 (compressedJump raw)
  | 6#32 =>
    makeCompressed instruction .beq 0 (compressedRegister (getBits raw 9 7)) 0
      (compressedBranch raw)
  | 7#32 =>
    makeCompressed instruction .bne 0 (compressedRegister (getBits raw 9 7)) 0
      (compressedBranch raw)
  | _ => makeCompressed instruction .illegal

def decodeQuadrant2 (instruction : BitVec 16) : DecodedInstruction :=
  let raw := instruction.setWidth 32
  let rd := getBits raw 11 7
  match getBits raw 15 13 with
  | 0#32 =>
    if getBits raw 12 12 ≠ 0 then makeCompressed instruction .illegal
    else makeCompressed instruction .slli rd rd 0 (getBits raw 6 2)
  | 2#32 =>
    if rd = 0 then makeCompressed instruction .illegal
    else
      makeCompressed instruction .lw rd 2 0
        ((getBits raw 6 4 <<< 2) ||| (getBits raw 12 12 <<< 5) ||| (getBits raw 3 2 <<< 6))
  | 4#32 =>
    let rs2 := getBits raw 6 2
    if getBits raw 12 12 = 0 then
      if rs2 = 0 then
        if rd = 0 then makeCompressed instruction .illegal
        else makeCompressed instruction .jalr 0 rd
      else makeCompressed instruction .add rd 0 rs2
    else if rs2 = 0 then
      if rd = 0 then makeCompressed instruction .ebreak
      else makeCompressed instruction .jalr 1 rd
    else makeCompressed instruction .add rd rd rs2
  | 6#32 =>
    makeCompressed instruction .sw 0 2 (getBits raw 6 2)
      ((getBits raw 12 9 <<< 2) ||| (getBits raw 8 7 <<< 6))
  | _ => makeCompressed instruction .illegal

end Decode

open Decode in
def decodeCompressedInstruction (instruction : BitVec 16) : DecodedInstruction :=
  let quadrant := getBits (instruction.setWidth 32) 1 0
  if quadrant = 3 then makeCompressed instruction .illegal
  else if quadrant = 0 then decodeQuadrant0 instruction
  else if quadrant = 1 then decodeQuadrant1 instruction
  else decodeQuadrant2 instruction

end RvEmulator.Core32
