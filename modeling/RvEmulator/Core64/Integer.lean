import RvEmulator.Core64.Compressed

/-! The arms of the execution switch that compute on registers alone. -/

namespace RvEmulator.Core64

open Library

def signExtend (value : BitVec 64) (width : Nat) : BitVec 64 :=
  if width = 64 then value
  else
    let sign := 1#64 <<< (width - 1)
    let mask := (1#64 <<< width) - 1
    ((value &&& mask) ^^^ sign) - sign

def signExtendWord (value : BitVec 64) : BitVec 64 := signExtend value 32

theorem signExtendWord_eq (value : BitVec 64) :
    signExtendWord value = (value.setWidth 32).signExtend 64 :=
  flip_sub_eq_signExtend (by decide) (by decide) value

def multiplyHighUnsigned (lhs rhs : BitVec 64) : BitVec 64 :=
  let low (value : BitVec 64) : BitVec 64 := (value.setWidth 32).setWidth 64
  let lowProduct := low lhs * low rhs
  let cross1 := low lhs * (rhs >>> 32)
  let cross2 := (lhs >>> 32) * low rhs
  let highProduct := (lhs >>> 32) * (rhs >>> 32)
  let carry := ((lowProduct >>> 32) + low cross1 + low cross2) >>> 32
  highProduct + (cross1 >>> 32) + (cross2 >>> 32) + carry

def multiplyHighSigned (lhs rhs : BitVec 64) : BitVec 64 :=
  let result := multiplyHighUnsigned lhs rhs
  let result := if (lhs >>> 63) ≠ 0 then result - rhs else result
  if (rhs >>> 63) ≠ 0 then result - lhs else result

def multiplyHighSignedUnsigned (lhs rhs : BitVec 64) : BitVec 64 :=
  let result := multiplyHighUnsigned lhs rhs
  if (lhs >>> 63) ≠ 0 then result - rhs else result

/-- Signed quotient, with the results the ISA fixes for zero and overflow. -/
def divide {w : Nat} (lhs rhs : BitVec w) : BitVec w :=
  if rhs = 0 then BitVec.allOnes w
  else if lhs = 1#w <<< (w - 1) ∧ rhs = BitVec.allOnes w then lhs
  else lhs.sdiv rhs

def remainder {w : Nat} (lhs rhs : BitVec w) : BitVec w :=
  if rhs = 0 then lhs
  else if lhs = 1#w <<< (w - 1) ∧ rhs = BitVec.allOnes w then 0
  else lhs.srem rhs

def divideUnsigned {w : Nat} (lhs rhs : BitVec w) : BitVec w :=
  if rhs = 0 then BitVec.allOnes w else lhs.udiv rhs

def remainderUnsigned {w : Nat} (lhs rhs : BitVec w) : BitVec w :=
  if rhs = 0 then lhs else lhs.umod rhs

/-- A word operation: on the low words, with the result sign-extended. -/
def onWords (operation : BitVec 32 → BitVec 32 → BitVec 32) (lhs rhs : BitVec 64) : BitVec 64 :=
  signExtendWord ((operation (lhs.setWidth 32) (rhs.setWidth 32)).setWidth 64)

/-- `1` or `0`. -/
def truth (condition : Bool) : BitVec 64 := if condition then 1 else 0

/-- The register value of an arm that sets one from `pc`, `rs1`, `rs2` and the
immediate; `none` for every other kind. -/
def integerValue (kind : InstructionKind) (pc nextPc rs1 rs2 immediate : BitVec 64) :
    Option (BitVec 64) :=
  match kind with
  | .lui => some immediate
  | .auipc => some (pc + immediate)
  | .jal | .jalr => some nextPc
  | .addi => some (rs1 + immediate)
  | .slti => some (truth (rs1.slt immediate))
  | .sltiu => some (truth (rs1.ult immediate))
  | .xori => some (rs1 ^^^ immediate)
  | .ori => some (rs1 ||| immediate)
  | .andi => some (rs1 &&& immediate)
  | .slli => some (rs1 <<< (immediate &&& 0x3F).toNat)
  | .srli => some (rs1 >>> (immediate &&& 0x3F).toNat)
  | .srai => some (rs1.sshiftRight (immediate &&& 0x3F).toNat)
  | .addiw => some (signExtendWord (rs1 + immediate))
  | .slliw => some (onWords (fun lhs _ => lhs <<< (immediate &&& 0x1F).toNat) rs1 0)
  | .srliw => some (onWords (fun lhs _ => lhs >>> (immediate &&& 0x1F).toNat) rs1 0)
  | .sraiw => some (onWords (fun lhs _ => lhs.sshiftRight (immediate &&& 0x1F).toNat) rs1 0)
  | .add => some (rs1 + rs2)
  | .sub => some (rs1 - rs2)
  | .sll => some (rs1 <<< (rs2 &&& 0x3F).toNat)
  | .slt => some (truth (rs1.slt rs2))
  | .sltu => some (truth (rs1.ult rs2))
  | .xor => some (rs1 ^^^ rs2)
  | .srl => some (rs1 >>> (rs2 &&& 0x3F).toNat)
  | .sra => some (rs1.sshiftRight (rs2 &&& 0x3F).toNat)
  | .or => some (rs1 ||| rs2)
  | .and => some (rs1 &&& rs2)
  | .mul => some (rs1 * rs2)
  | .mulh => some (multiplyHighSigned rs1 rs2)
  | .mulhsu => some (multiplyHighSignedUnsigned rs1 rs2)
  | .mulhu => some (multiplyHighUnsigned rs1 rs2)
  | .div => some (divide rs1 rs2)
  | .divu => some (divideUnsigned rs1 rs2)
  | .rem => some (remainder rs1 rs2)
  | .remu => some (remainderUnsigned rs1 rs2)
  | .addw => some (signExtendWord (rs1 + rs2))
  | .subw => some (signExtendWord (rs1 - rs2))
  | .sllw => some (onWords (fun lhs _ => lhs <<< (rs2 &&& 0x1F).toNat) rs1 0)
  | .srlw => some (onWords (fun lhs _ => lhs >>> (rs2 &&& 0x1F).toNat) rs1 0)
  | .sraw => some (onWords (fun lhs _ => lhs.sshiftRight (rs2 &&& 0x1F).toNat) rs1 0)
  | .mulw => some (onWords (· * ·) rs1 rs2)
  | .divw => some (onWords divide rs1 rs2)
  | .divuw => some (onWords divideUnsigned rs1 rs2)
  | .remw => some (onWords remainder rs1 rs2)
  | .remuw => some (onWords remainderUnsigned rs1 rs2)
  | _ => none

/-- Whether a branch is taken. -/
def branchTaken (kind : InstructionKind) (rs1 rs2 : BitVec 64) : Bool :=
  match kind with
  | .beq => rs1 == rs2
  | .bne => rs1 != rs2
  | .blt => rs1.slt rs2
  | .bge => !rs1.slt rs2
  | .bltu => rs1.ult rs2
  | .bgeu => !rs1.ult rs2
  | _ => false

/-- The program counter after an arm that computes on registers alone. -/
def integerNextPc (kind : InstructionKind) (pc nextPc rs1 rs2 immediate : BitVec 64) : BitVec 64 :=
  match kind with
  | .jal => pc + immediate
  | .jalr => (rs1 + immediate) &&& ~~~1
  | .beq | .bne | .blt | .bge | .bltu | .bgeu =>
    if branchTaken kind rs1 rs2 then pc + immediate else nextPc
  | _ => nextPc

theorem even_integerNextPc {decoded : DecodedInstruction} (wellformed : decoded.Wellformed)
    {pc nextPc : BitVec 64} (rs1 rs2 : BitVec 64) (here : BitEven pc) (next : BitEven nextPc) :
    BitEven (integerNextPc decoded.kind pc nextPc rs1 rs2 decoded.immediate) := by
  have relative : decoded.kind.jumpsByImmediate = true → BitEven (pc + decoded.immediate) :=
    fun jumps => here.add (wellformed.immediate jumps)
  unfold integerNextPc
  split
  case h_1 kind => exact relative (by rw [kind]; rfl)
  case h_2 => exact BitEven.and_right (by decide)
  case h_9 => exact next
  all_goals
    rename_i kind
    split
    · exact relative (by rw [kind]; rfl)
    · exact next

end RvEmulator.Core64
