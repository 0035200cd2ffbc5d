import RvEmulator.Common.Hart

/-! The 32-bit instruction formats of the RISC-V specification. This says how the
words are laid out, not how either core decodes them. -/

namespace RvEmulator

/-- The six parts that every format is made of. -/
@[ext]
structure Fields where
  opcode : BitVec 7
  rd : BitVec 5 := 0
  funct3 : BitVec 3 := 0
  rs1 : BitVec 5 := 0
  rs2 : BitVec 5 := 0
  funct7 : BitVec 7 := 0
deriving DecidableEq

namespace Fields

def word (fields : Fields) : BitVec 32 :=
  fields.funct7 ++ fields.rs2 ++ fields.rs1 ++ fields.funct3 ++ fields.rd ++ fields.opcode

def of (word : BitVec 32) : Fields where
  opcode := word.extractLsb' 0 7
  rd := word.extractLsb' 7 5
  funct3 := word.extractLsb' 12 3
  rs1 := word.extractLsb' 15 5
  rs2 := word.extractLsb' 20 5
  funct7 := word.extractLsb' 25 7

/-- The bits of a word, from its parts. -/
theorem getLsbD_word (fields : Fields) (i : Nat) :
    fields.word.getLsbD i =
      if i < 7 then fields.opcode.getLsbD i
      else if i < 12 then fields.rd.getLsbD (i - 7)
      else if i < 15 then fields.funct3.getLsbD (i - 12)
      else if i < 20 then fields.rs1.getLsbD (i - 15)
      else if i < 25 then fields.rs2.getLsbD (i - 20)
      else fields.funct7.getLsbD (i - 25) := by
  unfold word
  simp only [BitVec.getLsbD_append, Nat.sub_sub]
  grind

theorem of_word (fields : Fields) : of fields.word = fields := by
  apply Fields.ext <;> apply BitVec.eq_of_getLsbD_eq <;> intro i inside <;>
    simp only [of, BitVec.getLsbD_extractLsb', getLsbD_word, inside, decide_true, Bool.true_and]
  all_goals grind

theorem word_of (word : BitVec 32) : (of word).word = word := by
  apply BitVec.eq_of_getLsbD_eq
  intro i inside
  simp only [getLsbD_word, of, BitVec.getLsbD_extractLsb']
  grind

theorem of_injective {word other : BitVec 32} (same : of word = of other) : word = other := by
  rw [← word_of word, same, word_of]

/-! The immediates, as the formats scatter them. -/

def iImmediate (fields : Fields) : BitVec 12 := fields.funct7 ++ fields.rs2

def sImmediate (fields : Fields) : BitVec 12 := fields.funct7 ++ fields.rd

def bImmediate (fields : Fields) : BitVec 13 :=
  fields.funct7.extractLsb' 6 1 ++ fields.rd.extractLsb' 0 1 ++ fields.funct7.extractLsb' 0 6 ++
    fields.rd.extractLsb' 1 4 ++ 0#1

def uImmediate (fields : Fields) : BitVec 32 :=
  fields.funct7 ++ fields.rs2 ++ fields.rs1 ++ fields.funct3 ++ 0#12

def jImmediate (fields : Fields) : BitVec 21 :=
  fields.funct7.extractLsb' 6 1 ++ fields.rs1 ++ fields.funct3 ++ fields.rs2.extractLsb' 0 1 ++
    fields.funct7.extractLsb' 0 6 ++ fields.rs2.extractLsb' 1 4 ++ 0#1

/-- A shift amount of six bits. -/
def shiftAmount (fields : Fields) : BitVec 6 := fields.funct7.extractLsb' 0 1 ++ fields.rs2

def csr (fields : Fields) : BitVec 12 := fields.funct7 ++ fields.rs2

end Fields

/-- The constant parts of an instruction's format; the others are its operands. -/
inductive Layout where
  | register (opcode : BitVec 7) (funct3 : BitVec 3) (funct7 : BitVec 7)
  | unary (opcode : BitVec 7) (funct3 : BitVec 3) (rs2 : BitVec 5) (funct7 : BitVec 7)
  | immediate (opcode : BitVec 7) (funct3 : BitVec 3)
  | shift (opcode : BitVec 7) (funct3 : BitVec 3) (funct6 : BitVec 6)
  | shiftWord (opcode : BitVec 7) (funct3 : BitVec 3) (funct7 : BitVec 7)
  | store (opcode : BitVec 7) (funct3 : BitVec 3)
  | branch (opcode : BitVec 7) (funct3 : BitVec 3)
  | upper (opcode : BitVec 7)
  | jump (opcode : BitVec 7)
  | atomic (funct3 : BitVec 3) (funct5 : BitVec 5)
  | loadReserved (funct3 : BitVec 3) (funct5 : BitVec 5)
  | rounded (funct7 : BitVec 7)
  | roundedUnary (rs2 : BitVec 5) (funct7 : BitVec 7)
  | fused (opcode : BitVec 7) (format : BitVec 2)
  | fence (funct3 : BitVec 3)
  | constant (opcode : BitVec 7) (funct3 : BitVec 3) (rs2 : BitVec 5) (funct7 : BitVec 7)
  | addressFence (funct7 : BitVec 7)
  | csr (funct3 : BitVec 3)
  | csrImmediate (funct3 : BitVec 3)
  | none
deriving DecidableEq

namespace Layout

/-- The rounding modes 5 and 6 are reserved. -/
def ValidRounding (funct3 : BitVec 3) : Prop := funct3 ≠ 5 ∧ funct3 ≠ 6

instance : DecidablePred ValidRounding := fun _ => inferInstanceAs (Decidable (_ ∧ _))

/-- The constant parts of a word are those of the format. -/
def Admits (layout : Layout) (fields : Fields) : Prop :=
  match layout with
  | .register opcode funct3 funct7 | .shiftWord opcode funct3 funct7 =>
    fields.opcode = opcode ∧ fields.funct3 = funct3 ∧ fields.funct7 = funct7
  | .unary opcode funct3 rs2 funct7 =>
    fields.opcode = opcode ∧ fields.funct3 = funct3 ∧ fields.rs2 = rs2 ∧ fields.funct7 = funct7
  | .immediate opcode funct3 | .store opcode funct3 | .branch opcode funct3 =>
    fields.opcode = opcode ∧ fields.funct3 = funct3
  | .shift opcode funct3 funct6 =>
    fields.opcode = opcode ∧ fields.funct3 = funct3 ∧ fields.funct7.extractLsb' 1 6 = funct6
  | .upper opcode | .jump opcode => fields.opcode = opcode
  | .atomic funct3 funct5 =>
    fields.opcode = 0x2F ∧ fields.funct3 = funct3 ∧ fields.funct7.extractLsb' 2 5 = funct5
  | .loadReserved funct3 funct5 =>
    fields.opcode = 0x2F ∧ fields.funct3 = funct3 ∧ fields.rs2 = 0 ∧
      fields.funct7.extractLsb' 2 5 = funct5
  | .rounded funct7 =>
    fields.opcode = 0x53 ∧ ValidRounding fields.funct3 ∧ fields.funct7 = funct7
  | .roundedUnary rs2 funct7 =>
    fields.opcode = 0x53 ∧ ValidRounding fields.funct3 ∧ fields.rs2 = rs2 ∧ fields.funct7 = funct7
  | .fused opcode format =>
    fields.opcode = opcode ∧ ValidRounding fields.funct3 ∧
      fields.funct7.extractLsb' 0 2 = format
  | .fence funct3 => fields.opcode = 0x0F ∧ fields.funct3 = funct3
  | .constant opcode funct3 rs2 funct7 => fields = { opcode, funct3, rs2, funct7 }
  | .addressFence funct7 =>
    fields.opcode = 0x73 ∧ fields.rd = 0 ∧ fields.funct3 = 0 ∧ fields.funct7 = funct7
  | .csr funct3 | .csrImmediate funct3 => fields.opcode = 0x73 ∧ fields.funct3 = funct3
  | .none => False

end Layout

/-- The operands that an instruction can have, in a core with registers of `w` bits. -/
@[ext]
structure Operands (w : Nat) where
  rd : RegisterIndex := 0
  rs1 : RegisterIndex := 0
  rs2 : RegisterIndex := 0
  rs3 : RegisterIndex := 0
  roundingMode : BitVec 8 := 0
  immediate : BitVec w := 0
  acquire : Bool := false
  release : Bool := false
  csr : BitVec 16 := 0
deriving DecidableEq

namespace Operands

variable {w : Nat}

/-- The operands of a format; it does not use the others. -/
def used (operands : Operands w) : Layout → Operands w
  | .register .. => { rd := operands.rd, rs1 := operands.rs1, rs2 := operands.rs2 }
  | .unary .. => { rd := operands.rd, rs1 := operands.rs1 }
  | .immediate .. | .shift .. | .shiftWord .. =>
    { rd := operands.rd, rs1 := operands.rs1, immediate := operands.immediate }
  | .store .. | .branch .. =>
    { rs1 := operands.rs1, rs2 := operands.rs2, immediate := operands.immediate }
  | .upper .. | .jump .. => { rd := operands.rd, immediate := operands.immediate }
  | .atomic .. =>
    { rd := operands.rd, rs1 := operands.rs1, rs2 := operands.rs2, acquire := operands.acquire,
      release := operands.release }
  | .loadReserved .. =>
    { rd := operands.rd, rs1 := operands.rs1, acquire := operands.acquire,
      release := operands.release }
  | .rounded .. =>
    { rd := operands.rd, rs1 := operands.rs1, rs2 := operands.rs2,
      roundingMode := operands.roundingMode }
  | .roundedUnary .. =>
    { rd := operands.rd, rs1 := operands.rs1, roundingMode := operands.roundingMode }
  | .fused .. =>
    { rd := operands.rd, rs1 := operands.rs1, rs2 := operands.rs2, rs3 := operands.rs3,
      roundingMode := operands.roundingMode }
  | .addressFence .. => { rs1 := operands.rs1, rs2 := operands.rs2 }
  | .csr .. => { rd := operands.rd, rs1 := operands.rs1, csr := operands.csr }
  | .csrImmediate .. =>
    { rd := operands.rd, immediate := operands.immediate, csr := operands.csr }
  | .fence .. | .constant .. | .none => {}

/-- The parts of an encoded instruction. The operands of FENCE are left zero. -/
def fields (operands : Operands w) (layout : Layout) : Fields :=
  let { rd, rs1, rs2, rs3, roundingMode, immediate, acquire, release, csr } := operands
  match layout with
  | .register opcode funct3 funct7 => { opcode, rd, funct3, rs1, rs2, funct7 }
  | .unary opcode funct3 rs2 funct7 => { opcode, rd, funct3, rs1, rs2, funct7 }
  | .immediate opcode funct3 =>
    { opcode, rd, funct3, rs1, rs2 := immediate.extractLsb' 0 5,
      funct7 := immediate.extractLsb' 5 7 }
  | .shift opcode funct3 funct6 =>
    { opcode, rd, funct3, rs1, rs2 := immediate.extractLsb' 0 5,
      funct7 := funct6 ++ immediate.extractLsb' 5 1 }
  | .shiftWord opcode funct3 funct7 =>
    { opcode, rd, funct3, rs1, rs2 := immediate.extractLsb' 0 5, funct7 }
  | .store opcode funct3 =>
    { opcode, rd := immediate.extractLsb' 0 5, funct3, rs1, rs2,
      funct7 := immediate.extractLsb' 5 7 }
  | .branch opcode funct3 =>
    { opcode, rd := immediate.extractLsb' 1 4 ++ immediate.extractLsb' 11 1, funct3, rs1, rs2,
      funct7 := immediate.extractLsb' 12 1 ++ immediate.extractLsb' 5 6 }
  | .upper opcode =>
    { opcode, rd, funct3 := immediate.extractLsb' 12 3, rs1 := immediate.extractLsb' 15 5,
      rs2 := immediate.extractLsb' 20 5, funct7 := immediate.extractLsb' 25 7 }
  | .jump opcode =>
    { opcode, rd, funct3 := immediate.extractLsb' 12 3, rs1 := immediate.extractLsb' 15 5,
      rs2 := immediate.extractLsb' 1 4 ++ immediate.extractLsb' 11 1,
      funct7 := immediate.extractLsb' 20 1 ++ immediate.extractLsb' 5 6 }
  | .atomic funct3 funct5 =>
    { opcode := 0x2F, rd, funct3, rs1, rs2,
      funct7 := funct5 ++ BitVec.ofBool acquire ++ BitVec.ofBool release }
  | .loadReserved funct3 funct5 =>
    { opcode := 0x2F, rd, funct3, rs1,
      funct7 := funct5 ++ BitVec.ofBool acquire ++ BitVec.ofBool release }
  | .rounded funct7 =>
    { opcode := 0x53, rd, funct3 := roundingMode.setWidth 3, rs1, rs2, funct7 }
  | .roundedUnary rs2 funct7 =>
    { opcode := 0x53, rd, funct3 := roundingMode.setWidth 3, rs1, rs2, funct7 }
  | .fused opcode format =>
    { opcode, rd, funct3 := roundingMode.setWidth 3, rs1, rs2, funct7 := rs3 ++ format }
  | .fence funct3 => { opcode := 0x0F, funct3 }
  | .constant opcode funct3 rs2 funct7 => { opcode, funct3, rs2, funct7 }
  | .addressFence funct7 => { opcode := 0x73, rs1, rs2, funct7 }
  | .csr funct3 =>
    { opcode := 0x73, rd, funct3, rs1, rs2 := csr.extractLsb' 0 5, funct7 := csr.extractLsb' 5 7 }
  | .csrImmediate funct3 =>
    { opcode := 0x73, rd, funct3, rs1 := immediate.extractLsb' 0 5, rs2 := csr.extractLsb' 0 5,
      funct7 := csr.extractLsb' 5 7 }
  | .none => { opcode := 0 }

/-- The operands that a format finds in a word. -/
def of (layout : Layout) (fields : Fields) : Operands w :=
  match layout with
  | .register .. => { rd := fields.rd, rs1 := fields.rs1, rs2 := fields.rs2 }
  | .unary .. => { rd := fields.rd, rs1 := fields.rs1 }
  | .immediate .. => { rd := fields.rd, rs1 := fields.rs1,
                       immediate := fields.iImmediate.signExtend w }
  | .shift .. => { rd := fields.rd, rs1 := fields.rs1, immediate := fields.shiftAmount.setWidth w }
  | .shiftWord .. => { rd := fields.rd, rs1 := fields.rs1, immediate := fields.rs2.setWidth w }
  | .store .. => { rs1 := fields.rs1, rs2 := fields.rs2,
                   immediate := fields.sImmediate.signExtend w }
  | .branch .. => { rs1 := fields.rs1, rs2 := fields.rs2,
                    immediate := fields.bImmediate.signExtend w }
  | .upper .. => { rd := fields.rd, immediate := fields.uImmediate.signExtend w }
  | .jump .. => { rd := fields.rd, immediate := fields.jImmediate.signExtend w }
  | .atomic .. =>
    { rd := fields.rd, rs1 := fields.rs1, rs2 := fields.rs2, acquire := fields.funct7.getLsbD 1,
      release := fields.funct7.getLsbD 0 }
  | .loadReserved .. =>
    { rd := fields.rd, rs1 := fields.rs1, acquire := fields.funct7.getLsbD 1,
      release := fields.funct7.getLsbD 0 }
  | .rounded .. =>
    { rd := fields.rd, rs1 := fields.rs1, rs2 := fields.rs2,
      roundingMode := fields.funct3.setWidth 8 }
  | .roundedUnary .. =>
    { rd := fields.rd, rs1 := fields.rs1, roundingMode := fields.funct3.setWidth 8 }
  | .fused .. =>
    { rd := fields.rd, rs1 := fields.rs1, rs2 := fields.rs2, rs3 := fields.funct7.extractLsb' 2 5,
      roundingMode := fields.funct3.setWidth 8 }
  | .addressFence .. => { rs1 := fields.rs1, rs2 := fields.rs2 }
  | .csr .. => { rd := fields.rd, rs1 := fields.rs1, csr := fields.csr.setWidth 16 }
  | .csrImmediate .. =>
    { rd := fields.rd, immediate := fields.rs1.setWidth w, csr := fields.csr.setWidth 16 }
  | .fence .. | .constant .. | .none => {}

/-- The operands of a format are within their ranges. -/
def InRange (operands : Operands w) : Layout → Prop
  | .immediate .. | .store .. =>
    operands.immediate = (operands.immediate.setWidth 12).signExtend w
  | .branch .. =>
    operands.immediate = (operands.immediate.setWidth 13).signExtend w ∧
      operands.immediate.getLsbD 0 = false
  | .upper .. =>
    operands.immediate = (operands.immediate.setWidth 32).signExtend w ∧
      operands.immediate.setWidth 12 = 0#12
  | .jump .. =>
    operands.immediate = (operands.immediate.setWidth 21).signExtend w ∧
      operands.immediate.getLsbD 0 = false
  | .shift .. => operands.immediate = (operands.immediate.setWidth 6).setWidth w
  | .shiftWord .. => operands.immediate = (operands.immediate.setWidth 5).setWidth w
  | .rounded .. | .roundedUnary .. | .fused .. =>
    operands.roundingMode = (operands.roundingMode.setWidth 3).setWidth 8
  | .csr .. => operands.csr = (operands.csr.setWidth 12).setWidth 16
  | .csrImmediate .. =>
    operands.csr = (operands.csr.setWidth 12).setWidth 16 ∧
      operands.immediate = (operands.immediate.setWidth 5).setWidth w
  | .none => False
  | _ => True

/-- The rounding mode of a format that has one is not reserved. -/
def Rounds (operands : Operands w) : Layout → Prop
  | .rounded .. | .roundedUnary .. | .fused .. =>
    operands.roundingMode ≠ 5 ∧ operands.roundingMode ≠ 6
  | _ => True

end Operands

end RvEmulator
