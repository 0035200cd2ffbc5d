import RvEmulator.Common.RoundTrip

/-! The 16-bit instruction formats of the RISC-V specification: where the registers are, and how
the immediates are scattered. This says nothing of how either core decodes them. -/

namespace RvEmulator.Halfword

section

variable (word : BitVec 16)

def quadrant : BitVec 2 := word.extractLsb' 0 2

def funct3 : BitVec 3 := word.extractLsb' 13 3

/-- The full register fields. -/
def rd : RegisterIndex := word.extractLsb' 7 5

def rs2 : RegisterIndex := word.extractLsb' 2 5

/-- The short register fields name x8 to x15. -/
def upperShort : RegisterIndex := 1#2 ++ word.extractLsb' 7 3

def lowerShort : RegisterIndex := 1#2 ++ word.extractLsb' 2 3

/-- The bits that tell the arithmetic of quadrant 1 apart. -/
def funct2 : BitVec 2 := word.extractLsb' 10 2

def operation : BitVec 2 := word.extractLsb' 5 2

def bit12 : BitVec 1 := word.extractLsb' 12 1

/-! The immediates. -/

def immediate6 : BitVec 6 := word.extractLsb' 12 1 ++ word.extractLsb' 2 5

/-- The shift amounts of RV32. -/
def shiftAmount : BitVec 5 := word.extractLsb' 2 5

/-- C.ADDI4SPN. -/
def stackOffset : BitVec 10 :=
  word.extractLsb' 7 4 ++ word.extractLsb' 11 2 ++ word.extractLsb' 5 1 ++ word.extractLsb' 6 1 ++
    0#2

/-- C.ADDI16SP. -/
def stackAdjustment : BitVec 10 :=
  word.extractLsb' 12 1 ++ word.extractLsb' 3 2 ++ word.extractLsb' 5 1 ++ word.extractLsb' 2 1 ++
    word.extractLsb' 6 1 ++ 0#4

/-- C.LW and C.SW. -/
def wordOffset : BitVec 7 :=
  word.extractLsb' 5 1 ++ word.extractLsb' 10 3 ++ word.extractLsb' 6 1 ++ 0#2

/-- C.LD, C.SD, C.FLD and C.FSD. -/
def doublewordOffset : BitVec 8 := word.extractLsb' 5 2 ++ word.extractLsb' 10 3 ++ 0#3

/-- C.LWSP. -/
def stackWordLoad : BitVec 8 :=
  word.extractLsb' 2 2 ++ word.extractLsb' 12 1 ++ word.extractLsb' 4 3 ++ 0#2

/-- C.LDSP and C.FLDSP. -/
def stackDoublewordLoad : BitVec 9 :=
  word.extractLsb' 2 3 ++ word.extractLsb' 12 1 ++ word.extractLsb' 5 2 ++ 0#3

/-- C.SWSP. -/
def stackWordStore : BitVec 8 := word.extractLsb' 7 2 ++ word.extractLsb' 9 4 ++ 0#2

/-- C.SDSP and C.FSDSP. -/
def stackDoublewordStore : BitVec 9 := word.extractLsb' 7 3 ++ word.extractLsb' 10 3 ++ 0#3

/-- C.J and C.JAL. -/
def jumpOffset : BitVec 12 :=
  word.extractLsb' 12 1 ++ word.extractLsb' 8 1 ++ word.extractLsb' 9 2 ++ word.extractLsb' 6 1 ++
    word.extractLsb' 7 1 ++ word.extractLsb' 2 1 ++ word.extractLsb' 11 1 ++
    word.extractLsb' 3 3 ++ 0#1

/-- C.BEQZ and C.BNEZ. -/
def branchOffset : BitVec 9 :=
  word.extractLsb' 12 1 ++ word.extractLsb' 5 2 ++ word.extractLsb' 2 1 ++ word.extractLsb' 10 2 ++
    word.extractLsb' 3 2 ++ 0#1

/-! ### The parts of a halfword, as a core reads them -/

theorem extractLsb'_wide (low length : Nat) :
    (word.setWidth 32).extractLsb' low length = word.extractLsb' low length := by
  apply BitVec.eq_of_getLsbD_eq
  intro i inside
  simp only [BitVec.getLsbD_extractLsb', BitVec.getLsbD_setWidth]
  grind

end

/-- Reads bit fields, given by their highest and their lowest bit. -/
def Reader (bits : BitVec 32 → Nat → Nat → BitVec 32) : Prop :=
  ∀ (word : BitVec 16) {high low : Nat}, low ≤ high → high < 16 →
    bits (word.setWidth 32) high low = (word.extractLsb' low (high - low + 1)).setWidth 32

namespace Reader

variable {bits : BitVec 32 → Nat → Nat → BitVec 32} (reader : Reader bits) (word : BitVec 16)

include reader

theorem quadrant : bits (word.setWidth 32) 1 0 = (quadrant word).setWidth 32 :=
  reader word (by decide) (by decide)

theorem funct3 : bits (word.setWidth 32) 15 13 = (funct3 word).setWidth 32 :=
  reader word (by decide) (by decide)

theorem funct2 : bits (word.setWidth 32) 11 10 = (funct2 word).setWidth 32 :=
  reader word (by decide) (by decide)

theorem operation : bits (word.setWidth 32) 6 5 = (operation word).setWidth 32 :=
  reader word (by decide) (by decide)

theorem bit12 : bits (word.setWidth 32) 12 12 = (bit12 word).setWidth 32 :=
  reader word (by decide) (by decide)

theorem rd : bits (word.setWidth 32) 11 7 = (rd word).setWidth 32 :=
  reader word (by decide) (by decide)

theorem rs2 : bits (word.setWidth 32) 6 2 = (rs2 word).setWidth 32 :=
  reader word (by decide) (by decide)

theorem immediate6 :
    (bits (word.setWidth 32) 12 12 <<< 5) ||| bits (word.setWidth 32) 6 2 =
      (immediate6 word).setWidth 32 := by
  rw [reader word (by decide) (by decide), reader word (by decide) (by decide), BitVec.or_comm]
  exact (Fields.setWidth_field _ _).symm

theorem stackOffset :
    (bits (word.setWidth 32) 6 6 <<< 2) ||| (bits (word.setWidth 32) 5 5 <<< 3) |||
        (bits (word.setWidth 32) 12 11 <<< 4) ||| (bits (word.setWidth 32) 10 7 <<< 6) =
      (stackOffset word).setWidth 32 := by
  rw [reader word (by decide) (by decide), reader word (by decide) (by decide),
    reader word (by decide) (by decide), reader word (by decide) (by decide)]
  simp only [Halfword.stackOffset, Fields.setWidth_field, BitVec.shiftLeft_or_distrib,
    ← BitVec.shiftLeft_add, BitVec.or_assoc, BitVec.setWidth_zero, BitVec.zero_or]

theorem stackAdjustment :
    (bits (word.setWidth 32) 6 6 <<< 4) ||| (bits (word.setWidth 32) 2 2 <<< 5) |||
        (bits (word.setWidth 32) 5 5 <<< 6) ||| (bits (word.setWidth 32) 4 3 <<< 7) |||
        (bits (word.setWidth 32) 12 12 <<< 9) =
      (stackAdjustment word).setWidth 32 := by
  rw [reader word (by decide) (by decide), reader word (by decide) (by decide),
    reader word (by decide) (by decide), reader word (by decide) (by decide),
    reader word (by decide) (by decide)]
  simp only [Halfword.stackAdjustment, Fields.setWidth_field, BitVec.shiftLeft_or_distrib,
    ← BitVec.shiftLeft_add, BitVec.or_assoc, BitVec.setWidth_zero, BitVec.zero_or]

theorem wordOffset :
    (bits (word.setWidth 32) 6 6 <<< 2) ||| (bits (word.setWidth 32) 12 10 <<< 3) |||
        (bits (word.setWidth 32) 5 5 <<< 6) =
      (wordOffset word).setWidth 32 := by
  rw [reader word (by decide) (by decide), reader word (by decide) (by decide),
    reader word (by decide) (by decide)]
  simp only [Halfword.wordOffset, Fields.setWidth_field, BitVec.shiftLeft_or_distrib,
    ← BitVec.shiftLeft_add, BitVec.or_assoc, BitVec.setWidth_zero, BitVec.zero_or]

theorem doublewordOffset :
    (bits (word.setWidth 32) 12 10 <<< 3) ||| (bits (word.setWidth 32) 6 5 <<< 6) =
      (doublewordOffset word).setWidth 32 := by
  rw [reader word (by decide) (by decide), reader word (by decide) (by decide)]
  simp only [Halfword.doublewordOffset, Fields.setWidth_field, BitVec.shiftLeft_or_distrib,
    ← BitVec.shiftLeft_add, BitVec.setWidth_zero, BitVec.zero_or]

theorem stackWordLoad :
    (bits (word.setWidth 32) 6 4 <<< 2) ||| (bits (word.setWidth 32) 12 12 <<< 5) |||
        (bits (word.setWidth 32) 3 2 <<< 6) =
      (stackWordLoad word).setWidth 32 := by
  rw [reader word (by decide) (by decide), reader word (by decide) (by decide),
    reader word (by decide) (by decide)]
  simp only [Halfword.stackWordLoad, Fields.setWidth_field, BitVec.shiftLeft_or_distrib,
    ← BitVec.shiftLeft_add, BitVec.or_assoc, BitVec.setWidth_zero, BitVec.zero_or]

theorem stackDoublewordLoad :
    (bits (word.setWidth 32) 6 5 <<< 3) ||| (bits (word.setWidth 32) 12 12 <<< 5) |||
        (bits (word.setWidth 32) 4 2 <<< 6) =
      (stackDoublewordLoad word).setWidth 32 := by
  rw [reader word (by decide) (by decide), reader word (by decide) (by decide),
    reader word (by decide) (by decide)]
  simp only [Halfword.stackDoublewordLoad, Fields.setWidth_field, BitVec.shiftLeft_or_distrib,
    ← BitVec.shiftLeft_add, BitVec.or_assoc, BitVec.setWidth_zero, BitVec.zero_or]

theorem stackWordStore :
    (bits (word.setWidth 32) 12 9 <<< 2) ||| (bits (word.setWidth 32) 8 7 <<< 6) =
      (stackWordStore word).setWidth 32 := by
  rw [reader word (by decide) (by decide), reader word (by decide) (by decide)]
  simp only [Halfword.stackWordStore, Fields.setWidth_field, BitVec.shiftLeft_or_distrib,
    ← BitVec.shiftLeft_add, BitVec.setWidth_zero, BitVec.zero_or]

theorem stackDoublewordStore :
    (bits (word.setWidth 32) 12 10 <<< 3) ||| (bits (word.setWidth 32) 9 7 <<< 6) =
      (stackDoublewordStore word).setWidth 32 := by
  rw [reader word (by decide) (by decide), reader word (by decide) (by decide)]
  simp only [Halfword.stackDoublewordStore, Fields.setWidth_field, BitVec.shiftLeft_or_distrib,
    ← BitVec.shiftLeft_add, BitVec.setWidth_zero, BitVec.zero_or]

theorem jumpOffset :
    (bits (word.setWidth 32) 5 3 <<< 1) ||| (bits (word.setWidth 32) 11 11 <<< 4) |||
        (bits (word.setWidth 32) 2 2 <<< 5) ||| (bits (word.setWidth 32) 7 7 <<< 6) |||
        (bits (word.setWidth 32) 6 6 <<< 7) ||| (bits (word.setWidth 32) 10 9 <<< 8) |||
        (bits (word.setWidth 32) 8 8 <<< 10) ||| (bits (word.setWidth 32) 12 12 <<< 11) =
      (jumpOffset word).setWidth 32 := by
  rw [reader word (by decide) (by decide), reader word (by decide) (by decide),
    reader word (by decide) (by decide), reader word (by decide) (by decide),
    reader word (by decide) (by decide), reader word (by decide) (by decide),
    reader word (by decide) (by decide), reader word (by decide) (by decide)]
  simp only [Halfword.jumpOffset, Fields.setWidth_field, BitVec.shiftLeft_or_distrib,
    ← BitVec.shiftLeft_add, BitVec.or_assoc, BitVec.setWidth_zero, BitVec.zero_or]

theorem branchOffset :
    (bits (word.setWidth 32) 4 3 <<< 1) ||| (bits (word.setWidth 32) 11 10 <<< 3) |||
        (bits (word.setWidth 32) 2 2 <<< 5) ||| (bits (word.setWidth 32) 6 5 <<< 6) |||
        (bits (word.setWidth 32) 12 12 <<< 8) =
      (branchOffset word).setWidth 32 := by
  rw [reader word (by decide) (by decide), reader word (by decide) (by decide),
    reader word (by decide) (by decide), reader word (by decide) (by decide),
    reader word (by decide) (by decide)]
  simp only [Halfword.branchOffset, Fields.setWidth_field, BitVec.shiftLeft_or_distrib,
    ← BitVec.shiftLeft_add, BitVec.or_assoc, BitVec.setWidth_zero, BitVec.zero_or]

end Reader

/-! ### Fields, case by case -/

theorem funct3_cases (value : BitVec 3) : value = 0 ∨ value = 1 ∨ value = 2 ∨ value = 3 ∨
    value = 4 ∨ value = 5 ∨ value = 6 ∨ value = 7 := by
  revert value
  decide

theorem field2_cases (value : BitVec 2) : value = 0 ∨ value = 1 ∨ value = 2 ∨ value = 3 := by
  revert value
  decide

theorem bit_cases (value : BitVec 1) : value = 0 ∨ value = 1 := by
  revert value
  decide

theorem setWidth_eq_zero_iff {n m : Nat} (narrow : n ≤ m) (value : BitVec n) :
    value.setWidth m = 0 ↔ value = 0 := by
  constructor
  · intro zero
    have back := congrArg (BitVec.setWidth n) zero
    rw [BitVec.setWidth_setWidth_of_le _ narrow, BitVec.setWidth_eq] at back
    exact back.trans (BitVec.setWidth_zero _ _)
  · rintro rfl
    exact BitVec.setWidth_zero _ _

theorem signExtend_eq_zero_iff {n m : Nat} (narrow : n ≤ m) (value : BitVec n) :
    value.signExtend m = 0 ↔ value = 0 := by
  constructor
  · intro zero
    apply BitVec.eq_of_getLsbD_eq
    intro i inside
    have bit := congrArg (fun extended => BitVec.getLsbD extended i) zero
    simp only [BitVec.getLsbD_signExtend, inside, show i < m by omega, decide_true, Bool.true_and,
      if_true] at bit
    exact bit
  · rintro rfl
    apply BitVec.eq_of_getLsbD_eq
    intro i inside
    simp [BitVec.getLsbD_signExtend]

/-! ### The immediates in the 32-bit formats -/

theorem upperImmediate_eq {w : Nat} (value : BitVec 6) :
    value.signExtend w <<< 12 = (value ++ 0#12).signExtend w := by
  apply BitVec.eq_of_getLsbD_eq
  intro i inside
  simp only [BitVec.getLsbD_signExtend, BitVec.getLsbD_shiftLeft, BitVec.getLsbD_append,
    BitVec.msb_append, BitVec.getLsbD_zero]
  grind

theorem signed_inRange {n m w : Nat} (short : n ≤ m) (wide : m ≤ w) (value : BitVec n) :
    value.signExtend w = ((value.signExtend w).setWidth m).signExtend w := by
  have twice : value.signExtend w = (value.signExtend m).signExtend w := by
    apply BitVec.eq_of_getLsbD_eq
    intro i inside
    simp only [BitVec.getLsbD_signExtend, BitVec.msb_signExtend]
    grind
  rw [twice]
  exact Operands.signExtended wide _

theorem unsigned_inRange {n m w : Nat} (short : n < m) (wide : m ≤ w) (value : BitVec n) :
    value.setWidth w = ((value.setWidth w).setWidth m).signExtend w := by
  have sign : (value.setWidth m).msb = false := by
    rw [BitVec.msb_eq_getLsbD_last, BitVec.getLsbD_setWidth,
      BitVec.getLsbD_of_ge value (m - 1) (by omega), Bool.and_false]
  have twice : value.setWidth w = (value.setWidth m).signExtend w := by
    rw [BitVec.signExtend_eq_setWidth_of_msb_false sign, BitVec.setWidth_setWidth (by omega)]
  rw [twice]
  exact Operands.signExtended wide _

end RvEmulator.Halfword
