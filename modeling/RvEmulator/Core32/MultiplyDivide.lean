import RvEmulator.Core32.Pending
import RvEmulator.Core64.MultiplyDivide

/-! Multiplication and division of the 32-bit core are exact, and no C++ operator is used
where it is undefined. -/

namespace RvEmulator.Core32

open Library

theorem asSignedWord_eq (value : Xlen) : asSignedWord value = value.signExtend 64 := by
  have sign : value &&& 0x80000000 = 0 ↔ value.msb = false := by
    have bit : flag value (1#32 <<< 31) = value.msb := flag_shift value 31
    rw [← bit, flag, bne_eq_false_iff_eq]
    exact Iff.rfl
  unfold asSignedWord
  by_cases positive : value.msb = false
  · rw [if_pos (sign.mpr positive), BitVec.signExtend_eq_setWidth_of_msb_false positive]
  · rw [if_neg fun zero => positive (sign.mp zero)]
    have negative : value.msb = true := by simpa using positive
    have large : 2 ^ 31 ≤ value.toNat := by simpa [BitVec.msb_eq_decide] using negative
    have bound := value.isLt
    apply BitVec.eq_of_toNat_eq
    rw [BitVec.toNat_signExtend, negative, BitVec.toNat_sub, BitVec.toNat_setWidth]
    have shifted : (1#64 <<< 32).toNat = 2 ^ 32 := by decide
    rw [shifted, Nat.mod_eq_of_lt (by omega)]
    simp only [if_true]
    omega

theorem toInt_asSignedWord (value : Xlen) : (asSignedWord value).toInt = value.toInt := by
  rw [asSignedWord_eq, BitVec.toInt_signExtend_of_le (by decide)]

/-- Half of a product that fits. -/
theorem highWord_of_fits {product : BitVec 64} {exact : Int} (fits : product.toInt = exact) :
    highWord product = BitVec.ofInt 32 (exact / 2 ^ 32) := by
  have signed := BitVec.toInt_eq_toNat_cond product
  rw [fits] at signed
  have bound := product.isLt
  apply BitVec.eq_of_toNat_eq
  unfold highWord
  rw [BitVec.toNat_setWidth, BitVec.toNat_ushiftRight, BitVec.toNat_ofInt,
    Nat.shiftRight_eq_div_pow]
  split at signed <;> omega

/-- Products of words fit into 64 bits, also where one of them is unsigned. -/
theorem product_bounds (lhs rhs : Xlen) :
    (-2 ^ 63 ≤ lhs.toInt * rhs.toInt ∧ lhs.toInt * rhs.toInt < 2 ^ 63) ∧
      -2 ^ 63 ≤ lhs.toInt * rhs.toNat ∧ lhs.toInt * rhs.toNat < 2 ^ 63 := by
  have left := lhs.le_toInt
  have leftAbove := lhs.toInt_lt
  have right := rhs.le_toInt
  have rightAbove := rhs.toInt_lt
  have unsigned := rhs.isLt
  generalize lhs.toInt = a at *
  generalize rhs.toInt = b at *
  generalize rhs.toNat = c at *
  norm_num at left leftAbove right rightAbove
  refine ⟨⟨?_, ?_⟩, ?_, ?_⟩
  all_goals nlinarith

theorem toInt_mul_of_fits {lhs rhs : BitVec 64}
    (fits : -2 ^ 63 ≤ lhs.toInt * rhs.toInt ∧ lhs.toInt * rhs.toInt < 2 ^ 63) :
    (lhs * rhs).toInt = lhs.toInt * rhs.toInt := by
  rw [BitVec.toInt_mul]
  apply Int.bmod_eq_of_le <;> omega

theorem multiplyHighSigned_eq (lhs rhs : Xlen) :
    multiplyHighSigned lhs rhs = BitVec.ofInt 32 (lhs.toInt * rhs.toInt / 2 ^ 32) := by
  apply highWord_of_fits
  rw [← toInt_asSignedWord lhs, ← toInt_asSignedWord rhs]
  apply toInt_mul_of_fits
  rw [toInt_asSignedWord, toInt_asSignedWord]
  exact (product_bounds lhs rhs).1

theorem toInt_unsignedWord (value : Xlen) : (value.setWidth 64).toInt = value.toNat := by
  have bound := value.isLt
  have same : (value.setWidth 64).toNat = value.toNat := by
    rw [BitVec.toNat_setWidth]
    omega
  rw [BitVec.toInt_eq_toNat_of_lt (by omega), same]

theorem multiplyHighSignedUnsigned_eq (lhs rhs : Xlen) :
    multiplyHighSignedUnsigned lhs rhs = BitVec.ofInt 32 (lhs.toInt * rhs.toNat / 2 ^ 32) := by
  apply highWord_of_fits
  rw [← toInt_asSignedWord lhs, ← toInt_unsignedWord rhs]
  apply toInt_mul_of_fits
  rw [toInt_asSignedWord, toInt_unsignedWord]
  exact (product_bounds lhs rhs).2

theorem toNat_product (lhs rhs : Xlen) :
    (lhs.setWidth 64 * rhs.setWidth 64).toNat = lhs.toNat * rhs.toNat := by
  have widened (value : Xlen) : (value.setWidth 64).toNat = value.toNat := by
    have bound := value.isLt
    rw [BitVec.toNat_setWidth]
    omega
  rw [Core64.toNat_mul_words, widened, widened]
  · exact (widened lhs).symm ▸ lhs.isLt
  · exact (widened rhs).symm ▸ rhs.isLt

/-! ### Division -/

/-- The low word of a number, as an integer modulo `2 ^ 32`. -/
theorem lowWord_eq (value : BitVec 64) : value.setWidth 32 = BitVec.ofInt 32 value.toInt := by
  have signed := BitVec.toInt_eq_toNat_cond value
  have bound := value.isLt
  apply BitVec.eq_of_toNat_eq
  rw [BitVec.toNat_setWidth, BitVec.toNat_ofInt]
  split at signed <;> omega

/-- A word is never the least 64-bit number. -/
theorem asSignedWord_ne_least (value : Xlen) : asSignedWord value ≠ BitVec.intMin 64 := by
  intro least
  have same := toInt_asSignedWord value
  have bound := value.le_toInt
  rw [least, show (BitVec.intMin 64).toInt = -2 ^ 63 by decide] at same
  norm_num at bound
  omega

/-- The quotient of two words fits. -/
theorem words_divisible (lhs : Xlen) {rhs : Xlen} (nonzero : rhs ≠ 0) :
    Core64.Divisible (asSignedWord lhs) (asSignedWord rhs) := by
  refine Core64.divisible_of_fits _ _ (fun zero => ?_) fun least => asSignedWord_ne_least lhs least.1
  have same := toInt_asSignedWord rhs
  rw [zero] at same
  exact nonzero (BitVec.eq_of_toInt_eq same.symm)

theorem least_word : (0x80000000 : Xlen) = BitVec.intMin 32 := by decide

theorem ones_word : (0xFFFFFFFF : Xlen) = BitVec.allOnes 32 := by decide

theorem divideSigned_eq (dividend divisor : Xlen) :
    divideSigned dividend divisor = Core64.divide dividend divisor := by
  rw [Core64.divide_eq]
  unfold divideSigned
  rw [least_word, ones_word]
  split
  · rfl
  split
  · rfl
  rename_i fits
  have exact : ((asSignedWord dividend).sdiv (asSignedWord divisor)).toInt =
      dividend.toInt.tdiv divisor.toInt := by
    rw [Core64.toInt_sdiv_of_fits _ _ fun least => asSignedWord_ne_least dividend least.1,
      toInt_asSignedWord, toInt_asSignedWord]
  rw [lowWord_eq, exact, ← Core64.toInt_sdiv_of_fits dividend divisor fits, BitVec.ofInt_toInt]

theorem remainderSigned_eq (dividend divisor : Xlen) :
    remainderSigned dividend divisor = Core64.remainder dividend divisor := by
  rw [Core64.remainder_eq]
  unfold remainderSigned
  rw [least_word, ones_word]
  split
  · rfl
  split
  · rfl
  rw [lowWord_eq, BitVec.toInt_srem, toInt_asSignedWord, toInt_asSignedWord, ← BitVec.toInt_srem,
    BitVec.ofInt_toInt]

/-! ### The M extension -/

theorem mul_eq (lhs rhs : Xlen) :
    (lhs.setWidth 64 * rhs.setWidth 64).setWidth 32 = BitVec.ofNat 32 (lhs.toNat * rhs.toNat) := by
  apply BitVec.eq_of_toNat_eq
  rw [BitVec.toNat_setWidth, toNat_product, BitVec.toNat_ofNat]

theorem mulhu_eq (lhs rhs : Xlen) :
    highWord (lhs.setWidth 64 * rhs.setWidth 64) =
      BitVec.ofNat 32 (lhs.toNat * rhs.toNat / 2 ^ 32) := by
  apply BitVec.eq_of_toNat_eq
  unfold highWord
  rw [BitVec.toNat_setWidth, BitVec.toNat_ushiftRight, toNat_product, BitVec.toNat_ofNat,
    Nat.shiftRight_eq_div_pow]

theorem lowWord_append (high low : BitVec 32) : (high ++ low).setWidth 32 = low := by
  apply BitVec.eq_of_getLsbD_eq
  intro i inside
  rw [BitVec.getLsbD_setWidth, BitVec.getLsbD_append]
  simp only [inside, decide_true, Bool.true_and, if_true]

/-- The word operations of the 64-bit core, on operands with any upper halves. -/
theorem onWords_append (operation : BitVec 32 → BitVec 32 → BitVec 32)
    (left right lhs rhs : BitVec 32) :
    Core64.onWords operation (left ++ lhs) (right ++ rhs) =
      (operation lhs rhs).signExtend 64 := by
  rw [Core64.onWords_eq, lowWord_append, lowWord_append]

/-- The products are those of the integers and fit where C++ computes them, the quotients and
remainders are those of the ISA and defined where C++ divides, and the word operations of the
64-bit core agree. -/
theorem word_arithmetic_exact (decoded : DecodedInstruction) (rs1 rs2 : Xlen) :
    let value kind := integerValue { decoded with kind } rs1 rs2
    (value .mul = some (.ofNat 32 (rs1.toNat * rs2.toNat)) ∧
      value .mulhu = some (.ofNat 32 (rs1.toNat * rs2.toNat / 2 ^ 32)) ∧
      value .mulh = some (.ofInt 32 (rs1.toInt * rs2.toInt / 2 ^ 32)) ∧
      value .mulhsu = some (.ofInt 32 (rs1.toInt * rs2.toNat / 2 ^ 32))) ∧
    (∃ quotient rest, value .div = some quotient ∧ value .rem = some rest ∧
      Core64.SignedDivision rs1 rs2 quotient rest) ∧
    (∃ quotient rest, value .divu = some quotient ∧ value .remu = some rest ∧
      Core64.UnsignedDivision rs1 rs2 quotient rest) ∧
    ((-2 ^ 63 ≤ rs1.toInt * rs2.toInt ∧ rs1.toInt * rs2.toInt < 2 ^ 63) ∧
      (-2 ^ 63 ≤ rs1.toInt * rs2.toNat ∧ rs1.toInt * rs2.toNat < 2 ^ 63) ∧
      (rs2 ≠ 0 → Core64.Divisible (asSignedWord rs1) (asSignedWord rs2))) ∧
    ∀ (pc nextPc immediate : BitVec 64) (left right : BitVec 32),
      let other kind :=
        Core64.integerValue kind pc nextPc (left ++ rs1) (right ++ rs2) immediate
      other .mulw = (value .mul).map (·.signExtend 64) ∧
        other .divw = (value .div).map (·.signExtend 64) ∧
        other .remw = (value .rem).map (·.signExtend 64) ∧
        other .divuw = (value .divu).map (·.signExtend 64) ∧
        other .remuw = (value .remu).map (·.signExtend 64) := by
  intro value
  refine ⟨⟨?_, ?_, ?_, ?_⟩, ?_, ?_, ?_, ?_⟩
  · exact congrArg some (mul_eq rs1 rs2)
  · exact congrArg some (mulhu_eq rs1 rs2)
  · exact congrArg some (multiplyHighSigned_eq rs1 rs2)
  · exact congrArg some (multiplyHighSignedUnsigned_eq rs1 rs2)
  · exact ⟨_, _, congrArg some (divideSigned_eq rs1 rs2), congrArg some (remainderSigned_eq rs1 rs2),
      Core64.signedDivision rs1 rs2 (by decide)⟩
  · exact ⟨_, _, rfl, rfl, Core64.unsignedDivision rs1 rs2⟩
  · exact ⟨(product_bounds rs1 rs2).1, (product_bounds rs1 rs2).2, words_divisible rs1⟩
  · intro pc nextPc immediate left right other
    refine ⟨?_, ?_, ?_, ?_, ?_⟩
    · refine congrArg some ((onWords_append (· * ·) left right rs1 rs2).trans ?_)
      rw [mul_eq, BitVec.ofNat_mul, BitVec.ofNat_toNat, BitVec.ofNat_toNat, BitVec.setWidth_eq,
        BitVec.setWidth_eq]
    · exact congrArg some ((onWords_append _ left right rs1 rs2).trans
        (by rw [divideSigned_eq]))
    · exact congrArg some ((onWords_append _ left right rs1 rs2).trans
        (by rw [remainderSigned_eq]))
    · exact congrArg some (onWords_append _ left right rs1 rs2)
    · exact congrArg some (onWords_append _ left right rs1 rs2)

end RvEmulator.Core32
