import RvEmulator.Core64.Integer
import Mathlib.Tactic.Ring
import Mathlib.Tactic.Linarith

/-! Multiplication and division (the M extension) are exact. -/

namespace RvEmulator.Core64

/-! ### High products -/

/-- The four partial products of two numbers, with the carry that they leave. -/
theorem carry_split (low cross1 cross2 high : Nat) :
    high + cross1 / 2 ^ 32 + cross2 / 2 ^ 32 +
        (low / 2 ^ 32 + cross1 % 2 ^ 32 + cross2 % 2 ^ 32) / 2 ^ 32 =
      (high * 2 ^ 64 + (cross1 + cross2) * 2 ^ 32 + low) / 2 ^ 64 := by
  omega

/-- A product of two words fits. -/
theorem toNat_mul_words {lhs rhs : BitVec 64} (left : lhs.toNat < 2 ^ 32)
    (right : rhs.toNat < 2 ^ 32) : (lhs * rhs).toNat = lhs.toNat * rhs.toNat := by
  rw [BitVec.toNat_mul]
  apply Nat.mod_eq_of_lt
  calc lhs.toNat * rhs.toNat < 2 ^ 32 * 2 ^ 32 := Nat.mul_lt_mul'' left right
    _ = 2 ^ 64 := by norm_num

theorem toNat_low (value : BitVec 64) :
    ((value.setWidth 32).setWidth 64).toNat = value.toNat % 2 ^ 32 := by
  rw [BitVec.toNat_setWidth, BitVec.toNat_setWidth]
  omega

theorem toNat_high (value : BitVec 64) : (value >>> 32).toNat = value.toNat / 2 ^ 32 := by
  rw [BitVec.toNat_ushiftRight, Nat.shiftRight_eq_div_pow]

theorem multiplyHighUnsigned_eq (lhs rhs : BitVec 64) :
    multiplyHighUnsigned lhs rhs = BitVec.ofNat 64 (lhs.toNat * rhs.toNat / 2 ^ 64) := by
  have lowBound : ∀ value : BitVec 64, ((value.setWidth 32).setWidth 64).toNat < 2 ^ 32 := by
    intro value
    rw [toNat_low]
    exact Nat.mod_lt _ (by norm_num)
  have highBound : ∀ value : BitVec 64, (value >>> 32).toNat < 2 ^ 32 := by
    intro value
    rw [toNat_high]
    omega
  have low := toNat_mul_words (lowBound lhs) (lowBound rhs)
  have cross1 := toNat_mul_words (lowBound lhs) (highBound rhs)
  have cross2 := toNat_mul_words (highBound lhs) (lowBound rhs)
  have high := toNat_mul_words (highBound lhs) (highBound rhs)
  -- The product of the whole values, from the partial products.
  have whole : lhs.toNat * rhs.toNat =
      (lhs >>> 32 * rhs >>> 32).toNat * 2 ^ 64 +
        (((lhs.setWidth 32).setWidth 64 * rhs >>> 32).toNat +
          (lhs >>> 32 * (rhs.setWidth 32).setWidth 64).toNat) * 2 ^ 32 +
        ((lhs.setWidth 32).setWidth 64 * (rhs.setWidth 32).setWidth 64).toNat := by
    rw [low, cross1, cross2, high]
    simp only [toNat_low, toNat_high]
    have left := Nat.div_add_mod lhs.toNat (2 ^ 32)
    have right := Nat.div_add_mod rhs.toNat (2 ^ 32)
    generalize lhs.toNat / 2 ^ 32 = leftHigh at *
    generalize lhs.toNat % 2 ^ 32 = leftLow at *
    generalize rhs.toNat / 2 ^ 32 = rightHigh at *
    generalize rhs.toNat % 2 ^ 32 = rightLow at *
    rw [← left, ← right]
    ring
  rw [whole, ← carry_split]
  apply BitVec.eq_of_toNat_eq
  unfold multiplyHighUnsigned
  dsimp only
  generalize (lhs.setWidth 32).setWidth 64 * (rhs.setWidth 32).setWidth 64 = first
  generalize (lhs.setWidth 32).setWidth 64 * rhs >>> 32 = second
  generalize lhs >>> 32 * (rhs.setWidth 32).setWidth 64 = third
  simp only [BitVec.toNat_add, toNat_low, toNat_high, BitVec.toNat_ofNat]
  omega

/-- The integer that `value` stands for, with its sign taken from a multiple of `2 ^ 64`. -/
theorem toInt_eq_sub (value : BitVec 64) :
    value.toInt = value.toNat - (if value >>> 63 ≠ 0 then 1 else 0) * 2 ^ 64 := by
  have sign : value >>> 63 ≠ 0 ↔ 2 ^ 63 ≤ value.toNat := by
    rw [ne_eq, ← BitVec.toNat_inj, BitVec.toNat_ushiftRight, Nat.shiftRight_eq_div_pow]
    have bound := value.isLt
    simp only [BitVec.ofNat_eq_ofNat, BitVec.toNat_ofNat, Nat.zero_mod]
    omega
  rw [BitVec.toInt_eq_toNat_cond]
  by_cases negative : value >>> 63 ≠ 0
  · have above := sign.mp negative
    rw [if_pos negative, if_neg (by omega)]
    norm_num
  · have below : ¬2 ^ 63 ≤ value.toNat := fun above => negative (sign.mpr above)
    rw [if_neg negative, if_pos (by omega)]
    norm_num

theorem ofInt_toNat {w : Nat} (value : BitVec w) : BitVec.ofInt w value.toNat = value := by
  rw [BitVec.ofInt_natCast, BitVec.ofNat_toNat, BitVec.setWidth_eq]

theorem ofInt_sub {w : Nat} (lhs rhs : Int) :
    BitVec.ofInt w (lhs - rhs) = BitVec.ofInt w lhs - BitVec.ofInt w rhs := by
  rw [Int.sub_eq_add_neg, BitVec.ofInt_add, BitVec.ofInt_neg, BitVec.sub_eq_add_neg]

/-- Signs correct the high product of the magnitudes. -/
theorem high_of_signs (lhs rhs : BitVec 64) (left right : Int) :
    BitVec.ofInt 64 ((lhs.toNat - left * 2 ^ 64) * (rhs.toNat - right * 2 ^ 64) / 2 ^ 64) =
      multiplyHighUnsigned lhs rhs - BitVec.ofInt 64 left * rhs - BitVec.ofInt 64 right * lhs := by
  have expanded : ((lhs.toNat : Int) - left * 2 ^ 64) * (rhs.toNat - right * 2 ^ 64) =
      lhs.toNat * rhs.toNat +
        (left * right * 2 ^ 64 - left * rhs.toNat - right * lhs.toNat) * 2 ^ 64 := by ring
  have wraps : BitVec.ofInt 64 (left * right * 2 ^ 64) = 0#64 := by
    rw [BitVec.ofInt_mul]
    have zero : BitVec.ofInt 64 (2 ^ 64) = 0#64 := by decide
    rw [zero, BitVec.mul_zero]
  rw [expanded, Int.add_mul_ediv_right _ _ (by norm_num), BitVec.ofInt_add, ofInt_sub, ofInt_sub,
    BitVec.ofInt_mul left, BitVec.ofInt_mul right, wraps, ofInt_toNat, ofInt_toNat,
    multiplyHighUnsigned_eq]
  have high : BitVec.ofInt 64 ((lhs.toNat : Int) * rhs.toNat / 2 ^ 64) =
      BitVec.ofNat 64 (lhs.toNat * rhs.toNat / 2 ^ 64) := by
    rw [← BitVec.ofInt_natCast]
    norm_num
  rw [high, BitVec.zero_sub, BitVec.sub_eq_add_neg, ← BitVec.add_assoc, ← BitVec.sub_eq_add_neg,
    ← BitVec.sub_eq_add_neg]

theorem sub_of_sign {condition : Prop} [Decidable condition] (result value : BitVec 64) :
    result - BitVec.ofInt 64 (if condition then 1 else 0) * value =
      if condition then result - value else result := by
  split <;> simp

theorem multiplyHighSigned_eq (lhs rhs : BitVec 64) :
    multiplyHighSigned lhs rhs = BitVec.ofInt 64 (lhs.toInt * rhs.toInt / 2 ^ 64) := by
  rw [toInt_eq_sub lhs, toInt_eq_sub rhs, high_of_signs, sub_of_sign, sub_of_sign]
  rfl

theorem multiplyHighSignedUnsigned_eq (lhs rhs : BitVec 64) :
    multiplyHighSignedUnsigned lhs rhs = BitVec.ofInt 64 (lhs.toInt * rhs.toNat / 2 ^ 64) := by
  have unsigned : (rhs.toNat : Int) = rhs.toNat - 0 * 2 ^ 64 := by ring
  rw [toInt_eq_sub lhs, unsigned, high_of_signs, sub_of_sign]
  simp [multiplyHighSignedUnsigned]

/-! ### Quotients and remainders -/

/-- A quotient and a remainder, truncated towards zero, with the results that the ISA fixes
for zero and for an overflow. -/
structure SignedDivision {w : Nat} (lhs rhs quotient remainder : BitVec w) : Prop where
  sum : lhs = quotient * rhs + remainder
  byZero : rhs = 0 → quotient = BitVec.allOnes w ∧ remainder = lhs
  overflow : lhs = BitVec.intMin w → rhs = BitVec.allOnes w → quotient = lhs ∧ remainder = 0
  exact : rhs ≠ 0 → ¬(lhs = BitVec.intMin w ∧ rhs = BitVec.allOnes w) →
    quotient.toInt = lhs.toInt.tdiv rhs.toInt ∧ remainder.toInt = lhs.toInt.tmod rhs.toInt

structure UnsignedDivision {w : Nat} (lhs rhs quotient remainder : BitVec w) : Prop where
  sum : lhs = quotient * rhs + remainder
  byZero : rhs = 0 → quotient = BitVec.allOnes w ∧ remainder = lhs
  exact : rhs ≠ 0 → quotient.toNat = lhs.toNat / rhs.toNat ∧
    remainder.toNat = lhs.toNat % rhs.toNat

section

variable {w : Nat} (lhs rhs : BitVec w)

theorem divide_eq : divide lhs rhs =
    if rhs = 0 then BitVec.allOnes w
    else if lhs = BitVec.intMin w ∧ rhs = BitVec.allOnes w then lhs else lhs.sdiv rhs := by
  rw [BitVec.intMin, BitVec.twoPow_eq]
  rfl

theorem remainder_eq : remainder lhs rhs =
    if rhs = 0 then lhs
    else if lhs = BitVec.intMin w ∧ rhs = BitVec.allOnes w then 0 else lhs.srem rhs := by
  rw [BitVec.intMin, BitVec.twoPow_eq]
  rfl

theorem toInt_sdiv_of_fits (fits : ¬(lhs = BitVec.intMin w ∧ rhs = BitVec.allOnes w)) :
    (lhs.sdiv rhs).toInt = lhs.toInt.tdiv rhs.toInt := by
  apply BitVec.toInt_sdiv_of_ne_or_ne
  rw [BitVec.neg_one_eq_allOnes]
  exact not_and_or.mp fits

/-- A quotient and a remainder that are exact add up. -/
theorem eq_of_tdiv {quotient rest : BitVec w} (divided : quotient.toInt = lhs.toInt.tdiv rhs.toInt)
    (remains : rest.toInt = lhs.toInt.tmod rhs.toInt) : lhs = quotient * rhs + rest := by
  have sum : quotient.toInt * rhs.toInt + rest.toInt = lhs.toInt := by
    rw [divided, remains, Int.mul_comm]
    exact Int.mul_tdiv_add_tmod _ _
  calc lhs = BitVec.ofInt w lhs.toInt := (BitVec.ofInt_toInt).symm
    _ = BitVec.ofInt w (quotient.toInt * rhs.toInt + rest.toInt) := by rw [sum]
    _ = quotient * rhs + rest := by
      rw [BitVec.ofInt_add, BitVec.ofInt_mul, BitVec.ofInt_toInt, BitVec.ofInt_toInt,
        BitVec.ofInt_toInt]

theorem signedDivision (positive : 0 < w) :
    SignedDivision lhs rhs (divide lhs rhs) (remainder lhs rhs) := by
  rw [divide_eq, remainder_eq]
  by_cases zero : rhs = 0
  · rw [if_pos zero, if_pos zero]
    refine ⟨?_, fun _ => ⟨rfl, rfl⟩, fun _ ones => ?_, fun nonzero => absurd zero nonzero⟩
    · rw [zero]
      simp
    · have impossible := congrArg BitVec.toNat (ones.symm.trans zero)
      have large : 1 < 2 ^ w := Nat.one_lt_two_pow (Nat.pos_iff_ne_zero.mp positive)
      rw [BitVec.toNat_allOnes] at impossible
      simp at impossible
      omega
  rw [if_neg zero, if_neg zero]
  by_cases overflow : lhs = BitVec.intMin w ∧ rhs = BitVec.allOnes w
  · rw [if_pos overflow, if_pos overflow]
    refine ⟨?_, fun none => absurd none zero, fun _ _ => ⟨rfl, rfl⟩,
      fun _ fits => absurd overflow fits⟩
    rw [overflow.1, overflow.2, ← BitVec.neg_one_eq_allOnes, BitVec.mul_neg]
    simp
  · rw [if_neg overflow, if_neg overflow]
    have divided := toInt_sdiv_of_fits lhs rhs overflow
    have remains := BitVec.toInt_srem lhs rhs
    exact ⟨eq_of_tdiv lhs rhs divided remains, fun none => absurd none zero,
      fun least ones => absurd ⟨least, ones⟩ overflow, fun _ _ => ⟨divided, remains⟩⟩

theorem unsignedDivision :
    UnsignedDivision lhs rhs (divideUnsigned lhs rhs) (remainderUnsigned lhs rhs) := by
  unfold divideUnsigned remainderUnsigned
  by_cases zero : rhs = 0
  · rw [if_pos zero, if_pos zero]
    refine ⟨?_, fun _ => ⟨rfl, rfl⟩, fun nonzero => absurd zero nonzero⟩
    rw [zero]
    simp
  · rw [if_neg zero, if_neg zero]
    refine ⟨?_, fun none => absurd none zero, fun _ => ⟨rfl, rfl⟩⟩
    apply BitVec.eq_of_toNat_eq
    have sum : (lhs.udiv rhs).toNat * rhs.toNat + (lhs.umod rhs).toNat = lhs.toNat :=
      Nat.div_add_mod' _ _
    rw [BitVec.toNat_add, BitVec.toNat_mul, Nat.mod_add_mod, sum, Nat.mod_eq_of_lt lhs.isLt]

/-! ### Undefined operations -/

/-- Whether `/` and `%` of signed integers are defined: the divisor is not zero, and the
quotient fits. -/
def Divisible (lhs rhs : BitVec w) : Prop :=
  rhs.toInt ≠ 0 ∧ -2 ^ (w - 1) ≤ lhs.toInt.tdiv rhs.toInt ∧
    lhs.toInt.tdiv rhs.toInt < 2 ^ (w - 1)

instance : Decidable (Divisible lhs rhs) := inferInstanceAs (Decidable (_ ∧ _))

/-- The arms of a signed division, given the operator that they use; `none` where the
operator is undefined. -/
def divideArm (atZero atOverflow : BitVec w) (operator : Int → Int → Int) : Option (BitVec w) :=
  if rhs = 0 then some atZero
  else if lhs = 1#w <<< (w - 1) ∧ rhs = BitVec.allOnes w then some atOverflow
  else if Divisible lhs rhs then some (.ofInt w (operator lhs.toInt rhs.toInt)) else none

def unsignedArm (atZero : BitVec w) (operator : Nat → Nat → Nat) : Option (BitVec w) :=
  if rhs = 0 then some atZero
  else if rhs.toNat = 0 then none else some (.ofNat w (operator lhs.toNat rhs.toNat))

theorem divisible_of_fits (nonzero : rhs ≠ 0)
    (fits : ¬(lhs = BitVec.intMin w ∧ rhs = BitVec.allOnes w)) : Divisible lhs rhs := by
  refine ⟨fun zero => nonzero (BitVec.eq_of_toInt_eq (zero.trans BitVec.toInt_zero.symm)), ?_⟩
  rw [← toInt_sdiv_of_fits lhs rhs fits]
  exact ⟨BitVec.le_toInt _, BitVec.toInt_lt⟩

theorem divideArm_eq (atZero atOverflow result : BitVec w)
    {operator : Int → Int → Int}
    (exact : ¬(lhs = BitVec.intMin w ∧ rhs = BitVec.allOnes w) →
      result.toInt = operator lhs.toInt rhs.toInt) :
    divideArm lhs rhs atZero atOverflow operator =
      some (if rhs = 0 then atZero
        else if lhs = BitVec.intMin w ∧ rhs = BitVec.allOnes w then atOverflow else result) := by
  have least : 1#w <<< (w - 1) = BitVec.intMin w := by rw [BitVec.intMin, BitVec.twoPow_eq]
  unfold divideArm
  rw [least]
  split
  · rfl
  rename_i nonzero
  split
  · rfl
  rename_i fits
  rw [if_pos (divisible_of_fits lhs rhs nonzero fits), ← exact fits, BitVec.ofInt_toInt]

theorem divideArm_tdiv :
    divideArm lhs rhs (BitVec.allOnes w) lhs Int.tdiv = some (divide lhs rhs) := by
  rw [divideArm_eq lhs rhs _ _ _ (toInt_sdiv_of_fits lhs rhs), divide_eq]

theorem divideArm_tmod : divideArm lhs rhs lhs 0 Int.tmod = some (remainder lhs rhs) := by
  rw [divideArm_eq lhs rhs _ _ _ fun _ => BitVec.toInt_srem lhs rhs, remainder_eq]

theorem unsignedArm_eq (atZero result : BitVec w) {operator : Nat → Nat → Nat}
    (exact : result.toNat = operator lhs.toNat rhs.toNat) :
    unsignedArm lhs rhs atZero operator = some (if rhs = 0 then atZero else result) := by
  unfold unsignedArm
  split
  · rfl
  · rename_i nonzero
    have divisor : rhs.toNat ≠ 0 := fun zero => nonzero (BitVec.eq_of_toNat_eq (by simpa using zero))
    rw [if_neg divisor, ← exact, BitVec.ofNat_toNat, BitVec.setWidth_eq]

theorem unsignedArm_div :
    unsignedArm lhs rhs (BitVec.allOnes w) (· / ·) = some (divideUnsigned lhs rhs) :=
  unsignedArm_eq lhs rhs _ (lhs.udiv rhs) rfl

theorem unsignedArm_mod : unsignedArm lhs rhs lhs (· % ·) = some (remainderUnsigned lhs rhs) :=
  unsignedArm_eq lhs rhs _ (lhs.umod rhs) rfl

end

def extendWord (value : BitVec 32) : BitVec 64 := signExtendWord (value.setWidth 64)

/-- The arms that divide, as they are evaluated. -/
def divisionValue (kind : InstructionKind) (rs1 rs2 : BitVec 64) : Option (BitVec 64) :=
  let word1 : BitVec 32 := rs1.setWidth 32
  let word2 : BitVec 32 := rs2.setWidth 32
  match kind with
  | .div => divideArm rs1 rs2 (BitVec.allOnes 64) rs1 Int.tdiv
  | .rem => divideArm rs1 rs2 rs1 0 Int.tmod
  | .divu => unsignedArm rs1 rs2 (BitVec.allOnes 64) (· / ·)
  | .remu => unsignedArm rs1 rs2 rs1 (· % ·)
  | .divw => (divideArm word1 word2 (BitVec.allOnes 32) word1 Int.tdiv).map extendWord
  | .remw => (divideArm word1 word2 word1 0 Int.tmod).map extendWord
  | .divuw => (unsignedArm word1 word2 (BitVec.allOnes 32) (· / ·)).map extendWord
  | .remuw => (unsignedArm word1 word2 word1 (· % ·)).map extendWord
  | _ => none

def divisionKinds : List InstructionKind :=
  [.div, .rem, .divu, .remu, .divw, .remw, .divuw, .remuw]

theorem divisionValue_eq (pc nextPc rs1 rs2 immediate : BitVec 64) :
    ∀ kind ∈ divisionKinds,
      divisionValue kind rs1 rs2 = integerValue kind pc nextPc rs1 rs2 immediate := by
  intro kind member
  simp only [divisionKinds, List.mem_cons, List.not_mem_nil, or_false] at member
  obtain rfl | rfl | rfl | rfl | rfl | rfl | rfl | rfl := member
  · exact divideArm_tdiv rs1 rs2
  · exact divideArm_tmod rs1 rs2
  · exact unsignedArm_div rs1 rs2
  · exact unsignedArm_mod rs1 rs2
  · exact congrArg (Option.map extendWord) (divideArm_tdiv (rs1.setWidth 32) (rs2.setWidth 32))
  · exact congrArg (Option.map extendWord) (divideArm_tmod (rs1.setWidth 32) (rs2.setWidth 32))
  · exact congrArg (Option.map extendWord) (unsignedArm_div (rs1.setWidth 32) (rs2.setWidth 32))
  · exact congrArg (Option.map extendWord) (unsignedArm_mod (rs1.setWidth 32) (rs2.setWidth 32))

/-! ### The M extension -/

theorem onWords_eq (operation : BitVec 32 → BitVec 32 → BitVec 32) (lhs rhs : BitVec 64) :
    onWords operation lhs rhs =
      (operation (lhs.setWidth 32) (rhs.setWidth 32)).signExtend 64 := by
  rw [onWords, signExtendWord_eq, BitVec.setWidth_setWidth_of_le _ (by decide), BitVec.setWidth_eq]

theorem mul_words (lhs rhs : BitVec 64) :
    lhs.setWidth 32 * rhs.setWidth 32 = BitVec.ofNat 32 (lhs.toNat * rhs.toNat) := by
  apply BitVec.eq_of_toNat_eq
  rw [BitVec.toNat_mul, BitVec.toNat_setWidth, BitVec.toNat_setWidth, BitVec.toNat_ofNat,
    ← Nat.mul_mod]

/-- The products are those of the integers, the quotients and remainders those of the ISA,
and no operator is used where it is undefined. -/
theorem multiply_divide_exact (pc nextPc rs1 rs2 immediate : BitVec 64) :
    let value kind := integerValue kind pc nextPc rs1 rs2 immediate
    (value .mul = some (.ofNat 64 (rs1.toNat * rs2.toNat)) ∧
      value .mulw = some ((BitVec.ofNat 32 (rs1.toNat * rs2.toNat)).signExtend 64) ∧
      value .mulhu = some (.ofNat 64 (rs1.toNat * rs2.toNat / 2 ^ 64)) ∧
      value .mulh = some (.ofInt 64 (rs1.toInt * rs2.toInt / 2 ^ 64)) ∧
      value .mulhsu = some (.ofInt 64 (rs1.toInt * rs2.toNat / 2 ^ 64))) ∧
    (∃ quotient rest, value .div = some quotient ∧ value .rem = some rest ∧
      SignedDivision rs1 rs2 quotient rest) ∧
    (∃ quotient rest, value .divu = some quotient ∧ value .remu = some rest ∧
      UnsignedDivision rs1 rs2 quotient rest) ∧
    (∃ quotient rest : BitVec 32, value .divw = some (quotient.signExtend 64) ∧
      value .remw = some (rest.signExtend 64) ∧
      SignedDivision (rs1.setWidth 32) (rs2.setWidth 32) quotient rest) ∧
    (∃ quotient rest : BitVec 32, value .divuw = some (quotient.signExtend 64) ∧
      value .remuw = some (rest.signExtend 64) ∧
      UnsignedDivision (rs1.setWidth 32) (rs2.setWidth 32) quotient rest) ∧
    ∀ kind ∈ divisionKinds, (divisionValue kind rs1 rs2).isSome ∧
      divisionValue kind rs1 rs2 = value kind := by
  intro value
  refine ⟨⟨?_, ?_, ?_, ?_, ?_⟩, ?_, ?_, ?_, ?_, ?_⟩
  · exact congrArg some (by rw [BitVec.ofNat_mul]; simp)
  · exact congrArg some (by rw [onWords_eq, mul_words])
  · exact congrArg some (multiplyHighUnsigned_eq rs1 rs2)
  · exact congrArg some (multiplyHighSigned_eq rs1 rs2)
  · exact congrArg some (multiplyHighSignedUnsigned_eq rs1 rs2)
  · exact ⟨_, _, rfl, rfl, signedDivision rs1 rs2 (by decide)⟩
  · exact ⟨_, _, rfl, rfl, unsignedDivision rs1 rs2⟩
  · exact ⟨_, _, congrArg some (onWords_eq _ _ _), congrArg some (onWords_eq _ _ _),
      signedDivision _ _ (by decide)⟩
  · exact ⟨_, _, congrArg some (onWords_eq _ _ _), congrArg some (onWords_eq _ _ _),
      unsignedDivision _ _⟩
  · intro kind member
    have same := divisionValue_eq pc nextPc rs1 rs2 immediate kind member
    refine ⟨?_, same⟩
    rw [same]
    simp only [divisionKinds, List.mem_cons, List.not_mem_nil, or_false] at member
    obtain rfl | rfl | rfl | rfl | rfl | rfl | rfl | rfl := member <;> rfl

end RvEmulator.Core64
