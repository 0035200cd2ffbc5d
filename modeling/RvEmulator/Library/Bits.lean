/-! Bit vectors bit by bit: parity through arithmetic, shifts and masks, two-bit
fields, and containment of masks. -/

namespace RvEmulator.Library

/-- The lowest bit is clear. -/
def BitEven (value : BitVec w) : Prop := value.getLsbD 0 = false

instance : Decidable (BitEven value) := inferInstanceAs (Decidable (_ = _))

namespace BitEven

theorem zero : BitEven (0#w) := by simp [BitEven]

theorem add {x y : BitVec w} (left : BitEven x) (right : BitEven y) : BitEven (x + y) := by
  unfold BitEven at *
  by_cases wide : 0 < w
  · simp [BitVec.getLsbD_add wide, left, right, BitVec.carry_zero]
  · exact BitVec.getLsbD_of_ge _ 0 (by omega)

theorem sub {x y : BitVec w} (left : BitEven x) (right : BitEven y) : BitEven (x - y) := by
  unfold BitEven at *
  by_cases wide : 0 < w
  · rw [BitVec.sub_eq_add_neg, BitVec.neg_eq_not_add, BitVec.getLsbD_add wide,
      BitVec.getLsbD_add wide, BitVec.getLsbD_not]
    simp only [left, right, BitVec.carry_zero, BitVec.getLsbD_one]
    simp [wide]
  · exact BitVec.getLsbD_of_ge _ 0 (by omega)

theorem and_left {x : BitVec w} (left : BitEven x) : BitEven (x &&& y) := by
  simp [BitEven, BitVec.getLsbD_and, show x.getLsbD 0 = false from left]

theorem and_right {x y : BitVec w} (right : BitEven y) : BitEven (x &&& y) := by
  simp [BitEven, BitVec.getLsbD_and, show y.getLsbD 0 = false from right]

theorem or_iff {x y : BitVec w} : BitEven (x ||| y) ↔ BitEven x ∧ BitEven y := by
  unfold BitEven
  rw [BitVec.getLsbD_or, Bool.or_eq_false_iff]

theorem xor {x y : BitVec w} (left : BitEven x) (right : BitEven y) : BitEven (x ^^^ y) := by
  simp [BitEven, BitVec.getLsbD_xor, show x.getLsbD 0 = false from left,
    show y.getLsbD 0 = false from right]

theorem shiftLeft (x : BitVec w) (positive : 0 < i) : BitEven (x <<< i) := by
  simp [BitEven, BitVec.getLsbD_shiftLeft, positive]

theorem setWidth {x : BitVec w} (even : BitEven x) : BitEven (x.setWidth v) := by
  simp [BitEven, BitVec.getLsbD_setWidth, show x.getLsbD 0 = false from even]

theorem mask_one {x : BitVec w} (wide : 0 < w) : BitEven x ↔ (x &&& 1#w) = 0#w := by
  constructor
  · intro even
    apply BitVec.eq_of_getLsbD_eq
    intro i _
    rw [BitVec.getLsbD_and, BitVec.getLsbD_one, BitVec.getLsbD_zero]
    by_cases first : i = 0
    · subst first
      rw [show x.getLsbD 0 = false from even, Bool.false_and]
    · simp [first]
  · intro masked
    have bit := congrArg (fun value => BitVec.getLsbD value 0) masked
    simpa [wide, BitEven] using bit

end BitEven

theorem getLsbD_three (w j : Nat) : (3#w).getLsbD j = (decide (j < w) && decide (j < 2)) := by
  rw [BitVec.getLsbD_ofNat, show 3 = 2 ^ 2 - 1 from rfl, Nat.testBit_two_pow_sub_one]

theorem getLsbD_twoBits (x : BitVec w) (s j : Nat) :
    ((x &&& (3#w <<< s)) >>> s).getLsbD j = (x.getLsbD (s + j) && decide (j < 2)) := by
  simp only [BitVec.getLsbD_ushiftRight, BitVec.getLsbD_and, BitVec.getLsbD_shiftLeft,
    getLsbD_three, Nat.add_sub_cancel_left]
  by_cases inside : s + j < w
  · simp only [inside, show j < w by omega, show ¬s + j < s by omega, decide_true, decide_false,
      Bool.not_false, Bool.true_and]
  · rw [BitVec.getLsbD_of_ge x (s + j) (by omega), Bool.false_and, Bool.false_and]

/-- A two-bit field as a number. -/
theorem twoBits (x : BitVec w) (s : Nat) :
    (x &&& (3#w <<< s)) >>> s =
      BitVec.ofNat w ((x.getLsbD (s + 1)).toNat * 2 + (x.getLsbD s).toNat) := by
  apply BitVec.eq_of_getLsbD_eq
  intro j inside
  rw [getLsbD_twoBits, BitVec.getLsbD_ofNat]
  match j with
  | 0 => cases x.getLsbD (s + 1) <;> cases x.getLsbD s <;> simp [Nat.testBit, inside]
  | 1 => cases x.getLsbD (s + 1) <;> cases x.getLsbD s <;> simp [Nat.testBit, inside]
  | j + 2 =>
    have small : ((x.getLsbD (s + 1)).toNat * 2 + (x.getLsbD s).toNat).testBit (j + 2) = false := by
      apply Nat.testBit_lt_two_pow
      have large : 2 ^ 2 ≤ 2 ^ (j + 2) := Nat.pow_le_pow_right (by decide) (by omega)
      cases x.getLsbD (s + 1) <;> cases x.getLsbD s <;> simp <;> omega
    simp [small]

/-- Every bit of `x` is a bit of `mask`. -/
def Within (x mask : BitVec w) : Prop := x &&& ~~~mask = 0#w

instance : Decidable (Within x mask) := inferInstanceAs (Decidable (_ = _))

theorem within_iff {x mask : BitVec w} :
    Within x mask ↔ ∀ i, x.getLsbD i = true → mask.getLsbD i = true := by
  constructor
  · intro within i set
    have bit := congrArg (fun value => BitVec.getLsbD value i) within
    simp only [BitVec.getLsbD_and, BitVec.getLsbD_not, BitVec.getLsbD_zero, set] at bit
    by_cases inside : i < w
    · simpa only [inside, decide_true, Bool.true_and, Bool.not_eq_false'] using bit
    · rw [BitVec.getLsbD_of_ge x i (by omega)] at set
      cases set
  · intro contained
    apply BitVec.eq_of_getLsbD_eq
    intro i _
    rw [BitVec.getLsbD_and, BitVec.getLsbD_not, BitVec.getLsbD_zero]
    cases set : x.getLsbD i with
    | false => rfl
    | true => simp only [contained i set, Bool.not_true, Bool.and_false]

namespace Within

theorem zero : Within (0#w) mask := by simp [Within]

theorem and (x mask : BitVec w) : Within (x &&& mask) mask := by
  rw [within_iff]
  intro i set
  rw [BitVec.getLsbD_and, Bool.and_eq_true] at set
  exact set.2

theorem trans {x inner outer : BitVec w} (first : Within x inner) (second : Within inner outer) :
    Within x outer := by
  rw [within_iff] at *
  intro i set
  exact second i (first i set)

/-- Replacing the bits of a mask keeps a word within any mask around both. -/
theorem replace {x y inner outer : BitVec w} (old : Within x outer) (mask : Within inner outer) :
    Within ((x &&& ~~~inner) ||| (y &&& inner)) outer := by
  rw [within_iff] at *
  intro i set
  rw [BitVec.getLsbD_or, BitVec.getLsbD_and, BitVec.getLsbD_and, Bool.or_eq_true,
    Bool.and_eq_true, Bool.and_eq_true] at set
  obtain ⟨kept, _⟩ | ⟨_, replaced⟩ := set
  · exact old i kept
  · exact mask i replaced

theorem self_xor (x mask : BitVec w) : Within (x ^^^ x) mask := by
  rw [BitVec.xor_self]
  exact zero

/-- Words that differ only inside a mask form an equivalence. -/
theorem xor_trans {x y z mask : BitVec w} (first : Within (y ^^^ x) mask)
    (second : Within (z ^^^ y) mask) : Within (z ^^^ x) mask := by
  rw [within_iff] at *
  intro i set
  rw [BitVec.getLsbD_xor] at set
  by_cases same : y.getLsbD i = x.getLsbD i
  · apply second i
    rw [BitVec.getLsbD_xor, same, set]
  · apply first i
    rw [BitVec.getLsbD_xor]
    cases left : y.getLsbD i <;> cases right : x.getLsbD i <;> simp_all

/-- Replacing the bits of a mask changes nothing else. -/
theorem xor_replace (x y mask : BitVec w) :
    Within (((x &&& ~~~mask) ||| (y &&& mask)) ^^^ x) mask := by
  rw [within_iff]
  intro i set
  rw [BitVec.getLsbD_xor, BitVec.getLsbD_or, BitVec.getLsbD_and, BitVec.getLsbD_and,
    BitVec.getLsbD_not] at set
  by_cases inside : i < w
  · revert set
    cases x.getLsbD i <;> cases y.getLsbD i <;> cases mask.getLsbD i <;> simp [inside]
  · rw [BitVec.getLsbD_of_ge x i (by omega), BitVec.getLsbD_of_ge y i (by omega)] at set
    cases set

end Within

/-- A mask is contained in a word if and only if the word has all its bits. -/
theorem and_eq_mask_iff {x mask : BitVec w} :
    x &&& mask = mask ↔ ∀ i, mask.getLsbD i = true → x.getLsbD i = true := by
  constructor
  · intro same i set
    have bit := congrArg (fun value => BitVec.getLsbD value i) same
    simp only [BitVec.getLsbD_and, set, Bool.and_true] at bit
    exact bit
  · intro contained
    apply BitVec.eq_of_getLsbD_eq
    intro i _
    rw [BitVec.getLsbD_and]
    cases set : mask.getLsbD i with
    | false => rw [Bool.and_false]
    | true => rw [contained i set, Bool.and_true]

/-! ### Sign extension -/

/-- The mask of the low bits. -/
theorem getLsbD_lowMask (n : Nat) {width : Nat} (narrow : width < n) (i : Nat) :
    ((1#n <<< width) - 1#n).getLsbD i = decide (i < width) := by
  have limit : 2 ^ width < 2 ^ n := Nat.pow_lt_pow_right (by decide) narrow
  have positive : 0 < 2 ^ width := Nat.two_pow_pos width
  have one : 1 < 2 ^ n := by omega
  have value : ((1#n <<< width) - 1#n).toNat = 2 ^ width - 1 := by
    have shifted : (1#n <<< width).toNat = 2 ^ width := by
      rw [BitVec.toNat_shiftLeft, BitVec.toNat_ofNat, Nat.mod_eq_of_lt one, Nat.one_shiftLeft,
        Nat.mod_eq_of_lt limit]
    rw [BitVec.toNat_sub_of_le, shifted, BitVec.toNat_ofNat, Nat.mod_eq_of_lt one]
    rw [BitVec.le_def, shifted, BitVec.toNat_ofNat, Nat.mod_eq_of_lt one]
    exact positive
  rw [← BitVec.testBit_toNat, value, Nat.testBit_two_pow_sub_one]

theorem getLsbD_neg_shift (n : Nat) {k : Nat} (narrow : k < n) (i : Nat) :
    (-(1#n <<< k)).getLsbD i = (decide (i < n) && decide (k ≤ i)) := by
  have same : -(1#n <<< k) = ~~~((1#n <<< k) - 1#n) := by
    rw [BitVec.not_eq_neg_add, BitVec.neg_sub, BitVec.sub_eq_add_neg, BitVec.add_assoc,
      BitVec.add_right_neg, BitVec.add_zero]
  rw [same, BitVec.getLsbD_not, getLsbD_lowMask n narrow, ← decide_not]
  simp only [Nat.not_lt]

/-- A field of a word, by a shift and a mask. -/
theorem shift_mask_eq {n width : Nat} (x : BitVec n) (low : Nat) (narrow : width < n) :
    (x >>> low) &&& ((1#n <<< width) - 1#n) = (x.extractLsb' low width).setWidth n := by
  apply BitVec.eq_of_getLsbD_eq
  intro i inside
  rw [BitVec.getLsbD_and, BitVec.getLsbD_ushiftRight, getLsbD_lowMask n narrow,
    BitVec.getLsbD_setWidth, BitVec.getLsbD_extractLsb', Bool.and_comm]
  simp [inside]

/-- Filling up with the sign bit extends the sign. -/
theorem fill_eq_signExtend {n width : Nat} (positive : 0 < width) (narrow : width < n)
    (x : BitVec n) :
    (if (x &&& ((1#n <<< width) - 1#n)) &&& (1#n <<< (width - 1)) ≠ 0#n then
      (x &&& ((1#n <<< width) - 1#n)) ||| ~~~((1#n <<< width) - 1#n)
      else x &&& ((1#n <<< width) - 1#n)) = (x.setWidth width).signExtend n := by
  have signBit : ∀ i < n, (1#n <<< (width - 1)).getLsbD i = decide (i = width - 1) := by
    intro i inside
    rw [BitVec.getLsbD_shiftLeft]
    simp [inside]
    grind
  have set : (x &&& ((1#n <<< width) - 1#n)) &&& (1#n <<< (width - 1)) ≠ 0#n ↔
      x.getLsbD (width - 1) = true := by
    rw [ne_eq, BitVec.eq_of_getLsbD_eq_iff]
    simp only [BitVec.getLsbD_and, getLsbD_lowMask n narrow, BitVec.getLsbD_zero]
    constructor
    · intro some
      cases clear : x.getLsbD (width - 1) with
      | true => rfl
      | false =>
        refine absurd (fun i inside => ?_) some
        rw [signBit i inside]
        grind
    · intro top none
      have bit := none (width - 1) (by omega)
      rw [signBit _ (by omega)] at bit
      grind
  apply BitVec.eq_of_getLsbD_eq
  intro i inside
  rw [BitVec.getLsbD_signExtend, BitVec.getLsbD_setWidth, BitVec.msb_eq_getLsbD_last,
    BitVec.getLsbD_setWidth]
  by_cases top : x.getLsbD (width - 1) = true
  · rw [if_pos (set.mpr top), BitVec.getLsbD_or, BitVec.getLsbD_and, BitVec.getLsbD_not,
      getLsbD_lowMask n narrow]
    grind
  · rw [if_neg (fun some => top (set.mp some)), BitVec.getLsbD_and, getLsbD_lowMask n narrow]
    grind

/-- Flipping the sign bit and taking it away extends the sign. -/
theorem flip_sub_eq_signExtend {n width : Nat} (positive : 0 < width) (narrow : width < n)
    (x : BitVec n) :
    ((x &&& ((1#n <<< width) - 1#n)) ^^^ (1#n <<< (width - 1))) - (1#n <<< (width - 1)) =
      (x.setWidth width).signExtend n := by
  have sign : ∀ i < n, (1#n <<< (width - 1)).getLsbD i = decide (i = width - 1) := by
    intro i inside
    rw [BitVec.getLsbD_shiftLeft]
    simp [inside]
    grind
  have flipped : ∀ i < n, ((x &&& ((1#n <<< width) - 1#n)) ^^^ (1#n <<< (width - 1))).getLsbD i =
      (decide (i < width) && (x.getLsbD i ^^ decide (i = width - 1))) := by
    intro i inside
    rw [BitVec.getLsbD_xor, BitVec.getLsbD_and, getLsbD_lowMask n narrow, sign i inside]
    by_cases small : i < width
    · simp [small]
    · simp [small, show i ≠ width - 1 by omega]
  have extended : ∀ i < n, ((x.setWidth width).signExtend n).getLsbD i =
      if i < width then x.getLsbD i else x.getLsbD (width - 1) := by
    intro i inside
    rw [BitVec.getLsbD_signExtend]
    simp [-BitVec.getLsbD_eq_getElem, inside, BitVec.msb_eq_getLsbD_last]
    grind
  have upper := getLsbD_neg_shift n (show width - 1 < n by omega)
  cases top : x.getLsbD (width - 1) with
  | true =>
    rw [BitVec.sub_eq_add_neg, BitVec.add_eq_or_of_and_eq_zero]
    · apply BitVec.eq_of_getLsbD_eq
      intro i inside
      rw [BitVec.getLsbD_or, flipped i inside, upper, extended i inside, top]
      grind
    · apply BitVec.eq_of_getLsbD_eq
      intro i inside
      rw [BitVec.getLsbD_and, flipped i inside, upper]
      grind
  | false =>
    rw [BitVec.sub_eq_iff_eq_add, BitVec.add_eq_or_of_and_eq_zero]
    · apply BitVec.eq_of_getLsbD_eq
      intro i inside
      rw [BitVec.getLsbD_or, flipped i inside, sign i inside, extended i inside, top]
      grind
    · apply BitVec.eq_of_getLsbD_eq
      intro i inside
      rw [BitVec.getLsbD_and, sign i inside, extended i inside, top]
      grind
/-- A high halfword does not reach the low two bits. -/
theorem lowBits_or_high (low second : BitVec 16) :
    (low.setWidth 32 ||| (second.setWidth 32 <<< 16)) &&& 0x3 = low.setWidth 32 &&& 0x3 := by
  apply BitVec.eq_of_getLsbD_eq
  intro i inside
  have three : ∀ i < 32, (0x3 : BitVec 32).getLsbD i = decide (i < 2) := by decide
  rw [BitVec.getLsbD_and, BitVec.getLsbD_and, BitVec.getLsbD_or, BitVec.getLsbD_shiftLeft,
    three i inside]
  by_cases small : i < 2
  · simp [show i < 16 by omega]
  · simp [small]

end RvEmulator.Library
