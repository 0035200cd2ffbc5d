import Mathlib.Algebra.Order.Field.Power
import Mathlib.Algebra.Order.Ring.Rat
import Mathlib.Order.WithBot
import Mathlib.Tactic.Linarith
import Mathlib.Tactic.Positivity
import Mathlib.Tactic.Ring
import RvEmulator.Library.Alignment

/-! Binary floating-point formats: the value of a pattern of bits, and how the order of the
values is the order of patterns as signs and magnitudes. -/

namespace RvEmulator.Library

/-- From the highest bit down: the sign, the exponent and the fraction. -/
structure BinaryFormat (w : Nat) where
  exponentBits : Nat
  fractionBits : Nat
  width : w = exponentBits + fractionBits + 1

namespace BinaryFormat

variable (format : BinaryFormat w) (pattern : BitVec w)

def negative (pattern : BitVec w) : Bool := pattern.msb

def exponent : Nat := pattern.toNat / 2 ^ format.fractionBits % 2 ^ format.exponentBits

def fraction : Nat := pattern.toNat % 2 ^ format.fractionBits

/-- The greatest exponent is that of infinities and of NaNs. -/
def Special : Prop := format.exponent pattern = 2 ^ format.exponentBits - 1

def Nan : Prop := format.Special pattern ∧ format.fraction pattern ≠ 0

/-- The highest bit of the fraction is clear. -/
def SignalingNan : Prop :=
  format.Nan pattern ∧ pattern.getLsbD (format.fractionBits - 1) = false

instance : Decidable (format.Special pattern) := inferInstanceAs (Decidable (_ = _))

instance : Decidable (format.Nan pattern) := inferInstanceAs (Decidable (_ ∧ _))

instance : Decidable (format.SignalingNan pattern) := inferInstanceAs (Decidable (_ ∧ _))

def bias : Int := 2 ^ (format.exponentBits - 1) - 1

/-- The absolute value of a finite pattern. The lowest exponent is that of zeros and of
subnormal numbers. -/
def amount : Rat :=
  if format.exponent pattern = 0 then
    format.fraction pattern * 2 ^ (1 - format.bias - format.fractionBits)
  else
    (2 ^ format.fractionBits + format.fraction pattern) *
      2 ^ (format.exponent pattern - format.bias - format.fractionBits)

/-- The value of a pattern that is not a NaN. -/
def value : WithBot (WithTop Rat) :=
  if format.Special pattern then if negative pattern then ⊥ else ⊤
  else ((if negative pattern then -format.amount pattern else format.amount pattern : Rat) :
    WithTop Rat)

/-- The order of values, with the negative zero below the positive zero. -/
def Below (first second : BitVec w) : Prop :=
  format.value first < format.value second ∨
    format.value first = format.value second ∧ negative first = true ∧ negative second = false

/-- A pattern without its sign. -/
def magnitude : Nat := pattern.toNat % 2 ^ (format.exponentBits + format.fractionBits)

/-- The order of patterns as signs and magnitudes. -/
def SignedBelow (first second : BitVec w) : Prop :=
  if negative first ≠ negative second then negative first = true
  else if negative first = true then format.magnitude second < format.magnitude first
  else format.magnitude first < format.magnitude second

instance (first second : BitVec w) : Decidable (format.SignedBelow first second) := by
  unfold SignedBelow
  infer_instance

/-! ### Magnitudes -/

variable {format} {pattern first second : BitVec w}

theorem magnitude_eq : format.magnitude pattern =
    format.fraction pattern + 2 ^ format.fractionBits * format.exponent pattern := by
  rw [magnitude, Nat.add_comm, Nat.pow_add, Nat.mod_mul]
  rfl

theorem fraction_lt : format.fraction pattern < 2 ^ format.fractionBits :=
  Nat.mod_lt _ (Nat.two_pow_pos _)

theorem exponent_lt : format.exponent pattern < 2 ^ format.exponentBits :=
  Nat.mod_lt _ (Nat.two_pow_pos _)

theorem exponent_eq : format.exponent pattern =
    format.magnitude pattern / 2 ^ format.fractionBits := by
  rw [magnitude_eq, Nat.add_mul_div_left _ _ (Nat.two_pow_pos _),
    Nat.div_eq_of_lt fraction_lt, Nat.zero_add]

theorem fraction_eq : format.fraction pattern =
    format.magnitude pattern % 2 ^ format.fractionBits := by
  rw [magnitude_eq, Nat.add_mul_mod_self_left, Nat.mod_eq_of_lt fraction_lt]

/-- The magnitude of infinities. -/
def infinity (format : BinaryFormat w) : Nat :=
  2 ^ format.fractionBits * (2 ^ format.exponentBits - 1)

theorem special_iff : format.Special pattern ↔ format.infinity ≤ format.magnitude pattern := by
  have bounded : format.exponent pattern < 2 ^ format.exponentBits := exponent_lt
  unfold Special infinity
  rw [exponent_eq, Nat.mul_comm] at *
  rw [← Nat.le_div_iff_mul_le (Nat.two_pow_pos _)]
  omega

theorem magnitude_of_special (special : format.Special pattern) :
    format.magnitude pattern = format.fraction pattern + format.infinity := by
  rw [magnitude_eq, special]
  rfl

theorem nan_iff : format.Nan pattern ↔ format.infinity < format.magnitude pattern := by
  constructor
  · rintro ⟨special, nonzero⟩
    have sum := magnitude_of_special special
    omega
  · intro above
    have special := special_iff.mpr (Nat.le_of_lt above)
    have sum := magnitude_of_special special
    exact ⟨special, by omega⟩

/-- Only an infinity is special without being a NaN. -/
theorem special_iff_of_number (number : ¬format.Nan pattern) :
    format.Special pattern ↔ format.magnitude pattern = format.infinity := by
  rw [nan_iff] at number
  rw [special_iff]
  omega

theorem toNat_eq (format : BinaryFormat w) (pattern : BitVec w) : pattern.toNat =
    format.magnitude pattern +
      2 ^ (format.exponentBits + format.fractionBits) * (negative pattern).toNat := by
  have wide : 2 ^ w = 2 * 2 ^ (format.exponentBits + format.fractionBits) :=
    (congrArg (2 ^ ·) format.width).trans Nat.pow_succ'
  have bounded := pattern.isLt
  have last : w - 1 = format.exponentBits + format.fractionBits := by
    have width := format.width
    omega
  rw [magnitude, negative, BitVec.msb_eq_decide, last]
  by_cases high : 2 ^ (format.exponentBits + format.fractionBits) ≤ pattern.toNat
  · rw [decide_eq_true high, Bool.toNat_true, Nat.mod_eq_sub_mod high, Nat.mod_eq_of_lt (by omega)]
    omega
  · rw [decide_eq_false high, Bool.toNat_false, Nat.mod_eq_of_lt (by omega)]
    omega

theorem eq_of_magnitude (signs : negative first = negative second)
    (magnitudes : format.magnitude first = format.magnitude second) : first = second := by
  apply BitVec.eq_of_toNat_eq
  rw [toNat_eq format, magnitudes, signs, ← toNat_eq format]

/-! ### The order of amounts -/

/-- The amount of a magnitude, in units of the least subnormal number. -/
def scaled (fractionBits magnitude : Nat) : Nat :=
  if magnitude / 2 ^ fractionBits = 0 then magnitude % 2 ^ fractionBits
  else (2 ^ fractionBits + magnitude % 2 ^ fractionBits) *
    2 ^ (magnitude / 2 ^ fractionBits - 1)

/-- The next magnitude has a greater amount, also over the end of an exponent. -/
theorem scaled_lt_succ (bits magnitude : Nat) :
    scaled bits magnitude < scaled bits (magnitude + 1) := by
  have positive := Nat.two_pow_pos bits
  have split := Nat.mod_add_div magnitude (2 ^ bits)
  have small := Nat.mod_lt magnitude positive
  unfold scaled
  generalize magnitude % 2 ^ bits = fraction at *
  generalize magnitude / 2 ^ bits = exponent at *
  rcases Nat.lt_or_eq_of_le (Nat.succ_le_of_lt small) with within | last
  · have quotient : (magnitude + 1) / 2 ^ bits = exponent := by
      rw [← split, Nat.add_right_comm, Nat.add_mul_div_left _ _ positive,
        Nat.div_eq_of_lt within, Nat.zero_add]
    have rest : (magnitude + 1) % 2 ^ bits = fraction + 1 := by
      rw [← split, Nat.add_right_comm, Nat.add_mul_mod_self_left, Nat.mod_eq_of_lt within]
    rw [quotient, rest]
    split
    · omega
    · exact Nat.mul_lt_mul_of_pos_right (by omega) (Nat.two_pow_pos _)
  · -- the fraction is full, and the exponent goes up
    have next : magnitude + 1 = 2 ^ bits * (exponent + 1) := by
      rw [Nat.mul_succ]
      omega
    have quotient : (magnitude + 1) / 2 ^ bits = exponent + 1 := by
      rw [next, Nat.mul_div_cancel_left _ positive]
    have rest : (magnitude + 1) % 2 ^ bits = 0 := by rw [next, Nat.mul_mod_right]
    rw [quotient, rest, if_neg (Nat.succ_ne_zero _), Nat.add_sub_cancel, Nat.add_zero]
    split
    · rename_i zero
      rw [zero, Nat.pow_zero]
      omega
    · rename_i nonzero
      have double : 2 ^ exponent = 2 * 2 ^ (exponent - 1) := by
        rw [← Nat.pow_succ']
        congr 1
        omega
      rw [double, ← Nat.mul_assoc]
      exact Nat.mul_lt_mul_of_pos_right (by omega) (Nat.two_pow_pos _)

theorem scaled_strictMono (bits : Nat) : StrictMono (scaled bits) :=
  strictMono_nat_of_lt_succ (scaled_lt_succ bits)

theorem amount_eq : format.amount pattern =
    scaled format.fractionBits (format.magnitude pattern) *
      2 ^ (1 - format.bias - format.fractionBits) := by
  unfold amount scaled
  rw [← exponent_eq, ← fraction_eq]
  split
  · rfl
  · rename_i nonzero
    have exponents : (format.exponent pattern : Int) - format.bias - format.fractionBits =
        ((format.exponent pattern - 1 : Nat) : Int) +
          (1 - format.bias - format.fractionBits) := by
      omega
    rw [exponents, zpow_add₀ two_ne_zero, zpow_natCast]
    push_cast
    ring

theorem amount_nonneg : 0 ≤ format.amount pattern := by
  rw [amount_eq]
  positivity

theorem amount_lt_iff : format.amount first < format.amount second ↔
    format.magnitude first < format.magnitude second := by
  rw [amount_eq, amount_eq, mul_lt_mul_iff_left₀ (by positivity), Nat.cast_lt,
    (scaled_strictMono _).lt_iff_lt]

/-! ### The order of values -/

theorem value_of_finite (finite : ¬format.Special pattern) : format.value pattern =
    ((if negative pattern then -format.amount pattern else format.amount pattern : Rat) :
      WithTop Rat) := if_neg finite

theorem value_of_special (special : format.Special pattern) :
    format.value pattern = if negative pattern then ⊥ else ⊤ := if_pos special

/-- A smaller magnitude than that of a number is finite. -/
theorem finite_of_lt (number : ¬format.Nan second)
    (less : format.magnitude first < format.magnitude second) : ¬format.Special first := by
  rw [nan_iff] at number
  rw [special_iff]
  omega

theorem value_lt_of_positive (left : negative first = false) (right : negative second = false)
    (number : ¬format.Nan second) (less : format.magnitude first < format.magnitude second) :
    format.value first < format.value second := by
  rw [value_of_finite (finite_of_lt number less), left]
  by_cases special : format.Special second
  · rw [value_of_special special, right]
    exact WithBot.coe_lt_coe.mpr (WithTop.coe_lt_top _)
  · rw [value_of_finite special, right]
    exact WithBot.coe_lt_coe.mpr (WithTop.coe_lt_coe.mpr (amount_lt_iff.mpr less))

theorem value_lt_of_negative (left : negative first = true) (right : negative second = true)
    (number : ¬format.Nan first) (less : format.magnitude second < format.magnitude first) :
    format.value first < format.value second := by
  rw [value_of_finite (finite_of_lt number less), right]
  by_cases special : format.Special first
  · rw [value_of_special special, left]
    exact WithBot.bot_lt_coe _
  · rw [value_of_finite special, left]
    exact WithBot.coe_lt_coe.mpr (WithTop.coe_lt_coe.mpr (neg_lt_neg (amount_lt_iff.mpr less)))

theorem value_le_zero (sign : negative pattern = true) : format.value pattern ≤ 0 := by
  by_cases special : format.Special pattern
  · rw [value_of_special special, sign]
    exact bot_le
  · rw [value_of_finite special, sign]
    exact WithBot.coe_le_coe.mpr (WithTop.coe_le_coe.mpr (neg_nonpos.mpr amount_nonneg))

theorem value_nonneg (sign : negative pattern = false) : 0 ≤ format.value pattern := by
  by_cases special : format.Special pattern
  · rw [value_of_special special, sign]
    exact le_top
  · rw [value_of_finite special, sign]
    exact WithBot.coe_le_coe.mpr (WithTop.coe_le_coe.mpr amount_nonneg)

/-- Patterns of one sign are apart in value as they are in magnitude. -/
theorem value_lt_iff (signs : negative first = negative second) (left : ¬format.Nan first)
    (right : ¬format.Nan second) : format.value first < format.value second ↔
      if negative first = true then format.magnitude second < format.magnitude first
      else format.magnitude first < format.magnitude second := by
  have apart : ∀ {one other : BitVec w}, negative one = negative other →
      ¬format.Nan one → ¬format.Nan other →
      (if negative one = true then format.magnitude other < format.magnitude one
        else format.magnitude one < format.magnitude other) →
      format.value one < format.value other := by
    intro one other same number another less
    cases sign : negative one with
    | true =>
      rw [if_pos sign] at less
      exact value_lt_of_negative sign (same.symm.trans sign) number less
    | false =>
      rw [if_neg (ne_true_of_eq_false sign)] at less
      exact value_lt_of_positive sign (same.symm.trans sign) another less
  refine ⟨fun less => ?_, apart signs left right⟩
  by_contra refused
  by_cases same : format.magnitude first = format.magnitude second
  · rw [eq_of_magnitude signs same] at less
    exact lt_irrefl _ less
  · refine lt_asymm less (apart signs.symm right left ?_)
    rw [← signs]
    split_ifs at refused ⊢ <;> omega

/-- Comparing signs and magnitudes is comparing values. -/
theorem below_iff (left : ¬format.Nan first) (right : ¬format.Nan second) :
    format.Below first second ↔ format.SignedBelow first second := by
  unfold Below SignedBelow
  by_cases signs : negative first = negative second
  · rw [if_neg (not_not.mpr signs), value_lt_iff signs left right]
    refine or_iff_left ?_
    rintro ⟨_, negated, plain⟩
    rw [signs, plain] at negated
    cases negated
  · rw [if_pos signs]
    cases sign : negative first with
    | true =>
      have other : negative second = false := by
        rw [sign] at signs
        exact Bool.eq_false_iff.mpr (Ne.symm signs)
      have ordered : format.value first ≤ format.value second :=
        (value_le_zero sign).trans (value_nonneg other)
      refine iff_of_true ?_ rfl
      exact (lt_or_eq_of_le ordered).imp id fun same => ⟨same, rfl, other⟩
    | false =>
      have other : negative second = true := by
        rw [sign] at signs
        exact eq_true_of_ne_false (Ne.symm signs)
      have ordered : format.value second ≤ format.value first :=
        (value_le_zero other).trans (value_nonneg sign)
      refine iff_of_false ?_ Bool.false_ne_true
      rintro (less | ⟨_, negated, _⟩)
      · exact absurd less (not_lt.mpr ordered)
      · cases negated

/-! ### Signs and magnitudes -/

theorem signedBelow_asymm (below : format.SignedBelow first second) :
    ¬format.SignedBelow second first := by
  unfold SignedBelow at *
  cases left : negative first <;> cases right : negative second <;>
    simp [left, right] at below ⊢ <;> omega

theorem signedBelow_irrefl (pattern : BitVec w) : ¬format.SignedBelow pattern pattern :=
  fun below => signedBelow_asymm below below

/-- Different patterns are ordered. -/
theorem signedBelow_total (different : first ≠ second) (above : ¬format.SignedBelow first second) :
    format.SignedBelow second first := by
  have apart : negative first = negative second →
      format.magnitude first ≠ format.magnitude second :=
    fun signs magnitudes => different (eq_of_magnitude signs magnitudes)
  unfold SignedBelow at *
  cases left : negative first <;> cases right : negative second <;>
    simp [left, right] at apart above ⊢ <;> omega

theorem eq_zero_of_magnitude (sign : negative pattern = false)
    (nothing : format.magnitude pattern = 0) : pattern = 0 := by
  have none : format.magnitude 0 = 0 := by simp [magnitude]
  exact eq_of_magnitude (sign.trans BitVec.msb_zero.symm) (nothing.trans none.symm)

/-- Of two zeros, a disjunction is the lower and a conjunction is the higher. -/
theorem zeros_eq (left : format.magnitude first = 0) (right : format.magnitude second = 0) :
    first ||| second = (if format.SignedBelow first second then first else second) ∧
      first &&& second = (if format.SignedBelow first second then second else first) := by
  cases signs : negative first with
  | false =>
    have zero := eq_zero_of_magnitude signs left
    have above : ¬format.SignedBelow first second := by
      unfold SignedBelow
      rw [signs, left, right]
      split <;> simp
    rw [if_neg above, if_neg above, zero]
    exact ⟨BitVec.zero_or, BitVec.zero_and⟩
  | true =>
    cases other : negative second with
    | false =>
      have zero := eq_zero_of_magnitude other right
      have below : format.SignedBelow first second := by
        unfold SignedBelow
        rw [signs, other, if_pos (by decide)]
      rw [if_pos below, if_pos below, zero]
      exact ⟨BitVec.or_zero, BitVec.and_zero⟩
    | true =>
      have same : first = second :=
        eq_of_magnitude (signs.trans other.symm) (left.trans right.symm)
      subst same
      rw [if_neg (signedBelow_irrefl _)]
      exact ⟨BitVec.or_self, BitVec.and_self⟩

/-! ### Masks -/

/-- The words that code masks the fields with. -/
structure Masks (format : BinaryFormat w) where
  exponent : BitVec w
  fraction : BitVec w
  magnitude : BitVec w
  fraction_ones : fraction.toNat = 2 ^ format.fractionBits - 1
  magnitude_ones : magnitude.toNat = 2 ^ (format.exponentBits + format.fractionBits) - 1
  exponent_eq : exponent = magnitude &&& ~~~fraction

variable (masks : format.Masks)

theorem Masks.toNat_magnitude (pattern : BitVec w) :
    (pattern &&& masks.magnitude).toNat = format.magnitude pattern :=
  toNat_and_mask pattern masks.magnitude_ones

theorem Masks.toNat_fraction (pattern : BitVec w) :
    (pattern &&& masks.fraction).toNat = format.fraction pattern :=
  toNat_and_mask pattern masks.fraction_ones

theorem Masks.toNat_exponent (pattern : BitVec w) :
    (pattern &&& masks.exponent).toNat =
      format.exponent pattern * 2 ^ format.fractionBits := by
  rw [masks.exponent_eq, ← BitVec.and_assoc, toNat_and_not_mask _ masks.fraction_ones,
    masks.toNat_magnitude, ← BinaryFormat.exponent_eq]

theorem Masks.special_iff (pattern : BitVec w) :
    pattern &&& masks.exponent = masks.exponent ↔ format.Special pattern := by
  have ones : masks.exponent.toNat =
      (2 ^ format.exponentBits - 1) * 2 ^ format.fractionBits := by
    rw [masks.exponent_eq, toNat_and_not_mask _ masks.fraction_ones, masks.magnitude_ones,
      Nat.pow_add, Nat.mul_comm (2 ^ _), Nat.mul_sub_div 0 _ _ (by positivity), Nat.zero_div]
  rw [← BitVec.toNat_inj, masks.toNat_exponent, ones,
    Nat.mul_left_inj (Nat.two_pow_pos _).ne']
  rfl

theorem Masks.fraction_iff (pattern : BitVec w) :
    pattern &&& masks.fraction = 0 ↔ format.fraction pattern = 0 := by
  rw [← BitVec.toNat_inj, masks.toNat_fraction]
  rfl

theorem Masks.magnitude_iff (pattern : BitVec w) :
    pattern &&& masks.magnitude = 0 ↔ format.magnitude pattern = 0 := by
  rw [← BitVec.toNat_inj, masks.toNat_magnitude]
  rfl

theorem Masks.lt_iff (first second : BitVec w) :
    first &&& masks.magnitude < second &&& masks.magnitude ↔
      format.magnitude first < format.magnitude second := by
  rw [BitVec.lt_def, masks.toNat_magnitude, masks.toNat_magnitude]

/-- The sign, shifted down to the lowest place. -/
theorem shift_ne_zero (pattern : BitVec w) :
    (pattern >>> (w - 1) != 0) = negative pattern := by
  rw [negative, BitVec.msb_eq_decide, Bool.eq_iff_iff, bne_iff_ne, decide_eq_true_iff, ne_eq,
    ← BitVec.toNat_inj, BitVec.toNat_ushiftRight, Nat.shiftRight_eq_div_pow]
  exact (Nat.div_eq_zero_iff_lt (Nat.two_pow_pos _)).not.trans Nat.not_lt

end BinaryFormat

end RvEmulator.Library
