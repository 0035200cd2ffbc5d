import RvEmulator.Common.Types
import RvEmulator.Core64.Floating
import RvEmulator.Library.BinaryFloat

/-! FMIN and FMAX: the comparison of patterns as integers picks the operand with the smaller or
the larger value. -/

namespace RvEmulator.Core64

open Library BinaryFormat Floating

/-! ### Formats -/

def binary32 : BinaryFormat 32 where
  exponentBits := 8
  fractionBits := 23
  width := rfl

def binary64 : BinaryFormat 64 where
  exponentBits := 11
  fractionBits := 52
  width := rfl

def masks32 : binary32.Masks where
  exponent := 0x7F800000
  fraction := 0x007FFFFF
  magnitude := 0x7FFFFFFF
  fraction_ones := rfl
  magnitude_ones := rfl
  exponent_eq := rfl

def masks64 : binary64.Masks where
  exponent := 0x7FF0000000000000
  fraction := 0x000FFFFFFFFFFFFF
  magnitude := 0x7FFFFFFFFFFFFFFF
  fraction_ones := rfl
  magnitude_ones := rfl
  exponent_eq := rfl

/-- Tests of patterns that are right for a format. -/
structure Tests (format : BinaryFormat w) (isNan isSignaling : BitVec w → Bool)
    (less : BitVec w → BitVec w → Bool) (mask : BitVec w) : Prop where
  nan : ∀ pattern, isNan pattern = true ↔ format.Nan pattern
  signaling : ∀ pattern, isSignaling pattern = true ↔ format.SignalingNan pattern
  less : ∀ first second, less first second = true ↔ format.SignedBelow first second
  zero : ∀ pattern, pattern &&& mask = 0 ↔ format.magnitude pattern = 0

theorem nan_of_masks {format : BinaryFormat w} (masks : format.Masks) (pattern : BitVec w) :
    ((pattern &&& masks.exponent) == masks.exponent &&
        (pattern &&& masks.fraction) != 0) = true ↔
      format.Nan pattern := by
  rw [Bool.and_eq_true, beq_iff_eq, bne_iff_ne, masks.special_iff, ne_eq, masks.fraction_iff]
  rfl

/-- The test for a clear bit, of a pattern that is a NaN. -/
theorem signaling_of_masks {format : BinaryFormat w} {isNan : Bool} {pattern : BitVec w}
    (nan : isNan = true ↔ format.Nan pattern) :
    (isNan && (pattern &&& 1#w <<< (format.fractionBits - 1)) == 0) = true ↔
      format.SignalingNan pattern := by
  have clear : pattern &&& 1#w <<< (format.fractionBits - 1) = 0 ↔
      pattern.getLsbD (format.fractionBits - 1) = false := by
    rw [← flag_shift, flag, bne_eq_false_iff_eq]
  rw [Bool.and_eq_true, nan, beq_iff_eq, clear]
  rfl

theorem less_of_masks {format : BinaryFormat w} (masks : format.Masks) (first second : BitVec w) :
    (let firstNegative := first >>> (w - 1) != 0
      let secondNegative := second >>> (w - 1) != 0
      if firstNegative != secondNegative then firstNegative
      else if firstNegative then decide (first &&& masks.magnitude > second &&& masks.magnitude)
      else decide (first &&& masks.magnitude < second &&& masks.magnitude)) = true ↔
      format.SignedBelow first second := by
  dsimp only
  rw [shift_ne_zero, shift_ne_zero]
  unfold SignedBelow
  simp only [gt_iff_lt, masks.lt_iff]
  cases negative first <;> cases negative second <;> simp

theorem tests32 : Tests binary32 isNan32 isSignalingNan32 less32 0x7FFFFFFF where
  nan := nan_of_masks masks32
  signaling pattern := signaling_of_masks (nan_of_masks masks32 pattern)
  less := less_of_masks masks32
  zero := masks32.magnitude_iff

theorem tests64 : Tests binary64 isNan64 isSignalingNan64 less64 0x7FFFFFFFFFFFFFFF where
  nan := nan_of_masks masks64
  signaling pattern := signaling_of_masks (nan_of_masks masks64 pattern)
  less := less_of_masks masks64
  zero := masks64.magnitude_iff

/-! ### Results -/

/-- `floating_min_max` on patterns of one format, with its tests. -/
def minMax (isNan isSignaling : BitVec w → Bool) (less : BitVec w → BitVec w → Bool)
    (mask canonicalNan : BitVec w) (operation : FloatingMinMaxOperation)
    (first second : BitVec w) : BitVec w × BitVec 8 :=
  let flags : BitVec 8 := if isSignaling first || isSignaling second then 0x10 else 0
  if isNan first && isNan second then (canonicalNan, flags)
  else if isNan first then (second, flags)
  else if isNan second then (first, flags)
  else if first &&& mask = 0 ∧ second &&& mask = 0 then
    (if operation = .minimum then first ||| second else first &&& second, 0)
  else if operation = .minimum then (if less first second then first else second, 0)
  else (if less first second then second else first, 0)

theorem floatingMinMax32_eq (operation : FloatingMinMaxOperation) (first second : BitVec 32) :
    floatingMinMax32 operation first second =
      let result := minMax isNan32 isSignalingNan32 less32 0x7FFFFFFF canonicalNan32 operation
        first second
      { value := boxSingle result.1, exceptionFlags := result.2 } := by
  unfold floatingMinMax32 minMax
  dsimp only
  split_ifs <;> rfl

theorem floatingMinMax64_eq (operation : FloatingMinMaxOperation) (first second : BitVec 64) :
    floatingMinMax64 operation first second =
      let result := minMax isNan64 isSignalingNan64 less64 0x7FFFFFFFFFFFFFFF canonicalNan64
        operation first second
      { value := result.1, exceptionFlags := result.2 } := by
  unfold floatingMinMax64 minMax
  dsimp only
  split_ifs <;> rfl

/-- The operand that an operation is for, of two that are not NaNs. -/
def picked (format : BinaryFormat w) (operation : FloatingMinMaxOperation)
    (first second : BitVec w) : BitVec w :=
  if operation = .minimum then if format.SignedBelow first second then first else second
  else if format.SignedBelow first second then second else first

theorem picked_comm (format : BinaryFormat w) (operation : FloatingMinMaxOperation)
    (first second : BitVec w) :
    picked format operation first second = picked format operation second first := by
  by_cases same : first = second
  · rw [same]
  unfold picked
  by_cases below : format.SignedBelow first second
  · rw [if_pos below, if_pos below, if_neg (signedBelow_asymm below),
      if_neg (signedBelow_asymm below)]
  · have above := signedBelow_total same below
    rw [if_neg below, if_neg below, if_pos above, if_pos above]

variable {format : BinaryFormat w} {isNan isSignaling : BitVec w → Bool}
  {less : BitVec w → BitVec w → Bool} {mask canonicalNan : BitVec w}

/-- What is computed of two numbers, also of two zeros. -/
theorem minMax_numbers (tests : Tests format isNan isSignaling less mask)
    (operation : FloatingMinMaxOperation) {first second : BitVec w} (left : ¬format.Nan first)
    (right : ¬format.Nan second) :
    minMax isNan isSignaling less mask canonicalNan operation first second =
      (picked format operation first second, 0) := by
  rw [← tests.nan] at left right
  unfold minMax picked
  simp only [left, right, Bool.false_eq_true, Bool.and_self, if_false, tests.zero, tests.less]
  by_cases zeros : format.magnitude first = 0 ∧ format.magnitude second = 0
  · rw [if_pos zeros, (zeros_eq zeros.1 zeros.2).1, (zeros_eq zeros.1 zeros.2).2]
  · rw [if_neg zeros]
    split <;> rfl

/-- The result that an operation on two patterns should have, and its flags. -/
structure Extreme (format : BinaryFormat w) (canonicalNan : BitVec w)
    (operation : FloatingMinMaxOperation) (first second result : BitVec w) (flags : BitVec 8) :
    Prop where
  operand : ¬format.Nan first → ¬format.Nan second → result = first ∨ result = second
  least : ¬format.Nan first → ¬format.Nan second → operation = .minimum →
    ¬format.Below first result ∧ ¬format.Below second result
  greatest : ¬format.Nan first → ¬format.Nan second → operation = .maximum →
    ¬format.Below result first ∧ ¬format.Below result second
  firstNan : format.Nan first → ¬format.Nan second → result = second
  secondNan : ¬format.Nan first → format.Nan second → result = first
  bothNan : format.Nan first → format.Nan second → result = canonicalNan
  flags : flags = if format.SignalingNan first ∨ format.SignalingNan second then 0x10 else 0

/-- The flags of two operands: invalid, for a signaling NaN. -/
def invalidFlags (format : BinaryFormat w) (first second : BitVec w) : BitVec 8 :=
  if format.SignalingNan first ∨ format.SignalingNan second then 0x10 else 0

theorem minMax_of_nan (tests : Tests format isNan isSignaling less mask)
    (operation : FloatingMinMaxOperation) {first second : BitVec w}
    (nan : format.Nan first ∨ format.Nan second) :
    minMax isNan isSignaling less mask canonicalNan operation first second =
      (if format.Nan first then if format.Nan second then canonicalNan else second else first,
        invalidFlags format first second) := by
  unfold minMax invalidFlags
  simp only [Bool.and_eq_true, Bool.or_eq_true, tests.nan, tests.signaling]
  by_cases left : format.Nan first
  · by_cases right : format.Nan second <;> simp [left, right]
  · simp [left, nan.resolve_left left]

theorem invalidFlags_of_numbers {first second : BitVec w} (left : ¬format.Nan first)
    (right : ¬format.Nan second) : invalidFlags format first second = 0 := by
  refine if_neg ?_
  rintro (signaling | signaling)
  · exact left signaling.1
  · exact right signaling.1

theorem minMax_extreme (tests : Tests format isNan isSignaling less mask)
    (operation : FloatingMinMaxOperation) (first second : BitVec w) :
    Extreme format canonicalNan operation first second
      (minMax isNan isSignaling less mask canonicalNan operation first second).1
      (minMax isNan isSignaling less mask canonicalNan operation first second).2 := by
  by_cases nan : format.Nan first ∨ format.Nan second
  · rw [minMax_of_nan tests operation nan]
    refine ⟨?_, ?_, ?_, ?_, ?_, ?_, rfl⟩
    · exact fun left right => absurd nan (not_or.mpr ⟨left, right⟩)
    · exact fun left right => absurd nan (not_or.mpr ⟨left, right⟩)
    · exact fun left right => absurd nan (not_or.mpr ⟨left, right⟩)
    · intro left right
      rw [if_pos left, if_neg right]
    · intro left _
      rw [if_neg left]
    · intro left right
      rw [if_pos left, if_pos right]
  · obtain ⟨left, right⟩ := not_or.mp nan
    rw [minMax_numbers tests operation left right]
    have irrefl : ∀ pattern, ¬format.Nan pattern → ¬format.Below pattern pattern :=
      fun pattern number => (below_iff number number).not.mpr (signedBelow_irrefl pattern)
    refine ⟨fun _ _ => ?_, fun _ _ least => ?_, fun _ _ greatest => ?_, fun nan => absurd nan left,
      fun _ nan => absurd nan right, fun nan => absurd nan left,
      (invalidFlags_of_numbers left right).symm⟩
    · unfold picked
      split <;> split <;> simp
    · unfold picked
      rw [if_pos least]
      by_cases below : format.SignedBelow first second
      · rw [if_pos below]
        exact ⟨irrefl first left, (below_iff right left).not.mpr (signedBelow_asymm below)⟩
      · rw [if_neg below]
        exact ⟨(below_iff left right).not.mpr below, irrefl second right⟩
    · have other : operation ≠ .minimum := by
        rintro rfl
        cases greatest
      unfold picked
      rw [if_neg other]
      by_cases below : format.SignedBelow first second
      · rw [if_pos below]
        exact ⟨(below_iff right left).not.mpr (signedBelow_asymm below), irrefl second right⟩
      · rw [if_neg below]
        exact ⟨irrefl first left, (below_iff left right).not.mpr below⟩

theorem minMax_comm (tests : Tests format isNan isSignaling less mask)
    (operation : FloatingMinMaxOperation) (first second : BitVec w) :
    minMax isNan isSignaling less mask canonicalNan operation first second =
      minMax isNan isSignaling less mask canonicalNan operation second first := by
  by_cases nan : format.Nan first ∨ format.Nan second
  · have flags : invalidFlags format first second = invalidFlags format second first := by
      simp only [invalidFlags, or_comm]
    rw [minMax_of_nan tests operation nan, minMax_of_nan tests operation nan.symm, flags]
    by_cases left : format.Nan first
    · by_cases right : format.Nan second
      · rw [if_pos left, if_pos right, if_pos right, if_pos left]
      · rw [if_pos left, if_neg right, if_neg right]
    · rw [if_neg left, if_pos (nan.resolve_left left), if_neg left]
  · obtain ⟨left, right⟩ := not_or.mp nan
    rw [minMax_numbers tests operation left right, minMax_numbers tests operation right left,
      picked_comm]

theorem boxSingle_boxed (value : BitVec 32) :
    boxSingle value &&& singleNanBox = singleNanBox := by
  unfold boxSingle
  ext index bounded
  rw [BitVec.getElem_and, BitVec.getElem_or]
  cases singleNanBox[index] <;> simp

/-- FMIN and FMAX on all contents of registers. -/
theorem floatingMinMax_exact (operation : FloatingMinMaxOperation) (first second : BitVec 64) :
    (∃ result, (floatingMinMax .single operation first second).value = boxSingle result ∧
      boxSingle result &&& singleNanBox = singleNanBox ∧
      Extreme binary32 canonicalNan32 operation (unboxSingle first) (unboxSingle second) result
        (floatingMinMax .single operation first second).exceptionFlags) ∧
    Extreme binary64 canonicalNan64 operation first second
      (floatingMinMax .double operation first second).value
      (floatingMinMax .double operation first second).exceptionFlags ∧
    ∀ format, floatingMinMax format operation first second =
      floatingMinMax format operation second first := by
  refine ⟨?_, ?_, fun format => ?_⟩
  · unfold floatingMinMax
    dsimp only
    rw [floatingMinMax32_eq]
    exact ⟨_, rfl, boxSingle_boxed _, minMax_extreme tests32 operation _ _⟩
  · unfold floatingMinMax
    dsimp only
    rw [floatingMinMax64_eq]
    exact minMax_extreme tests64 operation first second
  · cases format with
    | single =>
      unfold floatingMinMax
      dsimp only
      rw [floatingMinMax32_eq, floatingMinMax32_eq, minMax_comm tests32]
    | double =>
      unfold floatingMinMax
      dsimp only
      rw [floatingMinMax64_eq, floatingMinMax64_eq, minMax_comm tests64]

end RvEmulator.Core64
