import RvEmulator.Core64.Csr

/-! The sanitizers, bit by bit. -/

namespace RvEmulator.Core64

open Library

namespace Status

/-- The writable and fixed bits, before the MPP and SD repairs. -/
def base (value : Xlen) : Xlen := (value &&& MstatusBits.writable) ||| MstatusBits.fixed

theorem getLsbD_base (value : Xlen) (i : Nat) :
    (base value).getLsbD i =
      (value.getLsbD i && MstatusBits.writable.getLsbD i || MstatusBits.fixed.getLsbD i) := by
  rw [base, BitVec.getLsbD_or, BitVec.getLsbD_and]

/-- Bits that `writable` has and `fixed` has not. -/
theorem getLsbD_base_writable {i : Nat} (value : Xlen)
    (plain : MstatusBits.writable.getLsbD i = true ∧ MstatusBits.fixed.getLsbD i = false) :
    (base value).getLsbD i = value.getLsbD i := by
  rw [getLsbD_base, plain.1, plain.2, Bool.and_true, Bool.or_false]

/-- MPP is the reserved encoding. -/
def reserved (value : Xlen) : Bool := value.getLsbD 12 && !value.getLsbD 11

theorem reserved_iff (value : Xlen) :
    (base value &&& MstatusBits.mpp) >>> MstatusBits.mppShift = 2 ↔ reserved value = true := by
  unfold MstatusBits.mpp
  rw [twoBits, getLsbD_base_writable value (by decide), getLsbD_base_writable value (by decide)]
  unfold MstatusBits.mppShift reserved
  cases value.getLsbD 12 <;> cases value.getLsbD 11 <;> decide

/-- The bits of `mstatus` before SD is recomputed. -/
def repaired (value : Xlen) : Xlen :=
  if reserved value then base value &&& ~~~MstatusBits.mpp else base value

theorem getLsbD_mask (i : Nat) (inside : i < 64) :
    (MstatusBits.mpp : Xlen).getLsbD i = decide (i = 11 ∨ i = 12) ∧
      MstatusBits.sd.getLsbD i = decide (i = 63) ∧
      MstatusBits.fs.getLsbD i = decide (i = 13 ∨ i = 14) := by
  have table : ∀ i < 64, (MstatusBits.mpp : Xlen).getLsbD i = decide (i = 11 ∨ i = 12) ∧
      MstatusBits.sd.getLsbD i = decide (i = 63) ∧
      MstatusBits.fs.getLsbD i = decide (i = 13 ∨ i = 14) := by decide
  exact table i inside

theorem getLsbD_repaired (value : Xlen) {i : Nat} (inside : i < 64) :
    (repaired value).getLsbD i =
      ((base value).getLsbD i && !(reserved value && decide (i = 11 ∨ i = 12))) := by
  unfold repaired
  cases reserved value with
  | false => simp only [Bool.false_eq_true, if_false, Bool.false_and, Bool.not_false, Bool.and_true]
  | true =>
    simp only [if_true, Bool.true_and, BitVec.getLsbD_and, BitVec.getLsbD_not,
      (getLsbD_mask i inside).1, inside, decide_true]

theorem dirty_iff (value : Xlen) :
    (repaired value &&& MstatusBits.fs) = MstatusBits.fsDirty ↔
      (value.getLsbD 13 && value.getLsbD 14) = true := by
  rw [show MstatusBits.fsDirty = MstatusBits.fs from rfl, and_eq_mask_iff, Bool.and_eq_true]
  have bit13 : (repaired value).getLsbD 13 = value.getLsbD 13 := by
    rw [getLsbD_repaired value (by decide), getLsbD_base_writable value (by decide)]
    simp only [show ¬(13 = 11 ∨ 13 = 12) by decide, decide_false, Bool.and_false, Bool.not_false,
      Bool.and_true]
  have bit14 : (repaired value).getLsbD 14 = value.getLsbD 14 := by
    rw [getLsbD_repaired value (by decide), getLsbD_base_writable value (by decide)]
    simp only [show ¬(14 = 11 ∨ 14 = 12) by decide, decide_false, Bool.and_false, Bool.not_false,
      Bool.and_true]
  constructor
  · intro all
    exact ⟨bit13 ▸ all 13 (by decide), bit14 ▸ all 14 (by decide)⟩
  · rintro ⟨low, high⟩ i set
    by_cases inside : i < 64
    · rw [(getLsbD_mask i inside).2.2, decide_eq_true_eq] at set
      obtain rfl | rfl := set
      · rw [bit13, low]
      · rw [bit14, high]
    · rw [BitVec.getLsbD_of_ge _ i (by omega)] at set
      cases set

theorem sanitizeMstatus_eq (value : Xlen) :
    sanitizeMstatus value =
      if (value.getLsbD 13 && value.getLsbD 14) = true then repaired value ||| MstatusBits.sd
      else repaired value &&& ~~~MstatusBits.sd := by
  have previous := reserved_iff value
  have dirty := dirty_iff value
  unfold repaired base at dirty ⊢
  unfold base at previous
  unfold sanitizeMstatus
  simp only [previous, dirty]

/-- The sanitizer: SD follows FS, the reserved MPP becomes zero, and every other
bit is fixed or kept. -/
theorem getLsbD_sanitizeMstatus (value : Xlen) {i : Nat} (inside : i < 64) :
    (sanitizeMstatus value).getLsbD i =
      if i = 63 then value.getLsbD 13 && value.getLsbD 14
      else if i = 11 ∨ i = 12 then value.getLsbD i && !reserved value
      else value.getLsbD i && MstatusBits.writable.getLsbD i || MstatusBits.fixed.getLsbD i := by
  have special : ∀ i < 64, (i = 63 → MstatusBits.writable.getLsbD i = false ∧
      MstatusBits.fixed.getLsbD i = false) ∧ (i = 11 ∨ i = 12 →
      MstatusBits.writable.getLsbD i = true ∧ MstatusBits.fixed.getLsbD i = false) := by decide
  obtain ⟨last, field⟩ := special i inside
  have bit : (sanitizeMstatus value).getLsbD i =
      if (value.getLsbD 13 && value.getLsbD 14) = true then
        (repaired value).getLsbD i || decide (i = 63)
      else (repaired value).getLsbD i && !decide (i = 63) := by
    rw [sanitizeMstatus_eq]
    split
    · rw [BitVec.getLsbD_or, (getLsbD_mask i inside).2.1]
    · rw [BitVec.getLsbD_and, BitVec.getLsbD_not, (getLsbD_mask i inside).2.1]
      simp only [inside, decide_true, Bool.true_and]
  rw [bit, getLsbD_repaired value inside, getLsbD_base]
  by_cases isLast : i = 63
  · obtain ⟨writable, fixed⟩ := last isLast
    simp only [isLast, if_true] at writable fixed ⊢
    rw [writable, fixed]
    cases value.getLsbD 13 <;> cases value.getLsbD 14 <;> simp
  · by_cases isField : i = 11 ∨ i = 12
    · obtain ⟨writable, fixed⟩ := field isField
      simp only [isLast, isField, if_false, if_true, writable, fixed, decide_true, decide_false,
        Bool.and_true, Bool.or_false, Bool.not_false, ite_self]
    · simp only [isLast, isField, if_false, decide_false, Bool.and_false, Bool.or_false,
        Bool.not_false, Bool.and_true, ite_self]

theorem reserved_sanitizeMstatus (value : Xlen) : reserved (sanitizeMstatus value) = false := by
  have low := getLsbD_sanitizeMstatus value (show 11 < 64 by decide)
  have high := getLsbD_sanitizeMstatus value (show 12 < 64 by decide)
  simp only [show ¬11 = 63 by decide, show ¬12 = 63 by decide, if_false, true_or, or_true,
    if_true] at low high
  unfold reserved at *
  rw [low, high]
  cases value.getLsbD 11 <;> cases value.getLsbD 12 <;> rfl

theorem sanitizeMstatus_idempotent (value : Xlen) :
    sanitizeMstatus (sanitizeMstatus value) = sanitizeMstatus value := by
  apply BitVec.eq_of_getLsbD_eq
  intro i inside
  have fs : ∀ j, j = 13 ∨ j = 14 → (sanitizeMstatus value).getLsbD j = value.getLsbD j := by
    intro j there
    rw [getLsbD_sanitizeMstatus value (by omega)]
    obtain rfl | rfl := there
    · simp [-BitVec.getLsbD_eq_getElem, show MstatusBits.writable.getLsbD 13 = true by decide,
        show MstatusBits.fixed.getLsbD 13 = false by decide]
    · simp [-BitVec.getLsbD_eq_getElem, show MstatusBits.writable.getLsbD 14 = true by decide,
        show MstatusBits.fixed.getLsbD 14 = false by decide]
  rw [getLsbD_sanitizeMstatus _ inside, fs 13 (by decide), fs 14 (by decide),
    reserved_sanitizeMstatus]
  have bit := getLsbD_sanitizeMstatus value inside
  by_cases isLast : i = 63
  · rw [bit, if_pos isLast, if_pos isLast]
  · rw [if_neg isLast] at bit ⊢
    by_cases isField : i = 11 ∨ i = 12
    · rw [if_pos isField, Bool.not_false, Bool.and_true]
    · rw [if_neg isField] at bit ⊢
      rw [bit]
      cases value.getLsbD i <;> cases MstatusBits.writable.getLsbD i <;>
        cases MstatusBits.fixed.getLsbD i <;> rfl

/-- Bits that the sanitizer lets through. -/
theorem getLsbD_sanitizeMstatus_kept (value : Xlen) {i : Nat}
    (plain : i < 64 ∧ i ≠ 63 ∧ ¬(i = 11 ∨ i = 12) ∧ MstatusBits.writable.getLsbD i = true ∧
      MstatusBits.fixed.getLsbD i = false) :
    (sanitizeMstatus value).getLsbD i = value.getLsbD i := by
  obtain ⟨inside, notLast, notField, writable, fixed⟩ := plain
  rw [getLsbD_sanitizeMstatus value inside, if_neg notLast, if_neg notField, writable, fixed,
    Bool.and_true, Bool.or_false]

/-- What being a fixed point of the sanitizer says: MPP is not 2, SD is set if
and only if FS is Dirty, and no unsupported bit is set. -/
theorem of_fixed {mstatus : Xlen} (sanitized : sanitizeMstatus mstatus = mstatus) :
    (mstatus &&& MstatusBits.mpp) >>> MstatusBits.mppShift ≠ 2 ∧
      (flag mstatus MstatusBits.sd = true ↔
        (mstatus &&& MstatusBits.fs) = MstatusBits.fsDirty) ∧
      Within mstatus (MstatusBits.writable ||| MstatusBits.fixed ||| MstatusBits.sd) := by
  refine ⟨?_, ?_, ?_⟩
  · have free := reserved_sanitizeMstatus mstatus
    rw [sanitized] at free
    unfold MstatusBits.mpp
    rw [twoBits]
    unfold reserved at free
    unfold MstatusBits.mppShift
    cases high : mstatus.getLsbD 12 <;> cases low : mstatus.getLsbD 11 <;>
      rw [high, low] at free <;> first | decide | cases free
  · have last := getLsbD_sanitizeMstatus mstatus (show 63 < 64 by decide)
    rw [sanitized, if_pos rfl] at last
    unfold MstatusBits.sd
    rw [flag_shift, last, show MstatusBits.fsDirty = MstatusBits.fs from rfl, and_eq_mask_iff,
      Bool.and_eq_true]
    constructor
    · rintro ⟨low, high⟩ i set
      by_cases inside : i < 64
      · rw [(getLsbD_mask i inside).2.2, decide_eq_true_eq] at set
        obtain rfl | rfl := set
        · exact low
        · exact high
      · rw [BitVec.getLsbD_of_ge _ i (by omega)] at set
        cases set
    · intro all
      exact ⟨all 13 (by decide), all 14 (by decide)⟩
  · rw [within_iff]
    intro i set
    by_cases inside : i < 64
    · have masks : ∀ i < 64, i = 63 ∨ i = 11 ∨ i = 12 →
          (MstatusBits.writable ||| MstatusBits.fixed ||| MstatusBits.sd).getLsbD i = true := by
        decide
      by_cases special : i = 63 ∨ i = 11 ∨ i = 12
      · exact masks i inside special
      · rw [← sanitized, getLsbD_sanitizeMstatus mstatus inside, if_neg (by omega),
          if_neg (by omega)] at set
        rw [BitVec.getLsbD_or, BitVec.getLsbD_or]
        revert set
        cases MstatusBits.writable.getLsbD i <;> cases MstatusBits.fixed.getLsbD i <;> simp
    · rw [BitVec.getLsbD_of_ge _ i (by omega)] at set
      cases set

/-- Changes that the sanitizer lets through: they do not touch the previous privilege. -/
theorem getLsbD_sanitize_changed {mstatus changed : Xlen}
    (sanitized : sanitizeMstatus mstatus = mstatus)
    (field : ∀ i, i = 11 ∨ i = 12 → changed.getLsbD i = mstatus.getLsbD i) {i : Nat}
    (inside : i < 64) :
    (sanitizeMstatus changed).getLsbD i =
      if i = 63 then changed.getLsbD 13 && changed.getLsbD 14
      else if changed.getLsbD i = mstatus.getLsbD i then mstatus.getLsbD i
      else changed.getLsbD i && MstatusBits.writable.getLsbD i || MstatusBits.fixed.getLsbD i := by
  have unreserved : reserved changed = false := by
    have free := reserved_sanitizeMstatus mstatus
    rw [sanitized] at free
    unfold reserved at free ⊢
    rw [field 11 (.inl rfl), field 12 (.inr rfl)]
    exact free
  have old := getLsbD_sanitizeMstatus mstatus inside
  rw [sanitized] at old
  rw [getLsbD_sanitizeMstatus changed inside, unreserved]
  by_cases last : i = 63
  · rw [if_pos last, if_pos last]
  rw [if_neg last] at old ⊢
  rw [if_neg last]
  by_cases previous : i = 11 ∨ i = 12
  · rw [if_pos previous, if_pos (field i previous), field i previous]
    simp
  · rw [if_neg previous] at old ⊢
    split
    · rename_i same
      rw [same]
      exact old.symm
    · rfl

/-- Marking the floating-point unit dirty sets FS and SD, and nothing else. -/
theorem sanitizeMstatus_dirty {mstatus : Xlen} (sanitized : sanitizeMstatus mstatus = mstatus) :
    sanitizeMstatus ((mstatus &&& ~~~MstatusBits.fs) ||| MstatusBits.fsDirty) =
      mstatus ||| (MstatusBits.fs ||| MstatusBits.sd) := by
  have masks : ∀ i < 64, MstatusBits.fs.getLsbD i = decide (i = 13 ∨ i = 14) ∧
      MstatusBits.fsDirty.getLsbD i = decide (i = 13 ∨ i = 14) ∧
      MstatusBits.sd.getLsbD i = decide (i = 63) := by decide
  have bits : ∀ i < 64, ((mstatus &&& ~~~MstatusBits.fs) ||| MstatusBits.fsDirty).getLsbD i =
      (mstatus.getLsbD i || decide (i = 13 ∨ i = 14)) := by
    intro i inside
    obtain ⟨fs, dirty, _⟩ := masks i inside
    rw [BitVec.getLsbD_or, BitVec.getLsbD_and, BitVec.getLsbD_not, fs, dirty]
    by_cases field : i = 13 ∨ i = 14 <;> simp [-BitVec.getLsbD_eq_getElem, field, inside]
  have field : ∀ i, i = 11 ∨ i = 12 →
      ((mstatus &&& ~~~MstatusBits.fs) ||| MstatusBits.fsDirty).getLsbD i = mstatus.getLsbD i := by
    rintro i (rfl | rfl)
    · simp [-BitVec.getLsbD_eq_getElem, bits]
    · simp [-BitVec.getLsbD_eq_getElem, bits]
  apply BitVec.eq_of_getLsbD_eq
  intro i inside
  obtain ⟨fs, _, sd⟩ := masks i inside
  rw [getLsbD_sanitize_changed sanitized field inside, bits i inside, bits 13 (by decide),
    bits 14 (by decide), BitVec.getLsbD_or, BitVec.getLsbD_or, fs, sd]
  by_cases last : i = 63
  · simp [last]
  by_cases state : i = 13 ∨ i = 14
  · have writable : MstatusBits.writable.getLsbD i = true := by
      obtain rfl | rfl := state <;> decide
    simp [-BitVec.getLsbD_eq_getElem, last, state, writable]
  · simp [last, state]

end Status

theorem sanitizeTvec_mode (value : Xlen) : (sanitizeTvec value &&& 3) ≤ 1 := by
  unfold sanitizeTvec
  dsimp only
  rw [BitVec.and_or_distrib_right, BitVec.and_assoc, show ~~~(3 : Xlen) &&& 3 = 0#64 by decide,
    BitVec.and_zero, BitVec.zero_or]
  split
  · rename_i small
    rwa [BitVec.and_assoc, BitVec.and_self]
  · decide

theorem sanitizeSatp_idempotent (value : Xlen) :
    sanitizeSatp (sanitizeSatp value) = sanitizeSatp value := by
  unfold sanitizeSatp
  by_cases bare : (value &&& SatpBits.mode) ≠ SatpBits.sv39Mode
  · rw [if_pos bare]
    decide
  · rw [if_neg bare]
    have mode : (SatpBits.sv39Mode ||| (value &&& (SatpBits.asid ||| SatpBits.ppn))) &&&
        SatpBits.mode = SatpBits.sv39Mode := by
      rw [BitVec.and_or_distrib_right, BitVec.and_assoc,
        show (SatpBits.asid ||| SatpBits.ppn) &&& SatpBits.mode = 0#64 by decide, BitVec.and_zero,
        BitVec.or_zero]
      decide
    rw [if_neg (by rw [mode]; simp), BitVec.and_or_distrib_right, BitVec.and_assoc,
      BitVec.and_self, show SatpBits.sv39Mode &&& (SatpBits.asid ||| SatpBits.ppn) = 0#64 by decide,
      BitVec.zero_or]

end RvEmulator.Core64
