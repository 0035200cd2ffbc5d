import RvEmulator.Core32.Csr
import RvEmulator.Common.HartInvariant

/-! The sanitizers of the 32-bit core, bit by bit. -/

namespace RvEmulator.Core32

open Library

namespace Status

/-- MPP is the reserved encoding. -/
def reserved (value : Xlen) : Bool := value.getLsbD 12 && !value.getLsbD 11

theorem getLsbD_mpp (i : Nat) : (MstatusBits.mpp : Xlen).getLsbD i = decide (i = 11 ∨ i = 12) := by
  by_cases inside : i < 32
  · have table : ∀ i < 32, (MstatusBits.mpp : Xlen).getLsbD i = decide (i = 11 ∨ i = 12) := by
      decide
    exact table i inside
  · rw [BitVec.getLsbD_of_ge _ _ (by omega)]
    simp
    omega

theorem reserved_iff (value : Xlen) :
    ((value &&& MstatusBits.implemented) &&& MstatusBits.mpp) >>> MstatusBits.mppShift = 2 ↔
      reserved value = true := by
  have low : MstatusBits.implemented.getLsbD 11 = true := by decide
  have high : MstatusBits.implemented.getLsbD 12 = true := by decide
  unfold MstatusBits.mpp
  rw [twoBits]
  unfold MstatusBits.mppShift reserved
  rw [BitVec.getLsbD_and, BitVec.getLsbD_and, low, high]
  cases value.getLsbD 12 <;> cases value.getLsbD 11 <;> decide

/-- The sanitizer keeps the implemented bits, but for a reserved MPP. -/
theorem getLsbD_sanitizeMstatus (value : Xlen) (i : Nat) :
    (sanitizeMstatus value).getLsbD i =
      (value.getLsbD i && MstatusBits.implemented.getLsbD i &&
        !(reserved value && decide (i = 11 ∨ i = 12))) := by
  unfold sanitizeMstatus
  dsimp only
  cases held : reserved value with
  | true =>
    rw [if_pos ((reserved_iff value).mpr held), BitVec.getLsbD_and, BitVec.getLsbD_and,
      BitVec.getLsbD_not, getLsbD_mpp]
    by_cases inside : i < 32
    · simp [-BitVec.getLsbD_eq_getElem, inside]
    · rw [BitVec.getLsbD_of_ge value i (by omega)]
      simp
  | false =>
    rw [if_neg (fun same => by simp [(reserved_iff value).mp same] at held), BitVec.getLsbD_and]
    simp

theorem getLsbD_sanitizeMstatus_kept (value : Xlen) {i : Nat}
    (plain : MstatusBits.implemented.getLsbD i = true ∧ i ≠ 11 ∧ i ≠ 12) :
    (sanitizeMstatus value).getLsbD i = value.getLsbD i := by
  rw [getLsbD_sanitizeMstatus, plain.1]
  simp [-BitVec.getLsbD_eq_getElem, plain.2]

theorem reserved_sanitizeMstatus (value : Xlen) : reserved (sanitizeMstatus value) = false := by
  unfold reserved
  rw [getLsbD_sanitizeMstatus, getLsbD_sanitizeMstatus]
  rw [show MstatusBits.implemented.getLsbD 11 = true by decide,
    show MstatusBits.implemented.getLsbD 12 = true by decide]
  unfold reserved
  cases value.getLsbD 11 <;> cases value.getLsbD 12 <;> rfl

theorem sanitizeMstatus_idempotent (value : Xlen) :
    sanitizeMstatus (sanitizeMstatus value) = sanitizeMstatus value := by
  apply BitVec.eq_of_getLsbD_eq
  intro i _
  rw [getLsbD_sanitizeMstatus (sanitizeMstatus value), reserved_sanitizeMstatus,
    getLsbD_sanitizeMstatus]
  cases value.getLsbD i <;> cases MstatusBits.implemented.getLsbD i <;> simp

/-- MPRV may be cleared in a sanitized value. -/
theorem sanitizeMstatus_clear_mprv {value : Xlen} (fixed : sanitizeMstatus value = value) :
    sanitizeMstatus (value &&& ~~~MstatusBits.mprv) = value &&& ~~~MstatusBits.mprv := by
  have kept : ∀ i, i = 11 ∨ i = 12 →
      (value &&& ~~~MstatusBits.mprv).getLsbD i = value.getLsbD i := by
    rintro i (rfl | rfl)
    all_goals
      rw [BitVec.getLsbD_and, BitVec.getLsbD_not]
      simp [MstatusBits.mprv]
  have unreserved : reserved (value &&& ~~~MstatusBits.mprv) = false := by
    rw [reserved, kept 11 (.inl rfl), kept 12 (.inr rfl), ← reserved, ← fixed]
    exact reserved_sanitizeMstatus value
  apply BitVec.eq_of_getLsbD_eq
  intro i _
  rw [getLsbD_sanitizeMstatus, unreserved, BitVec.getLsbD_and, ← fixed, getLsbD_sanitizeMstatus]
  cases value.getLsbD i <;> cases MstatusBits.implemented.getLsbD i <;> simp

/-- What a fixed point of the sanitizer is. -/
theorem of_sanitized {value : Xlen} (fixed : sanitizeMstatus value = value) :
    Within value MstatusBits.implemented ∧
      (value &&& MstatusBits.mpp) >>> MstatusBits.mppShift ≠ 2 := by
  have supported : Within value MstatusBits.implemented := by
    rw [within_iff]
    intro i set
    rw [← fixed, getLsbD_sanitizeMstatus, Bool.and_eq_true, Bool.and_eq_true] at set
    exact set.1.2
  refine ⟨supported, ?_⟩
  have unreserved : reserved value = false := by
    rw [← fixed]
    exact reserved_sanitizeMstatus value
  intro two
  have same : value &&& MstatusBits.implemented = value := by
    apply BitVec.eq_of_getLsbD_eq
    intro i _
    rw [BitVec.getLsbD_and]
    cases set : value.getLsbD i with
    | false => rfl
    | true => rw [within_iff.mp supported i set, Bool.and_self]
  rw [← same] at two
  rw [(reserved_iff value).mp two] at unreserved
  cases unreserved

end Status

theorem lawfulStatus : LawfulStatus sanitizeMstatus where
  idempotent := Status.sanitizeMstatus_idempotent
  mprv value := Status.getLsbD_sanitizeMstatus_kept value (by decide)

theorem sanitizeMtvec_mode (value : Xlen) : sanitizeMtvec value &&& 3 ≤ 1 := by
  unfold sanitizeMtvec
  dsimp only
  rw [BitVec.and_or_distrib_right, BitVec.and_assoc, show ~~~(3 : Xlen) &&& 3 = 0#32 by decide,
    BitVec.and_zero, BitVec.zero_or]
  split
  · rename_i small
    rwa [BitVec.and_assoc, BitVec.and_self]
  · decide

theorem sanitizeSatp_idempotent (value : Xlen) :
    sanitizeSatp (sanitizeSatp value) = sanitizeSatp value := by
  unfold sanitizeSatp
  by_cases bare : value &&& SatpBits.mode = 0
  · rw [if_pos bare]
    decide
  · rw [if_neg bare]
    have mode : (SatpBits.mode ||| (value &&& (SatpBits.asid ||| SatpBits.ppn))) &&&
        SatpBits.mode = SatpBits.mode := by
      rw [BitVec.and_or_distrib_right, BitVec.and_assoc,
        show (SatpBits.asid ||| SatpBits.ppn) &&& SatpBits.mode = 0#32 by decide, BitVec.and_zero,
        BitVec.or_zero]
      decide
    rw [if_neg (by rw [mode]; decide), BitVec.and_or_distrib_right, BitVec.and_assoc,
      BitVec.and_self, show SatpBits.mode &&& (SatpBits.asid ||| SatpBits.ppn) = 0#32 by decide,
      BitVec.zero_or]

end RvEmulator.Core32
