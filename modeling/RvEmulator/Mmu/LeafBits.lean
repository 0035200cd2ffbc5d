import Mathlib.Tactic.ByContra
import RvEmulator.Mmu.Walk

/-! The checks of a walk, on the bits of the entry they look at. -/

namespace RvEmulator

open Library

theorem flag_iff {x mask : BitVec w} :
    flag x mask = true ↔ ∃ i < w, x.getLsbD i = true ∧ mask.getLsbD i = true := by
  unfold flag
  rw [bne_iff_ne]
  constructor
  · intro nonzero
    by_contra none
    apply nonzero
    apply BitVec.eq_of_getLsbD_eq
    intro i inside
    rw [BitVec.getLsbD_and]
    simp only [not_exists, not_and] at none
    cases set : x.getLsbD i with
    | false => simp
    | true => simpa using none i inside set
  · rintro ⟨i, _, left, right⟩ zero
    have bit := congrArg (fun value => BitVec.getLsbD value i) zero
    simp [-BitVec.getLsbD_eq_getElem, left, right] at bit

theorem flag_or (x left right : BitVec w) :
    flag x (left ||| right) = (flag x left || flag x right) := by
  rw [Bool.eq_iff_iff, Bool.or_eq_true, flag_iff, flag_iff, flag_iff]
  constructor
  · rintro ⟨i, inside, set, masked⟩
    rw [BitVec.getLsbD_or, Bool.or_eq_true] at masked
    exact masked.imp (fun low => ⟨i, inside, set, low⟩) fun high => ⟨i, inside, set, high⟩
  · rintro (⟨i, inside, set, masked⟩ | ⟨i, inside, set, masked⟩)
    · exact ⟨i, inside, set, by rw [BitVec.getLsbD_or, masked, Bool.true_or]⟩
    · exact ⟨i, inside, set, by rw [BitVec.getLsbD_or, masked, Bool.or_true]⟩

/-- The bits that a pointer to a table leaves clear. -/
theorem flag_pointer (word : BitVec w) :
    flag word (PteBits.user ||| PteBits.accessed ||| PteBits.dirty) =
      (word.getLsbD 4 || word.getLsbD 6 || word.getLsbD 7) := by
  rw [flag_or, flag_or]
  unfold PteBits.user PteBits.accessed PteBits.dirty
  rw [flag_shift, flag_shift, flag_shift]

/-- Below machine mode, an access is admitted by the kind of the page and by the
permission that it needs. -/
theorem privilegeAllows_bits {word mstatus : BitVec w} {privilege : PrivilegeMode}
    {access : MemoryAccessType} (below : privilege ≠ .machine) :
    privilegeAllows word privilege access mstatus = true ↔
      (match access with
        | .instructionFetch => word.getLsbD 4 = true ↔ privilege = .user
        | .load | .store =>
          (word.getLsbD 4 = true ∧ (privilege = .user ∨ mstatus.getLsbD 18 = true)) ∨
            (¬word.getLsbD 4 = true ∧ privilege ≠ .user)) ∧
      (match access with
        | .instructionFetch => word.getLsbD 3 = true
        | .load =>
          word.getLsbD 1 = true ∨ (mstatus.getLsbD 19 = true ∧ word.getLsbD 3 = true)
        | .store => word.getLsbD 2 = true) := by
  unfold privilegeAllows
  simp only [PteBits.user, PteBits.execute, PteBits.read, PteBits.write, MstatusBits.sum,
    MstatusBits.mxr, flag_shift]
  cases privilege with
  | machine => exact absurd rfl below
  | supervisor | user => cases access <;> cases word.getLsbD 4 <;> simp

/-- The update of a leaf changes nothing if its bits are set already. -/
theorem updatedPte_eq_self_bits (wide : 8 ≤ w) (word : BitVec w) (access : MemoryAccessType) :
    updatedPte word access = word ↔
      word.getLsbD 6 = true ∧ (access = .store → word.getLsbD 7 = true) := by
  constructor
  · intro same
    have set : ∀ i, (updatedPte word access).getLsbD i = word.getLsbD i := by
      intro i
      rw [same]
    constructor
    · rw [← set 6]
      cases access <;>
        simp [updatedPte, PteBits.accessed, show 6 < w by omega]
    · rintro rfl
      rw [← set 7]
      simp [updatedPte, PteBits.dirty, show 7 < w by omega]
  · rintro ⟨accessed, dirty⟩
    apply updatedPte_eq_self
    · unfold PteBits.accessed
      rwa [flag_shift]
    · intro stores
      unfold PteBits.dirty
      rw [flag_shift]
      exact dirty stores

end RvEmulator
