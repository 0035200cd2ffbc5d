import RvEmulator.Devices.Selection

/-! The gateways of the interrupt controller: what each operation does to the pending
bits, the claim slots and the levels. -/

namespace RvEmulator.Devices.Plic

/-- The context whose claim register an access is to. -/
def accessedClaim (offset : BitVec 64) (width : AccessWidth) : Option Nat :=
  if width = .word then
    (List.range contextCount).find? fun context => offset == claimRegister context
  else none

def Operation.claimant : Operation → Option Nat
  | .read offset width => accessedClaim offset width
  | _ => none

/-- The context and the identifier of a completion message. -/
def Operation.completion : Operation → Option (Nat × Nat)
  | .write offset width value =>
    (accessedClaim offset width).map fun context => (context, (value.setWidth 32).toNat)
  | _ => none

/-! ### Pending bits -/

theorem sourcePending_invalid (plic : Plic) {source : Nat} (invalid : ¬ValidSource source) :
    plic.sourcePending source = false := by
  unfold sourcePending
  rw [if_pos invalid]

theorem sourcePending_refreshPending (plic : Plic) (context source : Nat) :
    (plic.refreshPending context).sourcePending source = plic.sourcePending source := by
  unfold refreshPending
  split <;> rfl

theorem sourcePending_setPending (plic : Plic) {source : Nat} (valid : ValidSource source)
    (pending : Bool) (other : Nat) :
    (plic.setPending source pending).sourcePending other =
      if other = source then pending else plic.sourcePending other := by
  have changed : ∀ word : Nat → BitVec 32,
      word = Function.update plic.pending (source / 32)
        (if pending then plic.pending (source / 32) ||| (1 : BitVec 32) <<< (source % 32)
          else plic.pending (source / 32) &&& ~~~((1 : BitVec 32) <<< (source % 32))) →
      sourcePending { plic with pending := word } other =
        if other = source then pending else plic.sourcePending other := by
    intro word updated
    subst updated
    unfold sourcePending
    by_cases otherValid : ValidSource other
    · rw [if_neg (not_not.mpr otherValid), if_neg (not_not.mpr otherValid)]
      by_cases sameWord : other / 32 = source / 32
      · have bits : other = source ↔ other % 32 = source % 32 := by omega
        have bounded : other % 32 < 32 := Nat.mod_lt other (by decide)
        simp only [bits, sameWord, Function.update_self]
        cases pending <;> simp <;> grind
      · have different : other ≠ source := fun same => sameWord (by rw [same])
        simp [sameWord, different]
    · rw [if_pos otherValid, if_pos otherValid]
      have different : other ≠ source := fun same => otherValid (same ▸ valid)
      rw [if_neg different]
  unfold setPending
  rw [if_neg (not_not.mpr valid)]
  dsimp only
  split
  · rw [refreshAllPending_eq, sourcePending_refreshPending, sourcePending_refreshPending]
    exact changed _ rfl
  · exact changed _ rfl

/-! ### What an operation does to the gateways -/

/-- The two controllers agree on all that the gateways keep. -/
structure SameGateway (left right : Plic) : Prop where
  pending : ∀ source, left.sourcePending source = right.sourcePending source
  claimed : left.claimed = right.claimed
  sourceLevels : left.sourceLevels = right.sourceLevels

theorem SameGateway.refl (plic : Plic) : SameGateway plic plic := ⟨fun _ => rfl, rfl, rfl⟩

theorem sameGateway_refreshPending (plic : Plic) (context : Nat) :
    SameGateway (plic.refreshPending context) plic := by
  unfold refreshPending
  split
  · exact ⟨fun _ => rfl, rfl, rfl⟩
  · exact .refl plic

theorem claimed_refreshAllPending (plic : Plic) : plic.refreshAllPending.claimed = plic.claimed := by
  rw [refreshAllPending_eq, (sameGateway_refreshPending _ 1).claimed,
    (sameGateway_refreshPending _ 0).claimed]

theorem sourceLevels_refreshAllPending (plic : Plic) :
    plic.refreshAllPending.sourceLevels = plic.sourceLevels := by
  rw [refreshAllPending_eq, (sameGateway_refreshPending _ 1).sourceLevels,
    (sameGateway_refreshPending _ 0).sourceLevels]

@[simp]
theorem claimed_setPending (plic : Plic) (source : Nat) (pending : Bool) :
    (plic.setPending source pending).claimed = plic.claimed := by
  unfold setPending
  split
  · rfl
  dsimp only
  split
  · rw [claimed_refreshAllPending]
  · rfl

@[simp]
theorem sourceLevels_setPending (plic : Plic) (source : Nat) (pending : Bool) :
    (plic.setPending source pending).sourceLevels = plic.sourceLevels := by
  unfold setPending
  split
  · rfl
  dsimp only
  split
  · rw [sourceLevels_refreshAllPending]
  · rfl

theorem sameGateway_writePriority (plic : Plic) (source : Nat) (value : BitVec 32) :
    SameGateway (plic.writePriority source value) plic := by
  unfold writePriority
  split
  · refine ⟨fun other => ?_, claimed_refreshAllPending _, sourceLevels_refreshAllPending _⟩
    rw [refreshAllPending_eq, sourcePending_refreshPending, sourcePending_refreshPending]
    rfl
  · exact .refl plic

theorem sameGateway_writeEnable (plic : Plic) (context word : Nat) (value : BitVec 32) :
    SameGateway (plic.writeEnable context word value) plic := by
  obtain ⟨pending, claimed, levels⟩ := sameGateway_refreshPending { plic with
    enables := Function.update plic.enables context
      (Function.update (Function.update (plic.enables context) word value) 0
        (Function.update (plic.enables context) word value 0 &&& ~~~1)) } context
  exact ⟨pending, claimed, levels⟩

theorem sameGateway_writeThreshold (plic : Plic) (context : Nat) (value : BitVec 32) :
    SameGateway (plic.writeThreshold context value) plic := by
  obtain ⟨pending, claimed, levels⟩ := sameGateway_refreshPending { plic with
    thresholds := Function.update plic.thresholds context (value &&& 7) } context
  exact ⟨pending, claimed, levels⟩

theorem contextRegister_claim {offset context : Nat}
    (found : contextRegister offset context = some .claim) :
    offset = contextBase + context * contextStride + claimOffset := by
  unfold contextRegister at found
  dsimp only at found
  split at found
  · cases found
  split at found
  · cases found
  split at found
  · assumption
  · cases found

theorem known_cases {context : Nat} (known : context < contextCount) :
    context = 0 ∨ context = 1 := by
  unfold contextCount at known
  omega

theorem findRegister_claim {offset context : Nat} :
    findRegister offset = some (context, .claim) ↔
      context < contextCount ∧ offset = contextBase + context * contextStride + claimOffset := by
  constructor
  · intro found
    obtain ⟨holder, member, registered⟩ := List.exists_of_findSome?_eq_some found
    obtain ⟨register, accessed, same⟩ := Option.map_eq_some_iff.mp registered
    obtain ⟨rfl, rfl⟩ := Prod.mk.injEq .. ▸ same
    exact ⟨List.mem_range.mp member, contextRegister_claim accessed⟩
  · rintro ⟨known, rfl⟩
    rcases known_cases known with rfl | rfl <;> rfl

theorem accessedClaim_some {offset : BitVec 64} {width : AccessWidth} {context : Nat}
    (accessed : accessedClaim offset width = some context) :
    width = .word ∧ context < contextCount ∧ offset = claimRegister context := by
  unfold accessedClaim at accessed
  split at accessed
  · rename_i word
    have same := List.find?_some accessed
    rw [beq_iff_eq] at same
    exact ⟨word, List.mem_range.mp (List.mem_of_find?_eq_some accessed), same⟩
  · cases accessed

theorem accessedClaim_none {offset : BitVec 64} {context : Nat}
    (none : accessedClaim offset .word = none) :
    findRegister offset.toNat ≠ some (context, .claim) := by
  intro found
  obtain ⟨known, same⟩ := findRegister_claim.mp found
  have register : offset = claimRegister context := by
    apply BitVec.eq_of_toNat_eq
    rw [same]
    rcases known_cases known with rfl | rfl <;> rfl
  subst register
  rcases known_cases known with rfl | rfl <;> cases none

theorem write_claimRegister (plic : Plic) {context : Nat} (known : context < contextCount)
    (value : BitVec 64) :
    plic.write (claimRegister context) .word value =
      (.none, plic.complete context (value.setWidth 32).toNat) := by
  rcases known_cases known with rfl | rfl <;> rfl

theorem sameGateway_read (plic : Plic) {offset : BitVec 64} {width : AccessWidth}
    (none : accessedClaim offset width = none) : SameGateway (plic.read offset width).2 plic := by
  unfold read
  split
  · exact .refl plic
  rename_i served
  split
  · exact .refl plic
  split
  · exact .refl plic
  split
  · exact .refl plic
  · exact .refl plic
  · rename_i found
    have word : width = .word := by
      simpa using (not_or.mp served).1
    subst word
    exact absurd found (accessedClaim_none none)
  · exact .refl plic

theorem sameGateway_write (plic : Plic) {offset : BitVec 64} {width : AccessWidth}
    (value : BitVec 64) (none : accessedClaim offset width = none) :
    SameGateway (plic.write offset width value).2 plic := by
  unfold write
  split
  · exact .refl plic
  rename_i served
  split
  · exact sameGateway_writePriority plic _ _
  split
  · exact sameGateway_writeEnable plic _ _ _
  · exact sameGateway_writeThreshold plic _ _
  · rename_i found
    have word : width = .word := by
      simpa using (not_or.mp served).1
    subst word
    exact absurd found (accessedClaim_none none)
  · exact .refl plic

/-- The operations that the gateways notice: claims, completions and level changes. -/
theorem perform_cases (plic : Plic) (operation : Operation) :
    (∃ context < contextCount, operation.claimant = some context ∧
        plic.perform operation = (plic.claim context).2) ∨
      (∃ context source, context < contextCount ∧ operation.claimant = none ∧
        operation.completion = some (context, source) ∧
        plic.perform operation = plic.complete context source) ∨
      (∃ source asserted, operation = .setSourceLevel source asserted) ∨
      (operation.claimant = none ∧ operation.completion = none ∧
        SameGateway (plic.perform operation) plic) := by
  cases operation with
  | setSourceLevel source asserted => exact .inr (.inr (.inl ⟨source, asserted, rfl⟩))
  | read offset width =>
    cases accessed : accessedClaim offset width with
    | some context =>
      obtain ⟨rfl, known, rfl⟩ := accessedClaim_some accessed
      refine .inl ⟨context, known, accessed, ?_⟩
      simp only [perform, read_claimRegister plic known]
    | none => exact .inr (.inr (.inr ⟨accessed, rfl, plic.sameGateway_read accessed⟩))
  | write offset width value =>
    cases accessed : accessedClaim offset width with
    | some context =>
      obtain ⟨rfl, known, rfl⟩ := accessedClaim_some accessed
      refine .inr (.inl ⟨context, (value.setWidth 32).toNat, known, rfl, ?_, ?_⟩)
      · simp only [Operation.completion, accessed, Option.map_some]
      · simp only [perform, write_claimRegister plic known]
    | none =>
      refine .inr (.inr (.inr ⟨rfl, ?_, plic.sameGateway_write value accessed⟩))
      simp only [Operation.completion, accessed, Option.map_none]

theorem Coherent.bestPending_selectable {plic : Plic} (coherent : plic.Coherent) {context : Nat}
    (known : context < contextCount) (found : plic.bestPending context ≠ 0) :
    plic.Selectable context (plic.bestPending context) := by
  rw [bestPending_known plic known] at found ⊢
  rcases coherent.selects known with ⟨zero, _⟩ | ⟨selectable, _⟩
  · exact absurd zero found
  · exact selectable

theorem claim_none (plic : Plic) {context : Nat} (none : plic.bestPending context = 0) :
    plic.claim context = (0, plic) := by
  unfold claim
  dsimp only
  rw [if_neg (not_not.mpr none), none]

theorem claim_some (plic : Plic) {context : Nat} (found : plic.bestPending context ≠ 0) :
    plic.claim context =
      (plic.bestPending context,
        { plic.setPending (plic.bestPending context) false with
          claimed := Function.update plic.claimed context (plic.bestPending context) }) := by
  unfold claim
  dsimp only
  rw [if_pos found, claimed_setPending]

theorem complete_unclaimed (plic : Plic) {context source : Nat}
    (other : ¬(context < contextCount ∧ ValidSource source ∧ plic.claimed context = source)) :
    plic.complete context source = plic := by
  unfold complete
  rw [if_pos]
  by_contra claimed
  simp only [not_or, Nat.not_le, not_not] at claimed
  exact other claimed

theorem complete_claimed (plic : Plic) {context source : Nat} (known : context < contextCount)
    (valid : ValidSource source) (claimed : plic.claimed context = source) :
    (plic.complete context source).claimed = Function.update plic.claimed context 0 ∧
      (plic.complete context source).sourceLevels = plic.sourceLevels ∧
      ∀ other, (plic.complete context source).sourcePending other =
        if other = source ∧ plic.sourceLevels source = true then true
        else plic.sourcePending other := by
  unfold complete
  rw [if_neg (by simp [Nat.not_le.mpr known, valid, claimed])]
  dsimp only
  split
  · rename_i high
    refine ⟨by simp, by simp, fun other => ?_⟩
    rw [sourcePending_setPending _ valid]
    simp only [high, and_true]
    rfl
  · rename_i low
    refine ⟨rfl, rfl, fun other => ?_⟩
    rw [if_neg (fun both => low both.2)]
    rfl

theorem setSourceLevel_invalid (plic : Plic) {source : Nat} (invalid : ¬ValidSource source)
    (asserted : Bool) : plic.setSourceLevel source asserted = plic := by
  unfold setSourceLevel
  rw [if_pos invalid]

/-- A rising level makes its source pending unless a context has it in its slot. -/
theorem setSourceLevel_valid (plic : Plic) {source : Nat} (valid : ValidSource source)
    (asserted : Bool) :
    (plic.setSourceLevel source asserted).claimed = plic.claimed ∧
      (plic.setSourceLevel source asserted).sourceLevels =
        Function.update plic.sourceLevels source asserted ∧
      ∀ other, (plic.setSourceLevel source asserted).sourcePending other =
        if other = source ∧ asserted = true ∧ plic.sourceLevels source = false ∧
            plic.claimed 0 ≠ source ∧ plic.claimed 1 ≠ source then true
        else plic.sourcePending other := by
  unfold setSourceLevel
  rw [if_neg (not_not.mpr valid)]
  dsimp only
  split
  · rename_i rising
    refine ⟨by simp, by simp, fun other => ?_⟩
    rw [sourcePending_setPending _ valid]
    simp only [rising, and_self, and_true, ne_eq, not_false_eq_true]
    rfl
  · rename_i steady
    refine ⟨rfl, rfl, fun other => ?_⟩
    rw [if_neg (fun both => steady both.2)]
    rfl

end RvEmulator.Devices.Plic
