import Mathlib.Data.List.Basic
import RvEmulator.Devices.Plic

/-! The source that the interrupt controller keeps for each context is, in every run,
the one that its registers select. -/

namespace RvEmulator.Devices.Plic

/-! ### What the choice should be -/

/-- A source that a context may be interrupted by. -/
def Selectable (plic : Plic) (context source : Nat) : Prop :=
  plic.sourcePending source = true ∧ plic.sourceEnabled context source = true ∧
    plic.thresholds context < plic.priorities source

/-- The selectable source of the highest priority, the lowest of these; 0 if there
is none. -/
def Selects (plic : Plic) (context source : Nat) : Prop :=
  (source = 0 ∧ ∀ other, ¬plic.Selectable context other) ∨
    (plic.Selectable context source ∧ ∀ other, plic.Selectable context other →
      plic.priorities other < plic.priorities source ∨
        plic.priorities other = plic.priorities source ∧ source ≤ other)

theorem Selectable.valid {plic : Plic} {context source : Nat}
    (selectable : plic.Selectable context source) : ValidSource source := by
  have pending := selectable.1
  unfold sourcePending at pending
  by_contra invalid
  simp [invalid] at pending

theorem Selects.unique {plic : Plic} {context source other : Nat}
    (left : plic.Selects context source) (right : plic.Selects context other) :
    source = other := by
  rcases left with ⟨rfl, none⟩ | ⟨selectable, best⟩ <;>
    rcases right with ⟨rfl, otherNone⟩ | ⟨otherSelectable, otherBest⟩
  · rfl
  · exact absurd otherSelectable (none other)
  · exact absurd selectable (otherNone source)
  · have first := best other otherSelectable
    have second := otherBest source selectable
    simp only [BitVec.lt_def, ← BitVec.toNat_inj] at first second
    omega

/-- The loop's state after the sources up to a bound. -/
def BestBelow (plic : Plic) (context bound : Nat) (best : Nat × BitVec 32) : Prop :=
  (best = (0, 0) ∧ ∀ other, 1 ≤ other → other < bound → ¬plic.Selectable context other) ∨
    (1 ≤ best.1 ∧ best.1 < bound ∧ plic.Selectable context best.1 ∧
      best.2 = plic.priorities best.1 ∧
      ∀ other, 1 ≤ other → other < bound → plic.Selectable context other →
        plic.priorities other < best.2 ∨ plic.priorities other = best.2 ∧ best.1 ≤ other)

theorem considerSource_eq (plic : Plic) (context source : Nat) (best : Nat × BitVec 32) :
    (plic.Selectable context source ∧
        (best.2 < plic.priorities source ∨
          plic.priorities source = best.2 ∧ (best.1 = 0 ∨ source < best.1)) ∧
        plic.considerSource context best source = (source, plic.priorities source)) ∨
      (plic.considerSource context best source = best ∧
        (plic.Selectable context source →
          ¬(best.2 < plic.priorities source ∨
            plic.priorities source = best.2 ∧ (best.1 = 0 ∨ source < best.1)))) := by
  unfold considerSource
  dsimp only
  split
  · rename_i skipped
    refine .inr ⟨rfl, fun selectable => ?_⟩
    obtain ⟨pending, enabled, above⟩ := selectable
    simp [pending, enabled] at skipped
    exact absurd above (BitVec.not_lt.mpr skipped)
  · rename_i considered
    simp only [not_or, Bool.not_eq_false, BitVec.not_le] at considered
    split
    · rename_i better
      exact .inl ⟨considered, better, rfl⟩
    · rename_i worse
      exact .inr ⟨rfl, fun _ => worse⟩

theorem bestBelow_considerSource {plic : Plic} {context bound : Nat} {best : Nat × BitVec 32}
    (positive : 1 ≤ bound) (invariant : plic.BestBelow context bound best) :
    plic.BestBelow context (bound + 1) (plic.considerSource context best bound) := by
  rcases plic.considerSource_eq context bound best with
    ⟨selectable, better, taken⟩ | ⟨kept, worse⟩
  · rw [taken]
    refine .inr ⟨positive, by simp, selectable, rfl, ?_⟩
    intro other least below otherSelectable
    rcases Nat.lt_succ_iff_lt_or_eq.mp below with earlier | rfl
    · rcases invariant with ⟨rfl, none⟩ | ⟨_, _, _, same, dominated⟩
      · exact absurd otherSelectable (none other least earlier)
      · have before := dominated other least earlier otherSelectable
        simp only [BitVec.lt_def] at better before ⊢
        rcases better with higher | ⟨tie, zero | lower⟩
        · left
          rcases before with less | ⟨equal, _⟩
          · omega
          · rw [equal]
            omega
        · omega
        · omega
    · exact .inr ⟨rfl, Nat.le_refl _⟩
  · rw [kept]
    rcases invariant with ⟨rfl, none⟩ | ⟨least, below, selected, same, dominated⟩
    · refine .inl ⟨rfl, ?_⟩
      intro other otherLeast otherBelow otherSelectable
      rcases Nat.lt_succ_iff_lt_or_eq.mp otherBelow with earlier | rfl
      · exact none other otherLeast earlier otherSelectable
      · refine worse otherSelectable (.inl ?_)
        have above := otherSelectable.2.2
        simp only [BitVec.lt_def] at above ⊢
        simp
        omega
    · refine .inr ⟨least, Nat.lt_succ_of_lt below, selected, same, ?_⟩
      intro other otherLeast otherBelow otherSelectable
      rcases Nat.lt_succ_iff_lt_or_eq.mp otherBelow with earlier | rfl
      · exact dominated other otherLeast earlier otherSelectable
      · have refused := worse otherSelectable
        rw [not_or, BitVec.not_lt, BitVec.le_def] at refused
        rw [BitVec.lt_def]
        rcases Nat.lt_or_eq_of_le refused.1 with less | equal
        · exact .inl less
        · exact .inr ⟨BitVec.eq_of_toNat_eq equal, Nat.le_of_lt below⟩

theorem bestBelow_foldl (plic : Plic) (context : Nat) (count : Nat) :
    plic.BestBelow context (count + 1)
      ((List.range' 1 count).foldl (plic.considerSource context) (0, 0)) := by
  induction count with
  | zero =>
    refine .inl ⟨rfl, ?_⟩
    intro other least below
    omega
  | succ count ih =>
    rw [List.range'_1_concat, List.foldl_append, Nat.add_comm 1 count]
    exact bestBelow_considerSource (Nat.succ_le_succ (Nat.zero_le count)) ih

theorem computeBestPending_selects (plic : Plic) {context : Nat} (known : context < contextCount) :
    plic.Selects context (plic.computeBestPending context) := by
  unfold computeBestPending
  rw [if_neg (Nat.not_le.mpr known)]
  rcases plic.bestBelow_foldl context sourceCount with ⟨best, none⟩ | ⟨_, _, selected, same, top⟩
  · rw [best]
    refine .inl ⟨rfl, fun other selectable => ?_⟩
    obtain ⟨nonzero, bounded⟩ := selectable.valid
    exact none other (Nat.pos_of_ne_zero nonzero) (Nat.lt_succ_of_le bounded) selectable
  · refine .inr ⟨selected, fun other selectable => ?_⟩
    obtain ⟨nonzero, bounded⟩ := selectable.valid
    rw [← same]
    exact top other (Nat.pos_of_ne_zero nonzero) (Nat.lt_succ_of_le bounded) selectable

/-! ### The cache -/

/-- The cache holds what the search would find. -/
def Coherent (plic : Plic) : Prop :=
  ∀ context < contextCount, plic.bestPendingCache context = plic.computeBestPending context

theorem computeBestPending_refreshPending (plic : Plic) (context other : Nat) :
    (plic.refreshPending context).computeBestPending other = plic.computeBestPending other := by
  unfold refreshPending
  split <;> rfl

/-- A change of one context's registers needs that context's refresh only. -/
theorem coherent_refreshPending {plic : Plic} {context : Nat}
    (others : ∀ other < contextCount, other ≠ context →
      plic.bestPendingCache other = plic.computeBestPending other) :
    (plic.refreshPending context).Coherent := by
  intro other known
  rw [computeBestPending_refreshPending]
  unfold refreshPending
  by_cases same : other = context
  · subst same
    simp [known]
  · split
    · simp [same, others other known same]
    · exact others other known same

theorem refreshAllPending_eq (plic : Plic) :
    plic.refreshAllPending = (plic.refreshPending 0).refreshPending 1 := rfl

theorem coherent_refreshAllPending (plic : Plic) : plic.refreshAllPending.Coherent := by
  rw [refreshAllPending_eq]
  apply coherent_refreshPending
  intro other known different
  have zero : other = 0 := by
    unfold contextCount at known
    omega
  subst zero
  rw [computeBestPending_refreshPending]
  simp [refreshPending, contextCount]

theorem setPending_same {plic : Plic} {source : Nat} {pending : Bool}
    (same : pending = plic.sourcePending source) : plic.setPending source pending = plic := by
  by_cases valid : ValidSource source
  · unfold setPending
    rw [if_neg (not_not.mpr valid)]
    dsimp only
    rw [if_neg (not_not.mpr same)]
    have kept : (if pending = true then
        plic.pending (source / 32) ||| (1 : BitVec 32) <<< (source % 32)
      else plic.pending (source / 32) &&& ~~~((1 : BitVec 32) <<< (source % 32))) =
        plic.pending (source / 32) := by
      unfold sourcePending at same
      rw [if_neg (not_not.mpr valid)] at same
      ext bit bounded
      cases pending <;> simp <;> grind
    rw [kept, Function.update_eq_self]
  · unfold setPending
    rw [if_pos valid]

theorem coherent_setPending {plic : Plic} (coherent : plic.Coherent) (source : Nat)
    (pending : Bool) : (plic.setPending source pending).Coherent := by
  by_cases same : pending = plic.sourcePending source
  · rwa [setPending_same same]
  · unfold setPending
    split
    · exact coherent
    · exact coherent_refreshAllPending _

theorem coherent_setSourceLevel {plic : Plic} (coherent : plic.Coherent) (source : Nat)
    (asserted : Bool) : (plic.setSourceLevel source asserted).Coherent := by
  unfold setSourceLevel
  split
  · exact coherent
  · have changed : Coherent { plic with
        sourceLevels := Function.update plic.sourceLevels source asserted } := coherent
    dsimp only
    split
    · exact coherent_setPending changed source true
    · exact changed

theorem coherent_claim {plic : Plic} (coherent : plic.Coherent) (context : Nat) :
    (plic.claim context).2.Coherent := by
  unfold claim
  dsimp only
  split
  · exact coherent_setPending coherent (plic.bestPending context) false
  · exact coherent

theorem coherent_complete {plic : Plic} (coherent : plic.Coherent) (context source : Nat) :
    (plic.complete context source).Coherent := by
  unfold complete
  split
  · exact coherent
  · have released : Coherent { plic with
        claimed := Function.update plic.claimed context 0 } := coherent
    dsimp only
    split
    · exact coherent_setPending released source true
    · exact released

theorem coherent_read {plic : Plic} (coherent : plic.Coherent) (offset : BitVec 64)
    (width : AccessWidth) : (plic.read offset width).2.Coherent := by
  unfold read
  split
  · exact coherent
  split
  · exact coherent
  split
  · exact coherent
  split
  · exact coherent
  · exact coherent
  · exact coherent_claim coherent _
  · exact coherent

/-- The search for one context does not look at the other's registers. -/
theorem computeBestPending_congr {left right : Plic} {context : Nat}
    (priorities : left.priorities = right.priorities) (pending : left.pending = right.pending)
    (enables : left.enables context = right.enables context)
    (thresholds : left.thresholds context = right.thresholds context) :
    left.computeBestPending context = right.computeBestPending context := by
  have round : left.considerSource context = right.considerSource context := by
    funext best source
    unfold considerSource sourcePending sourceEnabled
    rw [priorities, pending, enables, thresholds]
  unfold computeBestPending
  rw [round]

theorem coherent_writeEnable {plic : Plic} (coherent : plic.Coherent) (context word : Nat)
    (value : BitVec 32) : (plic.writeEnable context word value).Coherent := by
  apply coherent_refreshPending
  intro other known different
  refine (coherent other known).trans (computeBestPending_congr rfl rfl ?_ rfl)
  simp [different]

theorem coherent_writeThreshold {plic : Plic} (coherent : plic.Coherent) (context : Nat)
    (value : BitVec 32) : (plic.writeThreshold context value).Coherent := by
  apply coherent_refreshPending
  intro other known different
  refine (coherent other known).trans (computeBestPending_congr rfl rfl rfl ?_)
  simp [different]

theorem coherent_write {plic : Plic} (coherent : plic.Coherent) (offset : BitVec 64)
    (width : AccessWidth) (value : BitVec 64) : (plic.write offset width value).2.Coherent := by
  unfold write
  split
  · exact coherent
  split
  · unfold writePriority
    split
    · exact coherent_refreshAllPending _
    · exact coherent
  split
  · exact coherent_writeEnable coherent _ _ _
  · exact coherent_writeThreshold coherent _ _
  · exact coherent_complete coherent _ _
  · exact coherent

theorem coherent_perform {plic : Plic} (coherent : plic.Coherent) (operation : Operation) :
    (plic.perform operation).Coherent := by
  cases operation with
  | setSourceLevel source asserted => exact coherent_setSourceLevel coherent source asserted
  | read offset width => exact coherent_read coherent offset width
  | write offset width value => exact coherent_write coherent offset width value

theorem coherent_initial : Coherent {} := by
  intro context known
  rcases (computeBestPending_selects {} known).imp_right And.left with ⟨none, _⟩ | selectable
  · exact none.symm
  · have pending := selectable.1
    simp [sourcePending] at pending

theorem coherent_foldl {plic : Plic} (coherent : plic.Coherent) (operations : List Operation) :
    (operations.foldl perform plic).Coherent := by
  induction operations generalizing plic with
  | nil => exact coherent
  | cons operation rest ih => exact ih (coherent_perform coherent operation)

theorem coherent_after (operations : List Operation) : (after operations).Coherent :=
  coherent_foldl coherent_initial operations

/-! ### The choice in every run -/

theorem Coherent.selects {plic : Plic} (coherent : plic.Coherent) {context : Nat}
    (known : context < contextCount) : plic.Selects context (plic.bestPendingCache context) := by
  rw [coherent context known]
  exact plic.computeBestPending_selects known

theorem Selects.ne_zero_iff {plic : Plic} {context source : Nat}
    (selects : plic.Selects context source) :
    source ≠ 0 ↔ ∃ other, plic.Selectable context other := by
  rcases selects with ⟨rfl, none⟩ | ⟨selectable, _⟩
  · simpa using none
  · exact ⟨fun _ => ⟨source, selectable⟩, fun _ => selectable.valid.1⟩

theorem bestPending_known (plic : Plic) {context : Nat} (known : context < contextCount) :
    plic.bestPending context = plic.bestPendingCache context := by
  unfold bestPending
  rw [if_neg (Nat.not_le.mpr known)]

theorem claim_fst (plic : Plic) (context : Nat) :
    (plic.claim context).1 = plic.bestPending context := by
  unfold claim
  dsimp only
  split <;> rfl

theorem read_claimRegister (plic : Plic) {context : Nat} (known : context < contextCount) :
    plic.read (claimRegister context) .word =
      ({ value := BitVec.ofNat 64 (plic.claim context).1 }, (plic.claim context).2) := by
  have cases : context = 0 ∨ context = 1 := by
    unfold contextCount at known
    omega
  rcases cases with rfl | rfl <;> rfl

/-- The cached source is, in every run and for both contexts, the one that the
registers select; the interrupt lines and the claims follow it. -/
theorem bestPendingCache_selects (operations : List Operation) :
    (∀ context < contextCount,
      (after operations).Selects context ((after operations).bestPendingCache context) ∧
        ((after operations).read (claimRegister context) .word).1 =
          { value := BitVec.ofNat 64 ((after operations).bestPendingCache context) }) ∧
      ((after operations).machineExternalIrq = true ↔
        ∃ source, (after operations).Selectable machineContext source) ∧
      ((after operations).supervisorExternalIrq = true ↔
        ∃ source, (after operations).Selectable supervisorContext source) := by
  have coherent := coherent_after operations
  have line : ∀ context < contextCount,
      ((after operations).bestPending context != 0) = true ↔
        ∃ source, (after operations).Selectable context source := by
    intro context known
    rw [bne_iff_ne, bestPending_known _ known]
    exact (coherent.selects known).ne_zero_iff
  refine ⟨?_, line machineContext (by decide), line supervisorContext (by decide)⟩
  intro context known
  refine ⟨coherent.selects known, ?_⟩
  rw [read_claimRegister _ known, claim_fst, bestPending_known _ known]

end RvEmulator.Devices.Plic
