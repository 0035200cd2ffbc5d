import RvEmulator.Devices.GatewaySafety
import RvEmulator.Library.History

/-! What is pending at the interrupt controller until somebody claims it, in any run, and what
the contexts are told of it. -/

namespace RvEmulator.Devices.Plic

open Library

/-- The operation is a claim that returns the source. -/
def Operation.Claims (operation : Operation) (plic : Plic) (source : Nat) : Prop :=
  ∃ context, operation.claimant = some context ∧ (plic.claim context).1 = source

/-- One of the operations is, in the state that it meets. -/
def ClaimedIn (source : Nat) : Plic → List Operation → Prop
  | _, [] => False
  | plic, operation :: rest =>
    operation.Claims plic source ∨ ClaimedIn source (plic.perform operation) rest

instance (operation : Operation) (plic : Plic) (source : Nat) :
    Decidable (operation.Claims plic source) :=
  decidable_of_iff (∃ context ∈ operation.claimant, (plic.claim context).1 = source)
    (by simp [Operation.Claims])

instance decidableClaimedIn (source : Nat) : (plic : Plic) → (operations : List Operation) →
    Decidable (ClaimedIn source plic operations)
  | _, [] => inferInstanceAs (Decidable False)
  | plic, operation :: rest =>
    have := decidableClaimedIn source (plic.perform operation) rest
    inferInstanceAs (Decidable (_ ∨ _))

instance (plic : Plic) (context source : Nat) : Decidable (plic.Selectable context source) :=
  inferInstanceAs (Decidable (_ ∧ _ ∧ _))

variable {plic : Plic} {source context : Nat}

/-- A source stays pending through every operation but its claim. -/
theorem pending_perform (coherent : plic.Coherent) (pending : plic.sourcePending source = true)
    {operation : Operation} (unclaimed : ¬operation.Claims plic source) :
    (plic.perform operation).sourcePending source = true := by
  rcases plic.perform_cases operation with
    ⟨context, known, claimant, performed⟩ | ⟨context, other, known, _, _, performed⟩ |
      ⟨other, asserted, rfl⟩ | ⟨_, _, same⟩
  · rw [performed]
    by_cases found : plic.bestPending context = 0
    · rwa [claim_none plic found]
    have different : source ≠ plic.bestPending context := fun same =>
      unclaimed ⟨context, claimant, (claim_fst plic context).trans same.symm⟩
    have valid := (coherent.bestPending_selectable known found).valid
    rw [claim_some plic found]
    refine (sourcePending_setPending plic valid false source).trans ?_
    rwa [if_neg different]
  · rw [performed]
    by_cases claimed : context < contextCount ∧ ValidSource other ∧ plic.claimed context = other
    · rw [(complete_claimed plic claimed.1 claimed.2.1 claimed.2.2).2.2]
      split
      · rfl
      · exact pending
    · rwa [complete_unclaimed plic claimed]
  · change (plic.setSourceLevel other asserted).sourcePending source = true
    by_cases valid : ValidSource other
    · rw [(setSourceLevel_valid plic valid asserted).2.2]
      split
      · rfl
      · exact pending
    · rwa [setSourceLevel_invalid plic valid]
  · rwa [same.pending]

/-- In every run, a source stays pending until it is claimed. -/
theorem pending_foldl (coherent : plic.Coherent) (pending : plic.sourcePending source = true)
    {operations : List Operation} (unclaimed : ¬ClaimedIn source plic operations) :
    (operations.foldl perform plic).sourcePending source = true := by
  induction operations generalizing plic with
  | nil => exact pending
  | cons operation rest ih =>
    obtain ⟨first, others⟩ := not_or.mp unclaimed
    exact ih (coherent_perform coherent operation) (pending_perform coherent pending first) others

theorem coherent_history (history : History perform {}) : history.state.Coherent :=
  history.invariant coherent_initial fun _ operation coherent => coherent_perform coherent operation

/-- The level that was sampled last is recorded. -/
theorem sourceLevels_foldl {levels : List (Nat × Bool)} (distinct : (levels.map Prod.fst).Nodup)
    (valid : ∀ level ∈ levels, ValidSource level.1) (plic : Plic) :
    let after :=
      (levels.map fun level => Operation.setSourceLevel level.1 level.2).foldl perform plic
    (∀ level ∈ levels, after.sourceLevels level.1 = level.2) ∧
      ∀ other, other ∉ levels.map Prod.fst → after.sourceLevels other = plic.sourceLevels other := by
  induction levels generalizing plic with
  | nil => exact ⟨by simp, fun other _ => rfl⟩
  | cons level rest ih =>
    obtain ⟨fresh, distinct⟩ := List.nodup_cons.mp distinct
    obtain ⟨validLevel, valid⟩ := List.forall_mem_cons.mp valid
    obtain ⟨sampled, kept⟩ := ih distinct valid (plic.perform (.setSourceLevel level.1 level.2))
    have changed := (setSourceLevel_valid plic validLevel level.2).2.1
    refine ⟨List.forall_mem_cons.mpr ⟨?_, sampled⟩, fun other absent => ?_⟩
    · refine (kept level.1 fresh).trans ((congrFun changed level.1).trans ?_)
      exact Function.update_self ..
    · simp only [List.map_cons, List.mem_cons, not_or] at absent
      refine (kept other absent.2).trans ((congrFun changed other).trans ?_)
      exact Function.update_of_ne absent.1 ..

/-! ### What the contexts are told -/

/-- A context is told of any source that it may be interrupted by. -/
theorem bestPending_ne_zero (coherent : plic.Coherent) (known : context < contextCount)
    (selectable : plic.Selectable context source) : plic.bestPending context ≠ 0 := by
  rw [bestPending_known plic known]
  exact (coherent.selects known).ne_zero_iff.mpr ⟨source, selectable⟩

namespace Serviced

theorem plic_foldl (serviced : Serviced) (operations : List Operation) :
    (operations.foldl observe serviced).plic = operations.foldl perform serviced.plic := by
  induction operations generalizing serviced with
  | nil => rfl
  | cons operation rest ih => exact ih (serviced.observe operation)

theorem plic_observed (history : History perform {}) :
    (observed history.events).plic = history.state :=
  (plic_foldl {} history.events).trans history.reached

/-- Without nested claims, a source whose level is high is pending or in service. -/
theorem pending_or_claimed (history : History perform {})
    (unnested : UnnestedRun {} history.events)
    (high : history.state.sourceLevels source = true) :
    history.state.sourcePending source = true ∨
      ∃ context, (context, source) ∈ (observed history.events).outstanding := by
  have gateway : Gateway (observed history.events) := gateway_initial.run unnested
  rw [← plic_observed history] at high ⊢
  exact gateway.alive high

end Serviced

end RvEmulator.Devices.Plic
