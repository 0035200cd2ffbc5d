import RvEmulator.Devices.Gateway

/-! What becomes of a source between its claim and its completion. A context has one
claim slot, so the protocol is kept as long as no context claims a second source
before it completes the first. -/

namespace RvEmulator.Devices.Plic

/-- The controller, and the claims that were not completed: the context and the
source of each. -/
structure Serviced where
  plic : Plic := {}
  outstanding : List (Nat × Nat) := []

namespace Serviced

/-- A claim that returns a source starts its service, and a completion of it by the
same context ends it. -/
def observe (serviced : Serviced) (operation : Operation) : Serviced where
  plic := serviced.plic.perform operation
  outstanding :=
    match operation.claimant, operation.completion with
    | some context, _ =>
      let source := (serviced.plic.claim context).1
      if source ≠ 0 then (context, source) :: serviced.outstanding else serviced.outstanding
    | none, some claim => serviced.outstanding.filter fun other => other ≠ claim
    | none, none => serviced.outstanding

/-- The state that operations from the construction on lead to. -/
def observed (operations : List Operation) : Serviced := operations.foldl observe {}

/-- What the gateways promise of a state. -/
structure Safe (serviced : Serviced) : Prop where
  masked : ∀ context source, (context, source) ∈ serviced.outstanding →
    serviced.plic.sourcePending source = false ∧
      ∀ other < contextCount, (serviced.plic.claim other).1 ≠ source
  completed : ∀ context source, (context, source) ∈ serviced.outstanding →
    ∀ operation, Operation.completion operation = some (context, source) →
      ((serviced.plic.perform operation).sourcePending source = true ↔
        serviced.plic.sourceLevels source = true)
  alive : ∀ source, serviced.plic.sourceLevels source = true →
    serviced.plic.sourcePending source = true ∨
      ∃ context, (context, source) ∈ serviced.outstanding

/-- The operation is not a claim that returns a source to a context which has not
completed its last one. -/
def Unnested (serviced : Serviced) (operation : Operation) : Prop :=
  ∀ context, operation.claimant = some context →
    (∃ source, (context, source) ∈ serviced.outstanding) → serviced.plic.bestPending context = 0

/-- All the operations are, in the states that they meet. -/
def UnnestedRun : Serviced → List Operation → Prop
  | _, [] => True
  | serviced, operation :: rest =>
    serviced.Unnested operation ∧ (serviced.observe operation).UnnestedRun rest

instance (serviced : Serviced) (operation : Operation) : Decidable (serviced.Unnested operation) :=
  decidable_of_iff
    (∀ context ∈ operation.claimant,
      (∃ claim ∈ serviced.outstanding, claim.1 = context) → serviced.plic.bestPending context = 0)
    (by simp [Unnested])

instance decidableUnnestedRun : (serviced : Serviced) → (operations : List Operation) →
    Decidable (serviced.UnnestedRun operations)
  | _, [] => inferInstanceAs (Decidable True)
  | serviced, operation :: rest =>
    have := decidableUnnestedRun (serviced.observe operation) rest
    inferInstanceAs (Decidable (serviced.Unnested operation ∧ _))

/-- While no claim is nested, a context's claim slot holds its outstanding claim. -/
structure Gateway (serviced : Serviced) : Prop where
  coherent : serviced.plic.Coherent
  ledger : ∀ context source, (context, source) ∈ serviced.outstanding ↔
    context < contextCount ∧ ValidSource source ∧ serviced.plic.claimed context = source
  apart : ∀ {context other source}, (context, source) ∈ serviced.outstanding →
    (other, source) ∈ serviced.outstanding → context = other
  masked : ∀ {context source}, (context, source) ∈ serviced.outstanding →
    serviced.plic.sourcePending source = false
  alive : ∀ {source}, serviced.plic.sourceLevels source = true →
    serviced.plic.sourcePending source = true ∨
      ∃ context, (context, source) ∈ serviced.outstanding

theorem gateway_initial : Gateway {} where
  coherent := coherent_initial
  ledger context source := by
    simp only [List.not_mem_nil, false_iff]
    rintro ⟨_, valid, claimed⟩
    exact valid.1 claimed.symm
  apart member := absurd member List.not_mem_nil
  masked member := absurd member List.not_mem_nil
  alive high := by cases high

theorem Gateway.claimed_iff {serviced : Serviced} (gateway : serviced.Gateway) {context source : Nat}
    (known : context < contextCount) (valid : ValidSource source) :
    (context, source) ∈ serviced.outstanding ↔ serviced.plic.claimed context = source := by
  rw [gateway.ledger]
  exact ⟨fun both => both.2.2, fun claimed => ⟨known, valid, claimed⟩⟩

/-- A claim by a context whose slot is free. -/
theorem Gateway.claim {serviced : Serviced} (gateway : serviced.Gateway) {context : Nat}
    (known : context < contextCount) (found : serviced.plic.bestPending context ≠ 0)
    (free : ∀ source, (context, source) ∉ serviced.outstanding) :
    Gateway
      { plic := (serviced.plic.claim context).2
        outstanding := (context, serviced.plic.bestPending context) :: serviced.outstanding } := by
  have selectable := gateway.coherent.bestPending_selectable known found
  have fresh : ∀ other, (other, serviced.plic.bestPending context) ∉ serviced.outstanding := by
    intro other member
    have masked := gateway.masked member
    rw [selectable.1] at masked
    cases masked
  have pending : ∀ other, (serviced.plic.claim context).2.sourcePending other =
      if other = serviced.plic.bestPending context then false
      else serviced.plic.sourcePending other := by
    intro other
    rw [claim_some _ found]
    exact sourcePending_setPending _ selectable.valid false other
  have slot : (serviced.plic.claim context).2.claimed =
      Function.update serviced.plic.claimed context (serviced.plic.bestPending context) := by
    rw [claim_some _ found]
  have levels : (serviced.plic.claim context).2.sourceLevels = serviced.plic.sourceLevels := by
    rw [claim_some _ found]
    exact sourceLevels_setPending _ _ _
  constructor
  · exact coherent_claim gateway.coherent context
  · intro other source
    rw [List.mem_cons, slot, Prod.mk.injEq]
    by_cases same : other = context
    · subst same
      have none := free source
      simp only [true_and, none, or_false, Function.update_self, known]
      constructor
      · rintro rfl
        exact ⟨selectable.valid, rfl⟩
      · exact fun both => both.2.symm
    · simp only [same, false_and, false_or, Function.update_of_ne same]
      exact gateway.ledger other source
  · intro first second source left right
    rcases List.mem_cons.mp left with leftSame | leftMember <;>
      rcases List.mem_cons.mp right with rightSame | rightMember
    · exact (congrArg Prod.fst leftSame).trans (congrArg Prod.fst rightSame).symm
    · obtain ⟨rfl, rfl⟩ := Prod.mk.injEq .. ▸ leftSame
      exact absurd rightMember (fresh second)
    · obtain ⟨rfl, rfl⟩ := Prod.mk.injEq .. ▸ rightSame
      exact absurd leftMember (fresh first)
    · exact gateway.apart leftMember rightMember
  · intro other source member
    rw [pending]
    split
    · rfl
    · rename_i different
      rcases List.mem_cons.mp member with same | member
      · exact absurd (congrArg Prod.snd same) different
      · exact gateway.masked member
  · intro source high
    rw [levels] at high
    rw [pending]
    by_cases same : source = serviced.plic.bestPending context
    · exact .inr ⟨context, by rw [same]; exact List.mem_cons_self⟩
    · rw [if_neg same]
      rcases gateway.alive high with waiting | ⟨other, member⟩
      · exact .inl waiting
      · exact .inr ⟨other, List.mem_cons_of_mem _ member⟩

/-- A completion, of the context's own claim or of anything else. -/
theorem Gateway.complete {serviced : Serviced} (gateway : serviced.Gateway)
    (context source : Nat) :
    Gateway
      { plic := serviced.plic.complete context source
        outstanding := serviced.outstanding.filter fun other => other ≠ (context, source) } := by
  by_cases claimed : (context, source) ∈ serviced.outstanding
  · have ⟨known, valid, held⟩ := (gateway.ledger context source).mp claimed
    obtain ⟨slot, levels, pending⟩ := serviced.plic.complete_claimed known valid held
    have kept : ∀ other target,
        (other, target) ∈ serviced.outstanding.filter (fun other => other ≠ (context, source)) ↔
          (other, target) ∈ serviced.outstanding ∧ ¬(other = context ∧ target = source) := by
      intro other target
      rw [List.mem_filter, decide_eq_true_iff, ne_eq, Prod.mk.injEq]
    constructor
    · exact coherent_complete gateway.coherent context source
    · intro other target
      rw [kept, slot, gateway.ledger]
      by_cases same : other = context
      · subst same
        rw [Function.update_self, held]
        constructor
        · rintro ⟨⟨_, _, equal⟩, different⟩
          exact absurd ⟨rfl, equal.symm⟩ different
        · rintro ⟨_, targetValid, zero⟩
          exact absurd zero.symm targetValid.1
      · rw [Function.update_of_ne same]
        exact ⟨And.left, fun both => ⟨both, fun equal => same equal.1⟩⟩
    · intro first second target left right
      exact gateway.apart ((kept first target).mp left).1 ((kept second target).mp right).1
    · intro other target member
      obtain ⟨stored, different⟩ := (kept other target).mp member
      rw [pending]
      split
      · rename_i both
        obtain ⟨rfl, _⟩ := both
        exact absurd ⟨gateway.apart stored claimed, rfl⟩ different
      · exact gateway.masked stored
    · intro target high
      rw [levels] at high
      rw [pending]
      by_cases same : target = source
      · subst same
        rw [if_pos ⟨rfl, high⟩]
        exact .inl rfl
      · rw [if_neg (fun both => same both.1)]
        rcases gateway.alive high with waiting | ⟨other, member⟩
        · exact .inl waiting
        · exact .inr ⟨other, (kept other target).mpr ⟨member, fun both => same both.2⟩⟩
  · have unclaimed := (not_congr (gateway.ledger context source)).mp claimed
    have same : (serviced.outstanding.filter fun other => other ≠ (context, source)) =
        serviced.outstanding := by
      apply List.filter_eq_self.mpr
      intro other member
      rw [decide_eq_true_iff]
      rintro rfl
      exact claimed member
    rw [serviced.plic.complete_unclaimed unclaimed, same]
    exact gateway

theorem Gateway.setSourceLevel {serviced : Serviced} (gateway : serviced.Gateway) (source : Nat)
    (asserted : Bool) :
    Gateway { serviced with plic := serviced.plic.setSourceLevel source asserted } := by
  by_cases valid : ValidSource source
  · obtain ⟨slot, levels, pending⟩ := serviced.plic.setSourceLevel_valid valid asserted
    constructor
    · exact coherent_setSourceLevel gateway.coherent source asserted
    · intro other target
      rw [slot]
      exact gateway.ledger other target
    · exact gateway.apart
    · intro other target member
      rw [pending]
      split
      · rename_i rising
        obtain ⟨rfl, _, _, first, second⟩ := rising
        obtain ⟨known, _, held⟩ := (gateway.ledger other target).mp member
        rcases known_cases known with rfl | rfl
        · exact absurd held first
        · exact absurd held second
      · exact gateway.masked member
    · intro target high
      rw [levels] at high
      rw [pending]
      split
      · exact .inl rfl
      · rename_i steady
        by_cases same : target = source
        · subst same
          rw [Function.update_self] at high
          subst high
          by_cases before : serviced.plic.sourceLevels target = true
          · exact gateway.alive before
          · have held : serviced.plic.claimed 0 = target ∨ serviced.plic.claimed 1 = target := by
              by_contra neither
              exact steady ⟨rfl, rfl, by simpa using before, not_or.mp neither⟩
            rcases held with held | held
            · exact .inr ⟨0, (gateway.claimed_iff (by decide) valid).mpr held⟩
            · exact .inr ⟨1, (gateway.claimed_iff (by decide) valid).mpr held⟩
        · rw [Function.update_of_ne same] at high
          exact gateway.alive high
  · rw [serviced.plic.setSourceLevel_invalid valid]
    exact gateway

theorem Gateway.same {serviced : Serviced} (gateway : serviced.Gateway) {plic : Plic}
    (coherent : plic.Coherent) (same : SameGateway plic serviced.plic) :
    Gateway { serviced with plic } where
  coherent := coherent
  ledger context source := by
    rw [same.claimed]
    exact gateway.ledger context source
  apart := gateway.apart
  masked member := by
    rw [same.pending]
    exact gateway.masked member
  alive high := by
    rw [same.sourceLevels] at high
    rw [same.pending]
    exact gateway.alive high

theorem Gateway.observe {serviced : Serviced} (gateway : serviced.Gateway) {operation : Operation}
    (unnested : serviced.Unnested operation) : (serviced.observe operation).Gateway := by
  unfold Serviced.observe
  rcases serviced.plic.perform_cases operation with
    ⟨context, known, claimant, performed⟩ |
      ⟨context, source, known, claimant, completion, performed⟩ | ⟨source, asserted, rfl⟩ |
      ⟨claimant, completion, same⟩
  · simp only [claimant, performed, claim_fst]
    by_cases found : serviced.plic.bestPending context = 0
    · rw [claim_none _ found, if_neg (not_not.mpr found)]
      exact gateway
    · rw [if_pos found]
      apply gateway.claim known found
      intro source member
      exact found (unnested context claimant ⟨source, member⟩)
  · simp only [claimant, completion, performed]
    exact gateway.complete context source
  · exact gateway.setSourceLevel source asserted
  · simp only [claimant, completion]
    exact gateway.same (coherent_perform gateway.coherent operation) same

theorem Gateway.run {serviced : Serviced} (gateway : serviced.Gateway)
    {operations : List Operation} (unnested : serviced.UnnestedRun operations) :
    Gateway (operations.foldl Serviced.observe serviced) := by
  induction operations generalizing serviced with
  | nil => exact gateway
  | cons operation rest ih => exact ih (gateway.observe unnested.1) unnested.2

theorem unnestedRun_append {serviced : Serviced} {before rest : List Operation}
    (unnested : serviced.UnnestedRun (before ++ rest)) : serviced.UnnestedRun before := by
  induction before generalizing serviced with
  | nil => trivial
  | cons operation before ih => exact ⟨unnested.1, ih unnested.2⟩

theorem Gateway.safe {serviced : Serviced} (gateway : serviced.Gateway) : serviced.Safe where
  masked context source member := by
    have masked := gateway.masked member
    refine ⟨masked, fun other known claimed => ?_⟩
    obtain ⟨_, valid, _⟩ := (gateway.ledger context source).mp member
    rw [claim_fst] at claimed
    have selectable := gateway.coherent.bestPending_selectable known (claimed ▸ valid.1)
    rw [claimed] at selectable
    rw [selectable.1] at masked
    cases masked
  completed context source member operation completion := by
    obtain ⟨known, valid, held⟩ := (gateway.ledger context source).mp member
    rcases serviced.plic.perform_cases operation with
      ⟨_, _, claimant, _⟩ | ⟨other, target, _, _, same, performed⟩ | ⟨_, _, rfl⟩ | ⟨_, none, _⟩
    · cases operation with
      | read => cases completion
      | _ => cases claimant
    · rw [completion, Option.some.injEq, Prod.mk.injEq] at same
      obtain ⟨rfl, rfl⟩ := same
      obtain ⟨_, _, pending⟩ := serviced.plic.complete_claimed known valid held
      rw [performed, pending]
      simp [gateway.masked member]
    · cases completion
    · rw [completion] at none
      cases none
  alive _ high := gateway.alive high

/-- The gateways keep their promise in every state of a run without nested claims. -/
theorem unnested_safe (operations : List Operation) (unnested : UnnestedRun {} operations)
    (before : List Operation) (reached : before <+: operations) : (observed before).Safe := by
  obtain ⟨rest, rfl⟩ := reached
  exact (gateway_initial.run (unnestedRun_append unnested)).safe

/-- Sources 1 and 2 are enabled for the supervisor and raised. -/
def raisedSources : List Operation :=
  [.write 0x4 .word 3, .write 0x8 .word 2, .write 0x2080 .word 6,
    .setSourceLevel 1 true, .setSourceLevel 2 true]

def claimSupervisor : Operation := .read 0x201004 .word

def completeSupervisor (source : BitVec 64) : Operation := .write 0x201004 .word source

/-- One source is claimed and completed after the other. -/
theorem unnested_safe_handled :
    (observed (raisedSources ++
      [claimSupervisor, .setSourceLevel 1 false, completeSupervisor 1, claimSupervisor])).Safe :=
  unnested_safe
    (raisedSources ++
      [claimSupervisor, .setSourceLevel 1 false, completeSupervisor 1, claimSupervisor,
        completeSupervisor 2])
    (by decide) _
    ⟨[completeSupervisor 2], rfl⟩

/-- With nested claims the completion of the first source is lost: the source stays
high and is not pending again. -/
theorem nested_unsafe : ¬∀ operations, (observed operations).Safe := by
  intro safe
  have completed := (safe (raisedSources ++ [claimSupervisor, claimSupervisor])).completed 1 1
    (by decide) (completeSupervisor 1) (by decide)
  have high : (observed (raisedSources ++ [claimSupervisor, claimSupervisor])).plic.sourceLevels 1
      = true := by decide
  have lost : ((observed (raisedSources ++ [claimSupervisor, claimSupervisor])).plic.perform
      (completeSupervisor 1)).sourcePending 1 = false := by decide
  rw [completed.mpr high] at lost
  cases lost

end Serviced

end RvEmulator.Devices.Plic
