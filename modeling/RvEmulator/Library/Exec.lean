/-! Fallible state transformers with the state kept on both exits, and the
rules that compose their unary and relational specifications. -/

namespace RvEmulator.Library

/-- A computation over `σ` that returns a value or stops with `ε`. The state it
has reached is kept in both cases, so a stop does not roll anything back. -/
def Exec (σ ε α : Type) : Type := σ → Except ε α × σ

namespace Exec

instance : Monad (Exec σ ε) where
  pure a := fun s => (.ok a, s)
  bind x f := fun s =>
    match x s with
    | (.ok a, s') => f a s'
    | (.error e, s') => (.error e, s')

def stop (e : ε) : Exec σ ε α := fun s => (.error e, s)

/-- An infallible transformer, as a computation that never stops. -/
def lift (f : StateM σ α) : Exec σ ε α := fun s => (.ok (f s).1, (f s).2)

@[simp] theorem pure_apply (a : α) (s : σ) : (pure a : Exec σ ε α) s = (.ok a, s) := rfl

@[simp] theorem stop_apply (e : ε) (s : σ) : (stop e : Exec σ ε α) s = (.error e, s) := rfl

@[simp] theorem lift_apply (f : StateM σ α) (s : σ) :
    (lift f : Exec σ ε α) s = (.ok (f s).1, (f s).2) := rfl

theorem pure_bind (a : α) (f : α → Exec σ ε β) : (pure a >>= f) = f a := rfl

theorem bind_ok {x : Exec σ ε α} {f : α → Exec σ ε β} (returned : x s = (.ok a, s')) :
    (x >>= f) s = f a s' := by
  simp only [bind, returned]

theorem bind_error {x : Exec σ ε α} {f : α → Exec σ ε β} (stopped : x s = (.error e, s')) :
    (x >>= f) s = (.error e, s') := by
  simp only [bind, stopped]

/-- A sequence that returns has returned from both its parts. -/
theorem bind_returned {x : Exec σ ε α} {f : α → Exec σ ε β} (returned : (x >>= f) s = (.ok b, s')) :
    ∃ a middle, x s = (.ok a, middle) ∧ f a middle = (.ok b, s') := by
  rcases first : x s with ⟨e | a, middle⟩
  · rw [bind_error first] at returned
    cases returned
  · rw [bind_ok first] at returned
    exact ⟨a, middle, rfl, returned⟩

/-- Partial-correctness triple with one postcondition for each exit. -/
def Ensures (pre : σ → Prop) (x : Exec σ ε α) (post : α → σ → Prop)
    (stopped : ε → σ → Prop) : Prop :=
  ∀ s, pre s → (∀ a, (x s).1 = .ok a → post a (x s).2) ∧
    (∀ e, (x s).1 = .error e → stopped e (x s).2)

theorem Ensures.pure {post : α → σ → Prop} {stopped : ε → σ → Prop}
    (holds : ∀ s, pre s → post a s) : Ensures pre (pure a) post stopped := by
  intro s before
  refine ⟨?_, ?_⟩
  · intro b same
    cases same
    exact holds s before
  · intro e same
    cases same

theorem Ensures.stop {post : α → σ → Prop} {stopped : ε → σ → Prop}
    (holds : ∀ s, pre s → stopped e s) : Ensures pre (stop e) post stopped := by
  intro s before
  refine ⟨?_, ?_⟩
  · intro b same
    cases same
  · intro b same
    cases same
    exact holds s before

theorem Ensures.lift {f : StateM σ α} {post : α → σ → Prop} {stopped : ε → σ → Prop}
    (holds : ∀ s, pre s → post (f s).1 (f s).2) : Ensures pre (lift f) post stopped := by
  intro s before
  refine ⟨?_, ?_⟩
  · intro b same
    cases same
    exact holds s before
  · intro e same
    cases same

theorem Ensures.bind {x : Exec σ ε α} {f : α → Exec σ ε β} {middle : α → σ → Prop}
    {post : β → σ → Prop} {stopped : ε → σ → Prop}
    (first : Ensures pre x middle stopped)
    (next : ∀ a, Ensures (middle a) (f a) post stopped) :
    Ensures pre (x >>= f) post stopped := by
  intro s before
  obtain ⟨returned, failed⟩ := first s before
  rcases outcome : x s with ⟨⟨e⟩ | ⟨a⟩, s'⟩
  · rw [bind_error outcome]
    simp only [outcome] at failed
    refine ⟨by simp, ?_⟩
    intro e' same
    cases same
    exact failed e rfl
  · rw [bind_ok outcome]
    simp only [outcome] at returned
    exact next a s' (returned a rfl)

/-- A monotone safety condition on the final state of a run: `later` orders
states by how far the run has come, and a good late state was good before. -/
structure Guard (τ : Type) where
  later : τ → τ → Prop
  good : τ → Prop
  refl : ∀ t, later t t
  trans : later t u → later u v → later t v
  earlier : later t u → good u → good t

/-- Two runs ended alike: both returned, with related values, or both stopped for
the same reason. -/
inductive Ended (post : α → α → σ → τ → Prop) (stopped : σ → τ → Prop) :
    Except ε α × σ → Except ε α × τ → Prop where
  | ok (holds : post a b s t) : Ended post stopped (.ok a, s) (.ok b, t)
  | error (holds : stopped s t) : Ended post stopped (.error e, s) (.error e, t)

theorem Ended.mono {post wider : α → α → σ → τ → Prop} {stopped wide : σ → τ → Prop}
    {left : Except ε α × σ} {right : Except ε α × τ}
    (included : ∀ a b s t, post a b s t → wider a b s t)
    (contained : ∀ s t, stopped s t → wide s t) (ended : Ended post stopped left right) :
    Ended wider wide left right := by
  cases ended with
  | ok holds => exact .ok (included _ _ _ _ holds)
  | error holds => exact .error (contained _ _ holds)

/-- Run from related states, the two computations end alike, provided that the
second run ends in a good state. The second one only ever moves later, related
or not, so good ends have good beginnings. -/
structure Refines (guard : Guard τ) (pre : σ → τ → Prop) (x : Exec σ ε α) (y : Exec τ ε α)
    (post : α → α → σ → τ → Prop) (stopped : σ → τ → Prop) : Prop where
  steady : ∀ t, guard.later t (y t).2
  ended : ∀ s t, pre s t → guard.good (y t).2 → Ended post stopped (x s) (y t)

theorem Refines.pure {guard : Guard τ} {pre : σ → τ → Prop} {post : α → α → σ → τ → Prop}
    {stopped : σ → τ → Prop} (holds : ∀ s t, pre s t → post a b s t) :
    Refines (ε := ε) guard pre (pure a) (pure b) post stopped where
  steady t := guard.refl t
  ended s t related _ := .ok (holds s t related)

theorem Refines.stop {guard : Guard τ} {pre : σ → τ → Prop} {post : α → α → σ → τ → Prop}
    {stopped : σ → τ → Prop} {e : ε} (holds : ∀ s t, pre s t → stopped s t) :
    Refines guard pre (stop e) (stop e) post stopped where
  steady t := guard.refl t
  ended s t related _ := .error (holds s t related)

theorem Refines.lift {guard : Guard τ} {pre : σ → τ → Prop} {f : StateM σ α} {g : StateM τ α}
    {post : α → α → σ → τ → Prop} {stopped : σ → τ → Prop}
    (steady : ∀ t, guard.later t (g t).2)
    (related : ∀ s t, pre s t → guard.good (g t).2 → post (f s).1 (g t).1 (f s).2 (g t).2) :
    Refines (ε := ε) guard pre (lift f) (lift g) post stopped where
  steady := steady
  ended s t before good := .ok (related s t before good)

theorem Refines.bind {guard : Guard τ} {pre : σ → τ → Prop} {x : Exec σ ε α} {y : Exec τ ε α}
    {f : α → Exec σ ε γ} {g : α → Exec τ ε γ} {middle : α → α → σ → τ → Prop}
    {post : γ → γ → σ → τ → Prop} {stopped : σ → τ → Prop}
    (first : Refines guard pre x y middle stopped)
    (next : ∀ a b, Refines guard (middle a b) (f a) (g b) post stopped) :
    Refines guard pre (x >>= f) (y >>= g) post stopped where
  steady t := by
    have grown := first.steady t
    rcases reference : y t with ⟨⟨e⟩ | ⟨b⟩, t'⟩
    · rw [bind_error reference]
      simpa only [reference] using grown
    · rw [bind_ok reference]
      simp only [reference] at grown
      exact guard.trans grown ((next b b).steady t')
  ended s t related good := by
    -- a good end of the second run is a good end of its first part
    have middleGood : guard.good (y t).2 := by
      rcases reference : y t with ⟨⟨e⟩ | ⟨b⟩, t'⟩
      · rw [bind_error reference] at good
        exact good
      · rw [bind_ok reference] at good
        exact guard.earlier ((next b b).steady t') good
    have ended := first.ended s t related middleGood
    rcases left : x s with ⟨⟨e⟩ | ⟨a⟩, s'⟩ <;> rcases right : y t with ⟨⟨e'⟩ | ⟨b⟩, t'⟩ <;>
      rw [left, right] at ended
    · cases ended with
      | error holds =>
        rw [bind_error left, bind_error right]
        exact .error holds
    · cases ended
    · cases ended
    · cases ended with
      | ok holds =>
        rw [bind_ok right] at good
        rw [bind_ok left, bind_ok right]
        exact (next a b).ended s' t' holds good

/-- A sequence whose first parts return the same. -/
theorem Refines.bind_same {guard : Guard τ} {pre : σ → τ → Prop} {x : Exec σ ε α} {y : Exec τ ε α}
    {f : α → Exec σ ε γ} {g : α → Exec τ ε γ} {middle : α → σ → τ → Prop}
    {post : γ → γ → σ → τ → Prop} {stopped : σ → τ → Prop}
    (first : Refines guard pre x y (fun a b s t => a = b ∧ middle b s t) stopped)
    (next : ∀ a, Refines guard (middle a) (f a) (g a) post stopped) :
    Refines guard pre (x >>= f) (y >>= g) post stopped := by
  refine first.bind fun a b => ⟨(next b).steady, ?_⟩
  rintro s t ⟨rfl, related⟩ good
  exact (next a).ended s t related good

/-- Weaken what is known before, and strengthen or weaken what is known after by
way of what is known before. -/
theorem Refines.conseq {guard : Guard τ} {pre narrow : σ → τ → Prop} {x : Exec σ ε α}
    {y : Exec τ ε α} {post wider : α → α → σ → τ → Prop} {stopped wide : σ → τ → Prop}
    (refines : Refines guard pre x y post stopped) (before : ∀ s t, narrow s t → pre s t)
    (after : ∀ a b s t, post a b s t → wider a b s t) (failed : ∀ s t, stopped s t → wide s t) :
    Refines guard narrow x y wider wide where
  steady := refines.steady
  ended s t related good := (refines.ended s t (before s t related) good).mono after failed

/-- What survives every move of the second computation survives this one. -/
theorem Refines.frame {guard : Guard τ} {pre : σ → τ → Prop} {x : Exec σ ε α} {y : Exec τ ε α}
    {post : α → α → σ → τ → Prop} {stopped : σ → τ → Prop} {kept : τ → Prop}
    (refines : Refines guard pre x y post stopped)
    (stable : ∀ t u, guard.later t u → kept t → kept u) :
    Refines guard (fun s t => pre s t ∧ kept t) x y (fun a b s t => post a b s t ∧ kept t)
      stopped where
  steady := refines.steady
  ended s t related good := by
    have ended := refines.ended s t related.1 good
    have still := stable t _ (refines.steady t) related.2
    generalize x s = left at ended
    generalize y t = right at ended still
    cases ended with
    | ok holds => exact .ok ⟨holds, still⟩
    | error holds => exact .error holds

/-- What the second computation alone is known to return. -/
theorem Refines.returned {guard : Guard τ} {pre : σ → τ → Prop} {x : Exec σ ε α} {y : Exec τ ε α}
    {post : α → α → σ → τ → Prop} {stopped : σ → τ → Prop} {known : α → τ → Prop}
    (refines : Refines guard pre x y post stopped)
    (returns : ∀ s t b u, pre s t → y t = (.ok b, u) → known b u) :
    Refines guard pre x y (fun a b s t => post a b s t ∧ known b t) stopped where
  steady := refines.steady
  ended s t related good := by
    have ended := refines.ended s t related good
    have known := returns s t
    generalize x s = left at ended
    generalize y t = right at ended known
    cases ended with
    | ok holds => exact .ok ⟨holds, known _ _ related rfl⟩
    | error holds => exact .error holds

/-- A sequence whose first parts return the same, which is known to be something, beside
what was known before and stays so. -/
theorem Refines.bind_known {guard : Guard τ} {pre : σ → τ → Prop} {x : Exec σ ε α} {y : Exec τ ε α}
    {f : α → Exec σ ε γ} {g : α → Exec τ ε γ} {middle : σ → τ → Prop} {kept : τ → Prop}
    {known : α → τ → Prop} {post : γ → γ → σ → τ → Prop} {stopped : σ → τ → Prop}
    (first : Refines guard pre x y (fun a b s t => a = b ∧ middle s t) stopped)
    (stable : ∀ t u, guard.later t u → kept t → kept u)
    (returns : ∀ s t b u, pre s t → kept t → y t = (.ok b, u) → known b u)
    (next : ∀ a, Refines guard (fun s t => middle s t ∧ known a t ∧ kept t) (f a) (g a) post
      stopped) :
    Refines guard (fun s t => pre s t ∧ kept t) (x >>= f) (y >>= g) post stopped := by
  have whole := (first.frame stable).returned fun s t b u before =>
    returns s t b u before.1 before.2
  refine Refines.bind_same (whole.conseq (fun _ _ before => before) ?_ fun _ _ failed => failed) next
  rintro a b s t ⟨⟨⟨same, related⟩, kept⟩, known⟩
  exact ⟨same, related, known, kept⟩

end Exec

end RvEmulator.Library
