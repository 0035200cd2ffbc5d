import RvEmulator.Library.Exec

/-! Computations that nothing stops, and what they keep of the state on the way. -/

namespace RvEmulator.Library.Exec

variable {σ ε α β : Type}

/-- The computation returns. -/
def Safe (pre : σ → Prop) (x : Exec σ ε α) : Prop :=
  x.Ensures pre (fun _ _ => True) fun _ _ => False

/-- The computation returns, and what held of the state still holds. -/
def Secure (kept : σ → Prop) (x : Exec σ ε α) (post : α → Prop) : Prop :=
  x.Ensures kept (fun a state => kept state ∧ post a) fun _ _ => False

variable {pre kept : σ → Prop} {x y : Exec σ ε α} {f : α → Exec σ ε β} {middle : α → Prop}
  {post : β → Prop}

theorem Safe.returns (safe : Safe (fun _ => True) x) (state : σ) :
    ∃ a after, x state = (.ok a, after) := by
  rcases ended : x state with ⟨error | a, after⟩
  · exact ((safe state trivial).2 error (by rw [ended])).elim
  · exact ⟨a, after, rfl⟩

theorem Safe.weaken {wide : σ → Prop} (safe : Safe wide x)
    (weaker : ∀ state, pre state → wide state) : Safe pre x :=
  fun state before => safe state (weaker state before)

theorem Secure.safe (secure : Secure kept x middle) : Safe kept x := fun state before =>
  ⟨fun _ _ => trivial, (secure state before).2⟩

theorem Secure.weaken {wide : α → Prop} (secure : Secure kept x middle)
    (weaker : ∀ a, middle a → wide a) : Secure kept x wide := fun state before =>
  ⟨fun a same => ((secure state before).1 a same).imp_right (weaker a), (secure state before).2⟩

theorem Secure.pure {a : α} (holds : middle a) : Secure (ε := ε) kept (pure a) middle :=
  Ensures.pure fun _ before => ⟨before, holds⟩

theorem Secure.bind (first : Secure kept x middle)
    (next : ∀ a, middle a → Secure kept (f a) post) : Secure kept (x >>= f) post :=
  Ensures.bind first fun a state known => next a known.2 state known.1

theorem Secure.ite {condition : Prop} [Decidable condition]
    (holds : condition → Secure kept x middle) (fails : ¬condition → Secure kept y middle) :
    Secure kept (if condition then x else y) middle := by
  split
  · exact holds ‹_›
  · exact fails ‹_›

/-- A part that changes the state in a way that what is kept does not notice. -/
theorem Secure.lift {change : StateM σ α}
    (stable : ∀ state, kept state → kept (change state).2 ∧ middle (change state).1) :
    Secure (ε := ε) kept (lift change) middle :=
  Ensures.lift stable

/-- A first part that keeps something, and a rest that relies on it. -/
theorem Safe.bind (first : Secure kept x middle) (next : ∀ a, middle a → Safe kept (f a)) :
    Safe kept (x >>= f) :=
  Ensures.bind first fun a state known => next a known.2 state known.1

/-- A first part that keeps nothing, and a rest that relies on nothing. -/
theorem Safe.andThen (first : Safe pre x) (next : ∀ a, Safe (fun _ => True) (f a)) :
    Safe pre (x >>= f) :=
  Ensures.bind first fun a state _ => next a state trivial

theorem Safe.pure {a : α} : Safe (ε := ε) pre (pure a) :=
  Ensures.pure fun _ _ => trivial

theorem Safe.ite {condition : Prop} [Decidable condition] (holds : condition → Safe pre x)
    (fails : ¬condition → Safe pre y) : Safe pre (if condition then x else y) := by
  split
  · exact holds ‹_›
  · exact fails ‹_›

end RvEmulator.Library.Exec
