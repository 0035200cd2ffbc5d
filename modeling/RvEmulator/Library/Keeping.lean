import RvEmulator.Library.Exec

/-! Facts about the state that a computation keeps, however it ends. -/

namespace RvEmulator.Library

namespace Exec

/-- What is known of the state before is known on both exits. -/
abbrev Keeps (known : σ → Prop) (x : Exec σ ε α) : Prop :=
  Ensures known x (fun _ => known) (fun _ => known)

namespace Keeps

variable {known : σ → Prop}

theorem pure {a : α} : @Keeps _ ε _ known (pure a) := Ensures.pure fun _ before => before

theorem stop {e : ε} : @Keeps _ _ α known (stop e) := Ensures.stop fun _ before => before

theorem lift {f : StateM σ α} (keeps : ∀ s, known s → known (f s).2) :
    @Keeps _ ε _ known (lift f) := Ensures.lift keeps

theorem bind {x : Exec σ ε α} {f : α → Exec σ ε β} (first : Keeps known x)
    (next : ∀ a, Keeps known (f a)) : Keeps known (x >>= f) := Ensures.bind first next

theorem ite {condition : Prop} [Decidable condition] {x y : Exec σ ε α} (left : Keeps known x)
    (right : Keeps known y) : Keeps known (if condition then x else y) := by
  split
  · exact left
  · exact right

/-- The state at the end. -/
theorem final {x : Exec σ ε α} (keeps : Keeps known x) {s : σ} (before : known s) :
    known (x s).2 := by
  obtain ⟨returned, stopped⟩ := keeps s before
  rcases outcome : (x s).1 with e | a
  · exact stopped e outcome
  · exact returned a outcome

end Keeps

end Exec

end RvEmulator.Library
