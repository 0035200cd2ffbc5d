/-! Systems that take the same calls one after the other. -/

namespace RvEmulator.Library

variable {σ τ ι ο : Type}

/-- What the calls return, and the state after the last of them. -/
def runCalls (call : σ → ι → List ο × σ) (state : σ) : List ι → List ο × σ
  | [] => ([], state)
  | next :: rest =>
    ((call state next).1 ++ (runCalls call (call state next).2 rest).1,
      (runCalls call (call state next).2 rest).2)

/-- A system that follows another one, as long as the other one ends well: it is in a
good state after a call only if it was in one before. -/
structure Lockstep (call : σ → ι → List ο × σ) (reference : τ → ι → List ο × τ)
    (follows : σ → τ → Prop) (kept good : τ → Prop) : Prop where
  followed : ∀ state other, follows state other → kept other
  keeps : ∀ other next, kept other → kept (reference other next).2
  earlier : ∀ other next, kept other → good (reference other next).2 → good other
  step : ∀ state other next, follows state other → good (reference other next).2 →
    (call state next).1 = (reference other next).1 ∧
      follows (call state next).2 (reference other next).2

namespace Lockstep

variable {call : σ → ι → List ο × σ} {reference : τ → ι → List ο × τ} {follows : σ → τ → Prop}
  {kept good : τ → Prop} (lockstep : Lockstep call reference follows kept good)

include lockstep

theorem earlier_run {other : τ} (stays : kept other) (calls : List ι)
    (ended : good (runCalls reference other calls).2) : good other := by
  induction calls generalizing other with
  | nil => exact ended
  | cons next rest ih =>
    exact lockstep.earlier other next stays (ih (lockstep.keeps other next stays) ended)

/-- A whole run that ends well is followed. -/
theorem run {state : σ} {other : τ} (starts : follows state other) (calls : List ι)
    (ended : good (runCalls reference other calls).2) :
    (runCalls call state calls).1 = (runCalls reference other calls).1 ∧
      follows (runCalls call state calls).2 (runCalls reference other calls).2 := by
  induction calls generalizing state other with
  | nil => exact ⟨rfl, starts⟩
  | cons next rest ih =>
    have stays := lockstep.keeps other next (lockstep.followed state other starts)
    obtain ⟨first, after⟩ :=
      lockstep.step state other next starts (lockstep.earlier_run stays rest ended)
    obtain ⟨later, follows⟩ := ih after ended
    refine ⟨?_, follows⟩
    rw [runCalls, runCalls, first, later]

end Lockstep

end RvEmulator.Library
