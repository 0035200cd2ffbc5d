import Mathlib.Data.List.Basic

/-! First-in first-out channels: what was put in, what was taken out, and what waits. -/

namespace RvEmulator.Library

/-- What happens to a channel. A count that exceeds what waits takes all of it. -/
inductive Handling (α : Type) where
  | put (items : List α)
  | take (count : Nat)
  | clear

/-- A channel with its history. -/
structure Ledger (α : Type) where
  sent : List α := []
  taken : List α := []
  waiting : List α := []

namespace Ledger

variable {α : Type}

def handle (ledger : Ledger α) : Handling α → Ledger α
  | .put items =>
    { ledger with sent := ledger.sent ++ items, waiting := ledger.waiting ++ items }
  | .take count =>
    { ledger with
      taken := ledger.taken ++ ledger.waiting.take count
      waiting := ledger.waiting.drop count }
  | .clear => { ledger with waiting := [] }

def run (ledger : Ledger α) (handlings : List (Handling α)) : Ledger α := handlings.foldl handle ledger

/-- What waits was sent last, and what was taken was sent before it, in the same order and
each item once. -/
def Conveys (ledger : Ledger α) : Prop :=
  ∃ gone, ledger.sent = gone ++ ledger.waiting ∧ ledger.taken.Sublist gone

/-- Nothing got lost. -/
def Lossless (ledger : Ledger α) : Prop := ledger.sent = ledger.taken ++ ledger.waiting

theorem conveys_initial : Conveys ({} : Ledger α) := ⟨[], rfl, .refl _⟩

theorem lossless_initial : Lossless ({} : Ledger α) := rfl

theorem Conveys.handle {ledger : Ledger α} (conveys : ledger.Conveys) (handling : Handling α) :
    (ledger.handle handling).Conveys := by
  obtain ⟨gone, sent, taken⟩ := conveys
  cases handling with
  | put items => exact ⟨gone, by simp [Ledger.handle, sent], taken⟩
  | take count =>
    refine ⟨gone ++ ledger.waiting.take count, ?_, taken.append (.refl _)⟩
    simp [Ledger.handle, sent]
  | clear => exact ⟨ledger.sent, by simp [Ledger.handle], sent ▸ taken.trans (by simp)⟩

theorem Lossless.handle {ledger : Ledger α} (lossless : ledger.Lossless) {handling : Handling α}
    (kept : handling ≠ .clear) : (ledger.handle handling).Lossless := by
  unfold Lossless at lossless ⊢
  cases handling with
  | put items => simp [Ledger.handle, lossless]
  | take count => simp [Ledger.handle, lossless]
  | clear => exact absurd rfl kept

theorem Conveys.run {ledger : Ledger α} (conveys : ledger.Conveys)
    (handlings : List (Handling α)) : (ledger.run handlings).Conveys := by
  induction handlings generalizing ledger with
  | nil => exact conveys
  | cons handling rest ih => exact ih (conveys.handle handling)

theorem Lossless.run {ledger : Ledger α} (lossless : ledger.Lossless)
    {handlings : List (Handling α)} (kept : .clear ∉ handlings) :
    (ledger.run handlings).Lossless := by
  induction handlings generalizing ledger with
  | nil => exact lossless
  | cons handling rest ih =>
    rw [List.mem_cons, not_or] at kept
    exact ih (lossless.handle (Ne.symm kept.1)) kept.2

end Ledger

end RvEmulator.Library
