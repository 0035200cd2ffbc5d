/-! The partition point of a predicate on positions, found by halving. -/

namespace RvEmulator.Library

/-- Search the `count` positions from `first` on; `after` tells whether what is
sought comes before a position. The fuel bounds the number of halvings. -/
def upperBoundFrom (after : Nat → Bool) : Nat → Nat → Nat → Nat
  | 0, first, _ => first
  | fuel + 1, first, count =>
    if count = 0 then first
    else if after (first + count / 2) then upperBoundFrom after fuel first (count / 2)
    else upperBoundFrom after fuel (first + count / 2 + 1) (count - (count / 2 + 1))

/-- `std::upper_bound` over the positions below `count`. -/
def upperBound (after : Nat → Bool) (count : Nat) : Nat := upperBoundFrom after count 0 count

/-- Where the predicate never turns false again, the search ends at the position
where it turns true. -/
theorem upperBoundFrom_spec (after : Nat → Bool) (fuel : Nat) :
    ∀ first count, count ≤ fuel →
      (∀ i j, i ≤ j → j < first + count → after i = true → after j = true) →
      first ≤ upperBoundFrom after fuel first count ∧
        upperBoundFrom after fuel first count ≤ first + count ∧
        (∀ i, first ≤ i → i < upperBoundFrom after fuel first count → after i = false) ∧
        (∀ i, upperBoundFrom after fuel first count ≤ i → i < first + count → after i = true) := by
  induction fuel with
  | zero =>
    intro first count enough _
    simp only [upperBoundFrom]
    exact ⟨Nat.le_refl _, by omega, fun i _ _ => by omega, fun i _ _ => by omega⟩
  | succ fuel ih =>
    intro first count enough monotone
    simp only [upperBoundFrom]
    split
    · exact ⟨Nat.le_refl _, by omega, fun i _ _ => by omega, fun i _ _ => by omega⟩
    split
    · rename_i there
      obtain ⟨low, high, before, behind⟩ := ih first (count / 2) (by omega)
        fun i j ordered inside => monotone i j ordered (by omega)
      refine ⟨low, by omega, before, ?_⟩
      intro i reached inside
      by_cases left : i < first + count / 2
      · exact behind i reached left
      · exact monotone _ i (by omega) inside there
    · rename_i notThere
      obtain ⟨low, high, before, behind⟩ :=
        ih (first + count / 2 + 1) (count - (count / 2 + 1)) (by omega)
          fun i j ordered inside => monotone i j ordered (by omega)
      refine ⟨by omega, by omega, ?_, ?_⟩
      · intro i started inside
        by_cases left : i ≤ first + count / 2
        · cases found : after i with
          | false => rfl
          | true => exact absurd (monotone i _ left (by omega) found) notThere
        · exact before i (by omega) inside
      · intro i reached inside
        exact behind i reached (by omega)

theorem upperBound_spec {after : Nat → Bool} {count : Nat}
    (monotone : ∀ i j, i ≤ j → j < count → after i = true → after j = true) :
    upperBound after count ≤ count ∧ (∀ i < upperBound after count, after i = false) ∧
      (∀ i, upperBound after count ≤ i → i < count → after i = true) := by
  obtain ⟨_, high, before, behind⟩ := upperBoundFrom_spec after count 0 count (Nat.le_refl _)
    fun i j ordered inside => monotone i j ordered (by omega)
  simp only [Nat.zero_add] at high behind
  exact ⟨high, fun i inside => before i (Nat.zero_le _) inside, behind⟩

end RvEmulator.Library
