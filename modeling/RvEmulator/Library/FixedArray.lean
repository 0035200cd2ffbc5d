/-! Arrays of a fixed size. An access or a range outside of the array has no result. -/

namespace RvEmulator.Library

/-- A computation that has a result, with what holds of it. -/
def Yields (computation : Option α) (holds : α → Prop) : Prop :=
  ∃ result, computation = some result ∧ holds result

namespace Yields

variable {computation : Option α} {holds other : α → Prop}

theorem pure (held : holds result) : Yields (some result) holds := ⟨result, rfl, held⟩

theorem bind {rest : α → Option β} {last : β → Prop} (first : Yields computation holds)
    (next : ∀ result, holds result → Yields (rest result) last) :
    Yields (computation >>= rest) last := by
  obtain ⟨result, rfl, held⟩ := first
  exact next result held

theorem map {f : α → β} {last : β → Prop} (first : Yields computation holds)
    (next : ∀ result, holds result → last (f result)) : Yields (f <$> computation) last := by
  obtain ⟨result, rfl, held⟩ := first
  exact ⟨f result, rfl, next result held⟩

theorem ite [Decidable condition] {otherwise : Option α}
    (positive : condition → Yields computation holds)
    (negative : ¬condition → Yields otherwise holds) :
    Yields (if condition then computation else otherwise) holds := by
  split
  · exact positive ‹_›
  · exact negative ‹_›

/-- A fold whose steps have results and keep what holds has one. -/
theorem foldlM {step : σ → α → Option σ} {invariant : σ → Prop}
    (keeps : ∀ state element, invariant state → Yields (step state element) invariant)
    (elements : List α) (start : invariant state) :
    Yields (elements.foldlM step state) invariant := by
  induction elements generalizing state with
  | nil => exact pure start
  | cons element elements ih =>
    rw [List.foldlM_cons]
    exact (keeps state element start).bind fun _ => ih

end Yields

namespace FixedArray

def load (cells : Vector α n) (index : Nat) : Option α := cells[index]?

def store (cells : Vector α n) (index : Nat) (value : α) : Option (Vector α n) :=
  if bounded : index < n then some (cells.set index value bounded) else none

/-- The cells from `first` on and before `last`. -/
def fill (cells : Vector α n) (first last : Nat) (value : α) : Option (Vector α n) :=
  if first ≤ last ∧ last ≤ n then
    some (.ofFn fun index => if first ≤ index.val ∧ index.val < last then value else cells[index])
  else none

/-- The cells from `first` on and before `last` go to `target`, which is in front of them. -/
def move (cells : Vector α n) (first last target : Nat) : Option (Vector α n) :=
  if within : target < first ∧ first ≤ last ∧ last ≤ n then
    some (.ofFn fun index =>
      if moved : target ≤ index.val ∧ index.val < target + (last - first) then
        have bounded : first + (index.val - target) < n := by omega
        cells[first + (index.val - target)]
      else cells[index])
  else none

/-- What holds of every cell. -/
def All (holds : α → Prop) (cells : Vector α n) : Prop := ∀ index : Fin n, holds cells[index]

variable {cells : Vector α n} {holds : α → Prop}

theorem All.load (all : All holds cells) (bounded : index < n) :
    Yields (load cells index) holds :=
  ⟨cells[index], Vector.getElem?_eq_getElem bounded, all ⟨index, bounded⟩⟩

theorem load_yields (bounded : index < n) : Yields (load cells index) fun _ => True :=
  ⟨cells[index], Vector.getElem?_eq_getElem bounded, trivial⟩

theorem store_yields (bounded : index < n) : Yields (store cells index value) fun _ => True :=
  ⟨cells.set index value bounded, dif_pos bounded, trivial⟩

theorem All.replicate (held : holds value) : All holds (Vector.replicate n value) := by
  intro index
  simpa using held

theorem All.store (all : All holds cells) (bounded : index < n) (held : holds value) :
    Yields (store cells index value) (All holds) := by
  refine ⟨cells.set index value bounded, dif_pos bounded, fun other => ?_⟩
  simp only [Fin.getElem_fin, Vector.getElem_set]
  split
  · exact held
  · exact all other

theorem All.fill (all : All holds cells) (ordered : first ≤ last) (inside : last ≤ n)
    (held : holds value) : Yields (fill cells first last value) (All holds) := by
  refine ⟨_, if_pos ⟨ordered, inside⟩, fun index => ?_⟩
  simp only [Fin.getElem_fin, Vector.getElem_ofFn]
  split
  · exact held
  · exact all index

theorem All.move (all : All holds cells) (ahead : target < first) (ordered : first ≤ last)
    (inside : last ≤ n) : Yields (move cells first last target) (All holds) := by
  refine ⟨_, dif_pos ⟨ahead, ordered, inside⟩, fun index => ?_⟩
  simp only [Fin.getElem_fin, Vector.getElem_ofFn]
  split
  · exact all ⟨first + (index.val - target), by omega⟩
  · exact all index

end FixedArray

end RvEmulator.Library
