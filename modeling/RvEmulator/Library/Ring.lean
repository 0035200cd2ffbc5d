import Mathlib.Algebra.Ring.Nat

/-! Rings: the latest entries of a log in a fixed number of cells, and the
free-running counters that run over them. -/

namespace RvEmulator.Library

namespace Ring

/-- The cells show the entries of a log from a position on, entry `k` in cell
`k % size`. -/
def Shows (size : Nat) (cell : Nat → α) (log : List α) (first : Nat) : Prop :=
  ∀ k entry, first ≤ k → log[k]? = some entry → cell (k % size) = entry

/-- Two entries less than a round apart are in different cells. -/
theorem slot_ne {size k n : Nat} (before : k < n) (near : n < k + size) : k % size ≠ n % size := by
  intro same
  have gap : (n - k) % size = 0 := Nat.sub_mod_eq_zero_of_mod_eq same.symm
  rw [Nat.mod_eq_of_lt (by omega)] at gap
  omega

theorem Shows.later {size : Nat} {cell : Nat → α} {log : List α} {first next : Nat}
    (shows : Shows size cell log first) (after : first ≤ next) : Shows size cell log next :=
  fun k entry reached found => shows k entry (Nat.le_trans after reached) found

theorem Shows.congr {size : Nat} {cell other : Nat → α} {log : List α} {first : Nat}
    (shows : Shows size cell log first) (positive : 0 < size)
    (same : ∀ slot < size, other slot = cell slot) : Shows size other log first := by
  intro k entry reached found
  rw [same _ (Nat.mod_lt k positive)]
  exact shows k entry reached found

/-- The next entry goes to the next cell; what it overwrites is a round old. -/
theorem Shows.push {size : Nat} {cell other : Nat → α} {log : List α} {first next : Nat}
    (shows : Shows size cell log first) (after : first ≤ next) (near : log.length < next + size)
    {entry : α} (written : other (log.length % size) = entry)
    (kept : ∀ slot < size, slot ≠ log.length % size → other slot = cell slot) :
    Shows size other (log ++ [entry]) next := by
  intro k found reached present
  by_cases old : k < log.length
  · rw [List.getElem?_append_left old] at present
    have different := slot_ne old (show log.length < k + size by omega)
    rw [kept _ (Nat.mod_lt k (by omega)) different]
    exact shows k found (Nat.le_trans after reached) present
  · have last : k = log.length := by
      have inside := (List.getElem?_eq_some_iff.mp present).1
      rw [List.length_append, List.length_singleton] at inside
      omega
    rw [last, List.getElem?_concat_length] at present
    rw [last, written]
    exact Option.some.inj present

/-- A counter that wraps around reduces to the same cell. -/
theorem counter_slot {size w : Nat} (divides : size ∣ 2 ^ w) (k : Nat) :
    (BitVec.ofNat w k).toNat % size = k % size := by
  rw [BitVec.toNat_ofNat, Nat.mod_mod_of_dvd k divides]

/-- Counters less than a round apart are told apart. -/
theorem counter_ne {w k n : Nat} (before : k < n) (near : n < k + 2 ^ w) :
    BitVec.ofNat w k ≠ BitVec.ofNat w n := by
  intro same
  have reduced := congrArg BitVec.toNat same
  rw [BitVec.toNat_ofNat, BitVec.toNat_ofNat] at reduced
  exact slot_ne before near reduced

end Ring

end RvEmulator.Library
