import Mathlib.Algebra.Ring.Nat

/-! Unsigned arithmetic on machine words, which wraps around, or which fails
where it would. -/

namespace RvEmulator.Library

/-- The operations that a computation on words is written in. -/
structure Arithmetic (w : Nat) (m : Type → Type) where
  add : BitVec w → BitVec w → m (BitVec w)
  sub : BitVec w → BitVec w → m (BitVec w)
  mul : BitVec w → BitVec w → m (BitVec w)

namespace Arithmetic

def wrapping : Arithmetic w Id where
  add left right := left + right
  sub left right := left - right
  mul left right := left * right

def checked : Arithmetic w Option where
  add left right := if left.toNat + right.toNat < 2 ^ w then some (left + right) else none
  sub left right := if right.toNat ≤ left.toNat then some (left - right) else none
  mul left right := if left.toNat * right.toNat < 2 ^ w then some (left * right) else none

variable {left right : BitVec w}

@[simp]
theorem wrapping_add (next : BitVec w → Id α) :
    (wrapping.add left right >>= next) = next (left + right) := rfl

@[simp]
theorem wrapping_sub (next : BitVec w → Id α) :
    (wrapping.sub left right >>= next) = next (left - right) := rfl

@[simp]
theorem wrapping_mul (next : BitVec w → Id α) :
    (wrapping.mul left right >>= next) = next (left * right) := rfl

theorem checked_add (next : BitVec w → Option α) (fits : left.toNat + right.toNat < 2 ^ w) :
    (checked.add left right >>= next) = next (left + right) := by
  simp only [checked, if_pos fits, Option.bind_eq_bind, Option.bind_some]

theorem checked_sub (next : BitVec w → Option α) (ordered : right.toNat ≤ left.toNat) :
    (checked.sub left right >>= next) = next (left - right) := by
  simp only [checked, if_pos ordered, Option.bind_eq_bind, Option.bind_some]

theorem checked_mul (next : BitVec w → Option α) (fits : left.toNat * right.toNat < 2 ^ w) :
    (checked.mul left right >>= next) = next (left * right) := by
  simp only [checked, if_pos fits, Option.bind_eq_bind, Option.bind_some]

/-- The operations are exact where they fit. -/
structure Lawful [Monad m] (arithmetic : Arithmetic w m) : Prop where
  add : ∀ {left right : BitVec w}, left.toNat + right.toNat < 2 ^ w →
    arithmetic.add left right = pure (left + right)
  sub : ∀ {left right : BitVec w}, right.toNat ≤ left.toNat →
    arithmetic.sub left right = pure (left - right)
  mul : ∀ {left right : BitVec w}, left.toNat * right.toNat < 2 ^ w →
    arithmetic.mul left right = pure (left * right)

theorem lawful_wrapping : (wrapping : Arithmetic w Id).Lawful :=
  ⟨fun _ => rfl, fun _ => rfl, fun _ => rfl⟩

theorem lawful_checked : (checked : Arithmetic w Option).Lawful :=
  ⟨fun fits => if_pos fits, fun ordered => if_pos ordered, fun fits => if_pos fits⟩

end Arithmetic

theorem toNat_min (first second : BitVec w) :
    (if second < first then second else first).toNat = min first.toNat second.toNat := by
  split
  · rename_i less
    exact (Nat.min_eq_right (Nat.le_of_lt (BitVec.lt_def.mp less))).symm
  · rename_i less
    exact (Nat.min_eq_left (BitVec.le_def.mp (BitVec.not_lt.mp less))).symm

theorem toNat_max (first second : BitVec w) :
    (if first < second then second else first).toNat = max first.toNat second.toNat := by
  split
  · rename_i less
    exact (Nat.max_eq_right (Nat.le_of_lt (BitVec.lt_def.mp less))).symm
  · rename_i less
    exact (Nat.max_eq_left (BitVec.le_def.mp (BitVec.not_lt.mp less))).symm

end RvEmulator.Library
