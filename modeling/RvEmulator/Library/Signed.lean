/-! Signed arithmetic on machine words, which wraps around, or which fails where the result
has no representation. -/

namespace RvEmulator.Library

structure SignedArithmetic (w : Nat) (m : Type → Type) where
  add : BitVec w → BitVec w → m (BitVec w)
  sub : BitVec w → BitVec w → m (BitVec w)
  neg : BitVec w → m (BitVec w)

namespace SignedArithmetic

def wrapping : SignedArithmetic w Id where
  add left right := left + right
  sub left right := left - right
  neg value := -value

def checked : SignedArithmetic w Option where
  add left right := if left.saddOverflow right then none else some (left + right)
  sub left right := if left.ssubOverflow right then none else some (left - right)
  neg value := if value.negOverflow then none else some (-value)

/-- The operations are exact where they do not overflow. -/
structure Lawful [Monad m] (arithmetic : SignedArithmetic w m) : Prop where
  add : ∀ {left right : BitVec w}, left.saddOverflow right = false →
    arithmetic.add left right = pure (left + right)
  sub : ∀ {left right : BitVec w}, left.ssubOverflow right = false →
    arithmetic.sub left right = pure (left - right)
  neg : ∀ {value : BitVec w}, value.negOverflow = false → arithmetic.neg value = pure (-value)

theorem lawful_wrapping : (wrapping : SignedArithmetic w Id).Lawful :=
  ⟨fun _ => rfl, fun _ => rfl, fun _ => rfl⟩

theorem lawful_checked : (checked : SignedArithmetic w Option).Lawful where
  add exactly := if_neg (ne_true_of_eq_false exactly)
  sub exactly := if_neg (ne_true_of_eq_false exactly)
  neg exactly := if_neg (ne_true_of_eq_false exactly)

end SignedArithmetic

/-- The difference of two values that are not negative is representable. -/
theorem ssubOverflow_of_nonneg {left right : BitVec w} (first : 0 ≤ left.toInt)
    (second : 0 ≤ right.toInt) : left.ssubOverflow right = false := by
  have above := BitVec.two_mul_toInt_lt (x := left)
  have below := BitVec.two_mul_toInt_lt (x := right)
  cases w with
  | zero => simp [BitVec.ssubOverflow, BitVec.toInt_zero_length]
  | succ w =>
    rw [BitVec.ssubOverflow, Bool.or_eq_false_iff, decide_eq_false_iff_not, decide_eq_false_iff_not,
      Nat.add_sub_cancel]
    rw [Int.pow_succ] at above below
    omega

end RvEmulator.Library
