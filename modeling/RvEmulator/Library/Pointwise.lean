import Mathlib.Data.List.Forall2

/-! Lists that agree position by position up to a relation, and what is searched for in
them. -/

namespace RvEmulator.Library

section

variable {follows : α → α → Prop}

theorem forall₂_trans (trans : ∀ {a b c}, follows a b → follows b c → follows a c)
    {first second third : List α} (left : List.Forall₂ follows first second)
    (right : List.Forall₂ follows second third) : List.Forall₂ follows first third := by
  induction left generalizing third with
  | nil => exact right
  | cons head _ ih =>
    cases right with
    | cons next rest => exact .cons (trans head next) (ih rest)

/-- One position of a list may change, if it still agrees. -/
theorem forall₂_set {items after : List α} (pointwise : List.Forall₂ follows items after)
    {index : Nat} {old new : α} (found : items[index]? = some old) (step : follows old new) :
    List.Forall₂ follows items (after.set index new) := by
  induction pointwise generalizing index with
  | nil => cases found
  | cons head rest ih =>
    cases index with
    | zero =>
      cases found
      exact .cons step rest
    | succ index => exact .cons head (ih found)

/-- Every position of a list may change. -/
theorem forall₂_map {change : α → α} (step : ∀ a, follows a (change a)) (items : List α) :
    List.Forall₂ follows items (items.map change) :=
  List.forall₂_map_right_iff.mpr (List.forall₂_same.mpr fun a _ => step a)

/-- The first match stays the first match, if no item changes between a match and another
item. -/
theorem findSome?_forall₂ {pick : α → Option β} {related : β → β → Prop}
    (picked : ∀ {old new}, follows old new →
      Option.Rel related (pick old) (pick new))
    {items after : List α} (pointwise : List.Forall₂ follows items after) :
    Option.Rel related (items.findSome? pick) (after.findSome? pick) := by
  induction pointwise with
  | nil => exact .none
  | @cons old new rest others head _ ih =>
    have first := picked head
    rw [List.findSome?_cons, List.findSome?_cons]
    generalize pick old = left at first ⊢
    generalize pick new = right at first ⊢
    cases first with
    | none => exact ih
    | some related => exact .some related

end

end RvEmulator.Library
