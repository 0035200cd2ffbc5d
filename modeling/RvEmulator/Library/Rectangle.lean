/-! Half-open rectangles of points with natural coordinates. -/

namespace RvEmulator.Library

structure Rectangle where
  left : Nat
  top : Nat
  right : Nat
  bottom : Nat
deriving DecidableEq, Repr

namespace Rectangle

variable (rectangle other : Rectangle) {x y : Nat}

def Holds (x y : Nat) : Prop :=
  rectangle.left ≤ x ∧ x < rectangle.right ∧ rectangle.top ≤ y ∧ y < rectangle.bottom

/-- The least rectangle around two of them. -/
def hull : Rectangle where
  left := min rectangle.left other.left
  top := min rectangle.top other.top
  right := max rectangle.right other.right
  bottom := max rectangle.bottom other.bottom

/-- There is a point in it, and none outside of a width and a height. -/
structure Inside (width height : Nat) : Prop where
  columns : rectangle.left < rectangle.right
  rows : rectangle.top < rectangle.bottom
  right : rectangle.right ≤ width
  bottom : rectangle.bottom ≤ height

variable {rectangle other}

theorem Holds.hull_left (holds : rectangle.Holds x y) : (rectangle.hull other).Holds x y := by
  unfold Holds hull at *
  dsimp only
  omega

theorem Holds.hull_right (holds : other.Holds x y) : (rectangle.hull other).Holds x y := by
  unfold Holds hull at *
  dsimp only
  omega

theorem Inside.hull {width height : Nat} (first : rectangle.Inside width height)
    (second : other.Inside width height) : (rectangle.hull other).Inside width height := by
  obtain ⟨columns, rows, right, bottom⟩ := first
  obtain ⟨moreColumns, moreRows, moreRight, moreBottom⟩ := second
  constructor <;> dsimp only [Rectangle.hull] <;> omega

end Rectangle

end RvEmulator.Library
