import Mathlib.Data.List.TakeDrop

/-! Lists of which a part is replaced, and parts of lists. -/

namespace RvEmulator.Library

variable {α : Type}

/-- Another list over a part of a list, from an offset on. -/
def overlay (list : List α) (offset : Nat) (source : List α) : List α :=
  list.take offset ++ source ++ list.drop (offset + source.length)

/-- A part of a list. -/
def slice (list : List α) (offset count : Nat) : List α := (list.drop offset).take count

@[simp]
theorem overlay_nil (list : List α) (offset : Nat) : overlay list offset [] = list := by
  simp [overlay]

theorem length_overlay {list source : List α} {offset : Nat}
    (inside : offset + source.length ≤ list.length) :
    (overlay list offset source).length = list.length := by
  simp only [overlay, List.length_append, List.length_take, List.length_drop]
  omega

/-- Two adjacent parts are replaced one after the other. -/
theorem overlay_overlay {list : List α} {offset : Nat} (inside : offset ≤ list.length)
    (source more : List α) :
    overlay (overlay list offset source) (offset + source.length) more =
      overlay list offset (source ++ more) := by
  have start : (list.take offset ++ source).length = offset + source.length := by
    rw [List.length_append, List.length_take, Nat.min_eq_left inside]
  unfold overlay
  rw [List.take_left' start, ← List.drop_drop, List.drop_left' start, List.drop_drop,
    List.length_append, Nat.add_assoc, List.append_assoc (list.take offset)]

theorem slice_overlay {list : List α} {offset : Nat} (inside : offset ≤ list.length)
    (source : List α) : slice (overlay list offset source) offset source.length = source := by
  have start : (list.take offset).length = offset := by
    rw [List.length_take, Nat.min_eq_left inside]
  rw [slice, overlay, List.append_assoc, List.drop_left' start, List.take_left' rfl]

theorem length_slice {list : List α} {offset count : Nat} (inside : offset + count ≤ list.length) :
    (slice list offset count).length = count := by
  rw [slice, List.length_take, List.length_drop]
  omega

theorem slice_add (list : List α) (offset count more : Nat) :
    slice list offset (count + more) = slice list offset count ++ slice list (offset + count) more := by
  rw [slice, List.take_add, List.drop_drop]
  rfl

/-- Outside of the part, nothing is replaced. -/
theorem getElem?_overlay {list source : List α} {offset index : Nat}
    (inside : offset + source.length ≤ list.length)
    (outside : index < offset ∨ offset + source.length ≤ index) :
    (overlay list offset source)[index]? = list[index]? := by
  have start : (list.take offset).length = offset := by
    rw [List.length_take, Nat.min_eq_left (by omega)]
  obtain before | after := outside
  · rw [overlay, List.append_assoc, List.getElem?_append_left (by omega),
      List.getElem?_take_of_lt before]
  · have both : (list.take offset ++ source).length = offset + source.length := by
      rw [List.length_append, start]
    rw [overlay, List.getElem?_append_right (by omega), both, List.getElem?_drop,
      Nat.add_sub_cancel' after]

end RvEmulator.Library
