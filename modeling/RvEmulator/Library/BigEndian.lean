import Mathlib.Data.List.Induction

/-! Values as lists of bytes, the most significant first. -/

namespace RvEmulator.Library

def bigEndian (count : Nat) (value : BitVec w) : List (BitVec 8) :=
  (List.range count).map fun index => (value >>> ((count - 1 - index) * 8)).setWidth 8

def fromBigEndian (w : Nat) (bytes : List (BitVec 8)) : BitVec w :=
  bytes.foldl (fun value byte => value <<< 8 ||| byte.setWidth w) 0

@[simp]
theorem length_bigEndian (count : Nat) (value : BitVec w) :
    (bigEndian count value).length = count := by
  simp [bigEndian]

theorem getElem_bigEndian {count index : Nat} (value : BitVec w) (inside : index < count) :
    (bigEndian count value)[index]? =
      some ((value >>> ((count - 1 - index) * 8)).setWidth 8) := by
  rw [bigEndian, List.getElem?_map, List.getElem?_range inside]
  rfl

/-- Bit `i` is bit `i % 8` of byte `i / 8` from the end. -/
theorem getLsbD_fromBigEndian (bytes : List (BitVec 8)) {i : Nat} (small : i < w) :
    (fromBigEndian w bytes).getLsbD i =
      (bytes.reverse[i / 8]?.getD 0).getLsbD (i % 8) := by
  induction bytes using List.reverseRecOn generalizing i with
  | nil => simp [fromBigEndian]
  | append_singleton bytes byte ih =>
    rw [fromBigEndian, List.foldl_append, List.foldl_cons, List.foldl_nil, List.reverse_append,
      List.reverse_singleton, List.singleton_append, BitVec.getLsbD_or, BitVec.getLsbD_shiftLeft,
      BitVec.getLsbD_setWidth]
    by_cases low : i < 8
    · have first : i / 8 = 0 := by omega
      have same : i % 8 = i := by omega
      simp [low, small, first, same]
    · have next : i / 8 = (i - 8) / 8 + 1 := by omega
      have same : i % 8 = (i - 8) % 8 := by omega
      have before := ih (show i - 8 < w by omega)
      rw [fromBigEndian] at before
      have high : byte.getLsbD i = false := BitVec.getLsbD_of_ge _ _ (by omega)
      rw [before, next, List.getElem?_cons_succ, same, high]
      simp [low, small]

/-- The bytes of a value in two parts. -/
theorem fromBigEndian_append {high low : List (BitVec 8)} (upper : t = high.length * 8)
    (lower : u = low.length * 8) (whole : w = t + u) :
    fromBigEndian w (high ++ low) =
      (fromBigEndian t high).setWidth w <<< u ||| (fromBigEndian u low).setWidth w := by
  apply BitVec.eq_of_getLsbD_eq
  intro i small
  rw [getLsbD_fromBigEndian _ small, List.reverse_append, BitVec.getLsbD_or,
    BitVec.getLsbD_shiftLeft, BitVec.getLsbD_setWidth, BitVec.getLsbD_setWidth]
  by_cases below : i < u
  · rw [List.getElem?_append_left (by rw [List.length_reverse]; omega),
      ← getLsbD_fromBigEndian _ below]
    simp [small, below]
  · have place : i / 8 - low.length = (i - u) / 8 := by omega
    have rest : i % 8 = (i - u) % 8 := by omega
    have none : (fromBigEndian u low).getLsbD i = false := BitVec.getLsbD_of_ge _ _ (by omega)
    rw [List.getElem?_append_right (by rw [List.length_reverse]; omega), List.length_reverse, place,
      rest, ← getLsbD_fromBigEndian _ (show i - u < t by omega), none]
    have inside : i - u < w := by omega
    simp [small, below, inside]

theorem fromBigEndian_bigEndian {count : Nat} (value : BitVec w) (whole : w = count * 8) :
    fromBigEndian w (bigEndian count value) = value := by
  apply BitVec.eq_of_getLsbD_eq
  intro i small
  have inside : i / 8 < count := by omega
  have place : count - 1 - (count - 1 - i / 8) = i / 8 := by omega
  rw [getLsbD_fromBigEndian _ small, List.getElem?_reverse (by rwa [length_bigEndian]),
    length_bigEndian, getElem_bigEndian value (by omega), place, Option.getD_some,
    BitVec.getLsbD_setWidth, BitVec.getLsbD_ushiftRight]
  have within : i % 8 < 8 := Nat.mod_lt _ (by decide)
  simp only [within, decide_true, Bool.true_and]
  rw [Nat.mul_comm, Nat.div_add_mod]

theorem bigEndian_fromBigEndian {bytes : List (BitVec 8)} (whole : w = bytes.length * 8) :
    bigEndian bytes.length (fromBigEndian w bytes) = bytes := by
  apply List.ext_getElem?
  intro index
  by_cases inside : index < bytes.length
  · rw [getElem_bigEndian _ inside, List.getElem?_eq_getElem inside, Option.some.injEq]
    apply BitVec.eq_of_getLsbD_eq
    intro i small
    have place : ((bytes.length - 1 - index) * 8 + i) / 8 = bytes.length - 1 - index := by omega
    have rest : ((bytes.length - 1 - index) * 8 + i) % 8 = i := by omega
    have back : bytes.length - 1 - (bytes.length - 1 - index) = index := by omega
    rw [BitVec.getLsbD_setWidth, BitVec.getLsbD_ushiftRight, getLsbD_fromBigEndian _ (by omega),
      place, rest, List.getElem?_reverse (by omega), back, List.getElem?_eq_getElem inside]
    simp [small]
  · rw [List.getElem?_eq_none (by rw [length_bigEndian]; omega), List.getElem?_eq_none (by omega)]

end RvEmulator.Library
