import Mathlib.Logic.Function.Basic
import RvEmulator.Library.LittleEndian

/-! Bytes spread over a list of addresses. -/

namespace RvEmulator.Library.Memory

/-- Consecutive addresses. -/
def span (address : BitVec 64) : Nat → List (BitVec 64)
  | 0 => []
  | count + 1 => address :: span (address + 1) count

/-- Bytes put at the addresses of a list, one after the other. -/
def pour (memory : Memory) : List (BitVec 64) → List (BitVec 8) → Memory
  | address :: addresses, byte :: bytes =>
    pour (Function.update memory address byte) addresses bytes
  | _, _ => memory

theorem length_span (address : BitVec 64) (count : Nat) : (span address count).length = count := by
  induction count generalizing address with
  | zero => rfl
  | succ count ih => rw [span, List.length_cons, ih]

theorem mem_span {base address : BitVec 64} {count : Nat} :
    address ∈ span base count ↔ ∃ index < count, address = base + BitVec.ofNat 64 index := by
  induction count generalizing base with
  | zero => simp [span]
  | succ count ih =>
    rw [span, List.mem_cons, ih]
    constructor
    · rintro (rfl | ⟨index, inside, rfl⟩)
      · exact ⟨0, Nat.succ_pos _, (BitVec.add_zero _).symm⟩
      · exact ⟨index + 1, Nat.succ_lt_succ inside, add_succ base index⟩
    · rintro ⟨index, inside, rfl⟩
      cases index with
      | zero => exact .inl (BitVec.add_zero _)
      | succ index =>
        exact .inr ⟨index, Nat.lt_of_succ_lt_succ inside, (add_succ base index).symm⟩

/-- A span is split where it is interrupted. -/
theorem span_add (address : BitVec 64) (count more : Nat) :
    span address (count + more) =
      span address count ++ span (address + BitVec.ofNat 64 count) more := by
  induction count generalizing address with
  | zero => rw [Nat.zero_add, BitVec.add_zero, span, List.nil_append]
  | succ count ih =>
    rw [Nat.add_right_comm, span, ih, span, List.cons_append, add_succ]

@[simp]
theorem pour_nil (memory : Memory) (bytes : List (BitVec 8)) : memory.pour [] bytes = memory := rfl

@[simp]
theorem pour_nothing (memory : Memory) (addresses : List (BitVec 64)) :
    memory.pour addresses [] = memory := by
  cases addresses <;> rfl

theorem pour_append (memory : Memory) (addresses others : List (BitVec 64))
    (bytes : List (BitVec 8)) :
    memory.pour (addresses ++ others) bytes =
      (memory.pour addresses bytes).pour others (bytes.drop addresses.length) := by
  induction addresses generalizing memory bytes with
  | nil => rfl
  | cons address addresses ih =>
    cases bytes with
    | nil => simp
    | cons byte bytes => exact ih _ _

/-- Bytes that fill the first addresses leave the others to the rest. -/
theorem pour_append_append (memory : Memory) {addresses : List (BitVec 64)}
    (others : List (BitVec 64)) {bytes : List (BitVec 8)} (rest : List (BitVec 8))
    (full : bytes.length = addresses.length) :
    memory.pour (addresses ++ others) (bytes ++ rest) =
      (memory.pour addresses bytes).pour others rest := by
  induction addresses generalizing memory bytes with
  | nil =>
    rw [List.eq_nil_of_length_eq_zero full]
    rfl
  | cons address addresses ih =>
    cases bytes with
    | nil => cases full
    | cons byte bytes => exact ih _ (Nat.succ.inj full)

/-- Addresses that get no byte keep theirs. -/
theorem pour_of_not_mem {memory : Memory} {addresses : List (BitVec 64)} {bytes : List (BitVec 8)}
    {address : BitVec 64} (outside : address ∉ addresses.take bytes.length) :
    memory.pour addresses bytes address = memory address := by
  induction addresses generalizing memory bytes with
  | nil => rfl
  | cons first addresses ih =>
    cases bytes with
    | nil => rfl
    | cons byte bytes =>
      rw [List.length_cons, List.take_succ_cons, List.mem_cons, not_or] at outside
      rw [pour, ih outside.2, Function.update_of_ne outside.1]

/-- Each address holds its own byte. -/
theorem pour_getElem {memory : Memory} {addresses : List (BitVec 64)} {bytes : List (BitVec 8)}
    (distinct : addresses.Nodup) {index : Nat} {address : BitVec 64} {byte : BitVec 8}
    (place : addresses[index]? = some address) (value : bytes[index]? = some byte) :
    memory.pour addresses bytes address = byte := by
  induction addresses generalizing memory bytes index with
  | nil => cases place
  | cons first addresses ih =>
    obtain ⟨fresh, distinct⟩ := List.nodup_cons.mp distinct
    cases bytes with
    | nil => cases value
    | cons head bytes =>
      cases index with
      | zero =>
        cases place
        cases value
        rw [pour, pour_of_not_mem fun inside => fresh (List.mem_of_mem_take inside),
          Function.update_self]
      | succ index => exact ih distinct place value

/-- What was poured is there. -/
theorem map_pour (memory : Memory) {addresses : List (BitVec 64)} {bytes : List (BitVec 8)}
    (distinct : addresses.Nodup) (full : bytes.length = addresses.length) :
    addresses.map (memory.pour addresses bytes) = bytes := by
  apply List.ext_getElem (by rw [List.length_map, full])
  intro index inside within
  rw [List.length_map] at inside
  rw [List.getElem_map]
  exact pour_getElem distinct (List.getElem?_eq_getElem inside) (List.getElem?_eq_getElem within)

theorem get_one (memory : Memory) (address : BitVec 64) :
    (memory.get address 1).setWidth 8 = memory address := by
  apply BitVec.eq_of_getLsbD_eq
  intro i inside
  rw [BitVec.getLsbD_setWidth, getLsbD_get _ _ _ (by omega), Nat.div_eq_of_lt inside,
    Nat.mod_eq_of_lt inside, BitVec.add_zero]
  simp [inside]

theorem put_one (memory : Memory) (address : BitVec 64) (byte : BitVec 8) :
    memory.put address 1 (byte.setWidth 64) = Function.update memory address byte := by
  funext other
  by_cases here : other = address
  · subst here
    rw [Function.update_self]
    simp [put, byteOf]
  · rw [Function.update_of_ne here]
    exact put_of_apart fun inside => here (eq_of_region_one inside)

end RvEmulator.Library.Memory
