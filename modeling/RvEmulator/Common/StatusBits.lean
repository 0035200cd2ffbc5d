import RvEmulator.Common.HartInvariant

/-! What traps and returns make of the status register, bit by bit, at either register
width. -/

namespace RvEmulator.StatusBits

open Library MstatusBits

variable {w : Nat} {i : Nat}

theorem getLsbD_oneBit (k : Nat) (inside : i < w) : (1#w <<< k).getLsbD i = decide (i = k) := by
  rw [BitVec.getLsbD_shiftLeft, BitVec.getLsbD_one, Bool.eq_iff_iff]
  simp only [Bool.and_eq_true, decide_eq_true_eq, Bool.not_eq_true', decide_eq_false_iff_not]
  omega

theorem getLsbD_mpp (inside : i < w) :
    (mpp : BitVec w).getLsbD i = decide (i = 11 ∨ i = 12) := by
  unfold mpp mppShift
  rw [BitVec.getLsbD_shiftLeft, getLsbD_three, Bool.eq_iff_iff]
  simp only [Bool.and_eq_true, decide_eq_true_eq, Bool.not_eq_true', decide_eq_false_iff_not]
  omega

theorem getLsbD_code (privilege : PrivilegeMode) (inside : i < w) :
    (privilege.code w <<< mppShift).getLsbD i =
      (decide (i = 11) && privilege != .user || decide (i = 12) && privilege == .machine) := by
  cases privilege with
  | user => simp [PrivilegeMode.code]
  | supervisor =>
    have modes : (PrivilegeMode.supervisor != .user) = true ∧
        (PrivilegeMode.supervisor == .machine) = false := by decide
    refine (getLsbD_oneBit 11 inside).trans ?_
    rw [modes.1, modes.2]
    simp
  | machine =>
    have modes : (PrivilegeMode.machine != .user) = true ∧
        (PrivilegeMode.machine == .machine) = true := by decide
    refine (getLsbD_mpp inside).trans ?_
    rw [modes.1, modes.2]
    simp

/-- The bits of the status register after a trap to machine mode. -/
theorem getLsbD_machineTrapStatus (mstatus : BitVec w) (privilege : PrivilegeMode)
    (inside : i < w) :
    (machineTrapStatus mstatus privilege).getLsbD i =
      if i = 3 then false else if i = 7 then mstatus.getLsbD 3
      else if i = 11 then privilege != .user else if i = 12 then privilege == .machine
      else mstatus.getLsbD i := by
  have interrupts := getLsbD_oneBit 3 inside
  have previous := getLsbD_oneBit 7 inside
  unfold machineTrapStatus mie mpie
  dsimp only
  rw [flag_shift, BitVec.getLsbD_or, getLsbD_code privilege inside]
  cases mstatus.getLsbD 3 <;>
    simp only [Bool.false_eq_true, if_true, if_false, BitVec.getLsbD_or, BitVec.getLsbD_and,
      BitVec.getLsbD_not, interrupts, previous, getLsbD_mpp inside, inside, decide_true,
      Bool.true_and] <;>
    grind

theorem getLsbD_supervisorTrapStatus (mstatus : BitVec w) (privilege : PrivilegeMode)
    (inside : i < w) :
    (supervisorTrapStatus mstatus privilege).getLsbD i =
      if i = 1 then false else if i = 5 then mstatus.getLsbD 1
      else if i = 8 then privilege == .supervisor else mstatus.getLsbD i := by
  have interrupts := getLsbD_oneBit 1 inside
  have previous := getLsbD_oneBit 5 inside
  have mode := getLsbD_oneBit 8 inside
  unfold supervisorTrapStatus sie spie spp
  dsimp only
  rw [flag_shift]
  by_cases supervisor : privilege = .supervisor <;> cases mstatus.getLsbD 1 <;>
    simp only [supervisor, Bool.false_eq_true, if_true, if_false, BitVec.getLsbD_or,
      BitVec.getLsbD_and, BitVec.getLsbD_not, interrupts, previous, mode, inside, decide_true,
      Bool.true_and] <;>
    grind

/-- The status register after a trap to machine mode and the return from it. -/
def machineReturned (mstatus : BitVec w) : BitVec w := (mstatus &&& ~~~mpp) ||| mpie

/-- The status register after a trap to supervisor mode and the return from it. -/
def supervisorReturned (mstatus : BitVec w) : BitVec w := (mstatus &&& ~~~spp) ||| spie

theorem getLsbD_machineReturned (mstatus : BitVec w) (inside : i < w) :
    (machineReturned mstatus).getLsbD i =
      (mstatus.getLsbD i && !decide (i = 11 ∨ i = 12) || decide (i = 7)) := by
  unfold machineReturned mpie
  rw [BitVec.getLsbD_or, BitVec.getLsbD_and, BitVec.getLsbD_not, getLsbD_mpp inside,
    getLsbD_oneBit 7 inside]
  simp [inside]

theorem getLsbD_supervisorReturned (mstatus : BitVec w) (inside : i < w) :
    (supervisorReturned mstatus).getLsbD i =
      (mstatus.getLsbD i && !decide (i = 8) || decide (i = 5)) := by
  unfold supervisorReturned spie spp
  rw [BitVec.getLsbD_or, BitVec.getLsbD_and, BitVec.getLsbD_not, getLsbD_oneBit 8 inside,
    getLsbD_oneBit 5 inside]
  simp [inside]

theorem getLsbD_machineReturnStatus (mstatus : BitVec w) (target : PrivilegeMode)
    (inside : i < w) :
    (machineReturnStatus mstatus target).getLsbD i =
      if i = 3 then mstatus.getLsbD 7 else if i = 7 then true
      else if i = 11 ∨ i = 12 then false
      else if i = 17 ∧ target ≠ .machine then false else mstatus.getLsbD i := by
  have interrupts := getLsbD_oneBit 3 inside
  have previous := getLsbD_oneBit 7 inside
  have modify := getLsbD_oneBit 17 inside
  unfold machineReturnStatus mie mpie mprv
  dsimp only
  rw [flag_shift]
  by_cases machine : target = .machine <;> cases mstatus.getLsbD 7 <;>
    simp only [machine, ne_eq, not_true_eq_false, not_false_eq_true, Bool.false_eq_true,
      if_true, if_false, BitVec.getLsbD_or, BitVec.getLsbD_and, BitVec.getLsbD_not, interrupts,
      previous, modify, getLsbD_mpp inside, inside, decide_true, Bool.true_and] <;>
    grind

theorem getLsbD_supervisorReturnStatus (mstatus : BitVec w) (inside : i < w) :
    (supervisorReturnStatus mstatus).getLsbD i =
      if i = 1 then mstatus.getLsbD 5 else if i = 5 then true
      else if i = 8 ∨ i = 17 then false else mstatus.getLsbD i := by
  have interrupts := getLsbD_oneBit 1 inside
  have previous := getLsbD_oneBit 5 inside
  have mode := getLsbD_oneBit 8 inside
  have modify := getLsbD_oneBit 17 inside
  unfold supervisorReturnStatus sie spie spp mprv
  dsimp only
  rw [flag_shift]
  cases mstatus.getLsbD 5 <;>
    simp only [Bool.false_eq_true, if_true, if_false, BitVec.getLsbD_or, BitVec.getLsbD_and,
      BitVec.getLsbD_not, interrupts, previous, mode, modify, inside, decide_true,
      Bool.true_and] <;>
    grind

/-- The return from machine mode undoes the trap, but for the bits that then hold what the
architecture fixes. -/
theorem machine_round (wide : 17 < w) {mstatus : BitVec w} {privilege : PrivilegeMode}
    (modify : privilege ≠ .machine → mstatus.getLsbD 17 = false) :
    machineReturnStatus (machineTrapStatus mstatus privilege) privilege =
      machineReturned mstatus := by
  apply BitVec.eq_of_getLsbD_eq
  intro i inside
  rw [getLsbD_machineReturnStatus _ _ inside, getLsbD_machineTrapStatus _ _ inside,
    getLsbD_machineTrapStatus _ _ (show 7 < w by omega), getLsbD_machineReturned _ inside]
  grind

theorem supervisor_round (wide : 17 < w) {mstatus : BitVec w} (privilege : PrivilegeMode)
    (modify : mstatus.getLsbD 17 = false) :
    supervisorReturnStatus (supervisorTrapStatus mstatus privilege) =
      supervisorReturned mstatus := by
  apply BitVec.eq_of_getLsbD_eq
  intro i inside
  rw [getLsbD_supervisorReturnStatus _ inside, getLsbD_supervisorTrapStatus _ _ inside,
    getLsbD_supervisorTrapStatus _ _ (show 5 < w by omega), getLsbD_supervisorReturned _ inside]
  grind

/-- What a trap to machine mode saves of the privilege. -/
theorem savedPrivilege (wide : 17 < w) (mstatus : BitVec w) (privilege : PrivilegeMode) :
    (machineTrapStatus mstatus privilege &&& mpp) >>> mppShift = privilege.code w := by
  apply BitVec.eq_of_getLsbD_eq
  intro i inside
  have encoded := twoBits (machineTrapStatus mstatus privilege) mppShift
  have high := getLsbD_machineTrapStatus mstatus privilege (show 12 < w by omega)
  have low := getLsbD_machineTrapStatus mstatus privilege (show 11 < w by omega)
  unfold mpp
  rw [encoded]
  unfold mppShift
  rw [high, low]
  cases privilege <;> rfl

end RvEmulator.StatusBits
