import RvEmulator.Library.Bits
import RvEmulator.Platform.Device

/-! The core-local interruptor (`devices/src/clint.cpp`): the clock, the timer and the
software interrupt, whose registers take accesses of every width. -/

namespace RvEmulator.Devices

open Library Platform

structure Clint where
  mtime : BitVec 64 := 0
  mtimecmp : BitVec 64 := BitVec.allOnes 64
  msip : BitVec 32 := 0
deriving DecidableEq, Repr

namespace Clint

def msipOffset : BitVec 64 := 0x0000
def mtimecmpOffset : BitVec 64 := 0x4000
def mtimeOffset : BitVec 64 := 0xBFF8

inductive Register where
  | msip | mtimecmp | mtime
deriving DecidableEq, Repr

/-- The size of the member that a register is kept in. -/
def Register.size : Register → BitVec 64
  | .msip => 4
  | .mtimecmp | .mtime => 8

/-- The register at an offset, and the offset in it. -/
def findRegister (offset : BitVec 64) : Option (Register × BitVec 64) :=
  if msipOffset ≤ offset ∧ offset < msipOffset + 4 then some (.msip, offset - msipOffset)
  else if mtimecmpOffset ≤ offset ∧ offset < mtimecmpOffset + 8 then
    some (.mtimecmp, offset - mtimecmpOffset)
  else if mtimeOffset ≤ offset ∧ offset < mtimeOffset + 8 then
    some (.mtime, offset - mtimeOffset)
  else none

def register (clint : Clint) : Register → BitVec 64
  | .msip => clint.msip.setWidth 64
  | .mtimecmp => clint.mtimecmp
  | .mtime => clint.mtime

/-- Only the lowest bit of `msip` is kept. -/
def setRegister (clint : Clint) (value : BitVec 64) : Register → Clint
  | .msip => { clint with msip := value.setWidth 32 &&& 0x1 }
  | .mtimecmp => { clint with mtimecmp := value }
  | .mtime => { clint with mtime := value }

/-- The bits of an access. -/
def valueMask (width : AccessWidth) : BitVec 64 :=
  if width.bytes * 8 = 64 then BitVec.allOnes 64 else (1#64 <<< (width.bytes * 8)) - 1#64

/-- An access that does not lie wholly in its register. -/
def Outside (size byteOffset : BitVec 64) (width : AccessWidth) : Prop :=
  size < BitVec.ofNat 64 width.bytes ∨ size - BitVec.ofNat 64 width.bytes < byteOffset

instance (size byteOffset : BitVec 64) (width : AccessWidth) :
    Decidable (Outside size byteOffset width) := inferInstanceAs (Decidable (_ ∨ _))

def readRegister (value size byteOffset : BitVec 64) (width : AccessWidth) : ReadResult :=
  if Outside size byteOffset width then { fault := .outOfRange }
  else { value := (value >>> (byteOffset.toNat * 8)) &&& valueMask width }

def writeRegister (old size byteOffset : BitVec 64) (width : AccessWidth) (value : BitVec 64) :
    BusFault × BitVec 64 :=
  if Outside size byteOffset width then (.outOfRange, old)
  else
    let shift := byteOffset.toNat * 8
    (.none, (old &&& ~~~(valueMask width <<< shift)) ||| ((value &&& valueMask width) <<< shift))

def read (offset : BitVec 64) (width : AccessWidth) (clint : Clint) : ReadResult :=
  match findRegister offset with
  | some (register, byteOffset) =>
    readRegister (clint.register register) register.size byteOffset width
  | none => {}

def write (offset : BitVec 64) (width : AccessWidth) (value : BitVec 64) :
    StateM Clint BusFault := fun clint =>
  match findRegister offset with
  | some (register, byteOffset) =>
    let written := writeRegister (clint.register register) register.size byteOffset width value
    (written.1, if written.1 = .none then clint.setRegister written.2 register else clint)
  | none => (.none, clint)

def tick (cycles : BitVec 64) (clint : Clint) : Clint := { clint with mtime := clint.mtime + cycles }

def machineSoftwareIrq (clint : Clint) : Bool := clint.msip &&& 0x1 != 0

def machineTimerIrq (clint : Clint) : Bool := decide (clint.mtimecmp ≤ clint.mtime)

instance : Device Clint where
  read offset width := fun clint => (clint.read offset width, clint)
  write := write
  refused := by
    intro offset width value clint failed
    unfold write at failed ⊢
    split at failed
    · dsimp only at failed ⊢
      rw [if_neg failed]
    · exact absurd rfl failed

/-! ### Accesses by halves -/

theorem getLsbD_valueMask (width : AccessWidth) (i : Nat) :
    (valueMask width).getLsbD i = decide (i < width.bytes * 8) := by
  unfold valueMask
  split
  · rename_i whole
    rw [BitVec.getLsbD_allOnes, whole]
  · rename_i part
    have narrow : width.bytes * 8 < 64 := by
      have bounded := width.bytes_le
      omega
    exact getLsbD_lowMask 64 narrow i

/-- The bits that an accepted write replaces, and the ones that it keeps. -/
theorem getLsbD_writeRegister (old value : BitVec 64) {size byteOffset : BitVec 64}
    {width : AccessWidth} (inside : ¬Outside size byteOffset width) {i : Nat} (small : i < 64) :
    (writeRegister old size byteOffset width value).2.getLsbD i =
      if byteOffset.toNat * 8 ≤ i ∧ i < (byteOffset.toNat + width.bytes) * 8 then
        value.getLsbD (i - byteOffset.toNat * 8)
      else old.getLsbD i := by
  unfold writeRegister
  rw [if_neg inside]
  dsimp only
  rw [BitVec.getLsbD_or, BitVec.getLsbD_and, BitVec.getLsbD_not, BitVec.getLsbD_shiftLeft,
    BitVec.getLsbD_shiftLeft, BitVec.getLsbD_and]
  by_cases below : i < byteOffset.toNat * 8
  · rw [if_neg (by omega)]
    simp [below, small]
  · rw [getLsbD_valueMask]
    by_cases within : i < (byteOffset.toNat + width.bytes) * 8
    · rw [if_pos ⟨by omega, within⟩]
      have replaced : i - byteOffset.toNat * 8 < width.bytes * 8 := by omega
      simp [below, small, replaced]
    · rw [if_neg (by omega)]
      have beyond : ¬i - byteOffset.toNat * 8 < width.bytes * 8 := by omega
      simp [below, small, beyond]

/-- A word written over the upper half of a register. -/
theorem writeRegister_high (old value : BitVec 64) :
    writeRegister old 8 4 .word value = (.none, value.setWidth 32 ++ old.setWidth 32) := by
  have inside : ¬Outside 8 4 .word := by decide
  refine Prod.ext ?_ (BitVec.eq_of_getLsbD_eq fun i small => ?_)
  · rw [writeRegister, if_neg inside]
  · have written := getLsbD_writeRegister old value inside small
    rw [written, BitVec.getLsbD_append, BitVec.getLsbD_setWidth, BitVec.getLsbD_setWidth]
    by_cases low : i < 32
    · simp [low, show ¬32 ≤ i by omega, AccessWidth.bytes]
    · simp [low, small, show 32 ≤ i by omega, show i - 32 < 32 by omega, AccessWidth.bytes]

/-- A word written over the lower half. -/
theorem writeRegister_low (old value : BitVec 64) :
    writeRegister old 8 0 .word value = (.none, (old >>> 32).setWidth 32 ++ value.setWidth 32) := by
  have inside : ¬Outside 8 0 .word := by decide
  refine Prod.ext ?_ (BitVec.eq_of_getLsbD_eq fun i small => ?_)
  · rw [writeRegister, if_neg inside]
  · have written := getLsbD_writeRegister old value inside small
    rw [written, BitVec.getLsbD_append, BitVec.getLsbD_setWidth, BitVec.getLsbD_setWidth]
    by_cases low : i < 32
    · simp [low, AccessWidth.bytes]
    · simp [low, small, show 32 ≤ i by omega, show i - 32 < 32 by omega, AccessWidth.bytes]

/-! ### Runs -/

inductive Operation where
  | read (offset : BitVec 64) (width : AccessWidth)
  | write (offset : BitVec 64) (width : AccessWidth) (value : BitVec 64)
  | tick (cycles : BitVec 64)
deriving DecidableEq, Repr

def perform (clint : Clint) : Operation → Clint
  | .read _ _ => clint
  | .write offset width value => (write offset width value clint).2
  | .tick cycles => clint.tick cycles

/-- The operation may set the clock or the timer. -/
def Operation.SetsTimer : Operation → Prop
  | .write offset _ _ =>
    ∃ byteOffset, findRegister offset = some (.mtimecmp, byteOffset) ∨
      findRegister offset = some (.mtime, byteOffset)
  | _ => False

/-- The cycles that pass in a run. -/
def elapsed : List Operation → Nat
  | [] => 0
  | .tick cycles :: rest => cycles.toNat + elapsed rest
  | _ :: rest => elapsed rest

theorem perform_timer {operation : Operation} (keeps : ¬operation.SetsTimer) (clint : Clint) :
    (clint.perform operation).mtimecmp = clint.mtimecmp ∧
      (clint.perform operation).mtime =
        clint.mtime + BitVec.ofNat 64 (elapsed [operation]) := by
  cases operation with
  | read => exact ⟨rfl, (BitVec.add_zero _).symm⟩
  | tick cycles =>
    refine ⟨rfl, ?_⟩
    rw [elapsed, elapsed, Nat.add_zero, BitVec.ofNat_toNat, BitVec.setWidth_eq]
    rfl
  | write offset width value =>
    have unchanged : (write offset width value clint).2.mtimecmp = clint.mtimecmp ∧
        (write offset width value clint).2.mtime = clint.mtime := by
      unfold write
      split
      · rename_i found register byteOffset located
        dsimp only
        split
        · cases register with
          | msip => exact ⟨rfl, rfl⟩
          | mtimecmp => exact absurd ⟨byteOffset, .inl located⟩ keeps
          | mtime => exact absurd ⟨byteOffset, .inr located⟩ keeps
        · exact ⟨rfl, rfl⟩
      · exact ⟨rfl, rfl⟩
    exact ⟨unchanged.1, unchanged.2.trans (BitVec.add_zero _).symm⟩

/-- The clock counts all cycles, whatever else is accessed, and the timer stays. -/
theorem foldl_timer {operations : List Operation}
    (keeps : ∀ operation ∈ operations, ¬operation.SetsTimer) (clint : Clint) :
    (operations.foldl perform clint).mtimecmp = clint.mtimecmp ∧
      (operations.foldl perform clint).mtime =
        clint.mtime + BitVec.ofNat 64 (elapsed operations) := by
  induction operations generalizing clint with
  | nil => exact ⟨rfl, (BitVec.add_zero _).symm⟩
  | cons operation rest ih =>
    obtain ⟨first, later⟩ := List.forall_mem_cons.mp keeps
    obtain ⟨timer, clock⟩ := perform_timer first clint
    obtain ⟨timers, clocks⟩ := ih later (clint.perform operation)
    have total : elapsed (operation :: rest) = elapsed [operation] + elapsed rest := by
      cases operation <;> simp [elapsed]
    refine ⟨timers.trans timer, ?_⟩
    rw [List.foldl_cons, clocks, clock, total, BitVec.ofNat_add, BitVec.add_assoc]

/-! ### Setting the timer by halves -/

/-- In every state of the run the timer is set to one of the values. -/
def TimerWithin (allowed : BitVec 64 → Prop) (clint : Clint) (operations : List Operation) : Prop :=
  ∀ before, before <+: operations → allowed (before.foldl perform clint).mtimecmp

variable {allowed : BitVec 64 → Prop} {clint : Clint} {operations rest : List Operation}

theorem TimerWithin.nil (now : allowed clint.mtimecmp) : clint.TimerWithin allowed [] := by
  intro before reached
  rw [List.prefix_nil.mp reached]
  exact now

theorem TimerWithin.cons {operation : Operation} (now : allowed clint.mtimecmp)
    (later : (clint.perform operation).TimerWithin allowed rest) :
    clint.TimerWithin allowed (operation :: rest) := by
  intro before reached
  rcases List.prefix_cons_iff.mp reached with rfl | ⟨inner, rfl, inside⟩
  · exact now
  · exact later inner inside

/-- Accesses elsewhere and the passing of time do not disturb it. -/
theorem TimerWithin.append (keeps : ∀ operation ∈ operations, ¬operation.SetsTimer)
    (now : allowed clint.mtimecmp)
    (later : (operations.foldl perform clint).TimerWithin allowed rest) :
    clint.TimerWithin allowed (operations ++ rest) := by
  induction operations generalizing clint with
  | nil => exact later
  | cons operation operations ih =>
    obtain ⟨first, others⟩ := List.forall_mem_cons.mp keeps
    refine .cons now (ih others ?_ later)
    rw [(perform_timer first clint).1]
    exact now

def setTimerHigh (value : BitVec 64) : Operation := .write (mtimecmpOffset + 4) .word value

def setTimerLow (value : BitVec 64) : Operation := .write mtimecmpOffset .word value

theorem perform_setTimerHigh (clint : Clint) (value : BitVec 64) :
    clint.perform (setTimerHigh value) =
      { clint with mtimecmp := value.setWidth 32 ++ clint.mtimecmp.setWidth 32 } := by
  have located : findRegister (mtimecmpOffset + 4) = some (.mtimecmp, 4) := by decide
  change (write (mtimecmpOffset + 4) .word value clint).2 = _
  unfold write
  rw [located]
  dsimp only [register, Register.size]
  rw [writeRegister_high]
  rfl

theorem perform_setTimerLow (clint : Clint) (value : BitVec 64) :
    clint.perform (setTimerLow value) =
      { clint with
        mtimecmp := (clint.mtimecmp >>> 32).setWidth 32 ++ value.setWidth 32 } := by
  have located : findRegister mtimecmpOffset = some (.mtimecmp, 0) := by decide
  change (write mtimecmpOffset .word value clint).2 = _
  unfold write
  rw [located]
  dsimp only [register, Register.size]
  rw [writeRegister_low]
  rfl

/-- The two halves of a value. -/
theorem halves_append (value : BitVec 64) :
    (value >>> 32).setWidth 32 ++ value.setWidth 32 = value := by
  apply BitVec.eq_of_getLsbD_eq
  intro i small
  rw [BitVec.getLsbD_append]
  by_cases low : i < 32
  · simp [low]
  · simp [low, show 32 + (i - 32) = i by omega, show i - 32 < 32 by omega]

theorem setWidth_append_low (high low : BitVec 32) : (high ++ low).setWidth 32 = low := by
  rw [BitVec.setWidth_append, dif_pos (Nat.le_refl 32), BitVec.setWidth_eq]

theorem setWidth_append_high (high low : BitVec 32) : ((high ++ low) >>> 32).setWidth 32 = high := by
  apply BitVec.eq_of_getLsbD_eq
  intro i small
  rw [BitVec.getLsbD_setWidth, BitVec.getLsbD_ushiftRight, BitVec.getLsbD_append]
  simp [small]

/-- With a lower half of all ones, a value is not smaller than any other with its upper
half. -/
theorem le_append_ones (value : BitVec 64) :
    value ≤ (value >>> 32).setWidth 32 ++ BitVec.allOnes 32 := by
  have halves := congrArg BitVec.toNat (halves_append value)
  rw [BitVec.toNat_append] at halves
  rw [BitVec.le_def, BitVec.toNat_append, ← halves]
  rw [← Nat.shiftLeft_add_eq_or_of_lt (BitVec.isLt _), ← Nat.shiftLeft_add_eq_or_of_lt (BitVec.isLt _)]
  have ones : (value.setWidth 32).toNat ≤ (BitVec.allOnes 32).toNat := by
    rw [BitVec.toNat_allOnes]
    exact Nat.le_sub_one_of_lt (BitVec.isLt _)
  omega

/-- Setting the timer by words, as a hart with 32-bit registers has to, raises no interrupt
that neither the old nor the new deadline asks for: whatever else is accessed and however
much time passes between the three stores, the line is high only past one of the two. In the
end the timer is the new deadline, and the clock has counted all cycles. -/
theorem timer_reprogrammed (clint : Clint) (deadline : BitVec 64)
    {first second third : List Operation}
    (keeps : ∀ operation ∈ first ++ (second ++ third), ¬operation.SetsTimer) :
    let operations := setTimerLow (BitVec.allOnes 64) :: (first ++
      setTimerHigh (deadline >>> 32) :: (second ++ setTimerLow deadline :: third))
    (∀ before, before <+: operations →
      (before.foldl perform clint).machineTimerIrq = true →
        clint.mtimecmp ≤ (before.foldl perform clint).mtime ∨
          deadline ≤ (before.foldl perform clint).mtime) ∧
      (operations.foldl perform clint).mtimecmp = deadline ∧
      (operations.foldl perform clint).mtime =
        clint.mtime + BitVec.ofNat 64 (elapsed first + elapsed second + elapsed third) := by
  simp only [List.forall_mem_append] at keeps
  obtain ⟨keepsFirst, keepsSecond, keepsThird⟩ := keeps
  -- the timer after each store; what comes in between leaves it alone
  let raised := clint.perform (setTimerLow (BitVec.allOnes 64))
  let waiting := first.foldl perform raised
  let moved := waiting.perform (setTimerHigh (deadline >>> 32))
  let ready := second.foldl perform moved
  let ended := ready.perform (setTimerLow deadline)
  have raisedTo : raised.mtimecmp = (clint.mtimecmp >>> 32).setWidth 32 ++ BitVec.allOnes 32 :=
    congrArg Clint.mtimecmp (perform_setTimerLow clint _)
  have movedTo : moved.mtimecmp = (deadline >>> 32).setWidth 32 ++ BitVec.allOnes 32 := by
    refine (congrArg Clint.mtimecmp (perform_setTimerHigh waiting _)).trans ?_
    rw [(foldl_timer keepsFirst raised).1, raisedTo, setWidth_append_low]
  have endedTo : ended.mtimecmp = deadline := by
    refine (congrArg Clint.mtimecmp (perform_setTimerLow ready _)).trans ?_
    rw [(foldl_timer keepsSecond moved).1, movedTo, setWidth_append_high, halves_append]
  have clocks : moved.mtime = waiting.mtime ∧ ended.mtime = ready.mtime ∧
      raised.mtime = clint.mtime :=
    ⟨(congrArg Clint.mtime (perform_setTimerHigh waiting _)).trans rfl,
      (congrArg Clint.mtime (perform_setTimerLow ready _)).trans rfl,
      (congrArg Clint.mtime (perform_setTimerLow clint _)).trans rfl⟩
  have late : clint.TimerWithin (fun timer => clint.mtimecmp ≤ timer ∨ deadline ≤ timer)
      (setTimerLow (BitVec.allOnes 64) :: (first ++ setTimerHigh (deadline >>> 32) ::
        (second ++ setTimerLow deadline :: third))) := by
    have afterMoved : deadline ≤ moved.mtimecmp := movedTo ▸ le_append_ones deadline
    have afterEnded : deadline ≤ ended.mtimecmp := endedTo ▸ BitVec.le_refl _
    have afterRaised : clint.mtimecmp ≤ raised.mtimecmp := raisedTo ▸ le_append_ones _
    have afterWaiting := (foldl_timer keepsFirst raised).1
    have afterReady := (foldl_timer keepsSecond moved).1
    refine .cons (.inl (BitVec.le_refl _)) (.append keepsFirst (.inl afterRaised) ?_)
    refine .cons (.inl (afterWaiting ▸ afterRaised)) (.append keepsSecond (.inr afterMoved) ?_)
    refine .cons (.inr (afterReady ▸ afterMoved)) ?_
    rw [← List.append_nil third]
    refine .append keepsThird (.inr afterEnded) (.nil (.inr ?_))
    rw [(foldl_timer keepsThird ended).1]
    exact afterEnded
  have whole : (setTimerLow (BitVec.allOnes 64) :: (first ++ setTimerHigh (deadline >>> 32) ::
      (second ++ setTimerLow deadline :: third))).foldl perform clint =
        third.foldl perform ended := by
    rw [List.foldl_cons, List.foldl_append, List.foldl_cons, List.foldl_append, List.foldl_cons]
  obtain ⟨timer, clock⟩ := foldl_timer keepsThird ended
  refine ⟨fun before reached high => ?_, ?_, ?_⟩
  · have due := of_decide_eq_true high
    exact (late before reached).imp (BitVec.le_trans · due) (BitVec.le_trans · due)
  · rw [whole, timer, endedTo]
  · rw [whole, clock, clocks.2.1, (foldl_timer keepsSecond moved).2, clocks.1,
      (foldl_timer keepsFirst raised).2, clocks.2.2, BitVec.ofNat_add, BitVec.ofNat_add,
      BitVec.add_assoc, BitVec.add_assoc, BitVec.add_assoc]

/-- The timer is set from one deadline to a later one while it is due for neither. -/
theorem timer_reprogrammed_sample :
    let armed : Clint := { mtime := 0xFFFFFFF0, mtimecmp := 0xFFFFFFFF }
    let operations := setTimerLow (BitVec.allOnes 64) :: ([.tick 3] ++
      setTimerHigh 1 :: ([.read mtimeOffset .word] ++ setTimerLow 0x100000010 :: [.tick 0x20]))
    (operations.foldl perform armed).mtimecmp = 0x100000010 ∧
      (operations.foldl perform armed).mtime = 0x100000013 := by
  have keeps : ∀ operation ∈ [Operation.tick 3] ++ ([.read mtimeOffset .word] ++ [.tick 0x20]),
      ¬operation.SetsTimer := by simp [Operation.SetsTimer]
  obtain ⟨_, timer, clock⟩ := timer_reprogrammed { mtime := 0xFFFFFFF0, mtimecmp := 0xFFFFFFFF }
    0x100000010 keeps
  exact ⟨timer, clock⟩

end Clint

end RvEmulator.Devices
